import WatchdogVpn.Provisioning.History
import WatchdogVpn.Provisioning.Script

/-!
# What a terminal journal means

* `rolled_back_clean`: a transaction is recorded as rolled back only with every step clean, as
  long as no rollback is entered over steps that it passes over.
* `committed_complete`: a transaction is recorded as committed only with every step verified,
  the postcondition verified after them, and one ownership record per step.
* `recovery_truthful`: what a recovery pass reports is so on disk, and a new transaction begins
  only when nothing is pending.
* `one_pending`, `steps_move_forward`, `concluded_stays`: what the journals on disk keep in every
  run.
-/

namespace WatchdogVpn.Provisioning

open Effect List

variable {F : Type} {h : Host F} {envs : ProvisioningEnvironment → Prop} {s s' s0 : Store F} {l : Trace F}
  {j j' d d' : TransactionJournal} {tid : TxId} {e : Req} {a : Option (Ans e)}

/-! ## Clean rollbacks -/

/-- If the event enters a rollback of the transaction, the journal on disk has no step that the
rollback passes over. -/
def EntersSound (tid : TxId) (ev : Event Ans (Store F)) : Prop :=
  ∀ jₑ d, EntersRollback tid jₑ ev → ev.pre.journal? tid = some d → ∀ r ∈ d.steps, r.state ∉ skippedStepStates

/-- Recorded as rolled back, and every step clean. -/
def CleanIfRolledBack (j : TransactionJournal) : Prop :=
  j.state = .rolledBack ∨ j.state = .preparationFailed → ∀ r ∈ j.steps, r.state ∈ cleanStepStates

variable {ev : Event Ans (Store F)}

theorem enters_disk (hl : History h envs s0 s l) (hev : ev ∈ l) {jₑ : TransactionJournal}
    (hen : EntersRollback tid jₑ ev) :
    ∃ d j0, ev.pre.journal? tid = some d ∧ Synced d j0 ∧ jₑ.steps = j0.steps := by
  obtain ⟨later, earlier, rfl⟩ := append_of_mem hev
  obtain ⟨-, hperm, s', hs⟩ := lawful_split hl
  cases hen with
  | written pre d hj hid hd hn =>
    subst hid
    by_cases hop : d.operation = .uninstall
    · have hr := (permitted_over_removal hperm hd hop).removal
      rw [hj] at hr
      exact absurd hr (by decide)
    obtain ⟨j0, hsy, -, hm⟩ := permitted_over hperm hd hop
    cases hm with
    | enter st p f r ht he => exact ⟨d, j0, hd, hsy, rfl⟩
    | apply executor plan old new hb hst ho hm =>
      rcases hst with hst | hst <;> rw [withStep_state, hst] at hj <;> cases hj
    | undo executor plan old new hb hst ho hm => exact absurd (hsy.state.trans hst) hn
  | read pre hj => exact ⟨jₑ, jₑ, hs.2 _ rfl, .inl rfl, rfl⟩

theorem RolledBackEvidence.clean (hl : History h envs s0 s l) (he : RolledBackEvidence l j)
    (hc : ∀ ev ∈ l, EntersSound j.transactionId ev) : ∀ r ∈ j.steps, r.state ∈ cleanStepStates := by
  obtain ⟨jₑ, ⟨ev, hev, hin⟩, hleft⟩ := he
  obtain ⟨d, j0, hd, hsy, hsteps⟩ := enters_disk hl hev hin
  intro r hr
  rcases hleft r hr with hclean | ⟨hskip, rₑ, hrₑ, -, hsame⟩
  · exact hclean
  rw [hsteps] at hrₑ
  obtain ⟨r', hr', -, hstate, -⟩ := hsy.exists_disk hrₑ
  rw [← hsame, ← hstate] at hskip
  exact absurd hskip (hc ev hev jₑ d hin hd r' hr')

theorem CleanIfRolledBack.synced (hj : CleanIfRolledBack d) (hs : Synced d j) : CleanIfRolledBack j := by
  intro hst r hr
  obtain ⟨r', hr', -, hstate, -⟩ := hs.exists_disk hr
  rw [← hstate]
  exact hj (hs.state ▸ hst) r' hr'

theorem CleanIfRolledBack.onDisk (hj : CleanIfRolledBack j) : CleanIfRolledBack j.onDisk := by
  intro hst r hr
  obtain ⟨r', hr', rfl⟩ := mem_map.mp hr
  exact hj hst r' hr'

theorem write_clean (hl : History h envs s0 s l) (hp : WritePermitted envs s l j)
    (ho : j.operation ≠ .uninstall)
    (hd : ∀ d, s.journal? j.transactionId = some d → d.operation ≠ .uninstall → CleanIfRolledBack d)
    (hc : ∀ ev ∈ l, EntersSound j.transactionId ev) : CleanIfRolledBack j := by
  intro hst
  obtain ⟨d, j0, p, f, r, hdisk, hop, hsy, hj, ht, he⟩ :=
    permitted_enter hp ho (by rcases hst with hst | hst <;> rw [hst] <;> decide)
  have hsteps : j.steps = j0.steps := by rw [hj]
  have hid : j.transactionId = j0.transactionId := by rw [hj]
  rw [hsteps]
  rcases hst with hst | hst
  · rw [hst] at he
    exact RolledBackEvidence.clean hl he (hid ▸ hc)
  · -- `PREPARATION_FAILED` is entered from `ROLLED_BACK` only
    refine (hd d hdisk hop).synced hsy (.inl ?_)
    rw [hst] at ht
    revert ht
    cases j0.state <;> decide

theorem disk_clean (hnew : s0.journal? tid = none) (hl : History h envs s0 s l) :
    (∀ ev ∈ l, EntersSound tid ev) → ∀ d, s.journal? tid = some d → d.operation ≠ .uninstall →
    CleanIfRolledBack d := by
  refine lawful_invariant (I := fun s l => (∀ ev ∈ l, EntersSound tid ev) →
    ∀ d, s.journal? tid = some d → d.operation ≠ .uninstall → CleanIfRolledBack d)
    (fun _ d hd => by rw [hnew] at hd; cases hd) ?_ hl
  intro s l e a s' hl ih hperm hs hc d hd ho
  have hcl : ∀ ev ∈ l, EntersSound tid ev := fun ev hev => hc ev (mem_cons_of_mem _ hev)
  rcases journal_change hperm hs tid with hsame | ⟨j, -, rfl, hj, hw⟩
  · exact ih hcl d (hsame.symm.trans hd) ho
  rw [hj] at hd
  cases hd
  exact (write_clean hl hw ho (ih hcl) hcl).onDisk

/-- **Rolled back means clean.** In every run in which no rollback of the transaction is entered
over an `APPLYING` or `UNDO_FAILED` step, its journal is written as `ROLLED_BACK` or
`PREPARATION_FAILED` only with every step `PLANNED`, `APPLY_FAILED` or `UNDONE`. -/
theorem rolled_back_clean (hr : EngineRun h envs s0 s l) (hnew : s0.journal? tid = none)
    (hc : ∀ ev ∈ l, EntersSound tid ev) :
    ∀ ev ∈ l, ∀ j, ev.req = .writeJournal j → j.transactionId = tid → j.operation = .prepare →
      j.state = .rolledBack ∨ j.state = .preparationFailed → ∀ r ∈ j.steps, r.state ∈ cleanStepStates := by
  intro ev hev j hreq htid hop
  obtain ⟨later, earlier, rfl⟩ := append_of_mem hev
  obtain ⟨hl, hperm, -⟩ := lawful_split (engine_lawful hr)
  have hce : ∀ ev ∈ earlier, EntersSound tid ev := fun ev' h' => hc ev' (by simp [h'])
  rw [hreq] at hperm
  subst htid
  exact write_clean hl hperm (by rw [hop]; decide) (disk_clean hnew hl hce) hce

/-- No step of the journal on disk is one that a rollback passes over, unless the event is no entry
into one. -/
def entersSound (tid : TxId) (ev : Event Ans (Store F)) : Bool :=
  (match ev.req with
    | .writeJournal j => j.state != .rollingBack
    | .readJournal _ => false
    | _ => true) ||
  (ev.pre.journal? tid).all fun d => d.steps.all fun r => decide (r.state ∉ skippedStepStates)

theorem entersSound_sound (hb : entersSound tid ev = true) : EntersSound tid ev := by
  intro jₑ d hen hd r hr
  simp only [entersSound, hd, Option.all_some, Bool.or_eq_true, all_eq_true, decide_eq_true_eq] at hb
  rcases hb with hb | hb
  · cases hen with
    | written pre d hj => simp [hj] at hb
    | read pre hj => cases hb
  · exact hb r hr

/-- The second step cannot be applied, and the first is undone. -/
def labRollback : LabAnswers where
  apply r := if r.sequence = 0 then
      .ok { status := .applied, undoRecord := (CanaryExecutor.reconstructUndoRecord r).toOption }
    else .ok { status := .applyFailed, errorKind := some "os_error" }

theorem rolled_back_clean_lab : ∃ ev ∈ (labRollback.after [.prepare labDecision true]).2, ∃ j,
    ev.req = .writeJournal j ∧ j.state = .preparationFailed ∧ j.steps.any (·.state == .undone) = true ∧
      ∀ r ∈ j.steps, r.state ∈ cleanStepStates := by
  obtain ⟨ev, hev, j, hw, hj⟩ := exists_wrote (l := (labRollback.after [.prepare labDecision true]).2)
    (p := fun j => j.state == .preparationFailed && j.steps.any (·.state == .undone) &&
      j.transactionId == "t" &&
      j.operation == .prepare) (by decide +kernel)
  simp only [Bool.and_eq_true, beq_iff_eq] at hj
  refine ⟨ev, hev, j, hw, hj.1.1.1, hj.1.1.2, ?_⟩
  refine rolled_back_clean (labRollback.run [.prepare labDecision true]) rfl ?_ ev hev j hw hj.1.2
    hj.2 (.inr hj.1.1.1)
  exact fun ev hev => entersSound_sound (all_eq_true.mp (by decide +kernel) ev hev)

/-- In the same laboratory, but the undo of the first step fails. -/
def labUndoFails : LabAnswers := { labRollback with undo := { status := .undoFailed, residual := true } }

/-- **A failed undo is forgotten.** The rollback fails and the transaction is sent to recovery; the
second recovery pass skips the `UNDO_FAILED` step, finds no residual and records a clean rollback.
-/
theorem rolled_back_over_failed_undo :
    ∃ (s : Store Unit) (l : Trace Unit), EngineRun anyHost labOnly emptyStore s l ∧
      ∃ ev ∈ l, ∃ j, ev.req = .writeJournal j ∧ j.operation = .prepare ∧ j.state = .preparationFailed ∧
        ∃ r ∈ j.steps, r.state = .undoFailed := by
  refine ⟨_, _, labUndoFails.run [.prepare labDecision true, .recoverPending, .recoverPending], ?_⟩
  obtain ⟨ev, hev, j, hw, hj⟩ := exists_wrote
    (l := (labUndoFails.after [.prepare labDecision true, .recoverPending, .recoverPending]).2)
    (p := fun j => j.operation == .prepare && j.state == .preparationFailed &&
      j.steps.any (·.state == .undoFailed))
    (by decide +kernel)
  simp only [Bool.and_eq_true, beq_iff_eq, any_eq_true] at hj
  exact ⟨ev, hev, j, hw, hj.1.1, hj.1.2, hj.2⟩

/-! ## Complete commits -/

theorem credentialedUrl_colon {text : List Char} {u : List Char × List Char}
    (hu : credentialedUrl? text = some u) : ':' ∈ text := by
  unfold credentialedUrl? at hu
  dsimp only at hu
  split at hu
  · rename_i rest heq
    have : ':' ∈ text.drop (text.takeWhile isSchemeChar).length := by rw [heq]; exact mem_cons_self
    exact mem_of_mem_drop this
  · cases hu

theorem redactStr_of_identifier (hid : isIdentifier tid = true) : redactStr tid = tid := by
  unfold redactStr
  cases hu : credentialedUrl? tid.toList with
  | none => rfl
  | some u =>
    have hcolon := credentialedUrl_colon hu
    simp only [isIdentifier, Bool.and_eq_true, all_eq_true] at hid
    exact absurd (hid.2 _ hcolon) (by decide)

/-- A resource that is an absolute path is the same after a restart. -/
theorem stepResource_onDisk {r : StepRecord} {path : String} (hr : stepResource r = .str path)
    (habs : isAbsolute path = true) : stepResource r.onDisk = .str path := by
  have hhead : path.toList.head? = some '/' := by simpa [isAbsolute] using habs
  unfold stepResource at hr ⊢
  cases hu : r.undoRecord with
  | none =>
    simpa [StepRecord.onDisk, hu] using hr
  | some u =>
    simp only [StepRecord.onDisk, hu, Option.map_some, Option.getD_some] at hr ⊢
    rw [redactFields_lookup]
    cases hp : Dict.get? u "path" with
    | none => simpa [hp] using hr
    | some v =>
      simp only [hp, Option.getD_some] at hr
      subst hr
      have hkey : isSensitiveKey "path" = false := by decide
      simp [hkey, redactForJournal, redactStr_of_head hhead]

/-- What a record on disk says about a step: it is product-owned, cites the transaction and names
the step's resource as the path check resolved it. -/
structure OwnedFor (l : Trace F) (tid : TxId) (step : StepRecord) (r : OwnershipRecord) : Prop where
  productOwned : r.productOwned = true
  cites : r.createdByTransaction = some tid
  names : ∃ path p, stepResource step = .str path ∧ isAbsolute path = true ∧ ResolvedTo l path p ∧
    r.candidate.resourceIdentity = p

variable {step : StepRecord} {r : OwnershipRecord}

theorem RecordFor.owned (hr : RecordFor l j step r)
    (hid : isIdentifier j.transactionId = true) : OwnedFor l j.transactionId step.onDisk r.onDisk := by
  obtain ⟨hown, hcites, -, path, p, hres, habs, hrsd, hp⟩ := hr
  refine ⟨hown, ?_, path, p, stepResource_onDisk hres habs, habs, hrsd, ?_⟩
  · simp [OwnershipRecord.onDisk, hcites, redactStr_of_identifier hid]
  · simp [OwnershipRecord.onDisk, hp, redactStr_of_head p.2]

theorem OwnedFor.restart (ho : OwnedFor l tid step r) : OwnedFor l tid step.onDisk r := by
  obtain ⟨path, p, hres, habs, hrest⟩ := ho.names
  exact ⟨ho.productOwned, ho.cites, path, p, stepResource_onDisk hres habs, habs, hrest⟩

theorem OwnedFor.mono {l' : Trace F} (ho : OwnedFor l tid step r) (hl : l <:+ l') : OwnedFor l' tid step r := by
  obtain ⟨path, p, hres, habs, hrsd, hp⟩ := ho.names
  exact ⟨ho.productOwned, ho.cites, path, p, hres, habs, hrsd.mono hl, hp⟩

/-- Everything a commit stands for, of a journal on disk: its steps are verified, the postcondition
was verified when they were, and the ownership file of its capability has exactly one record per
step. -/
structure Complete (s : Store F) (l : Trace F) (d : TransactionJournal) : Prop where
  verified : AllVerified d
  postcondition : ∃ pre plan ans d₀, ⟨pre, .host (.verifyPostcondition d.transactionId plan), some ans⟩ ∈ l ∧
    (safeVerification ans).status = .verified ∧ pre.journal? d.transactionId = some d₀ ∧ AllVerified d₀
  owned : ∃ records, s.ownership? d.capabilityId = some records ∧
    List.Forall₂ (OwnedFor l d.transactionId) d.steps records

theorem Complete.mono {l' : Trace F} (hc : Complete s l d) (hl : l <:+ l')
    (ho : s'.ownership? d.capabilityId = s.ownership? d.capabilityId) : Complete s' l' d := by
  obtain ⟨pre, plan, ans, d0, hev, hrest⟩ := hc.postcondition
  obtain ⟨records, hown, hall⟩ := hc.owned
  exact ⟨hc.verified, ⟨pre, plan, ans, d0, hl.subset hev, hrest⟩, records, ho.trans hown,
    hall.imp fun _ _ h => h.mono hl⟩

theorem allVerified_onDisk : AllVerified j.onDisk ↔ AllVerified j := forall_mem_map

theorem AllVerified.synced (hs : Synced d j) (hv : AllVerified j) : AllVerified d := by
  rcases hs with rfl | rfl
  · exact hv
  · exact allVerified_onDisk.mpr hv

/-- Writing the journal again in another state keeps what it stands for. -/
theorem Complete.rewrite (hc : Complete s l d) (hs : Synced d j) (st : TransactionState)
    (provenance failure recovery : Option Dict) :
    Complete s l { j with
      state := st, provenance := provenance, failure := failure, recovery := recovery }.onDisk := by
  rcases hs with rfl | rfl
  · obtain ⟨records, hown, hall⟩ := hc.owned
    refine ⟨allVerified_onDisk.mpr hc.verified, hc.postcondition, records, hown, ?_⟩
    exact forall₂_map_left_iff.mpr (hall.imp fun _ _ h => h.restart)
  · exact ⟨hc.verified, hc.postcondition, hc.owned⟩

theorem identified (hnew : s0.journal? tid = none) (hl : History h envs s0 s l) :
    ∀ d, s.journal? tid = some d → d.operation ≠ .uninstall → isIdentifier tid = true := by
  refine lawful_invariant (I := fun s _ => ∀ d, s.journal? tid = some d → d.operation ≠ .uninstall →
    isIdentifier tid = true) (fun d hd => by rw [hnew] at hd; cases hd) ?_ hl
  intro s l e a s' _ ih hperm hs d hd ho
  rcases journal_change hperm hs tid with hsame | ⟨j, -, rfl, hj, hw⟩
  · exact ih d (hsame.symm.trans hd) ho
  rw [hj] at hd
  cases hd
  cases hdisk : s.journal? j.transactionId with
  | none =>
    rcases (permitted_new hw hdisk).2 with ⟨env, executor, plan, -, hid, -, -⟩ | ⟨env, plan, -, hju⟩
    · exact hid
    · rw [hju] at ho; exact absurd rfl ho
  | some d =>
    by_cases hop : d.operation = .uninstall
    · exact absurd (permitted_over_removal hw hdisk hop).operation.2 ho
    · exact ih d hdisk hop

theorem ownership_or_kept (hs : (storeHandler h).Happens s e a s') :
    s'.ownership = s.ownership ∨ (∃ cap rs, e = .writeOwnershipRecords cap rs) ∨
      ∃ cap, e = .deleteOwnershipRecords cap := by
  cases e with
  | writeOwnershipRecords cap rs => exact .inr (.inl ⟨cap, rs, rfl⟩)
  | deleteOwnershipRecords cap => exact .inr (.inr ⟨cap, rfl⟩)
  | writeJournal j =>
    left
    cases a with
    | none => rcases hs with rfl | rfl <;> rfl
    | some r => rcases hs with rfl | ⟨rfl, -⟩ <;> rfl
  | host q =>
    left
    cases a with
    | none | some r => obtain ⟨f', -, rfl⟩ := hs; rfl
  | _ =>
    left
    cases a with
    | none => exact congrArg Store.ownership (show s' = s from hs)
    | some r => exact congrArg Store.ownership hs.1

theorem concluded_over (hp : WritePermitted envs s l j) (ho : j.operation = .uninstall)
    (hst : j.state = .uninstalled) :
    ∃ d, s.journal? j.transactionId = some d ∧ d.state ∈ needsRecoveryAttention := by
  cases hdisk : s.journal? j.transactionId with
  | none =>
    rcases (permitted_new hp hdisk).2 with ⟨env, executor, plan, -, -, hj, -⟩ | ⟨env, plan, -, hj⟩ <;>
      rw [hj] at hst <;> cases hst
  | some d =>
    refine ⟨d, rfl, ?_⟩
    by_cases hop : d.operation = .uninstall
    · rcases (permitted_over_removal hp hdisk hop).state with ⟨-, hu⟩ | ht
      · rw [hst] at hu; cases hu
      rw [hst] at ht
      revert ht
      cases d.state <;> decide
    · obtain ⟨j0, hsy, -, hm⟩ := permitted_over hp hdisk hop
      exact absurd (hsy.operation.trans (hm.operation.symm.trans ho)) hop

/-- **Ownership stands still** while a transaction is prepared for its terminal commit: nobody else
is at work, and it has already published. -/
theorem ownership_kept (hnew : s0.journal? tid = none) (hl : History h envs s0 s l) (hp : Permitted envs s l e)
    (hs : (storeHandler h).Happens s e a s') (hd : s.journal? tid = some d) (ho : d.operation ≠ .uninstall)
    (hst : d.state = .prepareTerminalPrepared) : s'.ownership = s.ownership := by
  have halone : OthersSettled s tid := alone hnew hl d hd (by rw [hst]; decide)
  rcases ownership_or_kept hs with hk | ⟨cap, rs, rfl⟩ | ⟨cap, rfl⟩
  · exact hk
  · -- whoever publishes is `VERIFYING`
    obtain ⟨executor, plan, j, hv, hver, -⟩ := hp
    obtain ⟨d', hd', hsy⟩ := hv.holds
    have hd'st : d'.state = .verifying := hsy.state.trans hver
    by_cases hid : j.transactionId = tid
    · rw [hid, hd] at hd'
      cases hd'
      rw [hst] at hd'st
      cases hd'st
    · exact absurd (by rw [hd'st]; decide) (halone _ d' hid hd')
  · -- whoever revokes has just concluded an uninstall
    obtain ⟨j, hop, -, hun, hlast⟩ := hp
    obtain ⟨pre, rest, hpre, hw, rfl⟩ := last_write hl hlast
    have hid : tid ≠ j.transactionId := by
      rintro rfl
      rw [journal?_putJournal] at hd
      cases hd
      exact ho hop
    rw [journal?_putJournal_of_ne hid] at hd
    obtain ⟨d', hd', hneed⟩ := concluded_over hw hop hun
    exact absurd hneed (alone hnew hpre d hd (by rw [hst]; decide) _ d' hid.symm hd')

theorem prepared_complete (hnew : s0.journal? tid = none) (hl : History h envs s0 s l) :
    ∀ d, s.journal? tid = some d → d.operation ≠ .uninstall → d.state = .prepareTerminalPrepared →
    Complete s l d := by
  refine lawful_invariant (I := fun s l => ∀ d, s.journal? tid = some d → d.operation ≠ .uninstall →
    d.state = .prepareTerminalPrepared → Complete s l d) (fun d hd => by rw [hnew] at hd; cases hd) ?_ hl
  intro s l e a s' hl ih hperm hs d hd ho hst
  rcases journal_change hperm hs tid with hsame | ⟨j, rfl, rfl, hj, hw⟩
  · rw [hsame] at hd
    exact (ih d hd ho hst).mono (suffix_cons _ _)
      (ownership?_congr (ownership_kept hnew hl hperm hs hd ho hst) _)
  rw [hj] at hd
  cases hd
  have hown : s'.ownership? j.onDisk.capabilityId = s.ownership? j.onDisk.capabilityId := by
    rcases ownership_or_kept hs with hk | ⟨_, _, hne⟩ | ⟨_, hne⟩
    · exact ownership?_congr hk _
    · cases hne
    · cases hne
  refine Complete.mono ?_ (suffix_cons _ _) hown
  obtain ⟨d, j0, p, f, r, hdisk, hop, hsy, hj0, -, he⟩ :=
    permitted_enter hw ho (by rw [show j.state = _ from hst]; decide)
  have hid : j.transactionId = j0.transactionId := by rw [hj0]
  rw [show j.state = _ from hst] at he hj0
  rw [hj0]
  obtain ⟨hv, ⟨pre, plan, ans, hev, hans, hpre⟩, records, hrecs, hrec⟩ := he
  refine ⟨allVerified_onDisk.mpr hv,
    ⟨pre, plan, ans, d, hev, hans, hpre.trans (hid ▸ hdisk), hv.synced hsy⟩, _, hrecs, ?_⟩
  refine forall₂_map_left_iff.mpr (forall₂_map_right_iff.mpr (hrec.imp fun _ _ h => h.owned ?_))
  exact hid ▸ identified hnew hl d hdisk hop

/-- **Committed means complete.** In every run, the journal of a transaction is written as
`COMMITTED` only with every step verified in it, after the postcondition was verified over verified
steps, and with exactly one product-owned record per step in the ownership file, each citing the
transaction and the step's resource. -/
theorem committed_complete (hr : EngineRun h envs s0 s l) (hnew : s0.journal? tid = none)
    {later earlier : Trace F} {ev : Event Ans (Store F)} (hl : l = later ++ ev :: earlier)
    (hw : ev.req = .writeJournal j) (htid : j.transactionId = tid) (hop : j.operation = .prepare)
    (hst : j.state = .committed) : Complete ev.pre earlier j.onDisk := by
  subst hl htid
  obtain ⟨hl, hperm, -⟩ := lawful_split (engine_lawful hr)
  rw [hw] at hperm
  obtain ⟨d, j0, p, f, r, hdisk, hopd, hsy, hj0, -, he⟩ :=
    permitted_enter hperm (by rw [hop]; decide) (by rw [hst]; decide)
  rw [hst] at he
  rw [hj0]
  exact (prepared_complete hnew hl d hdisk hopd (hsy.state.trans he)).rewrite hsy _ p f r

theorem committed_complete_lab :
    ∃ (later earlier : Trace Unit) (ev : Event Ans (Store Unit)) (j : TransactionJournal),
    labPrepared.2 = later ++ ev :: earlier ∧ ev.req = .writeJournal j ∧
      j.state = .committed ∧ j.steps.length = 2 ∧ Complete ev.pre earlier j.onDisk := by
  obtain ⟨ev, hev, j, hw, hj⟩ := exists_wrote (l := labPrepared.2)
    (p := fun j => j.state == .committed && j.steps.length == 2 && j.transactionId == "t" &&
      j.operation == .prepare)
    (by decide +kernel)
  simp only [Bool.and_eq_true, beq_iff_eq] at hj
  obtain ⟨later, earlier, hl⟩ := append_of_mem hev
  exact ⟨later, earlier, ev, j, hl, hw, hj.1.1.1, hj.1.1.2,
    committed_complete (({} : LabAnswers).run [.prepare labDecision true]) rfl hl hw hj.1.2 hj.2 hj.1.1.1⟩

/-! ## True reports -/

/-- **A recovery pass tells the truth**, from whatever state root a run has led to: it could not
list the journals and returns its one manual decision, or every `RESUME` is `COMMITTED` or
`UNINSTALLED` on disk, every `ROLLBACK` is `PREPARATION_FAILED`, and every listed journal that still
needs attention or could not be read has a manual decision. And a journal is created only when no
other one needs attention. -/
theorem recovery_truthful (hr : EngineRun h envs s0 s l) (env : ProvisioningEnvironment)
    (c : ExecutionContext) :
    (∀ ds s' l', Ends (storeHandler h) (recoverPendingLocked env c) s l (.ok ds) s' l' →
      PendingOK s l s' l' ds) ∧
    ∀ ev ∈ l, ∀ j, ev.req = .writeJournal j → ev.pre.journal? j.transactionId = none → NoPending ev.pre := by
  refine ⟨fun ds s' l' hends => ?_, fun ev hev j hreq hnone => ?_⟩
  · have he : (fun env' => env' = env) env := rfl
    exact (wp_ends (recoverPendingLocked_meets he) hends).1 ds rfl
  · obtain ⟨later, earlier, rfl⟩ := append_of_mem hev
    obtain ⟨-, hperm, -⟩ := lawful_split (engine_lawful hr)
    rw [hreq] at hperm
    exact (permitted_new hperm hnone).1

/-- The failed rollback of the laboratory, reported to be in need of manual recovery. -/
theorem recovery_truthful_lab : ∃ s' l' ds, ds.map (·.action) = [.requireManual] ∧
    PendingOK (labUndoFails.after [.prepare labDecision true]).1
      (labUndoFails.after [.prepare labDecision true]).2 s' l' ds := by
  have hds : ((drive labUndoFails.script.reply (recoverPendingLocked labEnv labEnv.context) ()
      (labUndoFails.after [.prepare labDecision true]).1
        (labUndoFails.after [.prepare labDecision true]).2).1.any
        fun r => r.toOption.any fun ds => ds.map (·.action) = [.requireManual]) = true := by decide +kernel
  obtain ⟨r, hr, hds⟩ := (Option.any_eq_true _ _).mp hds
  cases r with
  | error x => cases hds
  | ok ds =>
    have hact : ds.map (·.action) = [.requireManual] := of_decide_eq_true hds
    have htrue := (recovery_truthful
      (labUndoFails.run [.prepare labDecision true]) labEnv labEnv.context).1 _ _ _
      (labUndoFails.ends hr)
    exact ⟨_, _, ds, hact, htrue⟩

/-- **A pass that cannot list the journals** reports one decision, which is about none of them. -/
theorem listing_fails_one_decision :
    ∃ (s : Store Unit) (l : Trace Unit) (ds : List RecoveryDecision) (l' : Trace Unit),
    EngineRun anyHost labOnly emptyStore s l ∧
    Ends (storeHandler anyHost) (recoverPendingLocked labEnv labEnv.context) s l (.ok ds) s l' ∧
    (∃ d, s.journal? "t" = some d ∧ d.state ∈ needsRecoveryAttention) ∧ ∀ a ∈ ds, a.transactionId ≠ "t" := by
  refine ⟨_, _, _, _, labUndoFails.run [.prepare labDecision true],
    .step (r := .error ⟨.journalError, "cannot list transactions"⟩) ⟨rfl, nofun⟩ (.ret _ _ _), ?_, ?_⟩
  · have hd : ((labUndoFails.after [.prepare labDecision true]).1.journal? "t").any
        (fun d => decide (d.state ∈ needsRecoveryAttention)) = true := by decide +kernel
    obtain ⟨d, hj, hd⟩ := (Option.any_eq_true _ _).mp hd
    exact ⟨d, hj, by simpa using hd⟩
  · intro a ha
    rw [mem_singleton.mp ha]
    decide

/-! ## What every run keeps -/

/-- **One at a time.** In every run from a state root without journals, at most one transaction
needs attention. -/
theorem one_pending (hr : EngineRun h envs s0 s l) (hnew : ∀ tid, s0.journal? tid = none) {t t' : TxId}
    (hd : s.journal? t = some d) (hd' : s.journal? t' = some d') (hn : d.state ∈ needsRecoveryAttention)
    (hn' : d'.state ∈ needsRecoveryAttention) : t = t' := by
  by_contra hne
  exact alone (hnew t) (engine_lawful hr) d hd hn t' d' (Ne.symm hne) hd' hn'

/-- In the laboratory, after an undo that failed. -/
theorem one_pending_lab : ∃ d, (labUndoFails.after [.prepare labDecision true]).1.journal? "t" = some d ∧
    ∀ t d', (labUndoFails.after [.prepare labDecision true]).1.journal? t = some d' →
      d'.state ∈ needsRecoveryAttention → "t" = t := by
  obtain ⟨d, hd, hn⟩ := (Option.any_eq_true (fun d => needsRecoveryAttention.contains d.state) _).mp
    (by decide +kernel : ((labUndoFails.after [.prepare labDecision true]).1.journal? "t").any _ = true)
  exact ⟨d, hd, fun t d' hd' => one_pending (labUndoFails.run _) (fun _ => rfl) hd hd' (contains_iff_mem.mp hn)⟩

/-- **Steps only move forward.** In every run, a step of a prepare transaction that was once on disk
is there to the end, and in no earlier phase. -/
theorem steps_move_forward (hr : EngineRun h envs s0 s l) (hev : ev ∈ l) {q : Int} {st : StepState}
    (hst : StepAt ev.pre tid q st) : ∃ st', StepAt s tid q st' ∧ st.rank ≤ st'.rank :=
  ranked (engine_lawful hr) ev hev q st hst

/-- A journal on disk at some event of the log. -/
theorem exists_held (tid : TxId) {p : TransactionJournal → Bool}
    (hl : (l.any fun ev => (ev.pre.journal? tid).any p) = true) :
    ∃ ev ∈ l, ∃ d, ev.pre.journal? tid = some d ∧ p d = true := by
  obtain ⟨ev, hev, hp⟩ := any_eq_true.mp hl
  exact ⟨ev, hev, (Option.any_eq_true _ _).mp hp⟩

theorem steps_move_forward_lab : ∃ q st, StepAt labPrepared.1 "t" q st ∧
    StepState.verifying.rank ≤ st.rank := by
  obtain ⟨ev, hev, d, hd, hp⟩ := exists_held "t" (l := labPrepared.2)
    (p := fun d => d.operation != .uninstall && d.steps.any (·.state == .verifying)) (by decide +kernel)
  rw [Bool.and_eq_true, bne_iff_ne, any_eq_true] at hp
  obtain ⟨ho, r, hr, hst⟩ := hp
  exact ⟨r.sequence, steps_move_forward (LabAnswers.run _ _) hev ⟨d, hd, ho, r, hr, rfl, eq_of_beq hst⟩⟩

/-- A concluded journal may not be written again. -/
theorem not_permitted_over_concluded (hp : WritePermitted envs s l j)
    (hd : s.journal? j.transactionId = some d) :
    d.state ∉ [.committed, .preparationFailed, .uninstalled] := by
  intro hfin
  rcases permitted_move hp hd with hm | ⟨-, j0, hsy, -, hm⟩
  -- an uninstall: the table of transitions has no way out
  · have hst := hm.state
    have hrem := hm.removal
    generalize d.state = st at *
    generalize j.state = st' at *
    revert st st'
    decide
  · rw [hsy.state] at hfin
    cases hm with
    | enter st _ _ _ ht he =>
      simp only [mem_cons, not_mem_nil, or_false] at hfin
      rcases hfin with hst | hst | hst <;> rw [hst] at ht <;> cases ht
      · exact he
      · contradiction
    | apply _ _ _ _ _ hst => rcases hst with hst | hst <;> simp [hst] at hfin
    | undo _ _ _ _ _ hst => simp [hst] at hfin

/-- **What is concluded stays so.** In every run, a journal that was once on disk as `COMMITTED`,
`PREPARATION_FAILED` or `UNINSTALLED` is never written again. -/
theorem concluded_stays (hr : EngineRun h envs s0 s l) (hev : ev ∈ l) (hd : ev.pre.journal? tid = some d)
    (hfin : d.state ∈ [.committed, .preparationFailed, .uninstalled]) : s.journal? tid = some d := by
  have hstep : ∀ {s s' : Store F} {l e a}, Permitted envs s l e → (storeHandler h).Happens s e a s' →
      s.journal? tid = some d → s'.journal? tid = some d := by
    intro s s' l e a hperm hs hold
    rcases journal_change hperm hs tid with hk | ⟨j, -, rfl, -, hp⟩
    · exact hk.trans hold
    · exact absurd hfin (not_permitted_over_concluded hp hold)
  refine lawful_invariant (I := fun s l => ∀ ev ∈ l, ev.pre.journal? tid = some d →
    s.journal? tid = some d) nofun ?_
    (engine_lawful hr) ev hev hd
  intro s l e a s' _ ih hperm hs ev hev hd
  rcases mem_cons.mp hev with rfl | hev
  · exact hstep hperm hs hd
  · exact hstep hperm hs (ih ev hev hd)

theorem concluded_stays_lab : ∃ ev ∈ labPrepared.2, ∃ d,
    ev.pre.journal? "t" = some d ∧ labPrepared.1.journal? "t" = some d := by
  obtain ⟨ev, hev, d, hd, hp⟩ := exists_held "t" (l := labPrepared.2)
    (p := fun d => d.state == .committed) (by decide +kernel)
  exact ⟨ev, hev, d, hd, concluded_stays (LabAnswers.run _ _) hev hd (by simp [eq_of_beq hp])⟩

end WatchdogVpn.Provisioning
