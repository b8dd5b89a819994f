import WatchdogVpn.Provisioning.History
import WatchdogVpn.Provisioning.Script

/-!
# Revoked authority

An uninstall that reached `REVOKING_OWNERSHIP` has removed every resource of its source
transaction. From then on `validate_ownership_authority` refuses every record that cites that
transaction, as long as the uninstall is not sent to recovery again (`revoked_stays_revoked`):
the check recognises a completed removal by the state of the uninstall journal alone.
-/

namespace WatchdogVpn.Provisioning

open Effect

variable {F : Type} {h : Host F} {envs : ProvisioningEnvironment → Prop} {s s' s0 : Store F} {l l' : Trace F}
  {uid target : TxId} {cap : String} {exclude : Option TxId} {d j : TransactionJournal}

/-- On disk, this uninstall of the capability has removed the resources of `target`. -/
def RemovalCompleted (uid : TxId) (cap : String) (target : TxId) (s : Store F) : Prop :=
  ∃ d, s.journal? uid = some d ∧ d.operation = .uninstall ∧ d.capabilityId = cap ∧ d.target = target ∧
    d.state ∈ removalCompletedStates

theorem Kept.removalCompleted (hk : Kept s l s' l') (hu : RemovalCompleted uid cap target s) :
    RemovalCompleted uid cap target s' := by
  obtain ⟨d, hd, hrest⟩ := hu
  exact ⟨d, (hk.journal? uid).trans hd, hrest⟩

/-! ## What the check sees -/

/-- The scan does not miss a completed removal that it is not told to pass over. -/
theorem scan_finds (hex : exclude ≠ some uid) (ids : List TxId) :
    ∀ s l, RemovalCompleted uid cap target s → uid ∈ ids →
    Meets h envs (fun a _ _ => a ≠ .noneFound)
      (liftM (scanForCompletedUninstall cap target exclude ids)) s l := by
  induction ids with
  | nil => intro s l _ hin; cases hin
  | cons tid ids ih =>
    intro s l hu hin
    change wp _ _ _ _ (Prog.widen (scanForCompletedUninstall cap target exclude (tid :: ids))) s l
    unfold scanForCompletedUninstall
    split
    · rename_i hskip
      refine ih s l hu ((List.mem_cons.mp hin).resolve_left ?_)
      rintro rfl
      exact hex hskip.symm
    · simp only [widen_bind]
      refine meets_bind (meets_ask trivial fun a s1 hs hk => ?_)
      have hu1 := hk.removalCompleted hu
      cases a with
      | error x =>
        dsimp only
        split
        · exact nofun
        · trivial
      | ok j =>
        have hj : s.journal? tid = some j := hs.2 j rfl
        dsimp only
        split
        · -- not an uninstall of this capability and target, so not the one that completed
          rename_i hoth
          refine ih s1 _ hu1 ((List.mem_cons.mp hin).resolve_left ?_)
          rintro rfl
          obtain ⟨d, hd, hop, hcap, htgt, -⟩ := hu
          rw [hj] at hd
          cases hd
          simp [hop, hcap, htgt] at hoth
        · split
          · exact nofun
          -- an uninstall that has not completed is not the one either
          rename_i hstate
          refine ih s1 _ hu1 ((List.mem_cons.mp hin).resolve_left ?_)
          rintro rfl
          obtain ⟨d, hd, -, -, -, hcompl⟩ := hu
          rw [hj] at hd
          cases hd
          exact hstate hcompl

theorem capability_has_completed (hex : exclude ≠ some uid) (hu : RemovalCompleted uid cap target s) :
    Meets h envs (fun a _ _ => a ≠ .noneFound)
      (liftM (capabilityHasCompletedUninstall cap target exclude)) s l := by
  change wp _ _ _ _ (Prog.widen (capabilityHasCompletedUninstall cap target exclude)) s l
  unfold capabilityHasCompletedUninstall
  simp only [widen_bind]
  refine meets_bind (meets_ask trivial fun a s1 hs hk => ?_)
  cases a with
  | error x =>
    dsimp only
    split
    · exact nofun
    · trivial
  | ok ids =>
    refine scan_finds hex ids _ _ (hk.removalCompleted hu) ((hs.2 ids rfl).2 uid ?_)
    obtain ⟨d, hd, -⟩ := hu
    rw [hd]
    exact Option.some_ne_none d

/-- **Authority refused**: no record that cites the target is validated. -/
theorem authority_refused {env : ProvisioningEnvironment} {c : ExecutionContext}
    {records : List OwnershipRecord}
    {live : Bool} (hex : exclude ≠ some uid) (hu : RemovalCompleted uid cap target s)
    (hcite : citedTransaction (records.filter (·.productOwned)) = some target) :
    Meets h envs (fun a _ _ => a = false)
      (liftM (validateOwnershipAuthority env c cap records exclude live)) s l := by
  change wp _ _ _ _ (Prog.widen (validateOwnershipAuthority env c cap records exclude live)) s l
  unfold validateOwnershipAuthority
  dsimp only
  split
  · rename_i hnone
    rw [hnone] at hcite
    cases hcite
  rw [hcite]
  simp only [widen_bind]
  refine meets_bind (meets_look fun source s1 l1 hk => ?_)
  cases source with
  | none => exact rfl
  | some j =>
    simp only [widen_bind]
    refine meets_bind (wp_imp (capability_has_completed hex (hk.removalCompleted hu)) fun a s2 l2 hfnd => ?_)
    rw [if_pos hfnd]
    exact rfl

/-! ## What later events keep -/

theorem removal_stays {e : Req} {a : Option (Ans e)} (hp : Permitted envs s l e)
    (hs : (storeHandler h).Happens s e a s') (hu : RemovalCompleted uid cap target s)
    (hc : ∀ j, e = .writeJournal j → j.transactionId = uid → j.state ≠ .recoveryRequired) :
    RemovalCompleted uid cap target s' := by
  obtain ⟨d, hd, hop, hcap, htgt, hcompl⟩ := hu
  rcases journal_change hp hs uid with hsame | ⟨j, rfl, rfl, hj, hw⟩
  · exact ⟨d, hsame.trans hd, hop, hcap, htgt, hcompl⟩
  have hm := permitted_over_removal hw hd hop
  refine ⟨j.onDisk, hj, hm.operation.2, hm.capability.trans hcap, hm.target.trans htgt, ?_⟩
  have hnot := hc j rfl rfl
  have hfail := hm.failed
  rw [onDisk_state]
  rcases hm.state with ⟨hun, -⟩ | ht
  · rw [hun] at hcompl
    exact absurd hcompl (by decide)
  · revert hcompl hnot hfail
    revert ht
    generalize j.state = b
    revert b
    cases d.state <;> decide

/-- **Revoked authority stays revoked.** Once an uninstall has been on disk as `REVOKING_OWNERSHIP`,
and in every run that does not send it to recovery after that, no call of
`validate_ownership_authority` on records that cite its target returns `True`, other than one that
excludes this very uninstall. -/
theorem revoked_stays_revoked (hr : EngineRun h envs s0 s l) {later earlier : Trace F}
    (hl : l = later ++ earlier)
    (hd : (stateAt s later).journal? uid = some d) (hop : d.operation = .uninstall)
    (hst : d.state = .revokingOwnership)
    (hc : ∀ ev ∈ later, ∀ j, ev.req = .writeJournal j → j.transactionId = uid → j.state ≠ .recoveryRequired)
    {env : ProvisioningEnvironment} {c : ExecutionContext} {records : List OwnershipRecord} {live : Bool}
    (hcite : citedTransaction (records.filter (·.productOwned)) = some d.target) (hex : exclude ≠ some uid) :
    ∀ a s' l', Ends (storeHandler h)
      (liftM (validateOwnershipAuthority env c d.capabilityId records exclude live) :
        EngineProg Bool) s l (.ok a) s' l' → a = false := by
  intro a s' l' hends
  subst hl
  have hu : RemovalCompleted uid d.capabilityId d.target s := by
    refine lawful_from (engine_lawful hr) ⟨d, hd, hop, rfl, rfl, by rw [hst]; decide⟩ ?_
    intro s l e a s' hmem _ hu hp hs
    exact removal_stays hp hs hu fun j he => hc _ hmem j he
  have hmeets : Meets h envs (fun a _ _ => a = false)
      (liftM (validateOwnershipAuthority env c d.capabilityId records exclude live)) s (later ++ earlier) :=
    authority_refused hex hu hcite
  exact (wp_ends hmeets hends).1 a rfl

/-! ## In the laboratory -/

/-- The resources are gone when the removal looks for them. -/
def labGone : LabAnswers := { stat := .error ⟨.fileNotFoundError, "gone"⟩ }

/-- They are gone when the removal looks for them, and back when the revocation confirms that they
are. -/
def labBack : LabAnswers := { labGone with confirmAbsent := some "present" }

/-- The laboratory with a committed transaction, then an uninstall against these answers. -/
def labUninstalled (a : LabAnswers) : Store Unit × Trace Unit :=
  a.next (.uninstall "canary" true) labPrepared.1
    labPrepared.2

theorem labUninstalled_run (a : LabAnswers) :
    EngineRun anyHost labOnly emptyStore (labUninstalled a).1 (labUninstalled a).2 :=
  (({} : LabAnswers).run [.prepare labDecision true]).pass ⟨labEnv, _, rfl, rfl⟩ (a.exec _ _ _)

/-- The records that the committed transaction published. -/
def labRecords : List OwnershipRecord :=
  (labPrepared.1.ownership? "canary").getD []

/-- Their check, as `uninstall` makes it before it takes the lock. -/
def labAuthority : EngineProg Bool :=
  liftM (validateOwnershipAuthority labEnv labEnv.context "canary" labRecords none true)

/-- The log ends in an event before which the uninstall was on disk as `REVOKING_OWNERSHIP`. -/
def seesRevoking : Trace F → Bool
  | ev :: _ => (ev.pre.journal? "tt").any fun d =>
      d.operation == .uninstall && d.state == .revokingOwnership && d.capabilityId == "canary" &&
        d.target == "t"
  | [] => false

theorem stateAt_append (s : Store F) (later : Trace F) (ev : Event Ans (Store F)) :
    stateAt s (later ++ [ev]) = ev.pre := by
  induction later generalizing s with
  | nil => rfl
  | cons a later ih => exact ih a.pre

theorem seesRevoking_point (hb : l.tails.any seesRevoking = true) :
    ∃ later earlier d, l = later ++ earlier ∧ (stateAt s later).journal? "tt" = some d ∧
    d.operation = .uninstall ∧
      d.state = .revokingOwnership ∧ d.capabilityId = "canary" ∧ d.target = "t" := by
  obtain ⟨later, ev, earlier, rfl, hat⟩ := exists_point rfl hb
  obtain ⟨d, hd, hat⟩ := (Option.any_eq_true _ _).mp hat
  simp only [Bool.and_eq_true, beq_iff_eq] at hat
  refine ⟨later ++ [ev], earlier, d, by simp, ?_, hat.1.1.1, hat.1.1.2, hat.1.2, hat.2⟩
  rw [stateAt_append]
  exact hd

theorem labRecords_cite : citedTransaction (labRecords.filter (·.productOwned)) = some "t" := by decide +kernel

theorem labAuthority_ends {a : LabAnswers} {s : Store Unit} {l : Trace Unit} {b : Bool}
    (hb : ((drive a.script.reply labAuthority () s l).1.any fun r => r.toOption == some b) = true) :
    ∃ s' l', Ends (storeHandler anyHost) labAuthority s l (.ok b) s' l' := by
  obtain ⟨r, hr, hb⟩ := (Option.any_eq_true _ _).mp hb
  cases r with
  | error x => cases hb
  | ok b' =>
    have heq : b' = b := by simpa [Except.toOption] using hb
    exact ⟨_, _, heq ▸ a.ends hr⟩

/-- The check returns a value in the laboratory, the uninstall passed `REVOKING_OWNERSHIP` and was
never sent to recovery. -/
def labRefusal (out : Store Unit × Trace Unit) : Bool :=
  ((drive ({} : LabAnswers).script.reply labAuthority () out.1 out.2).1.any fun r => r.toOption.isSome) &&
  out.2.all (fun ev => !wrote (fun j => j.transactionId == "tt" && j.state == .recoveryRequired) ev) &&
  out.2.tails.any seesRevoking

/-- After an uninstall the published records are refused, also on a machine where the files are
back. -/
theorem revoked_stays_revoked_lab : ∃ s' l', Ends (storeHandler anyHost) labAuthority (labUninstalled labGone).1
    (labUninstalled labGone).2 (.ok false) s' l' := by
  have hall : labRefusal (labUninstalled labGone) = true := by decide +kernel
  simp only [labRefusal, Bool.and_eq_true] at hall
  obtain ⟨⟨hends, hnever⟩, hpoint⟩ := hall
  obtain ⟨later, earlier, d, hl, hd, hop, hst, hcap, htgt⟩ :=
    seesRevoking_point (s := (labUninstalled labGone).1) hpoint
  obtain ⟨r, hr, hok⟩ := (Option.any_eq_true _ _).mp hends
  cases r with
  | error x => cases hok
  | ok b =>
    have hc : ∀ ev ∈ later, ∀ j, ev.req = .writeJournal j → j.transactionId = "tt" →
        j.state ≠ .recoveryRequired := by
      intro ev hev j hreq htid hstate
      have hno := List.all_eq_true.mp hnever ev (hl ▸ List.mem_append_left _ hev)
      simp [wrote, hreq, htid, hstate] at hno
    obtain ⟨s', l', hchk⟩ : ∃ s' l', Ends (storeHandler anyHost) (liftM (validateOwnershipAuthority labEnv
        labEnv.context d.capabilityId labRecords none true) : EngineProg Bool) (labUninstalled labGone).1
        (labUninstalled labGone).2 (.ok b) s' l' := by
      rw [hcap]
      exact ⟨_, _, ({} : LabAnswers).ends hr⟩
    have hex : (none : Option TxId) ≠ some "tt" := nofun
    have hb : b = false := revoked_stays_revoked (labUninstalled_run labGone) hl hd hop hst hc
      (htgt ▸ labRecords_cite) hex b _ _ hchk
    exact ⟨_, _, hb ▸ ({} : LabAnswers).ends hr⟩

/-- The check returns `True` in the laboratory, after the uninstall passed `REVOKING_OWNERSHIP`. -/
def labReturn (out : Store Unit × Trace Unit) : Bool :=
  ((drive ({} : LabAnswers).script.reply labAuthority () out.1 out.2).1.any fun r => r.toOption == some true) &&
  out.2.tails.any seesRevoking

/-- **Authority comes back.** The resources reappear right before the revocation is confirmed; the
uninstall is sent from `REVOKING_OWNERSHIP` to `RECOVERY_REQUIRED`, where the check no longer
recognises it, and the records of the transaction whose resources were all removed are validated
again. -/
theorem authority_comes_back : ∃ (s : Store Unit) (later earlier : Trace Unit) (d : TransactionJournal),
    EngineRun anyHost labOnly emptyStore s (later ++ earlier) ∧ (stateAt s later).journal? "tt" = some d ∧
    d.operation = .uninstall ∧ d.state = .revokingOwnership ∧ d.capabilityId = "canary" ∧
    citedTransaction (labRecords.filter (·.productOwned)) = some d.target ∧
    ∃ s' l', Ends (storeHandler anyHost) labAuthority s (later ++ earlier) (.ok true) s' l' := by
  have hall : labReturn (labUninstalled labBack) = true := by decide +kernel
  simp only [labReturn, Bool.and_eq_true] at hall
  obtain ⟨later, earlier, d, hl, hd, hop, hst, hcap, htgt⟩ :=
    seesRevoking_point (s := (labUninstalled labBack).1) hall.2
  exact ⟨_, later, earlier, d, hl ▸ labUninstalled_run labBack, hd, hop, hst, hcap, htgt ▸ labRecords_cite,
    hl ▸ labAuthority_ends hall.1⟩

end WatchdogVpn.Provisioning
