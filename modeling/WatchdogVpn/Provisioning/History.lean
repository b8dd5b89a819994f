import WatchdogVpn.Provisioning.Refine.Passes

/-!
# What lawful histories keep

Consequences of the protocol alone, for every lawful history over any host.

* `write_or_kept`: an event moves the journals only if it is a permitted write that landed.
* `alone`: while a transaction created in the history needs attention, no other does.
* `ranked`: the steps of a prepare transaction only ever move up.
-/

namespace WatchdogVpn.Provisioning

open Effect

variable {F : Type} {h : Host F} {envs : ProvisioningEnvironment → Prop} {s s' s0 : Store F} {l : Trace F}
  {j j' d d' : TransactionJournal} {tid : TxId} {e : Req} {a : Option (Ans e)}

abbrev History (h : Host F) (envs : ProvisioningEnvironment → Prop) (s0 s : Store F) (l : Trace F) : Prop :=
  Lawful (storeHandler h) (Permitted envs) s0 s l

/-! ## What one event does -/

theorem transactions_kept (hs : (storeHandler h).Happens s e a s') (he : ∀ j, e ≠ .writeJournal j) :
    s'.transactions = s.transactions := by
  cases e with
  | writeJournal j => exact absurd rfl (he j)
  | writeOwnershipRecords cap rs | deleteOwnershipRecords cap =>
    cases a with
    | none => rcases hs with rfl | rfl <;> rfl
    | some r => rcases hs with rfl | ⟨rfl, -⟩ <;> rfl
  | host q =>
    cases a with
    | none | some r => obtain ⟨f', -, rfl⟩ := hs; rfl
  | _ =>
    cases a with
    | none => exact congrArg Store.transactions (show s' = s from hs)
    | some r => exact congrArg Store.transactions hs.1

/-- An event kept the journals and was no successful write, or it wrote a journal. -/
theorem write_or_kept (hs : (storeHandler h).Happens s e a s') : (s'.transactions = s.transactions ∧
      ∀ j, (⟨s, e, a⟩ : Event Ans (Store F)) ≠ ⟨s, .writeJournal j, some (.ok ())⟩) ∨
    ∃ j, e = .writeJournal j ∧ s' = s.putJournal j := by
  by_cases he : ∃ j, e = .writeJournal j
  · obtain ⟨j, rfl⟩ := he
    cases a with
    | none =>
      rcases hs with rfl | rfl
      · exact .inl ⟨rfl, fun j' h => by cases h⟩
      · exact .inr ⟨j, rfl, rfl⟩
    | some r =>
      rcases hs with rfl | ⟨rfl, x, rfl⟩
      · exact .inr ⟨j, rfl, rfl⟩
      · exact .inl ⟨rfl, fun j' h => by cases h⟩
  · have hne : ∀ j, e ≠ .writeJournal j := fun j hj => he ⟨j, hj⟩
    exact .inl ⟨transactions_kept hs hne, fun j h => hne j (congrArg Event.req h)⟩

/-- The journal of one transaction after an event: as it was, or as it was just written. -/
theorem journal_change (hp : Permitted envs s l e) (hs : (storeHandler h).Happens s e a s') (tid : TxId) :
    s'.journal? tid = s.journal? tid ∨
      ∃ j, e = .writeJournal j ∧ j.transactionId = tid ∧ s'.journal? tid = some j.onDisk ∧
      WritePermitted envs s l j := by
  rcases write_or_kept hs with ⟨hk, -⟩ | ⟨j, rfl, rfl⟩
  · exact .inl (journal?_congr hk tid)
  by_cases ht : tid = j.transactionId
  · exact .inr ⟨j, rfl, ht.symm, ht ▸ journal?_putJournal, hp⟩
  · exact .inl (journal?_putJournal_of_ne ht)

section

variable (hp : WritePermitted envs s l j) (hd : s.journal? j.transactionId = some d)
include hp hd

theorem permitted_move : UninstallMove d j ∨
    d.operation ≠ .uninstall ∧ ∃ j0, Synced d j0 ∧ j0.transactionId = j.transactionId ∧
    PrepareMove envs s l j0 j := by
  cases hp with
  | create _ _ _ _ _ _ _ hn | createUninstall _ _ _ hn => exact absurd (hn.symm.trans hd) (by simp)
  | prepare j0 j hh ho0 hm =>
    obtain ⟨d0, hd0, hsy⟩ := hh
    have hid : j0.transactionId = j.transactionId := by cases hm <;> rfl
    rw [hid, hd] at hd0
    cases hd0
    exact .inr ⟨hsy.operation ▸ ho0, j0, hsy, hid, hm⟩
  | uninstall d0 j hd0 hm hf =>
    rw [hd] at hd0
    cases hd0
    exact .inl hm

theorem permitted_over (ho : d.operation ≠ .uninstall) :
    ∃ j0, Synced d j0 ∧ j0.transactionId = j.transactionId ∧ PrepareMove envs s l j0 j :=
  ((permitted_move hp hd).resolve_left fun hm => ho hm.operation.1).2

theorem permitted_over_removal (ho : d.operation = .uninstall) : UninstallMove d j :=
  (permitted_move hp hd).resolve_right fun h => h.1 ho

end

/-- A journal is created only when nothing is pending, and in one of two ways. -/
theorem permitted_new (hp : WritePermitted envs s l j) (hn : s.journal? j.transactionId = none) :
    NoPending s ∧ ((∃ env executor plan, envs env ∧ isIdentifier j.transactionId = true ∧
        j = initialJournal env plan j.transactionId ∧ Bound envs executor plan j) ∨
      ∃ env plan, envs env ∧ j = initialUninstallJournal env plan) := by
  cases hp with
  | create env executor plan tid he hid hb hn hpend =>
    exact ⟨hpend, .inl ⟨env, executor, plan, he, hid, rfl, hb⟩⟩
  | createUninstall env plan he hn hpend => exact ⟨hpend, .inr ⟨env, plan, he, rfl⟩⟩
  | prepare j0 j hh ho0 hm =>
    obtain ⟨d0, hd0, -⟩ := hh
    have hid : j0.transactionId = j.transactionId := by cases hm <;> rfl
    rw [hid, hn] at hd0
    cases hd0
  | uninstall d0 j hd0 hm hf => exact absurd (hn.symm.trans hd0) (by simp)

/-- The states in which a prepare journal is only ever written on entering them. -/
def enteredStates : List TransactionState :=
  [.authorized, .prepareTerminalPrepared, .committed, .rolledBack, .preparationFailed, .rollbackFailed,
    .recoveryRequired, .recovering]

theorem permitted_enter (hp : WritePermitted envs s l j) (ho : j.operation ≠ .uninstall)
    (hst : j.state ∈ enteredStates) :
    ∃ d j0 provenance failure recovery, s.journal? j.transactionId = some d ∧
    d.operation ≠ .uninstall ∧ Synced d j0 ∧
      j = { j0 with state := j.state, provenance, failure, recovery } ∧
      j.state ∈ transactionTransitions j0.state ∧ EntryEvidence s l j0 j.state := by
  cases hdisk : s.journal? j.transactionId with
  | none =>
    rcases (permitted_new hp hdisk).2 with ⟨env, executor, plan, -, -, hj, -⟩ | ⟨env, plan, -, hj⟩ <;>
      rw [hj] at hst <;> simp [initialJournal, initialUninstallJournal, enteredStates] at hst
  | some d =>
    by_cases hop : d.operation = .uninstall
    · exact absurd (permitted_over_removal hp hdisk hop).operation.2 ho
    obtain ⟨j0, hsy, -, hm⟩ := permitted_over hp hdisk hop
    cases hm with
    | enter st p f r ht he => exact ⟨d, j0, p, f, r, rfl, hop, hsy, rfl, ht, he⟩
    | apply executor plan old new hb hs _ _ =>
      rcases hs with hs | hs <;> rw [withStep_state, hs] at hst <;> exact absurd hst (by decide)
    | undo executor plan old new hb hs _ _ => rw [withStep_state, hs] at hst; exact absurd hst (by decide)

/-! ## One pending transaction at a time -/

/-- Every other journal is in a state that needs no attention. -/
def OthersSettled (s : Store F) (tid : TxId) : Prop :=
  ∀ t d, t ≠ tid → s.journal? t = some d → d.state ∉ needsRecoveryAttention

/-- The last event began the transaction: its journal was created or, right after that, authorized.
-/
def JustBegun (l : Trace F) (tid : TxId) : Prop :=
  ∃ j, j.transactionId = tid ∧ (j.state = .planned ∨ j.state = .uninstallPlanned ∨ j.state = .authorized) ∧
    LastWas l (.writeJournal j) (.ok ())

theorem othersSettled_put (ho : OthersSettled s j.transactionId) :
    OthersSettled (s.putJournal j) j.transactionId :=
  fun t d ht hd => ho t d ht ((journal?_putJournal_of_ne ht).symm.trans hd)

theorem last_write (hl : History h envs s0 s l) (hw : LastWas l (.writeJournal j) (.ok ())) :
    ∃ pre rest, History h envs s0 pre rest ∧ WritePermitted envs pre rest j ∧ s = pre.putJournal j := by
  obtain ⟨pre, rest, rfl⟩ := hw
  obtain ⟨hpre, hperm, hs⟩ := lawful_last hl
  rcases hs with hs | ⟨-, x, hx⟩
  · exact ⟨pre, rest, hpre, hperm, hs⟩
  · cases hx

theorem permitted_begin (hp : WritePermitted envs s l j)
    (hst : j.state = .planned ∨ j.state = .uninstallPlanned ∨ j.state = .authorized) :
    NoPending s ∨ (j.state = .authorized ∧ ∃ j0, j0.transactionId = j.transactionId ∧ j0.state = .planned ∧
      LastWas l (.writeJournal j0) (.ok ())) := by
  cases hp with
  | create env executor plan tid he hid hb hn hpend | createUninstall env plan he hn hpend => exact .inl hpend
  | prepare j0 j hh ho hm =>
    cases hm with
    | enter st p f r ht he =>
      rcases hst with rfl | rfl | rfl
      · exact he.elim
      · exact he.elim
      · refine .inr ⟨rfl, j0, rfl, ?_, he⟩
        revert ht
        cases j0.state <;> decide
    | apply executor plan old new hb hs _ _ =>
      rcases hs with hs | hs <;> simp [hs] at hst
    | undo executor plan old new hb hs _ _ => simp [hs] at hst
  | uninstall d j hd hm _ =>
    have hr := hm.removal
    rcases hst with hst | hst | hst <;> rw [hst] at hr <;> exact absurd hr (by decide)

theorem begun_alone (hl : History h envs s0 s l) (hb : JustBegun l tid) : OthersSettled s tid := by
  obtain ⟨j, rfl, hst, hw⟩ := hb
  obtain ⟨pre, rest, hpre, hperm, rfl⟩ := last_write hl hw
  refine othersSettled_put ?_
  rcases permitted_begin hperm hst with hn | ⟨-, j0, hid, hplan, hw0⟩
  · exact fun t d _ hd => hn t d hd
  -- authorized right after it was created
  obtain ⟨pre0, rest0, -, hperm0, rfl⟩ := last_write hpre hw0
  rw [← hid]
  refine othersSettled_put ?_
  rcases permitted_begin hperm0 (.inl hplan) with hn | ⟨hauth, -⟩
  · exact fun t d _ hd => hn t d hd
  · rw [hplan] at hauth; cases hauth

theorem attention_entered {a : TransactionState} : ∀ b ∈ transactionTransitions a, a ∉ needsRecoveryAttention →
    b ∈ needsRecoveryAttention → a = .authorized ∧ b = .applying ∨ a = .uninstallPlanned ∧
    b = .uninstalling := by
  cases a <;> decide

/-- A journal is written in a state that needs attention only over one that did, or right after its
transaction began. -/
theorem enters_needs (hp : WritePermitted envs s l j) (hneed : j.state ∈ needsRecoveryAttention) :
    (∃ d, s.journal? j.transactionId = some d ∧ d.state ∈ needsRecoveryAttention) ∨
    JustBegun l j.transactionId := by
  cases hp with
  | create env executor plan tid he hid hb hn hpend => simp [initialJournal, needsRecoveryAttention] at hneed
  | createUninstall env plan he hn hpend => simp [initialUninstallJournal, needsRecoveryAttention] at hneed
  | prepare j0 j hh ho hm =>
    obtain ⟨d, hd, hsy⟩ := hh
    cases hm with
    | enter st p f r ht he =>
      by_cases hold : j0.state ∈ needsRecoveryAttention
      · exact .inl ⟨d, hd, hsy.state ▸ hold⟩
      obtain ⟨hauth, rfl⟩ | ⟨-, rfl⟩ := attention_entered st ht hold hneed
      · rcases he with he | he
        · rw [hauth] at he; cases he
        · exact .inr ⟨j0, rfl, .inr (.inr hauth), he⟩
      · exact he.elim
    | apply | undo => exact .inl ⟨d, hd, hsy.state ▸ hneed⟩
  | uninstall d j hd hm hf =>
    by_cases hold : d.state ∈ needsRecoveryAttention
    · exact .inl ⟨d, hd, hold⟩
    have hplan : d.state = .uninstallPlanned := by
      rcases hm.state with ⟨hs, -⟩ | ht
      · rw [hs] at hold; exact absurd (by decide) hold
      · obtain ⟨-, hst⟩ | ⟨hd, -⟩ := attention_entered _ ht hold hneed
        · exact absurd (hst ▸ hm.removal) (by decide)
        · exact hd
    obtain ⟨j0, hid, hst, hw⟩ := hf hplan
    exact .inr ⟨j0, hid, .inr (.inl hst), hw⟩

/-- **One at a time**: while a transaction created in the history needs attention, no other one
does. -/
theorem alone (hnew : s0.journal? tid = none) (hl : History h envs s0 s l) :
    ∀ d, s.journal? tid = some d → d.state ∈ needsRecoveryAttention → OthersSettled s tid := by
  refine lawful_invariant (I := fun s _ => ∀ d, s.journal? tid = some d → d.state ∈ needsRecoveryAttention →
    OthersSettled s tid) (fun d hd => by rw [hnew] at hd; cases hd) ?_ hl
  intro s l e a s' hl ih hperm hs d hd hneed
  rcases write_or_kept hs with ⟨hk, -⟩ | ⟨j, rfl, rfl⟩
  · intro t d' ht hd'
    exact ih d ((journal?_congr hk tid).symm.trans hd) hneed t d' ht ((journal?_congr hk t).symm.trans hd')
  by_cases ht : tid = j.transactionId
  · -- the transaction itself is written
    subst ht
    rw [journal?_putJournal] at hd
    cases hd
    refine othersSettled_put ?_
    rcases enters_needs hperm hneed with ⟨d0, hd0, hold⟩ | hbegun
    · exact ih d0 hd0 hold
    · exact begun_alone hl hbegun
  · -- another one is written: it cannot have come to need attention
    rw [journal?_putJournal_of_ne ht] at hd
    have hset := ih d hd hneed
    intro t d' htt hd' hneed'
    by_cases hj : t = j.transactionId
    · subst hj
      rw [journal?_putJournal] at hd'
      cases hd'
      rcases enters_needs hperm hneed' with ⟨d0, hd0, hold⟩ | hbegun
      · exact hset _ d0 htt hd0 hold
      · exact begun_alone hl hbegun tid d ht hd hneed
    · rw [journal?_putJournal_of_ne hj] at hd'
      exact hset t d' htt hd' hneed'

/-! ## Steps only move up -/

/-- How far a step has come. -/
def StepState.rank : StepState → Nat
  | .planned => 0
  | .applying => 1
  | .applied | .applyFailed => 2
  | .verifying => 3
  | .verified | .verifyFailed => 4
  | .undoing => 5
  | .undone | .undoFailed => 6

/-- On disk, this step of a prepare transaction is in this state. -/
def StepAt (s : Store F) (tid : TxId) (q : Int) (st : StepState) : Prop :=
  ∃ d, s.journal? tid = some d ∧ d.operation ≠ .uninstall ∧ ∃ r ∈ d.steps, r.sequence = q ∧ r.state = st

theorem ApplyMove.rank {executor : Executor} {old new : StepRecord} (hm : ApplyMove l tid executor old new) :
    old.state.rank ≤ new.state.rank := by
  cases hm with
  | begin _ hs _ | interrupt _ _ hs _ | applied _ hs _ | applyFailed _ _ _ hs _ _ | verifying hs
  | verified _ _ hs _ _ | verifyFailed _ _ _ hs => simp [hs, StepState.rank]

theorem UndoMove.rank {old new : StepRecord} (hm : UndoMove l tid old new) :
    old.state.rank ≤ new.state.rank := by
  cases hm with
  | undoing hs => rcases hs with hs | hs <;> simp [hs, StepState.rank]
  | undone hs _ | undoFailed _ _ hs => simp [hs, StepState.rank]

theorem PrepareMove.up (hm : PrepareMove envs s l j j') {r : StepRecord} (hmem : r ∈ j.steps) :
    ∃ r' ∈ j'.steps, r'.sequence = r.sequence ∧ r.state.rank ≤ r'.state.rank := by
  cases hm with
  | enter st p f rec ht he => exact ⟨r, hmem, rfl, le_rfl⟩
  | apply _ _ old new hb _ ho hm | undo _ _ old new hb _ ho hm =>
    refine ⟨_, List.mem_map_of_mem hmem, ?_⟩
    by_cases he : r.sequence = new.sequence
    · have hro : r = old := eq_of_sequence hb.nodup hmem (mem_of_step ho).1 (he.trans hm.sequence)
      simp [hro, hm.sequence, hm.rank]
    · simp [he]

theorem PrepareMove.operation (hm : PrepareMove envs s l j j') : j'.operation = j.operation := by
  cases hm <;> rfl

theorem stepAt_up (hp : Permitted envs s l e) (hs : (storeHandler h).Happens s e a s') {q : Int}
    {st : StepState}
    (hst : StepAt s tid q st) : ∃ st', StepAt s' tid q st' ∧ st.rank ≤ st'.rank := by
  obtain ⟨d, hd, ho, r, hr, hq, rfl⟩ := hst
  rcases journal_change hp hs tid with hsame | ⟨j, -, rfl, hj, hperm⟩
  · exact ⟨_, ⟨d, hsame.trans hd, ho, r, hr, hq, rfl⟩, le_rfl⟩
  obtain ⟨j0, hsy, -, hm⟩ := permitted_over hperm hd ho
  obtain ⟨r0, hr0, hq0, hs0, -⟩ := hsy.exists_memory hr
  obtain ⟨r', hr', hq', hrank⟩ := hm.up hr0
  refine ⟨_, ⟨_, hj, ?_, r'.onDisk, List.mem_map_of_mem hr', ?_, rfl⟩, ?_⟩
  · rw [onDisk_operation, hm.operation, ← hsy.operation]; exact ho
  · exact hq'.trans (hq0.trans hq)
  · rw [← hs0]; exact hrank

/-- **Steps only move up** along a history. -/
theorem ranked (hl : History h envs s0 s l) : ∀ ev ∈ l, ∀ q st, StepAt ev.pre tid q st →
    ∃ st', StepAt s tid q st' ∧ st.rank ≤ st'.rank := by
  refine lawful_invariant (I := fun s l => ∀ ev ∈ l, ∀ q st, StepAt ev.pre tid q st →
    ∃ st', StepAt s tid q st' ∧ st.rank ≤ st'.rank) (fun ev hev => by cases hev) ?_ hl
  intro s l e a s' _ ih hperm hs ev hev q st hst
  rcases List.mem_cons.mp hev with rfl | hev
  · exact stepAt_up hperm hs hst
  obtain ⟨st1, hst1, h1⟩ := ih ev hev q st hst
  obtain ⟨st2, hst2, h2⟩ := stepAt_up hperm hs hst1
  exact ⟨st2, hst2, h1.trans h2⟩

end WatchdogVpn.Provisioning
