import WatchdogVpn.Provisioning.Refine.Forward

/-!
# Going backward: rollback against the protocol

Rollback visits each step once, last first. A step that it finds `UNDOING` or undoable ends
`UNDONE` or adds a residual; every other step it leaves alone.

* `rollbackStep_meets`: one step.
* `runRollback_meets`: a rollback without residuals leaves every step clean, or skipped in the
  state in which the rollback was entered.
-/

namespace WatchdogVpn.Provisioning

open Effect List

variable {F : Type} {h : Host F} {envs : ProvisioningEnvironment → Prop}
  {s s' s'' : Store F} {l l' l'' : Trace F} {executor : Executor} {plan : ProvisioningPlan}
  {j j' j'' jₑ : TransactionJournal} {r r' : StepRecord} {tid : TxId}

theorem safeUndo_meets {execution : ExecutionResult} {Q : RollbackResult → Store F → Trace F → Prop}
    (hp : UndoPermitted envs s l tid r execution)
    (hQ : ∀ a s' l', Kept s l s' l' → LastWas l' (.host (.undoStep tid r execution)) a →
      Q (safeRollback a) s' l') : Meets h envs Q (safeUndo tid r execution) s l :=
  ⟨hp, fun a s' hs => hQ a s' _ (kept_host hs) ⟨s, l, rfl⟩⟩

/-- What holds once rollback has visited a step: without residuals it is clean, or skipped as it
was. -/
structure VisitedOK (envs : ProvisioningEnvironment → Prop) (executor : Executor) (plan : ProvisioningPlan)
    (s : Store F) (l : Trace F) (j : TransactionJournal) (q : Int) (s' : Store F) (l' : Trace F)
    (a : TransactionJournal × List String) : Prop where
  progress : Progress envs executor plan s l j s' l' a.1
  visited : ∃ v, Replaced j v a.1 ∧ v.sequence = q ∧ (a.2 = [] →
    v.state ∈ cleanStepStates ∨ v.state ∈ skippedStepStates ∧ j.step q = .ok v)

theorem VisitedOK.after {q : Int} {a : TransactionJournal × List String}
    (hs : VisitedOK envs executor plan s' l' j q s'' l'' a) (hk : Kept s l s' l')
    (hv : Serving envs s executor plan j) : VisitedOK envs executor plan s l j q s'' l'' a :=
  ⟨(hk.progress hv).trans hs.progress, hs.visited⟩

section OneStep

variable (ha : Acting envs s executor plan j r) (hst : j.state = .rollingBack) (hr : r.state = .undoing)
include ha hst hr

theorem markUndoFailed_meets (kind error : Option String) :
    Meets h envs (fun a s' l' => VisitedOK envs executor plan s l j r.sequence s' l' a)
      (markUndoFailed j r kind error) s l := by
  refine meets_stepState fun _ => ?_
  refine meets_bind (meets_undoMove ha hst (.undoFailed kind error hr) fun j1 _ _ hp hrep => ?_)
  exact ⟨hp, _, hrep, rfl, nofun⟩

theorem markUndone_meets (he : UndoneEvidence l j.transactionId r) :
    Meets h envs (fun a s' l' => VisitedOK envs executor plan s l j r.sequence s' l' a)
      (markUndone j r) s l := by
  refine meets_stepState fun _ => ?_
  refine meets_bind (meets_undoMove ha hst (.undone hr he) fun j1 _ _ hp hrep => ?_)
  exact ⟨hp, _, hrep, rfl, fun _ => .inl (by simp [cleanStepStates])⟩

theorem performUndo_meets (hu : UndoReached l j r) :
    Meets h envs (fun a s' l' => VisitedOK envs executor plan s l j r.sequence s' l' a)
      (performUndo executor j r) s l := by
  unfold performUndo
  split
  · split
    · exact markUndoFailed_meets ha hst hr _ _
    · trivial
  · rename_i undo hundo
    have hperm : UndoPermitted envs s l j.transactionId r { status := .applied, undoRecord := some undo } :=
      ⟨executor, plan, j, undo, rfl, ha, hr, hst, hundo, rfl, hu⟩
    refine meets_bind (safeUndo_meets hperm fun a s1 l1 hk hw => ?_)
    have ha1 := hk.acting ha
    split
    · rename_i hdone
      refine wp_imp (markUndone_meets ha1 hst hr (.inl ⟨_, a, hw, hdone⟩)) fun a s' l' hs => ?_
      exact hs.after hk ha.toServing
    · exact wp_imp (markUndoFailed_meets ha1 hst hr _ _) fun a s' l' hs => hs.after hk ha.toServing

theorem resumeUndoing_meets : Meets h envs
    (fun a s' l' => VisitedOK envs executor plan s l j r.sequence s' l' a)
      (resumeUndoing executor j r) s l := by
  refine meets_bind (safeInspect_meets fun observed s1 l1 hk hi => ?_)
  have ha1 := hk.acting ha
  have haft {a : TransactionJournal × List String} {s' l'}
      (hs : VisitedOK envs executor plan s1 l1 j r.sequence s' l' a) := hs.after hk ha.toServing
  split
  · exact wp_imp (markUndoFailed_meets ha1 hst hr _ _) fun _ _ _ => haft
  split
  · exact wp_imp (markUndoFailed_meets ha1 hst hr _ _) fun _ _ _ => haft
  rename_i hpol hins
  rw [Bool.not_eq_true] at hpol hins
  split
  · rename_i habs
    exact wp_imp (markUndone_meets ha1 hst hr (.inr ⟨observed, hi, ⟨hpol, hins⟩, habs⟩)) fun _ _ _ => haft
  split
  · exact wp_imp (markUndoFailed_meets ha1 hst hr _ _) fun _ _ _ => haft
  split
  · exact wp_imp (markUndoFailed_meets ha1 hst hr _ _) fun _ _ _ => haft
  rename_i hex hsym hcont
  refine wp_imp (performUndo_meets ha1 hst hr (.inr ?_)) fun _ _ _ => haft
  exact ⟨observed, hi, ⟨hpol, hins⟩, by simpa using hex, by simpa using hsym, hcont⟩

end OneStep

/-- **One step of rollback.** -/
theorem rollbackStep_meets (q : Int) (hv : Serving envs s executor plan j) (hst : j.state = .rollingBack) :
    Meets h envs (fun a s' l' => VisitedOK envs executor plan s l j q s' l' a)
      (rollbackStep executor j q) s l := by
  refine meets_bind (meets_ofExcept fun r hrec => ?_)
  obtain ⟨hmem, rfl⟩ := mem_of_step hrec
  have ha : Acting envs s executor plan j r := ⟨hv, hrec⟩
  split
  · exact resumeUndoing_meets ha hst ‹_›
  split
  · -- neither `UNDOING` nor undoable: left alone
    rename_i hnu hnot
    refine ⟨Kept.refl.progress hv, r, replaced_refl hrec, rfl, fun _ => ?_⟩
    revert hnu hnot
    cases r.state <;> simp [undoableStepStates, cleanStepStates, skippedStepStates, hrec]
  · refine meets_stepState fun ht => ?_
    rename_i hund
    have hfrom : r.state = .verified ∨ r.state = .verifyFailed := by
      revert ht hund
      cases r.state <;> simp [stepTransitions, undoableStepStates]
    refine meets_bind (meets_undoMove ha hst (.undoing hfrom) fun j1 ev hev hp hrep => ?_)
    have ha1 : Acting envs (s.putJournal j1) executor plan j1 { r with state := .undoing } :=
      ⟨hp.serving, hrep.self⟩
    obtain ⟨d, hd, hsy⟩ := hv.holds
    obtain ⟨r0, hr0, hq0, hs0, -⟩ := hsy.exists_disk hmem
    have hu : UndoReached (ev :: l) j1 { r with state := .undoing } :=
      .inl ⟨s, d, l, hev ▸ rfl, hp.sameId ▸ hd, r0, hr0, hq0, hs0 ▸ hfrom⟩
    refine wp_imp (performUndo_meets ha1 (hrep.state.trans hst) rfl hu) fun a s' l' hs => ?_
    obtain ⟨hp', v, hrep', hvq, hclean⟩ := hs
    refine ⟨hp.trans hp', v, hrep.trans hrep' hvq, hvq, fun hne => ?_⟩
    rcases hclean hne with hc | ⟨hsk, hsame⟩
    · exact .inl hc
    -- the record in between is `UNDOING`, which is not skipped
    rw [hrep.self] at hsame
    cases hsame
    simp [skippedStepStates] at hsk

/-! ## The whole rollback -/

/-- A rollback in the middle: the steps still to visit are as it was entered, the others are in
order unless there are residuals. -/
structure MidRollback (jₑ j : TransactionJournal) (todo : List Int) (residuals : List String) : Prop where
  ahead : ∀ r ∈ j.steps, r.sequence ∈ todo → r ∈ jₑ.steps
  behind : ∀ r ∈ j.steps, r.sequence ∉ todo → residuals = [] → LeftInOrder jₑ r

theorem MidRollback.visit {q : Int} {todo : List Int} {residuals failed : List String}
    (hm : MidRollback jₑ j (q :: todo) residuals) (hq : q ∉ todo)
    (hn' : (j'.steps.map (·.sequence)).Nodup) {v : StepRecord} (hrep : Replaced j v j')
    (hvq : v.sequence = q)
    (hclean : failed = [] → v.state ∈ cleanStepStates ∨ v.state ∈ skippedStepStates ∧ j.step q = .ok v) :
    MidRollback jₑ j' todo (residuals ++ failed) := by
  have hold : ∀ r ∈ j'.steps, r.sequence ≠ q → r ∈ j.steps := by
    intro r hr hne
    have hstep := step_of_mem hn' hr
    rw [hrep.others _ (hvq ▸ hne)] at hstep
    exact (mem_of_step hstep).1
  refine ⟨fun r hr ht => ?_, fun r hr ht hres => ?_⟩
  · have hne : r.sequence ≠ q := fun e => hq (e ▸ ht)
    exact hm.ahead r (hold r hr hne) (mem_cons_of_mem _ ht)
  · obtain ⟨hres, hfail⟩ := append_eq_nil_iff.mp hres
    by_cases he : r.sequence = q
    · have hrv : r = v := by
        have hstep := step_of_mem hn' hr
        rw [he, ← hvq, hrep.self] at hstep
        exact (Except.ok.inj hstep).symm
      rw [hrv]
      rcases hclean hfail with hc | ⟨hsk, hsame⟩
      · exact .inl hc
      · have hmem : v ∈ jₑ.steps := hm.ahead v (mem_of_step hsame).1 (hvq ▸ mem_cons_self)
        exact .inr ⟨hsk, v, hmem, rfl, rfl⟩
    · exact hm.behind r (hold r hr he) (fun ht' => (mem_cons.mp ht').elim he ht) hres

theorem rollbackSteps_meets (todo : List Int) : ∀ (j s l residuals), todo.Nodup →
    Serving envs s executor plan j → j.state = .rollingBack → MidRollback jₑ j todo residuals →
    Meets h envs (fun a s' l' => Progress envs executor plan s l j s' l' a.1 ∧ a.1.state = .rollingBack ∧
      MidRollback jₑ a.1 [] a.2) (rollbackSteps executor todo j residuals) s l := by
  induction todo with
  | nil => intro j s l residuals _ hv hst hm; exact ⟨Kept.refl.progress hv, hst, hm⟩
  | cons q todo ih =>
    intro j s l residuals hnd hv hst hm
    obtain ⟨hq, hnd'⟩ := nodup_cons.mp hnd
    refine meets_bind (wp_imp (rollbackStep_meets q hv hst) fun a s1 l1 hvis => ?_)
    obtain ⟨hp, v, hrep, hvq, hclean⟩ := hvis
    have hm1 := hm.visit hq hp.serving.bound.nodup hrep hvq hclean
    refine wp_imp (ih a.1 s1 l1 _ hnd' hp.serving (hrep.state.trans hst) hm1) fun a' s' l' hs => ?_
    exact ⟨hp.trans hs.1, hs.2⟩

/-- **The whole rollback**: without residuals there is evidence for `ROLLED_BACK`. -/
theorem runRollback_meets (hv : Serving envs s executor plan j) (hst : j.state = .rollingBack)
    (hen : ∃ ev ∈ l, EntersRollback j.transactionId j ev) :
    Meets h envs (fun a s' l' => Progress envs executor plan s l j s' l' a.1 ∧ a.1.state = .rollingBack ∧
      (a.2 = [] → RolledBackEvidence l' a.1)) (runRollback executor j) s l := by
  have hperm : (reversedSequences j).Perm (j.steps.map (·.sequence)) := perm_insertionSort _ _
  have hm : MidRollback j j (reversedSequences j) [] :=
    ⟨fun r hr _ => hr, fun r hr ht => absurd (hperm.mem_iff.mpr (mem_map_of_mem hr)) ht⟩
  refine wp_imp (rollbackSteps_meets _ j s l [] (hperm.nodup_iff.mpr hv.bound.nodup) hv hst hm) ?_
  intro a s' l' hs
  obtain ⟨hp, hst', hm'⟩ := hs
  refine ⟨hp, hst', fun hres => ⟨j, ?_, fun r hr => hm'.behind r hr (by simp) hres⟩⟩
  obtain ⟨ev, hev, he⟩ := hen
  exact ⟨ev, hp.evolves.log.subset hev, hp.sameId ▸ he⟩

end WatchdogVpn.Provisioning
