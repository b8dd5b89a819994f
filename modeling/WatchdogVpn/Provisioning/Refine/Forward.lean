import WatchdogVpn.Provisioning.Refine.Frame

/-!
# Going forward: the apply loop against the protocol

Every function of the apply loop is permitted from wherever the engine serves a transaction in
`APPLYING` or `VERIFYING`, whatever states its steps are in.

* `applyOneStep_meets`: one iteration ends with the step `VERIFIED`, or stops the loop.
* `runApplyLoop_meets`: the whole loop, by induction on the steps still to come; a loop that
  reports success leaves every step `VERIFIED`.
* `applyAndVerify_meets`: and then the postcondition has answered on that very journal.
-/

namespace WatchdogVpn.Provisioning

open Effect List

variable {F : Type} {h : Host F} {envs : ProvisioningEnvironment → Prop} {α : Type}
  {s s' s'' : Store F} {l l' l'' : Trace F} {executor : Executor} {plan : ProvisioningPlan}
  {j j' j'' : TransactionJournal} {r r' : StepRecord} {tid : TxId}

/-! ## Calls of the executor -/

theorem kept_host {q : HostReq} {a : HostAns q} (hs : storeStep h s (.host q) a s') :
    Kept s l s' (⟨s, .host q, some a⟩ :: l) := by
  obtain ⟨f', -, rfl⟩ := hs
  exact ⟨rfl, rfl, suffix_cons _ _⟩

theorem safeInspect_meets {Q : Dict → Store F → Trace F → Prop}
    (hQ : ∀ observed s' l', Kept s l s' l' → LastInspected l' tid r observed → Q observed s' l') :
    Meets h envs Q (liftM (safeInspect tid r)) s l := by
  refine ⟨trivial, fun a s' hs => ?_⟩
  exact hQ _ _ _ (kept_host hs) ⟨a, ⟨s, l, rfl⟩, rfl⟩

theorem safeApply_meets {Q : ExecutionResult → Store F → Trace F → Prop} (hp : ApplyPermitted envs s l tid r)
    (hQ : ∀ a s' l', Kept s l s' l' → LastWas l' (.host (.applyStep tid r)) a → Q (safeExecution a) s' l') :
    Meets h envs Q (safeApply tid r) s l := ⟨hp, fun a s' hs => hQ a s' _ (kept_host hs) ⟨s, l, rfl⟩⟩

theorem safeVerify_meets {execution : ExecutionResult} {Q : VerificationResult → Store F → Trace F → Prop}
    (hQ : ∀ a s' l', Kept s l s' l' → LastWas l' (.host (.verifyStep tid r execution)) a →
      Q (safeVerification a) s' l') :
    Meets h envs Q (liftM (safeVerify tid r execution)) s l :=
  ⟨trivial, fun a s' hs => hQ a s' _ (kept_host hs) ⟨s, l, rfl⟩⟩

theorem signaled_meets {Q : Bool → Store F → Trace F → Prop}
    (hQ : ∀ b s' l', Kept s l s' l' → LastWas l' (.host .signaled) b → Q b s' l') :
    Meets h envs Q (HostReq.ask .signaled) s l := ⟨trivial, fun a s' hs => hQ a s' _ (kept_host hs) ⟨s, l, rfl⟩⟩

/-! ## One step -/

theorem Kept.acting (hk : Kept s l s' l') (ha : Acting envs s executor plan j r) :
    Acting envs s' executor plan j r :=
  ⟨hk.serving ha.toServing, ha.record⟩

theorem replaced_refl (hr : j.step r.sequence = .ok r) : Replaced j r j := ⟨rfl, hr, fun _ _ => rfl⟩

theorem Replaced.trans (h1 : Replaced j r j') (h2 : Replaced j' r' j'') (hq : r'.sequence = r.sequence) :
    Replaced j r' j'' :=
  ⟨h2.state.trans h1.state, h2.self, fun q hne => (h2.others q hne).trans (h1.others q (hq ▸ hne))⟩

/-- What holds once a step's action has been tried or found done. -/
structure ActedOK (envs : ProvisioningEnvironment → Prop) (executor : Executor) (plan : ProvisioningPlan)
    (s : Store F) (l : Trace F) (j : TransactionJournal) (r : StepRecord) (s' : Store F) (l' : Trace F)
    (a : Acted) : Prop where
  progress : Progress envs executor plan s l j s' l' a.journal
  replaced : Replaced j a.record a.journal
  sequence : a.record.sequence = r.sequence
  resumable : a.record.state = .applying ∨ a.record.state = .applied ∨ a.record.state = .verifying
  pending : a.result.status ≠ .applied → a.record.state = .applying
  evidence : a.record.state = .applying → a.result.status = .applied →
    AppliedEvidence l' a.journal.transactionId executor a.record a.result.undoRecord

theorem ActedOK.acting {a : Acted} (ha : ActedOK envs executor plan s l j r s' l' a) :
    Acting envs s' executor plan a.journal a.record := ⟨ha.progress.serving, ha.replaced.self⟩

/-- What holds once the loop has stopped before its end. -/
structure StoppedOK (envs : ProvisioningEnvironment → Prop) (executor : Executor) (plan : ProvisioningPlan)
    (s : Store F) (l : Trace F) (j : TransactionJournal) (s' : Store F) (l' : Trace F) (a : ApplyResult) :
    Prop where
  progress : Progress envs executor plan s l j s' l' a.journal
  failed : a.applyOk = false
  state : a.journal.state = if a.durabilityUnknown then .recoveryRequired else j.state

theorem StoppedOK.after {a : ApplyResult} (hs : StoppedOK envs executor plan s' l' j' s'' l'' a)
    (hp : Progress envs executor plan s l j s' l' j') (hst : j'.state = j.state) :
    StoppedOK envs executor plan s l j s'' l'' a := ⟨hp.trans hs.progress, hs.failed, hst ▸ hs.state⟩

/-- A step has become `VERIFIED`. -/
structure VerifiedOK (envs : ProvisioningEnvironment → Prop) (executor : Executor) (plan : ProvisioningPlan)
    (s : Store F) (l : Trace F) (j : TransactionJournal) (q : Int) (s' : Store F) (l' : Trace F)
    (j' : TransactionJournal) : Prop where
  progress : Progress envs executor plan s l j s' l' j'
  verified : ∃ v, Replaced j v j' ∧ v.sequence = q ∧ v.state = .verified

section OneStep

variable (ha : Acting envs s executor plan j r) (hst : j.state = .applying ∨ j.state = .verifying)
include ha hst

theorem interruptStep_meets (hr : r.state = .planned) (hl : LastWas l (.host .signaled) true) :
    Meets h envs (fun a s' l' => StoppedOK envs executor plan s l j s' l' a) (interruptStep j r) s l := by
  refine meets_stepState fun _ => meets_stepState fun _ => ?_
  exact meets_bind (meets_applyMove ha hst (.interrupt _ _ hr hl) fun _ _ _ hp hr => ⟨hp, rfl, hr.state⟩)

theorem beginStep_meets (hr : r.state = .planned) :
    Meets h envs (fun a s' l' => ActedOK envs executor plan s l j r s' l' a) (beginStep j r) s l := by
  refine meets_bind (safeInspect_meets fun observed s1 l1 hk hi => ?_)
  refine meets_stepState fun _ => ?_
  have ha1 := hk.acting ha
  refine meets_bind (meets_applyMove ha1 hst (.begin observed hr hi) fun j1 ev hev hp hrep => ?_)
  -- the write-ahead entry is on disk: the action may be tried
  obtain ⟨d, hd, hsy⟩ := ha1.holds
  obtain ⟨r0, hr0, hq0, hs0, -⟩ := hsy.exists_disk (mem_of_step ha.record).1
  have hperm : ApplyPermitted envs (s1.putJournal j1) (ev :: l1) j1.transactionId
      { r with state := .applying, beforeState := some observed } :=
    ⟨executor, plan, j1, rfl, ⟨hp.serving, hrep.self⟩, rfl, hrep.state ▸ hst,
      .inl ⟨s1, d, l1, hev ▸ rfl, hp.sameId ▸ hd, r0, hr0, hq0, hs0.trans hr⟩⟩
  refine meets_bind (safeApply_meets hperm fun a s2 l2 hk2 hw => ?_)
  exact {
    progress := ((hk.progress ha.toServing).trans hp).trans (hk2.progress hp.serving)
    replaced := hrep
    sequence := rfl
    resumable := .inl rfl
    pending := fun _ => rfl
    evidence := fun _ hs => .inl ⟨a, hw, hs, rfl⟩ }

theorem resumeApplying_meets (hr : r.state = .applying) :
    Meets h envs (fun a s' l' => ActedOK envs executor plan s l j r s' l' a)
      (resumeApplying executor j r) s l := by
  refine meets_bind (safeInspect_meets fun observed s1 l1 hk hi => ?_)
  have ha1 := hk.acting ha
  split
  · trivial
  split
  · trivial
  split
  · trivial
  rename_i hpol hins hsym
  rw [Bool.not_eq_true] at hpol hins hsym
  split
  · -- the target has the planned content: taken as done
    rename_i hdone
    refine meets_bind (meets_ofExcept fun undo hu => ?_)
    exact ⟨hk.progress ha.toServing, replaced_refl ha.record, rfl, .inl hr, fun _ => hr,
      fun _ _ => .inr ⟨observed, undo, hi, ⟨⟨hpol, hins⟩, hsym, hdone.1, hdone.2⟩, hu, rfl⟩⟩
  split
  · rename_i habs
    split
    · trivial
    rename_i hsafe
    rw [Bool.not_eq_false] at hsafe
    have hperm : ApplyPermitted envs s1 l1 j.transactionId r :=
      ⟨executor, plan, j, rfl, ha1, hr, hst, .inr ⟨observed, hi, ⟨⟨hpol, hins⟩, hsym, habs⟩, hsafe⟩⟩
    refine meets_bind (safeApply_meets hperm fun a s2 l2 hk2 hw => ?_)
    exact ⟨(hk.trans hk2).progress ha.toServing, replaced_refl ha.record, rfl, .inl hr, fun _ => hr,
      fun _ hs => .inl ⟨a, hw, hs, rfl⟩⟩
  · trivial

omit hst in
theorem requireRecovery_stopped (reason : Dict) :
    Meets h envs (fun j' s' l' => StoppedOK envs executor plan s l j s' l' ⟨j', false, true⟩)
      (requireRecovery j reason) s l :=
  meets_requireRecovery ha.holds ha.operation fun _ _ _ hen =>
    ⟨progress_put ha.toServing hen.plain _, rfl, hen.state⟩

omit hst in
theorem resumeApplied_meets (hr : r.state = .applied ∨ r.state = .verifying) :
    Meets h envs (fun a s' l' => match a with
      | .inl a => StoppedOK envs executor plan s l j s' l' a
      | .inr a => ActedOK envs executor plan s l j r s' l' a) (resumeApplied executor j r) s l := by
  unfold resumeApplied
  split
  · refine ⟨Kept.refl.progress ha.toServing, replaced_refl ha.record, rfl, .inr hr,
      fun hne => absurd rfl hne, fun happ => ?_⟩
    rw [happ] at hr
    rcases hr with hr | hr <;> cases hr
  · split
    · exact meets_bind (requireRecovery_stopped ha _)
    · trivial

theorem actOnStep_meets : Meets h envs (fun a s' l' => match a with
      | .inl a => StoppedOK envs executor plan s l j s' l' a
      | .inr a => ActedOK envs executor plan s l j r s' l' a) (actOnStep executor j r) s l := by
  unfold actOnStep
  split
  · exact meets_bind (beginStep_meets ha hst ‹_›)
  · exact meets_bind (resumeApplying_meets ha hst ‹_›)
  · exact resumeApplied_meets ha (.inl ‹_›)
  · exact resumeApplied_meets ha (.inr ‹_›)
  · trivial

theorem recordApplyFailure_meets (result : ExecutionResult) (hr : r.state = .applying) :
    Meets h envs (fun a s' l' => StoppedOK envs executor plan s l j s' l' a)
      (recordApplyFailure j r result) s l := by
  unfold recordApplyFailure
  split
  · exact meets_bind (requireRecovery_stopped ha _)
  refine meets_bind (safeInspect_meets fun observed s1 l1 hk hi => ?_)
  have ha1 := hk.acting ha
  have hp1 := hk.progress ha.toServing
  split
  · rename_i habs
    refine meets_stepState fun _ => ?_
    refine meets_bind (meets_applyMove ha1 hst (.applyFailed observed _ _ hr hi habs.1) fun _ _ _ hp hrep => ?_)
    exact ⟨hp1.trans hp, rfl, hrep.state⟩
  · refine meets_bind (wp_imp (requireRecovery_stopped ha1 _) ?_)
    exact fun j' s' l' hs => hs.after hp1 rfl

theorem advanceToVerifying_meets (result : ExecutionResult)
    (hr : r.state = .applying ∨ r.state = .applied ∨ r.state = .verifying)
    (he : r.state = .applying → AppliedEvidence l j.transactionId executor r result.undoRecord) :
    Meets h envs (fun a s' l' => match a with
      | .inl a => StoppedOK envs executor plan s l j s' l' a
      | .inr (j', r') => Progress envs executor plan s l j s' l' j' ∧ Replaced j r' j' ∧
          r'.sequence = r.sequence ∧ r'.state = .verifying) (advanceToVerifying j r result) s l := by
  unfold advanceToVerifying
  split
  · rename_i happ
    refine meets_stepState fun _ => ?_
    refine meets_bind (meets_applyMove ha hst (.applied _ happ (he happ)) fun j1 _ _ hp hrep => ?_)
    refine meets_bind (signaled_meets fun b s2 l2 hk _ => ?_)
    have hp2 := hp.trans (hk.progress hp.serving)
    split
    · exact ⟨hp2, rfl, hrep.state⟩
    refine meets_stepState fun _ => ?_
    have ha2 : Acting envs s2 executor plan j1 _ := ⟨hp2.serving, hrep.self⟩
    refine meets_bind (meets_applyMove ha2 (hrep.state ▸ hst) (.verifying rfl) fun j3 _ _ hp3 hrep3 => ?_)
    exact ⟨hp2.trans hp3, hrep.trans hrep3 rfl, rfl, rfl⟩
  split
  · rename_i happ
    refine meets_stepState fun _ => ?_
    refine meets_bind (meets_applyMove ha hst (.verifying happ) fun j1 _ _ hp hrep => ?_)
    exact ⟨hp, hrep, rfl, rfl⟩
  · rename_i h1 h2
    refine ⟨Kept.refl.progress ha.toServing, replaced_refl ha.record, rfl, ?_⟩
    rcases hr with hr | hr | hr
    · exact absurd hr h1
    · exact absurd hr h2
    · exact hr

theorem verifyAppliedStep_meets (result : ExecutionResult) (hr : r.state = .verifying) :
    Meets h envs (fun a s' l' => match a with
      | .inl a => StoppedOK envs executor plan s l j s' l' a
      | .inr j' => VerifiedOK envs executor plan s l j r.sequence s' l' j')
        (verifyAppliedStep j r result) s l := by
  refine meets_bind (safeVerify_meets fun a s1 l1 hk hw => ?_)
  have ha1 := hk.acting ha
  have hp1 := hk.progress ha.toServing
  split
  · refine meets_stepState fun _ => ?_
    refine meets_bind (meets_applyMove ha1 hst (.verifyFailed _ _ _ hr) fun j2 _ _ hp hrep => ?_)
    exact ⟨hp1.trans hp, rfl, hrep.state⟩
  · rename_i hv
    refine meets_stepState fun _ => ?_
    refine meets_bind (meets_applyMove ha1 hst (.verified _ a hr hw (not_not.mp hv)) fun j2 _ _ hp hrep => ?_)
    exact ⟨hp1.trans hp, _, hrep, rfl, rfl⟩

/-- **One iteration** stops the loop, or leaves its step `VERIFIED` and every other step as it was.
-/
theorem applyOneStep_meets : Meets h envs (fun a s' l' => match a with
      | .inl a => StoppedOK envs executor plan s l j s' l' a
      | .inr j' => VerifiedOK envs executor plan s l j r.sequence s' l' j')
        (applyOneStep executor j r) s l := by
  refine meets_bind (signaled_meets fun b s1 l1 hk1 hw1 => ?_)
  have ha1 := hk1.acting ha
  split
  · rename_i hsig
    refine meets_bind (wp_imp (interruptStep_meets ha1 hst hsig.2 (hsig.1 ▸ hw1)) fun a s' l' hs => ?_)
    exact hs.after (hk1.progress ha.toServing) rfl
  · -- a signal is looked for once more, right before the step is applied
    refine meets_bind (signaled_meets fun b s2 l2 hk2 _ => ?_)
    have hk := hk1.trans hk2
    have hp2 := hk.progress ha.toServing
    split
    · exact ⟨hp2, rfl, rfl⟩
    refine meets_bind (wp_imp (actOnStep_meets (hk.acting ha) hst) fun a s3 l3 hact => ?_)
    cases a with
    | inl stopped => exact hact.after hp2 rfl
    | inr acted =>
      have hst3 := hact.replaced.state ▸ hst
      have hp3 := hp2.trans hact.progress
      simp only
      split
      · rename_i hfail
        refine meets_bind (wp_imp (recordApplyFailure_meets hact.acting hst3 acted.result
          (hact.pending hfail)) fun a s4 l4 hs => ?_)
        exact hs.after hp3 hact.replaced.state
      · rename_i happ
        refine meets_bind (wp_imp (advanceToVerifying_meets hact.acting hst3 acted.result hact.resumable
          fun hr => hact.evidence hr (not_not.mp happ)) fun a s4 l4 hadv => ?_)
        cases a with
        | inl stopped => exact hadv.after hp3 hact.replaced.state
        | inr jr =>
          obtain ⟨j4, r4⟩ := jr
          obtain ⟨hp4, hrep4, hq4, hr4⟩ := hadv
          have ha4 : Acting envs s4 executor plan j4 r4 := ⟨hp4.serving, hrep4.self⟩
          refine wp_imp (verifyAppliedStep_meets ha4 (hrep4.state ▸ hst3) acted.result hr4) fun a s5 l5 hv => ?_
          cases a with
          | inl stopped => exact hv.after (hp3.trans hp4) (hrep4.state.trans hact.replaced.state)
          | inr j5 =>
            obtain ⟨hp5, v, hrep5, hvq, hvs⟩ := hv
            refine ⟨(hp3.trans hp4).trans hp5, v, ?_, hvq.trans (hq4.trans hact.sequence), hvs⟩
            exact (hact.replaced.trans hrep4 hq4).trans hrep5 hvq

end OneStep

/-! ## The loop -/

/-- What holds at the end of the loop. -/
structure LoopOK (envs : ProvisioningEnvironment → Prop) (executor : Executor) (plan : ProvisioningPlan)
    (s : Store F) (l : Trace F) (j : TransactionJournal) (s' : Store F) (l' : Trace F) (a : ApplyResult) :
    Prop where
  progress : Progress envs executor plan s l j s' l' a.journal
  success : a.applyOk = true → AllVerified a.journal
  state : a.journal.state = if a.durabilityUnknown then .recoveryRequired else j.state

theorem StoppedOK.loop {a : ApplyResult} (hs : StoppedOK envs executor plan s l j s' l' a) :
    LoopOK envs executor plan s l j s' l' a :=
  ⟨hs.progress, fun hok => absurd (hs.failed.symm.trans hok) (by decide), hs.state⟩

theorem LoopOK.after {a : ApplyResult} (hs : LoopOK envs executor plan s' l' j' s'' l'' a)
    (hp : Progress envs executor plan s l j s' l' j') (hst : j'.state = j.state) :
    LoopOK envs executor plan s l j s'' l'' a := ⟨hp.trans hs.progress, hs.success, hst ▸ hs.state⟩

/-- The journal's step of a plan step is `VERIFIED`. -/
def VerifiedIn (j : TransactionJournal) (p : ProvisioningStep) : Prop :=
  ∃ r, j.step p.sequence = .ok r ∧ r.state = .verified

theorem allVerified_of_plan (hb : Bound envs executor plan j) (hv : ∀ p ∈ plan.steps, VerifiedIn j p) :
    AllVerified j := by
  intro r hr
  obtain ⟨p, hp, hq⟩ := hb.planned hr
  obtain ⟨r', hr', hs⟩ := hv p hp
  rw [hq, step_of_mem hb.nodup hr] at hr'
  cases hr'
  exact hs

/-- **The apply loop** from any plan step on, all earlier ones being `VERIFIED`. -/
theorem runApplyLoop_meets (rest : List ProvisioningStep) : ∀ (done : List ProvisioningStep) (j s l),
    plan.steps = done ++ rest → Serving envs s executor plan j →
    (j.state = .applying ∨ j.state = .verifying) → (∀ p ∈ done, VerifiedIn j p) →
    Meets h envs (fun a s' l' => LoopOK envs executor plan s l j s' l' a)
      (runApplyLoop executor rest j) s l := by
  induction rest with
  | nil =>
    intro done j s l hsplit hv hst hdone
    rw [append_nil] at hsplit
    exact ⟨Kept.refl.progress hv, fun _ => allVerified_of_plan hv.bound (hsplit ▸ hdone), rfl⟩
  | cons step rest ih =>
    intro done j s l hsplit hv hst hdone
    have hsplit' : plan.steps = (done ++ [step]) ++ rest := by rw [hsplit, append_assoc]; rfl
    refine meets_bind (meets_ofExcept fun record hrec => ?_)
    split
    · rename_i hver
      refine ih (done ++ [step]) j s l hsplit' hv hst (forall_mem_append.mpr ⟨hdone, ?_⟩)
      exact forall_mem_singleton.mpr ⟨record, hrec, hver⟩
    · have hseq : record.sequence = step.sequence := (mem_of_step hrec).2
      have ha : Acting envs s executor plan j record := ⟨hv, hseq ▸ hrec⟩
      refine meets_bind (wp_imp (applyOneStep_meets ha hst) fun a s1 l1 hone => ?_)
      cases a with
      | inl stopped => exact hone.loop
      | inr j1 =>
        obtain ⟨hp1, v, hrep, hvq, hvs⟩ := hone
        have hdone1 : ∀ p ∈ done ++ [step], VerifiedIn j1 p := by
          refine forall_mem_append.mpr ⟨fun p hp => ?_, forall_mem_singleton.mpr ?_⟩
          · have hlt : p.sequence < step.sequence :=
              (pairwise_append.mp (hsplit ▸ plan.increasing)).2.2 p hp step mem_cons_self
            obtain ⟨r', hr', hs'⟩ := hdone p hp
            exact ⟨r', (hrep.others _ (by rw [hvq, hseq]; exact hlt.ne)).trans hr', hs'⟩
          · exact ⟨v, by rw [← hseq, ← hvq]; exact hrep.self, hvs⟩
        refine wp_imp (ih (done ++ [step]) j1 s1 l1 hsplit' hp1.serving (hrep.state ▸ hst) hdone1) ?_
        exact fun a s' l' hs => hs.after hp1 hrep.state

/-! ## The postcondition -/

theorem postconditionVerified_kept (hk : Kept s l s' l') (hp : PostconditionVerified s l tid) :
    PostconditionVerified s' l' tid := by
  obtain ⟨pre, plan, ans, hm, hv, he⟩ := hp
  exact ⟨pre, plan, ans, hk.log.subset hm, hv, he.trans (hk.journal? tid).symm⟩

theorem safePostcondition_meets {Q : VerificationResult → Store F → Trace F → Prop}
    (hQ : ∀ v s' l', Kept s l s' l' → (v.status = .verified → PostconditionVerified s' l' tid) → Q v s' l') :
    Meets h envs Q (liftM (safePostcondition tid plan)) s l := by
  refine ⟨trivial, fun a s' hs => ?_⟩
  have hk : Kept s l s' _ := kept_host hs
  exact hQ _ s' _ hk fun hv => ⟨s, plan, a, mem_cons_self, hv, (hk.journal? tid).symm⟩

/-- What holds once `_apply_and_verify` has returned. -/
structure AppliedOK (envs : ProvisioningEnvironment → Prop) (executor : Executor) (plan : ProvisioningPlan)
    (s : Store F) (l : Trace F) (j : TransactionJournal) (s' : Store F) (l' : Trace F) (a : ApplyResult) :
    Prop where
  progress : Progress envs executor plan s l j s' l' a.journal
  success : a.applyOk = true → a.journal.state = .verifying ∧ AllVerified a.journal ∧
    PostconditionVerified s' l' a.journal.transactionId
  stopped : a.applyOk = false → a.durabilityUnknown = false →
    a.journal.state = .applying ∨ a.journal.state = .verifying ∨
    (a.journal.state = .rollingBack ∧ ∃ ev ∈ l', EntersRollback a.journal.transactionId a.journal ev)

/-- Writing a journal as `ROLLING_BACK` over one that is not enters its rollback. -/
theorem entersRollback_write (hj : Holds s j) (hn : j.state ≠ .rollingBack) (hen : Entered j .rollingBack j') :
    EntersRollback j'.transactionId j' ⟨s, .writeJournal j', some (.ok ())⟩ := by
  obtain ⟨d, hd, hsy⟩ := hj
  exact .written s d hen.state rfl (hen.sameId ▸ hd) (hsy.state ▸ hn)

theorem applyAndVerify_meets (hv : Serving envs s executor plan j)
    (hst : j.state = .applying ∨ j.state = .verifying) :
    Meets h envs (fun a s' l' => AppliedOK envs executor plan s l j s' l' a)
      (applyAndVerify executor plan j) s l := by
  refine meets_bind (wp_imp (runApplyLoop_meets plan.steps [] j s l rfl hv hst (by simp))
    fun a s1 l1 hloop => ?_)
  obtain ⟨hp1, hsuc, hst1⟩ := hloop
  split
  · exact ⟨hp1, nofun, nofun⟩
  rename_i hdur
  rw [if_neg hdur] at hst1
  split
  · refine ⟨hp1, nofun, fun _ _ => ?_⟩
    rcases hst with hst | hst
    · exact .inl (hst1.trans hst)
    · exact .inr (.inl (hst1.trans hst))
  rename_i hok
  have hall := hsuc (by simpa using hok)
  -- the journal in `VERIFYING`, with every step `VERIFIED`
  have hmove : Meets h envs (fun j' s' l' => Progress envs executor plan s l j s' l' j' ∧
      j'.state = .verifying ∧ AllVerified j')
      (moveIf (a.journal.state ≠ .verifying) a.journal .verifying) s1 l1 := by
    refine meets_moveIf hp1.serving.holds hp1.serving.operation (fun _ => hall) ?_ fun hver => ?_
    · intro j' ev _ _ _ hen
      refine ⟨hp1.trans (progress_put hp1.serving hen.plain ev), hen.state, ?_⟩
      unfold AllVerified
      rw [hen.steps]
      exact hall
    · exact ⟨hp1, not_not.mp hver, hall⟩
  refine meets_bind (wp_imp hmove fun j2 s2 l2 hmv => ?_)
  obtain ⟨hp2, hst2, hall2⟩ := hmv
  refine meets_bind (safePostcondition_meets fun v s3 l3 hk hpost => ?_)
  have hp3 := hp2.trans (hk.progress hp2.serving)
  split
  · refine meets_state fun ht => ?_
    refine meets_bind (meets_enter hp3.serving.holds hp3.serving.operation ht trivial rfl fun ev hev hen => ?_)
    refine ⟨hp3.trans (progress_put hp3.serving hen.plain ev), nofun, fun _ _ => ?_⟩
    refine .inr (.inr ⟨rfl, ev, mem_cons_self, ?_⟩)
    rw [hev]
    exact entersRollback_write hp3.serving.holds (by rw [hst2]; decide) hen
  · rename_i hv
    exact ⟨hp3, fun _ => ⟨hst2, hall2, hpost (not_not.mp hv)⟩, nofun⟩

end WatchdogVpn.Provisioning
