import WatchdogVpn.Provisioning.History
import WatchdogVpn.Provisioning.Script

/-!
# Write-ahead discipline

Every apply and every undo happens under its write-ahead entry, no step on disk past
`APPLYING` is applied, and a step is applied again only right after an inspection in the
same pass, which, if inspections are conclusive, reported the target absent
(`write_ahead`).
-/

namespace WatchdogVpn.Provisioning

open Effect List

variable {F : Type} {h : Host F} {envs : ProvisioningEnvironment → Prop} {s s' s₀ : Store F} {l l' : Trace F}
  {executor : Executor} {plan : ProvisioningPlan} {j j' d : TransactionJournal} {r : StepRecord} {tid : TxId}

/-! ## The entry on disk -/

theorem Acting.stepAt (ha : Acting envs s executor plan j r) : StepAt s j.transactionId r.sequence r.state := by
  obtain ⟨d, hd, hsy⟩ := ha.holds
  obtain ⟨r', hr', hq, hst, -⟩ := hsy.exists_disk (mem_of_step ha.record).1
  exact ⟨d, hd, hsy.operation ▸ ha.operation, r', hr', hq, hst⟩

theorem eq_of_synced (hs : Synced d j) (hn : (j.steps.map (·.sequence)).Nodup) {a b : StepRecord}
    (ha : a ∈ d.steps) (hb : b ∈ d.steps) (hq : a.sequence = b.sequence) : a = b := by
  have hd : (d.steps.map (·.sequence)).Nodup := by
    rcases hs with rfl | rfl
    · exact hn
    · rw [onDisk_steps, map_map]
      exact hn
  exact eq_of_sequence hd ha hb hq

theorem Acting.stepAt_unique (ha : Acting envs s executor plan j r) {st : StepState}
    (hst : StepAt s j.transactionId r.sequence st) : st = r.state := by
  obtain ⟨d, hd, -, r1, hr1, hq1, rfl⟩ := hst
  obtain ⟨d', hd', hsy⟩ := ha.holds
  rw [hd] at hd'
  cases hd'
  obtain ⟨r2, hr2, hq2, hst2, -⟩ := hsy.exists_disk (mem_of_step ha.record).1
  rw [eq_of_synced hsy ha.bound.nodup hr1 hr2 (hq1.trans hq2.symm), hst2]

/-! ## The first request of a pass -/

theorem pass_first {p : EngineProg Report} (hp : Pass envs p) :
    p.first = none ∨ p.first = some .newTransactionId ∨ ∃ cap, p.first = some (.readOwnershipRecords cap) := by
  obtain ⟨env, cmd, -, rfl⟩ := hp
  cases cmd with
  | prepare decision apply =>
    simp only [Command.run]
    unfold prepare
    split
    · split
      · exact .inl rfl
      · split <;> exact .inl rfl
    · split
      · exact .inl rfl
      split
      · exact .inl rfl
      · exact .inr (.inl rfl)
  | recoverPending => exact .inr (.inl rfl)
  | uninstall cap apply => exact .inr (.inr ⟨cap, rfl⟩)

/-! ## Applied again -/

theorem PrepareMove.sequences (hm : PrepareMove envs s l j j') :
    j'.steps.map (·.sequence) = j.steps.map (·.sequence) := by
  cases hm with
  | enter st p f r ht he => rfl
  | apply executor plan old new hb hst ho hm | undo executor plan old new hb hst ho hm =>
    exact sequences_withStep new

variable {ev : Event Ans (Store F)}

/-- A write-ahead entry over a `PLANNED` record is the first: the step was at rank `0` until then.
-/
theorem writeAhead_first (hl : History h envs s₀ s l) (ha : Acting envs s executor plan j r)
    (hw : WriteAhead l j r (· = .planned)) (hev : ev ∈ l) {st : StepState}
    (hst : StepAt ev.pre j.transactionId r.sequence st) : st.rank = 0 := by
  obtain ⟨pre, d, rest, rfl, hd, r0, hr0, hq0, hplan⟩ := hw
  obtain ⟨hpre, hperm, -⟩ := lawful_last hl
  -- on disk right before the entry there is the one record, and it is `PLANNED`
  have hone : ∀ st, StepAt pre j.transactionId r.sequence st → st.rank = 0 := by
    rintro _ ⟨d', hd', ho, r1, hr1, hq1, rfl⟩
    rw [hd] at hd'
    cases hd'
    obtain ⟨j0, hsy, -, hm⟩ := permitted_over hperm hd ho
    have hnd : (j0.steps.map (·.sequence)).Nodup := hm.sequences ▸ ha.bound.nodup
    rw [eq_of_synced hsy hnd hr1 hr0 (hq1.trans hq0.symm), hplan]
    rfl
  rcases mem_cons.mp hev with rfl | hev
  · exact hone st hst
  obtain ⟨st', hst', hrank⟩ := ranked hpre ev hev _ st hst
  have := hone st' hst'
  omega

/-! ## The discipline -/

/-- An inspection that met no error says whether the target is there. -/
def Conclusive (observed : Dict) : Prop :=
  Unhindered observed → Dict.get observed "exists" = .bool true ∨ Dict.get observed "exists" = .bool false

/-- If the event is an inspection, its result is conclusive. -/
def InspectsConclusively (ev : Event Ans (Store F)) : Prop :=
  ∀ pre tid r ans, ev = ⟨pre, .host (.inspectStep tid r), some ans⟩ → Conclusive (safeInspection ans)

/-- The last event, after the log `l`, is an inspection of the record that reported its target
absent and no symlink. -/
def FoundAbsent (l earlier : Trace F) (tid : TxId) (r : StepRecord) : Prop :=
  ∃ pre ans rest, earlier = ⟨pre, .host (.inspectStep tid r), some ans⟩ :: rest ∧ l <:+ rest ∧
    Dict.get (safeInspection ans) "exists" = .bool false ∧
    (Dict.get (safeInspection ans) "is_symlink").truthy = false

/-- What an apply in a pass that started from the log `l` needs: its entry on disk, no entry past it
before, and, if the step was applied before, an inspection in this pass that found the target
absent, and a replay-safe step. -/
structure ApplyOrdered (envs : ProvisioningEnvironment → Prop) (l earlier : Trace F) (s : Store F) (tid : TxId)
    (r : StepRecord) : Prop where
  entry : StepAt s tid r.sequence .applying
  notPast : ∀ st ∈ [StepState.applied, .verifying, .verified], ¬ StepAt s tid r.sequence st ∧
    ∀ ev ∈ earlier, ¬ StepAt ev.pre tid r.sequence st
  again : (∃ ev ∈ earlier, ∃ r', ev.req = .host (.applyStep tid r') ∧ r'.sequence = r.sequence) →
    FoundAbsent l earlier tid r ∧ ∃ executor plan j, j.transactionId = tid ∧ Acting envs s executor plan j r ∧
      executor.stepIsReplaySafe r = true

theorem apply_ordered {earlier : Trace F} (hl : History h envs s₀ s earlier)
    (hp : ApplyPermitted envs s earlier tid r)
    (hpass : ∀ ev rest, earlier = ev :: rest → l <:+ rest) (hc : ∀ ev ∈ earlier, InspectsConclusively ev) :
    ApplyOrdered envs l earlier s tid r := by
  obtain ⟨executor, plan, j, rfl, ha, hst, -, hwhy⟩ := hp
  have hent : StepAt s j.transactionId r.sequence .applying := hst ▸ ha.stepAt
  -- on disk the step is `APPLYING` and in no other state
  have hnow : ∀ st, StepAt s j.transactionId r.sequence st → st.rank ≤ 1 := by
    intro st hat
    rw [ha.stepAt_unique hat, hst]
    exact le_rfl
  refine ⟨hent, fun st hst' => ?_, fun ⟨ev, hev, r', hreq, hq⟩ => ?_⟩
  · have hpast : 2 ≤ st.rank := by
      revert hst'
      cases st <;> decide
    refine ⟨fun hat => ?_, fun ev hev hat => ?_⟩
    · have := hnow st hat
      omega
    · obtain ⟨st', hat', hrank⟩ := ranked hl ev hev _ st hat
      have := hnow st' hat'
      omega
  · rcases hwhy with hw | ⟨observed, ⟨ans, ⟨pre, rest, rfl⟩, rfl⟩, habs, hsafe⟩
    · -- the first entry cannot come after an apply
      exfalso
      obtain ⟨later, before, rfl⟩ := append_of_mem hev
      obtain ⟨-, hperm, -⟩ := lawful_split hl
      rw [hreq] at hperm
      obtain ⟨_, _, j', hid, ha', hst', -⟩ := hperm
      have hat : StepAt ev.pre j.transactionId r.sequence .applying := hid ▸ hq ▸ hst' ▸ ha'.stepAt
      exact absurd (writeAhead_first hl ha hw hev hat) (by decide)
    · refine ⟨⟨pre, ans, rest, rfl, hpass _ _ rfl, ?_, habs.symlink⟩, executor, plan, j, rfl, ha, hsafe⟩
      rcases hc _ mem_cons_self pre _ _ ans rfl habs.toUnhindered with ht | hf
      · have := habs.absent
        rw [ht] at this
        cases this
      · exact hf

/-- **Write-ahead discipline.** In every run in which inspections are conclusive, and for every pass
of it: a step is applied with its entry on disk `APPLYING` and never recorded past it, and applied
again only after an inspection in the same pass that found its target absent and no symlink, the
step being replay-safe; a step is undone with its entry on disk `UNDOING`. -/
theorem write_ahead (hr : EngineRun h envs s₀ s l) {p : EngineProg Report} (hp : Pass envs p)
    (he : Exec (storeHandler h) p s l s' l') (hc : ∀ ev ∈ l', InspectsConclusively ev)
    {later earlier : Trace F} {ev : Event Ans (Store F)} (hl' : l' = later ++ ev :: earlier)
    (hin : l <:+ earlier) :
    (∀ tid r, ev.req = .host (.applyStep tid r) → ApplyOrdered envs l earlier ev.pre tid r) ∧
    ∀ tid r execution, ev.req = .host (.undoStep tid r execution) → StepAt ev.pre tid r.sequence .undoing := by
  subst hl'
  obtain ⟨hl, hperm, -⟩ := lawful_split (engine_lawful (hr.pass hp he))
  refine ⟨fun tid r hreq => ?_, fun tid r execution hreq => ?_⟩
  · rw [hreq] at hperm
    refine apply_ordered hl hperm (fun ev' rest hrest => ?_) fun ev' hev' => hc ev' (by simp [hev'])
    -- the apply is not the first request of the pass
    rcases suffix_cons_iff.mp (hrest ▸ hin) with hsame | hin'
    · exfalso
      rw [hrest, ← hsame] at he
      have hfst := exec_first he
      rw [hreq] at hfst
      rcases pass_first hp with hn | hn | ⟨cap, hn⟩ <;> rw [hn] at hfst <;> cases hfst
    · exact hin'
  · rw [hreq] at hperm
    obtain ⟨executor, plan, j, undo, rfl, ha, hst, -⟩ := hperm
    exact hst ▸ ha.stepAt

/-! ## In the laboratory -/

/-- The event is an apply of the first step. -/
def appliesFirst (ev : Event Ans (Store F)) : Bool :=
  match ev.req with
  | .host (.applyStep tid r) => tid == "t" && r.sequence == 0
  | _ => false

theorem appliesFirst_req (hb : appliesFirst ev = true) : ∃ r, ev.req = .host (.applyStep "t" r) ∧
    r.sequence = 0 := by
  unfold appliesFirst at hb
  split at hb
  · rename_i tid r hreq
    simp only [Bool.and_eq_true, beq_iff_eq] at hb
    obtain ⟨rfl, hq⟩ := hb
    exact ⟨r, hreq, hq⟩
  · cases hb

/-- `InspectsConclusively`, computed. -/
def inspectsConclusively : Event Ans (Store F) → Bool
  | ⟨_, .host (.inspectStep _ _), some ans⟩ =>
    Dict.get (safeInspection ans) "exists" = .bool true || Dict.get (safeInspection ans) "exists" = .bool false
  | _ => true

theorem inspectsConclusively_sound (hb : inspectsConclusively ev = true) : InspectsConclusively ev := by
  rintro pre tid r ans rfl -
  simpa [inspectsConclusively] using hb

/-- The log ends in an apply of the first step, all of it after `n` events. -/
def appliesAfter (n : Nat) : Trace F → Bool
  | ev :: earlier => appliesFirst ev && decide (n ≤ earlier.length)
  | [] => false

theorem appliesAfter_point (hsuf : l <:+ l') (hb : l'.tails.any (appliesAfter l.length) = true) :
    ∃ later ev earlier r, l' = later ++ ev :: earlier ∧ l <:+ earlier ∧ ev.req = .host (.applyStep "t" r) ∧
      r.sequence = 0 := by
  obtain ⟨later, ev, earlier, rfl, hat⟩ := exists_point rfl hb
  simp only [appliesAfter, Bool.and_eq_true, decide_eq_true_eq] at hat
  obtain ⟨r, hreq, hq⟩ := appliesFirst_req hat.1
  refine ⟨later, ev, earlier, r, rfl, suffix_of_suffix_length_le hsuf ?_ hat.2, hreq, hq⟩
  exact (suffix_cons _ _).trans (suffix_append _ _)

/-- The process is killed inside the first apply. -/
def labKilled : Script Unit :=
  { ({} : LabAnswers).script with cuts := fun _ q => match q with | .applyStep _ _ => some () | _ => none }

def labKilledAfter : Store Unit × Trace Unit :=
  labKilled.invokeAll labEnv [.prepare labDecision true] emptyStore []

/-- The pass after it applies the step again, having found its target absent. -/
theorem write_ahead_lab :
    ∃ (s' : Store Unit) (later earlier : Trace Unit) (ev : Event Ans (Store Unit)) (r : StepRecord),
    Exec (storeHandler anyHost) (Command.recoverPending.run labEnv) labKilledAfter.1 labKilledAfter.2 s'
      (later ++ ev :: earlier) ∧
    ev.req = .host (.applyStep "t" r) ∧ FoundAbsent labKilledAfter.2 earlier "t" r := by
  have hrun : EngineRun anyHost labOnly emptyStore labKilledAfter.1 labKilledAfter.2 := by
    have he : labOnly labEnv := rfl
    exact Script.run ⟨fun _ _ => trivial, fun _ _ _ _ => trivial⟩ he _ .init
  have hexec := ({} : LabAnswers).exec .recoverPending labKilledAfter.1 labKilledAfter.2
  have hconc : (({} : LabAnswers).next .recoverPending labKilledAfter.1 labKilledAfter.2).2.all
      inspectsConclusively = true := by decide +kernel
  have happ : (({} : LabAnswers).next .recoverPending labKilledAfter.1 labKilledAfter.2).2.tails.any
      (appliesAfter labKilledAfter.2.length) = true := by decide +kernel
  have hbef : labKilledAfter.2.any appliesFirst = true := by decide +kernel
  obtain ⟨later, ev, earlier, r, hl', hin, hreq, hq⟩ := appliesAfter_point (exec_suffix hexec) happ
  obtain ⟨ev', hev', hfst'⟩ := any_eq_true.mp hbef
  obtain ⟨r', hreq', hq'⟩ := appliesFirst_req hfst'
  have hc := fun ev hev => inspectsConclusively_sound (all_eq_true.mp hconc ev hev)
  have hord := (write_ahead hrun ⟨labEnv, .recoverPending, rfl, rfl⟩ hexec hc hl' hin).1 "t" r hreq
  exact ⟨_, later, earlier, ev, r, hl' ▸ hexec, hreq,
    (hord.again ⟨ev', hin.subset hev', r', hreq', hq'.trans hq.symm⟩).1⟩

/-- The log ends in an apply of the first step right after an inspection of it that raised, all of
it after `n` events. -/
def appliesBlindly (n : Nat) : Trace F → Bool
  | ev :: ⟨_, .host (.inspectStep tid r), some (.error _)⟩ :: earlier =>
    appliesFirst ev && tid == "t" && r.sequence == 0 && decide (n ≤ earlier.length)
  | _ => false

/-- In the log `l'` of a pass that started from `l`, a step applied in `l` is applied again, and the
inspection right before that raised. -/
def AppliedUnseen (l l' : Trace F) : Prop :=
  ∃ later ev pre r' x earlier r, l' = later ++ ev ::
    ⟨pre, .host (.inspectStep "t" r'), some (.error x)⟩ :: earlier ∧
    l <:+ earlier ∧ ev.req = .host (.applyStep "t" r) ∧ r'.sequence = r.sequence ∧
    ∃ ev₀ ∈ l, ∃ r₀, ev₀.req = .host (.applyStep "t" r₀) ∧ r₀.sequence = r.sequence

theorem appliedUnseen_of_computed (hsuf : l <:+ l') (hfst : l.any appliesFirst = true)
    (hb : l'.tails.any (appliesBlindly l.length) = true) : AppliedUnseen l l' := by
  obtain ⟨later, ev, rest, rfl, hat⟩ := exists_point rfl hb
  unfold appliesBlindly at hat
  split at hat
  · rename_i ev pre tid r' x earlier heq
    cases heq
    simp only [Bool.and_eq_true, beq_iff_eq, decide_eq_true_eq] at hat
    obtain ⟨⟨⟨hev, rfl⟩, hq'⟩, hlen⟩ := hat
    obtain ⟨r, hreq, hq⟩ := appliesFirst_req hev
    obtain ⟨ev0, hev0, hfst0⟩ := any_eq_true.mp hfst
    obtain ⟨r0, hreq0, hq0⟩ := appliesFirst_req hfst0
    have hin : l <:+ earlier := by
      refine suffix_of_suffix_length_le hsuf ?_ hlen
      exact (suffix_append [ev, _] earlier).trans (suffix_append later _)
    exact ⟨later, ev, pre, r', x, earlier, r, rfl, hin, hreq, hq'.trans hq.symm, ev0, hev0, r0,
      hreq0, hq0.trans hq.symm⟩
  · cases hat

/-- The first apply fails, and from then on every inspection fails with an exception that has no
text. -/
def labBlind : LabAnswers where
  inspect r := if r.state = .planned then .ok CanaryExecutor.inspectedAbsent else .error ⟨.osError, ""⟩
  apply _ := .error ⟨.osError, "interrupted"⟩

/-- **Applied again without having looked.** The exception of an inspection has an empty text, which
the engine takes for no error and its missing answer for absence: the next pass applies the step
again. -/
theorem applied_again_unseen :
    ∃ (s s' : Store Unit) (l l' : Trace Unit), EngineRun anyHost labOnly emptyStore s l ∧
    Exec (storeHandler anyHost) (Command.recoverPending.run labEnv) s l s' l' ∧ AppliedUnseen l l' := by
  have hrun := labBlind.run [.prepare labDecision true]
  have hexec := labBlind.exec .recoverPending (labBlind.after [.prepare labDecision true]).1
    (labBlind.after [.prepare labDecision true]).2
  exact ⟨_, _, _, _, hrun, hexec,
    appliedUnseen_of_computed (exec_suffix hexec) (by decide +kernel) (by decide +kernel)⟩

end WatchdogVpn.Provisioning
