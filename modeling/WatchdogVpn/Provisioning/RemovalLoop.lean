import Mathlib
import WatchdogVpn.Provisioning.Refine.Removal
import WatchdogVpn.Provisioning.Script

/-!
# What the removal loop remembers

The loop reports the steps that failed, and its caller decides from the journal it returns
whether the failure needs recovery. The loop works on a box that most of its branches keep
equal to what they have written; `refused` and `symlink` write the failure but leave the box
as it was, so the next write reverts it.

* `approachStep_returns` and `settleStep_returns` say what one iteration does to the box.
* `Approached` is the loop with what it found at each step.
* **`no_lost_update`**: nothing is lost if and only if no path was refused and no symlink
  was met.
-/

namespace WatchdogVpn.Provisioning

open Effect List

variable {F : Type} {h : Host F} {s s' : Store F} {l l' l'' l0 : Trace F} {c : ExecutionContext}
  {j box box0 : TransactionJournal} {r r0 new : StepRecord} {q : Int} {α β : Type}

/-! ## Writes of a stretch of the log -/

/-- A write of the journal was asked between the two logs. -/
def Written (l l' : Trace F) (j : TransactionJournal) : Prop :=
  ∃ later s a, l' = later ++ l ∧ ⟨s, .writeJournal j, a⟩ ∈ later

/-- Every journal written between the two logs satisfies `P`. -/
structure OnlyWrites (P : TransactionJournal → Prop) (l l' : Trace F) : Prop where
  log : l <:+ l'
  writes : ∀ j, Written l l' j → P j

theorem written_append (later : Trace F) : Written l (later ++ l) j ↔
    ∃ s a, ⟨s, .writeJournal j, a⟩ ∈ later := by
  constructor
  · rintro ⟨later', s, a, hl, hmem⟩
    rw [append_cancel_right hl]
    exact ⟨s, a, hmem⟩
  · rintro ⟨s, a, hmem⟩
    exact ⟨later, s, a, rfl, hmem⟩

theorem written_split (h1 : l <:+ l') (h2 : l' <:+ l'') (hw : Written l l'' j) : Written l l' j ∨
    Written l' l'' j := by
  obtain ⟨first, rfl⟩ := h1
  obtain ⟨second, rfl⟩ := h2
  rw [← append_assoc, written_append] at hw
  obtain ⟨s, a, hmem⟩ := hw
  rcases mem_append.mp hmem with hmem | hmem
  · exact .inr ((written_append _).mpr ⟨s, a, hmem⟩)
  · exact .inl ((written_append _).mpr ⟨s, a, hmem⟩)

variable {P : TransactionJournal → Prop}

theorem OnlyWrites.refl : OnlyWrites P l l := by
  refine ⟨suffix_refl _, fun j hw => ?_⟩
  obtain ⟨s, a, hmem⟩ := (written_append []).mp hw
  cases hmem

theorem OnlyWrites.trans (h1 : OnlyWrites P l l') (h2 : OnlyWrites P l' l'') : OnlyWrites P l l'' := by
  refine ⟨h1.log.trans h2.log, fun j hw => ?_⟩
  rcases written_split h1.log h2.log hw with hw | hw
  · exact h1.writes j hw
  · exact h2.writes j hw

theorem onlyWrites_cons {ev : Event Ans (Store F)} (hev : ∀ j, ev.req = .writeJournal j → P j) :
    OnlyWrites P l (ev :: l) := by
  refine ⟨suffix_cons _ _, fun j hw => ?_⟩
  obtain ⟨s, a, hmem⟩ := (written_append [ev]).mp hw
  have hev' := mem_singleton.mp hmem
  exact hev j (by rw [← hev'])

/-! ## Programs that return -/

variable {Q : α → Store F → Trace F → Prop}

theorem wp_look_writes (p : CheckProg α) : wp (storeHandler h) (fun _ _ _ => True) (fun _ _ => OnlyWrites P l)
    (fun _ _ => OnlyWrites P l) (liftM p : EngineProg α) s l := by
  refine wp_widen p OnlyWrites.refl (fun _ _ _ _ _ => trivial) ?_
  intro s' l' e a s'' he hk hs
  refine hk.trans (onlyWrites_cons fun j hreq => ?_)
  subst hreq
  exact he.elim

theorem returns_ask_host (P : TransactionJournal → Prop) {r : HostReq}
    {Q : HostAns r → Store F → Trace F → Prop}
    (hQ : ∀ a s', OnlyWrites P l (⟨s, .host r, some a⟩ :: l) → Q a s' (⟨s, .host r, some a⟩ :: l)) :
    Returns h Q (HostReq.ask r) s l :=
  ⟨trivial, fun a s' _ => hQ a s' (onlyWrites_cons fun _ hreq => (nomatch hreq))⟩

/-! ## One iteration -/

def Failed (r : StepRecord) : Prop := r.state = .applyFailed ∨ r.state = .verifyFailed

def pathPolicyViolation : String := "path_policy_violation"

/-- The journal is `box0` with a new record of the step `q`, which did not fail over a refused path.
-/
def Progressed (q : Int) (box0 j : TransactionJournal) : Prop :=
  ∃ r, j.steps = (box0.withStep r).steps ∧ r.sequence = q ∧ (Failed r → r.errorKind ≠ some pathPolicyViolation)

/-- In the iteration for the step `q`, which began with `box0` and its record `r0`, the box is
`box0` with the record `r`, and no failure over a refused path was written. -/
structure At (q : Int) (box0 : TransactionJournal) (r0 : StepRecord) (l0 : Trace F) (box : TransactionJournal)
    (r : StepRecord) (l : Trace F) : Prop where
  found : box0.step q = .ok r0
  steps : box.steps = (box0.withStep r).steps
  sequence : r.sequence = q
  stepId : r.stepId = r0.stepId
  log : OnlyWrites (Progressed q box0) l0 l

/-- The record was written, and the write succeeded. -/
def Journalled (l l' : Trace F) (r : StepRecord) : Prop :=
  ∃ later s j, l' = later ++ l ∧ ⟨s, .writeJournal j, some (.ok ())⟩ ∈ later ∧ r ∈ j.steps

/-- The iteration failed or not; a failure is in the box as it was written. -/
structure Remembered (q : Int) (box0 : TransactionJournal) (r0 : StepRecord) (l0 : Trace F)
    (box : TransactionJournal)
    (failed : List String) (r : StepRecord) (l : Trace F) : Prop extends At q box0 r0 l0 box r l where
  kind : Failed r → r.errorKind ≠ some pathPolicyViolation
  failed : failed = [] ∨ Failed r ∧ failed = [r.stepId] ∧ Journalled l0 l r

theorem withStep_withStep (he : r.sequence = new.sequence) : (j.withStep r).withStep new = j.withStep new := by
  unfold TransactionJournal.withStep
  simp only [map_map]
  congr 1
  refine map_congr_left fun x _ => ?_
  by_cases hx : x.sequence = new.sequence <;> simp [hx, he]

theorem withStep_same (hn : (j.steps.map (·.sequence)).Nodup) (hf : j.step q = .ok r) :
    (j.withStep r).steps = j.steps := by
  obtain ⟨hr, hq⟩ := mem_of_step hf
  refine (map_congr_left fun x hx => ?_).trans (map_id _)
  by_cases he : x.sequence = r.sequence
  · simp [eq_of_sequence hn hx hr he]
  · simp [he]

theorem At.start (hn : (box0.steps.map (·.sequence)).Nodup) (hf : box0.step q = .ok r0) :
    At q box0 r0 l0 box0 r0 l0 := ⟨hf, (withStep_same hn hf).symm, (mem_of_step hf).2, rfl, .refl⟩

section

variable (ha : At q box0 r0 l0 box r l)
include ha

theorem At.look (hw : OnlyWrites (Progressed q box0) l l') : At q box0 r0 l0 box r l' :=
  { ha with log := ha.log.trans hw }

theorem At.withStep (hq : new.sequence = r.sequence) :
    (box.withStep new).steps = (box0.withStep new).steps := by
  rw [withStep_steps, ha.steps, ← withStep_steps, withStep_withStep hq.symm]

theorem At.mem (hq : new.sequence = r.sequence) : new ∈ (box.withStep new).steps := by
  rw [ha.withStep hq]
  have hf : box0.step new.sequence = .ok r0 := by rw [hq, ha.sequence]; exact ha.found
  exact (mem_of_step (step_withStep_self hf)).1

theorem At.put (hq : new.sequence = r.sequence) (hid : new.stepId = r.stepId)
    (hk : Failed new → new.errorKind ≠ some pathPolicyViolation) {a : Ans (.writeJournal (box.withStep new))} :
    At q box0 r0 l0 (box.withStep new) new (⟨s, .writeJournal (box.withStep new), some a⟩ :: l) := by
  refine ⟨ha.found, ha.withStep hq, hq.trans ha.sequence, hid.trans ha.stepId,
    ha.log.trans (onlyWrites_cons ?_)⟩
  intro j hreq
  cases hreq
  exact ⟨new, ha.withStep hq, hq.trans ha.sequence, hk⟩

theorem returns_writeStep {Q : TransactionJournal → Store F → Trace F → Prop}
    (hq : new.sequence = r.sequence) (hid : new.stepId = r.stepId)
    (hk : Failed new → new.errorKind ≠ some pathPolicyViolation)
    (hQ : ∀ s' l', At q box0 r0 l0 (box.withStep new) new l' → Journalled l0 l' new →
      Q (box.withStep new) s' l') : Returns h Q (writeStep box new) s l := by
  refine ⟨trivial, fun a s' hs => ?_⟩
  cases a with
  | error x => trivial
  | ok u =>
    refine hQ s' _ (ha.put hq hid hk) ?_
    obtain ⟨later, rfl⟩ := ha.log.log
    exact ⟨_ :: later, s, _, rfl, mem_cons_self, ha.mem hq⟩

end

variable {kind error : String}

theorem markUninstallStepFailed_ok (hm : markUninstallStepFailed r kind error = .ok new) :
    (r.state = .planned ∨ r.state = .applying) ∧ new.state = .applyFailed ∧ new.errorKind = some kind ∧
      new.sequence = r.sequence ∧ new.stepId = r.stepId := by
  unfold markUninstallStepFailed at hm
  split at hm
  · rename_i hst
    obtain ⟨r1, h1, hm⟩ := except_bind_ok hm
    obtain ⟨-, rfl⟩ := stepWithState_eq_ok.mp h1
    obtain ⟨r2, h2, hm⟩ := except_bind_ok hm
    obtain ⟨-, rfl⟩ := stepWithState_eq_ok.mp h2
    cases hm
    exact ⟨.inl hst, rfl, rfl, rfl, rfl⟩
  · obtain ⟨r1, h1, hm⟩ := except_bind_ok hm
    cases h1
    obtain ⟨r2, h2, hm⟩ := except_bind_ok hm
    obtain ⟨hmem, rfl⟩ := stepWithState_eq_ok.mp h2
    cases hm
    revert hmem
    cases r.state <;> simp [stepTransitions]

theorem failUninstallStep_returns (ha : At q box0 r0 l0 box r l) (hk : kind ≠ pathPolicyViolation) :
    Returns h (fun a _ l' => ∃ r', Remembered q box0 r0 l0 a.1 a.2 r' l')
      (failUninstallStep box r kind error) s l := by
  refine meets_bind (meets_ofExcept fun new hm => ?_)
  obtain ⟨-, hst, hkind, hq, hid⟩ := markUninstallStepFailed_ok hm
  have hne : Failed new → new.errorKind ≠ some pathPolicyViolation := by
    intro _
    rw [hkind]
    exact fun he => hk (Option.some.inj he)
  refine meets_bind (returns_writeStep ha hq hid hne fun s' l' ha' hj => ?_)
  exact ⟨new, ⟨ha', hne, .inr ⟨.inl hst, by rw [hid], hj⟩⟩⟩

theorem failVerification_returns (ha : At q box0 r0 l0 box r l) (hk : kind ≠ pathPolicyViolation) :
    Returns h (fun a _ l' => (∃ r', Remembered q box0 r0 l0 a.1 a.2 r' l') ∧ r.state = .verifying)
      (failVerification box r kind error) s l := by
  refine meets_stepState fun hmem => ?_
  have hst : r.state = .verifying := by
    revert hmem
    cases r.state <;> simp [stepTransitions]
  refine meets_bind (returns_writeStep ha rfl rfl ?_ fun s' l' ha' hj => ?_)
  · exact fun _ he => hk (Option.some.inj he)
  · exact ⟨⟨_, ha', fun _ he => hk (Option.some.inj he), .inr ⟨.inr rfl, rfl, hj⟩⟩, hst⟩

theorem not_failed_of {t : StepState} (hst : r.state = t)
    (hne : t ≠ .applyFailed ∧ t ≠ .verifyFailed) : ¬ Failed r := by
  rintro (hf | hf)
  · exact hne.1 (hst.symm.trans hf)
  · exact hne.2 (hst.symm.trans hf)

/-- The verification accounts for its failure, and it only returns from a step that had not failed.
-/
theorem verifyRemoved_returns {validated : String} (ha : At q box0 r0 l0 box r l) :
    Returns h (fun a _ l' => (∃ r', Remembered q box0 r0 l0 a.1 a.2 r' l') ∧ ¬ Failed r)
      (verifyRemoved box r validated) s l := by
  have hadv : Returns h (fun a _ l' => At q box0 r0 l0 a.1 a.2 l' ∧ (a.2.state = .verifying → ¬ Failed r))
      (advanceRemoval box r) s l := by
    unfold advanceRemoval
    split
    · rename_i hst
      refine meets_stepState fun _ => ?_
      refine meets_bind (returns_writeStep ha rfl rfl
        (fun hf => absurd hf (not_failed_of (t := .verifying) rfl (by decide))) ?_)
      exact fun s' l' ha' _ => ⟨ha', fun _ => not_failed_of hst (by decide)⟩
    · exact ⟨ha, fun hst => not_failed_of hst (by decide)⟩
  refine meets_bind (wp_imp hadv ?_)
  rintro ⟨box1, r1⟩ s1 l1 ⟨ha1, hr1⟩
  refine meets_bind (returns_ask_host (Progressed q box0) fun a s2 hw => ?_)
  have ha2 := ha1.look hw
  cases a with
  | error x =>
    simp only
    split
    · refine meets_stepState fun hmem => ?_
      have hst : r1.state = .verifying := by
        revert hmem
        cases r1.state <;> simp [stepTransitions]
      have hgood : ∀ {r' : StepRecord}, r'.state = .verified → Failed r' →
          r'.errorKind ≠ some pathPolicyViolation :=
        fun hst' hf => absurd hf (not_failed_of hst' (by decide))
      refine meets_bind (returns_writeStep ha2 rfl rfl (hgood rfl) fun s' l' ha' _ => ?_)
      exact ⟨⟨_, ha', hgood rfl, .inl rfl⟩, hr1 hst⟩
    · split
      · exact wp_imp (failVerification_returns ha2 (by decide)) fun a s' l' hout => ⟨hout.1, hr1 hout.2⟩
      · trivial
  | ok identity =>
    exact wp_imp (failVerification_returns ha2 (by decide)) fun a s' l' hout => ⟨hout.1, hr1 hout.2⟩

theorem custodyRecorder_returns (hr : ¬ Failed r) (e : RemovalReq) (ha : At q box0 r0 l0 box r l) :
    Returns h (fun a _ l' => At q box0 r0 l0 a.2 r l') (custodyRecorder e box) s l := by
  cases e with
  | fs e => exact meets_bind (returns_ask_host (Progressed q box0) fun a s' hw => ha.look hw)
  | record k =>
    have hw : ∀ a, OnlyWrites (Progressed q box0) l
        (⟨s, .writeJournal (journalWithCustodyRecord box k), some a⟩ :: l) := by
      refine fun a => onlyWrites_cons fun j hreq => ?_
      cases hreq
      exact ⟨r, ha.steps, ha.sequence, fun hf => absurd hf hr⟩
    refine ⟨trivial, fun a s' hs => ?_⟩
    cases a with
    | ok u => exact { ha.look (hw _) with steps := ha.steps }
    | error x => exact ha.look (hw _)

theorem removeOwnedFile_returns {root validated resource : String} (ha : At q box0 r0 l0 box r l)
    (hst : r.state = .applying) :
    Returns h (fun a _ l' => match a with
      | .inl a => ∃ r', Remembered q box0 r0 l0 a.1 a.2 r' l'
      | .inr a => At q box0 r0 l0 a.1 a.2 l') (removeOwnedFile c box r root validated resource) s l := by
  refine meets_bind (wp_mono (wp_look_writes (P := Progressed q box0) _) (fun _ _ _ h => h) ?_
    fun _ _ _ _ => trivial)
  intro drift s1 l1 hw
  have ha1 := ha.look hw
  cases drift with
  | some drift => exact meets_bind (wp_imp (failUninstallStep_returns ha1 (by decide)) fun a s' l' hout => hout)
  | none =>
    have hr : ¬ Failed r := not_failed_of hst (by decide)
    refine meets_bind (wp_imp (wp_handle (J := fun t _ l => At q box0 r0 l0 t r l)
      (fun e t s l ht => custodyRecorder_returns hr e ht) _ box s1 l1 ha1) ?_)
    rintro ⟨outcome, box2⟩ s2 l2 ha2
    cases outcome with
    | error x => exact meets_bind (wp_imp (failUninstallStep_returns ha2 (by decide)) fun a s' l' hout => hout)
    | ok u =>
      refine meets_stepState fun _ => ?_
      refine meets_bind (returns_writeStep ha2 rfl rfl ?_ fun s' l' ha' _ => ha')
      exact fun hf => absurd hf (not_failed_of (t := .applied) rfl (by decide))

/-- The record the loop has in hand after its approach. -/
def Approach.record? : Approach → Option StepRecord
  | .finished => none
  | .refused r _ | .removed r _ | .absent r _ _ | .unknown r _ | .symlink r | .present r _ _ _ => some r

/-- The failure of these is written but not taken over into the box. -/
def Approach.lossy : Approach → Bool
  | .refused _ _ | .symlink _ => true
  | _ => false

/-- What a look at the file supposes of the step. -/
def Approach.Looked : Approach → Prop
  | .finished | .refused _ _ | .removed _ _ => True
  | .absent r _ _ | .unknown r _ | .symlink r | .present r _ _ _ => r.state = .applying

/-- After the approach: the box has the record in hand, and a step that had failed before is still
that one. -/
structure Reached (q : Int) (box0 : TransactionJournal) (r0 : StepRecord) (l0 : Trace F)
    (box : TransactionJournal) (a : Approach) (l : Trace F) : Prop where
  here : At q box0 r0 l0 box (a.record?.getD r0) l
  looked : a.Looked
  failed : Failed r0 → a.record? = some r0

theorem beginRemoval_returns (ha : At q box0 r0 l0 box r0 l) :
    Returns h (fun a _ l' => At q box0 r0 l0 a.1 a.2 l' ∧ (a.2 = r0 ∨ ¬ Failed r0))
      (beginRemoval box r0) s l := by
  unfold beginRemoval
  split
  · rename_i hst
    refine meets_stepState fun _ => ?_
    refine meets_bind (returns_writeStep ha rfl rfl ?_ fun s' l' ha' _ =>
      ⟨ha', .inr (not_failed_of hst (by decide))⟩)
    exact fun hf => absurd hf (not_failed_of (t := .applying) rfl (by decide))
  · exact ⟨ha, .inl rfl⟩

theorem approachStep_returns (hn : (box0.steps.map (·.sequence)).Nodup) :
    Returns h (fun a _ l' => ∃ r0, Reached q box0 r0 l0 a.1 a.2 l') (approachStep c box0 q) s l0 := by
  refine meets_bind (meets_ofExcept fun r0 hf => ?_)
  have ha : At q box0 r0 l0 box0 r0 l0 := At.start hn hf
  split
  · rename_i hst
    exact ⟨r0, ha, trivial, fun hfail => absurd hfail (not_failed_of hst (by decide))⟩
  refine meets_bind (meets_ofExcept fun resource _ => meets_bind ?_)
  refine wp_mono (wp_look_writes (P := Progressed q box0) _) (fun _ _ _ h => h) ?_ fun _ _ _ _ => trivial
  intro place s1 l1 hw
  cases place with
  | error x =>
    simp only
    split
    · exact ⟨r0, ha.look hw, trivial, fun _ => rfl⟩
    · trivial
  | ok place =>
    refine meets_bind (wp_imp (beginRemoval_returns (ha.look hw)) ?_)
    rintro ⟨box2, r2⟩ s2 l2 ⟨ha2, hr2⟩
    simp only at ha2 hr2 ⊢
    have hsame : Failed r0 → some r2 = some r0 := by
      intro hfail
      rcases hr2 with rfl | hnot
      · rfl
      · exact absurd hfail hnot
    split
    · rename_i hst
      refine meets_bind (returns_ask_host (Progressed q box0) fun a s3 hw3 => ?_)
      have ha3 := ha2.look hw3
      cases a with
      | error x =>
        simp only
        split
        · exact ⟨r0, ha3, hst, hsame⟩
        split
        · exact ⟨r0, ha3, hst, hsame⟩
        · trivial
      | ok identity =>
        simp only
        split <;> exact ⟨r0, ha3, hst, hsame⟩
    · exact ⟨r0, ha2, trivial, hsame⟩

/-- What an iteration leaves: of a failure that was not taken over, the box still has the record
from before. -/
inductive Settled (q : Int) (box0 : TransactionJournal) (r0 : StepRecord) (l0 : Trace F) (a : Approach)
    (box : TransactionJournal) (failed : List String) (r : StepRecord) (l : Trace F) : Prop
  | remembered (ha : a.lossy = false) (hr : Remembered q box0 r0 l0 box failed r l)
  | lost (ha : a.lossy = true) (here : ∃ l₁, At q box0 r0 l0 box r l₁)
  (hst : r.state = .planned ∨ r.state = .applying)
      (hfailed : failed = [r.stepId])

/-- Writing a failure that is not taken over changes nothing in the box. -/
theorem failUninstallStepUnboxed_returns {a : Approach} (ha : At q box0 r0 l0 box r l)
    (hl : a.lossy = true) :
    Returns h (fun out _ l' => Settled q box0 r0 l0 a out.1 out.2 r l' ∧ ¬ Failed r)
      (failUninstallStepUnboxed box r kind error) s l := by
  refine meets_bind (meets_ofExcept fun new hm => ?_)
  obtain ⟨hst, -⟩ := markUninstallStepFailed_ok hm
  have hnot : ¬ Failed r := by
    rcases hst with hst | hst <;> exact not_failed_of hst (by decide)
  refine ⟨trivial, fun out s' _ => ?_⟩
  cases out with
  | error x => trivial
  | ok u => exact ⟨.lost hl ⟨l, ha⟩ hst rfl, hnot⟩

theorem settleStep_returns {a : Approach} (hr : Reached q box0 r0 l0 box a l) :
    Returns h (fun out _ l' => ¬ Failed r0 ∧ ∃ r, Settled q box0 r0 l0 a out.1 out.2 r l')
      (settleStep c box a) s l := by
  have ha := hr.here
  -- a step that had failed is the record in hand
  have hkeep : ∀ r, a.record? = some r → ¬ Failed r → ¬ Failed r0 := by
    intro r hrec hnot hfail
    rw [hr.failed hfail] at hrec
    cases hrec
    exact hnot hfail
  have hlooked := hr.looked
  cases a with
  | finished =>
    refine ⟨fun hfail => (nomatch hr.failed hfail), r0, .remembered rfl ⟨ha, ?_, .inl rfl⟩⟩
    exact fun hfail => (nomatch hr.failed hfail)
  | refused r reason =>
    exact wp_imp (failUninstallStepUnboxed_returns ha rfl) fun out s' l' hout =>
      ⟨hkeep r rfl hout.2, r, hout.1⟩
  | symlink r =>
    exact wp_imp (failUninstallStepUnboxed_returns ha rfl) fun out s' l' hout =>
      ⟨hkeep r rfl hout.2, r, hout.1⟩
  | removed r validated =>
    refine wp_imp (verifyRemoved_returns ha) ?_
    rintro out s' l' ⟨⟨r', hrem⟩, hnot⟩
    exact ⟨hkeep r rfl hnot, r', .remembered rfl hrem⟩
  | unknown r reason =>
    refine wp_imp (failUninstallStep_returns ha (by decide)) ?_
    rintro out s' l' ⟨r', hrem⟩
    exact ⟨hkeep r rfl (not_failed_of hlooked (by decide)), r', .remembered rfl hrem⟩
  | absent r validated resource =>
    have hnot : ¬ Failed r0 := hkeep r rfl (not_failed_of hlooked (by decide))
    simp only [settleStep]
    split
    · refine wp_imp (failUninstallStep_returns ha (by decide)) ?_
      rintro out s' l' ⟨r', hrem⟩
      exact ⟨hnot, r', .remembered rfl hrem⟩
    · refine meets_stepState fun _ => ?_
      refine meets_bind (returns_writeStep ha rfl rfl ?_ fun s' l' ha' _ =>
        wp_imp (verifyRemoved_returns ha') ?_)
      · exact fun hf => absurd hf (not_failed_of (t := .applied) rfl (by decide))
      · rintro out s' l' ⟨⟨r', hrem⟩, -⟩
        exact ⟨hnot, r', .remembered rfl hrem⟩
  | present r validated root resource =>
    have hnot : ¬ Failed r0 := hkeep r rfl (not_failed_of hlooked (by decide))
    refine meets_bind (wp_imp (removeOwnedFile_returns ha hlooked) ?_)
    intro out s1 l1 hout
    cases out with
    | inl stopped =>
      obtain ⟨r', hrem⟩ := hout
      exact ⟨hnot, r', .remembered rfl hrem⟩
    | inr going =>
      refine wp_imp (verifyRemoved_returns hout) ?_
      rintro out s' l' ⟨⟨r', hrem⟩, -⟩
      exact ⟨hnot, r', .remembered rfl hrem⟩

theorem Settled.here {a : Approach} {failed : List String} (hs : Settled q box0 r0 l0 a box failed r l) :
    ∃ l1, At q box0 r0 l0 box r l1 := by
  cases hs with
  | remembered ha hr => exact ⟨l, hr.toAt⟩
  | lost ha here hst hfail => exact here

theorem At.step_self (ha : At q box0 r0 l0 box r l) : box.step q = .ok r := by
  have hf : box0.step r.sequence = .ok r0 := by rw [ha.sequence]; exact ha.found
  have hr := step_withStep_self hf
  rw [step_eq_ok] at hr ⊢
  rw [ha.steps, ← hr, ha.sequence]

theorem At.step_other (ha : At q box0 r0 l0 box r l) {q' : Int} (hq : q' ≠ q) {x : StepRecord} :
    box.step q' = .ok x ↔ box0.step q' = .ok x := by
  have hne : q' ≠ r.sequence := by rw [ha.sequence]; exact hq
  rw [← step_withStep_of_ne (j := box0) hne, step_eq_ok, step_eq_ok, ha.steps]

/-! ## The loop -/

/-- The steps of a journal as an uninstall plan numbers them. -/
structure Numbered (j : TransactionJournal) : Prop where
  nodup : (j.steps.map (·.sequence)).Nodup
  ids : ∀ r ∈ j.steps, ∃ n : Nat, r.sequence = n ∧ r.stepId = "uninstall_" ++ toString n

theorem Numbered.eq (hj : Numbered j) {a b : StepRecord} (ha : a ∈ j.steps) (hb : b ∈ j.steps)
    (he : a.stepId = b.stepId) : a = b := by
  obtain ⟨n, hn, hna⟩ := hj.ids a ha
  obtain ⟨m, hm, hmb⟩ := hj.ids b hb
  rw [hna, hmb] at he
  have hnm : toString n = toString m := by
    have := congrArg String.toList he
    simp only [String.toList_append, append_cancel_left_eq] at this
    exact String.toList_inj.mp this
  have hsame : n = m := by
    have hdig := congrArg (fun text => Nat.ofDigitChars 10 text.toList 0) hnm
    simpa [Nat.ofDigitChars_ten_toDigits] using hdig
  exact eq_of_sequence hj.nodup ha hb (by rw [hn, hm, hsame])

theorem At.numbered (ha : At q box0 r0 l0 box r l) (hj : Numbered box0) : Numbered box := by
  refine ⟨?_, fun x hx => ?_⟩
  · rw [ha.steps, sequences_withStep]
    exact hj.nodup
  · rw [ha.steps] at hx
    obtain ⟨y, hy, rfl⟩ := mem_map.mp hx
    split
    · obtain ⟨hr0, hq⟩ := mem_of_step ha.found
      obtain ⟨n, hn, hid⟩ := hj.ids r0 hr0
      exact ⟨n, by rw [ha.sequence, ← hq, hn], by rw [ha.stepId, hid]⟩
    · exact hj.ids y hy

/-- The loop over the steps `qs`, with what it found at each of them. -/
inductive Approached (h : Host F) (c : ExecutionContext) : List Int → TransactionJournal → Store F → Trace F →
    List Approach → TransactionJournal → List String → Store F → Trace F → Prop
  | nil (box : TransactionJournal) (s : Store F) (l : Trace F) : Approached h c [] box s l [] box [] s l
  | cons {q : Int} {qs : List Int} {box box₁ box₂ box' : TransactionJournal} {s s₁ s₂ s' : Store F}
      {l l₁ l₂ l' : Trace F} {a : Approach} {as : List Approach} {failed residuals : List String} :
      Ends (storeHandler h) (approachStep c box q) s l (.ok (box₁, a)) s₁ l₁ →
      Ends (storeHandler h) (settleStep c box₁ a) s₁ l₁ (.ok (box₂, failed)) s₂ l₂ →
      Approached h c qs box₂ s₂ l₂ as box' residuals s' l' →
      Approached h c (q :: qs) box s l (a :: as) box' (failed ++ residuals) s' l'

theorem uninstallSteps_approached {qs : List Int} : ∀ {box s l residuals out s' l'},
    Ends (storeHandler h) (uninstallSteps c qs box residuals) s l (.ok out) s' l' →
      ∃ as new, Approached h c qs box s l as out.1 new s' l' ∧ out.2 = residuals ++ new := by
  induction qs with
  | nil =>
    intro box s l residuals out s' l' he
    cases he
    exact ⟨[], [], .nil _ _ _, (append_nil _).symm⟩
  | cons q qs ih =>
    intro box s l residuals out s' l' he
    obtain ⟨⟨box2, failed⟩, s2, l2, hstep, hrest⟩ := ends_bind he
    obtain ⟨⟨box1, a⟩, s1, l1, happ, hset⟩ := ends_bind hstep
    obtain ⟨as, new, hloop, hout⟩ := ih hrest
    exact ⟨a :: as, failed ++ new, .cons happ hset hloop, by rw [hout, append_assoc]⟩

theorem iteration {box1 box2 : TransactionJournal} {a : Approach} {failed : List String}
    {s1 s2 : Store F} {l1 l2 : Trace F} (hn : (box.steps.map (·.sequence)).Nodup)
    (happ : Ends (storeHandler h) (approachStep c box q) s l (.ok (box1, a)) s1 l1)
    (hset : Ends (storeHandler h) (settleStep c box1 a) s1 l1 (.ok (box2, failed)) s2 l2) :
    ∃ r0, ¬ Failed r0 ∧ ∃ r, Settled q box r0 l a box2 failed r l2 := by
  obtain ⟨r0, hreach⟩ := (wp_ends (approachStep_returns hn) happ).1 _ rfl
  obtain ⟨hnot, r, hsettled⟩ := (wp_ends (settleStep_returns hreach) hset).1 _ rfl
  exact ⟨r0, hnot, r, hsettled⟩

section Walk

variable {qs : List Int} {as : List Approach} {box' : TransactionJournal} {residuals : List String}

theorem Approached.untouched (hw : Approached h c qs box s l as box' residuals s' l') (hj : Numbered box) :
    Numbered box' ∧ ∀ q ∉ qs, ∀ x, box'.step q = .ok x ↔ box.step q = .ok x := by
  induction hw with
  | nil box s l => exact ⟨hj, fun _ _ _ => Iff.rfl⟩
  | cons happ hset hrest ih =>
    obtain ⟨r0, -, r, hs⟩ := iteration hj.nodup happ hset
    obtain ⟨l1, here⟩ := hs.here
    obtain ⟨hj', hkeep⟩ := ih (here.numbered hj)
    refine ⟨hj', fun q hq x => ?_⟩
    rw [mem_cons, not_or] at hq
    rw [hkeep q hq.2, here.step_other hq.1]

/-- **A failure that is not taken over is lost**: the step is reported, and in the returned journal
it has not failed. -/
theorem Approached.lost (hw : Approached h c qs box s l as box' residuals s' l') (hj : Numbered box)
    (hqs : qs.Nodup)
    (hl : ∃ a ∈ as, a.lossy = true) : ∃ q r, box'.step q = .ok r ∧ ¬ Failed r ∧ r.stepId ∈ residuals := by
  induction hw with
  | nil box s l => obtain ⟨a, ha, -⟩ := hl; cases ha
  | @cons q qs box box1 box2 box' s s1 s2 s' l l1 l2 l' a as failed residuals happ hset hrest ih =>
    obtain ⟨r0, -, r, hs⟩ := iteration hj.nodup happ hset
    obtain ⟨lm, here⟩ := hs.here
    obtain ⟨hq, hqs⟩ := nodup_cons.mp hqs
    cases hs with
    | remembered ha hr =>
      obtain ⟨b, hb, hlb⟩ := hl
      rcases mem_cons.mp hb with rfl | hb
      · rw [ha] at hlb; cases hlb
      · obtain ⟨q', r', hstep, hnot, hres⟩ := ih (here.numbered hj) hqs ⟨b, hb, hlb⟩
        exact ⟨q', r', hstep, hnot, mem_append_right _ hres⟩
    | lost ha _ hst hfail =>
      refine ⟨q, r, ((hrest.untouched (here.numbered hj)).2 q hq r).mpr here.step_self, ?_, ?_⟩
      · rcases hst with hst | hst <;> exact not_failed_of hst (by decide)
      · rw [hfail]
        exact mem_append_left _ (mem_singleton.mpr rfl)

theorem Journalled.mono {x : StepRecord} {lo hi : Trace F} (hx : Journalled l l' x) (hlo : lo <:+ l)
    (hhi : l' <:+ hi) : Journalled lo hi x := by
  obtain ⟨mid, s, j, rfl, hmem, hxj⟩ := hx
  obtain ⟨first, rfl⟩ := hlo
  obtain ⟨last, rfl⟩ := hhi
  exact ⟨last ++ (mid ++ first), s, j, by simp, by simp [hmem], hxj⟩

/-- The loop kept everything: each visited step had not failed before, each residual is a failed
step of the returned journal as it was written, and no failure over a refused path was written. -/
structure KeptAll (qs : List Int) (box : TransactionJournal) (l : Trace F) (box' : TransactionJournal)
    (residuals : List String) (l' : Trace F) : Prop where
  log : l <:+ l'
  visited : ∀ q ∈ qs, ∃ r, box.step q = .ok r ∧ ¬ Failed r
  residuals : ∀ id ∈ residuals, ∃ q ∈ qs, ∃ r, box'.step q = .ok r ∧ r.stepId = id ∧ Failed r ∧
    Journalled l l' r
  writes : ∀ j, Written l l' j → ∀ x ∈ j.steps, Failed x →
    x.errorKind ≠ some pathPolicyViolation ∨ box.step x.sequence = .ok x

theorem Approached.kept (hw : Approached h c qs box s l as box' residuals s' l') (hj : Numbered box)
    (hqs : qs.Nodup) (hl : ∀ a ∈ as, a.lossy = false) : KeptAll qs box l box' residuals l' := by
  induction hw with
  | nil box s l =>
    refine ⟨suffix_refl _, nofun, nofun, fun j hw => ?_⟩
    obtain ⟨_, _, hmem⟩ := (written_append []).mp hw
    cases hmem
  | @cons q qs box box1 box2 box' s s1 s2 s' l l1 l2 l' a as failed residuals happ hset hrest ih =>
    obtain ⟨r0, hnot, r, hs⟩ := iteration hj.nodup happ hset
    obtain ⟨hq, hqs⟩ := nodup_cons.mp hqs
    cases hs with
    | lost ha _ _ _ =>
      rw [hl a mem_cons_self] at ha
      cases ha
    | remembered ha hr =>
      have hr' : At q box r0 l box2 r l2 := hr.toAt
      have hrest' := ih (hr'.numbered hj) hqs fun b hb => hl b (mem_cons_of_mem _ hb)
      have hstep : box'.step q = .ok r := ((hrest.untouched (hr'.numbered hj)).2 q hq r).mpr hr'.step_self
      refine ⟨hr'.log.log.trans hrest'.log, fun q' hq' => ?_, fun id hid => ?_, fun j hwr x hx hfail => ?_⟩
      · rcases mem_cons.mp hq' with rfl | hq'
        · exact ⟨r0, hr'.found, hnot⟩
        obtain ⟨x, hx, hxf⟩ := hrest'.visited q' hq'
        have hne : q' ≠ q := fun he => hq (he ▸ hq')
        exact ⟨x, (hr'.step_other hne).mp hx, hxf⟩
      · rcases mem_append.mp hid with hid | hid
        · rcases hr.failed with hnone | ⟨hfail, hone, hjour⟩
          · rw [hnone] at hid; cases hid
          · rw [hone, mem_singleton] at hid
            exact ⟨q, mem_cons_self, r, hstep, hid.symm, hfail, hjour.mono (suffix_refl _) hrest'.log⟩
        · obtain ⟨q', hq', x, hx, hxid, hxf, hxj⟩ := hrest'.residuals id hid
          exact ⟨q', mem_cons_of_mem _ hq', x, hx, hxid, hxf, hxj.mono hr'.log.log (suffix_refl _)⟩
      · rcases written_split hr'.log.log hrest'.log hwr with hwr | hwr
        · -- written in this iteration: the step's new record, or one of the box before it
          obtain ⟨x', hsteps, hseq, hkind⟩ := hr'.log.writes j hwr
          rw [hsteps] at hx
          obtain ⟨y, hy, rfl⟩ := mem_map.mp hx
          split at hfail
          · rename_i he; rw [if_pos he]; exact .inl (hkind hfail)
          · rename_i he; rw [if_neg he]; exact .inr (step_of_mem hj.nodup hy)
        · rcases hrest'.writes j hwr x hx hfail with hk | hold
          · exact .inl hk
          by_cases he : x.sequence = q
          · rw [he, hr'.step_self] at hold
            cases hold
            exact .inl (hr.kind hfail)
          · exact .inr ((hr'.step_other he).mp hold)

end Walk

/-! ## What the caller is told -/

theorem numbered_of_match {cap : String} {owned : List OwnershipRecord} {tid : TxId} {plan : UninstallPlan}
    (hp : buildUninstallPlan cap owned tid = .ok plan)
    (hm : uninstallJournalStepsMatchPlanExactly j plan = true) : Numbered j := by
  obtain ⟨-, hn, -, hmatch⟩ := stepsMatchExactly_iff.mp hm
  refine ⟨hn, fun r hr => ?_⟩
  have hsteps : plan.steps = owned.reverse.zipIdx.map fun p => uninstallStepFor p.2 p.1 := by
    unfold buildUninstallPlan at hp
    split at hp
    · cases hp
    split at hp
    · cases hp; rfl
    · cases hp
  have hrm := hmatch r hr
  unfold stepMatches at hrm
  split at hrm
  · cases hrm
  rename_i p hfind
  simp only [Bool.and_eq_true, beq_iff_eq] at hrm
  have hseq : p.sequence = r.sequence := by simpa using find?_some hfind
  have hmem := mem_of_find?_eq_some hfind
  rw [hsteps] at hmem
  obtain ⟨x, -, rfl⟩ := mem_map.mp hmem
  exact ⟨x.2, hseq.symm, hrm.1.1.1⟩

variable {env : ProvisioningEnvironment}

theorem uninstallSourceMatches_numbered :
    Returns h (fun b _ _ => b = true → Numbered j) (liftM (uninstallSourceMatches env c j)) s l := by
  change wp _ _ _ _ (Prog.widen (uninstallSourceMatches env c j)) s l
  unfold uninstallSourceMatches
  simp only
  split
  · exact nofun
  rw [widen_bind, wp_bind]
  refine wp_mono (wp_look_writes (P := fun _ => True) _) (fun _ _ _ h => h) ?_ fun _ _ _ _ => trivial
  intro valid s1 l1 _
  split
  · exact nofun
  split
  · exact nofun
  rename_i plan hplan
  split
  · exact nofun
  · exact fun hb => numbered_of_match hplan hb

/-- The loop is entered: the source authority is intact and no custody record is unresolved. -/
structure EntersLoop (h : Host F) (env : ProvisioningEnvironment) (c : ExecutionContext)
    (j : TransactionJournal) (s : Store F) (l : Trace F) (s' : Store F) (l' : Trace F) : Prop where
  source : ∃ s₁ l₁, Ends (storeHandler h)
    (liftM (uninstallSourceMatches env c j) : EngineProg Bool) s l (.ok true) s₁ l₁ ∧
    Ends (storeHandler h) (liftM verifyAllowedRootsIdentity : EngineProg Unit) s₁ l₁ (.ok ()) s' l'
  custody : unresolvedCustodyRecords j = []

theorem EntersLoop.numbered {s1 : Store F} {l1 : Trace F} (he : EntersLoop h env c j s l s1 l1) :
    Numbered j := by
  obtain ⟨s0, l0, hsrc, -⟩ := he.source
  exact (wp_ends uninstallSourceMatches_numbered hsrc).1 true rfl rfl

/-- Nothing is lost between the loop and its caller: every reported step has failed in the returned
journal, as it was journalled, and if a step failed over a refused path the caller sends the
transaction to recovery. -/
structure NothingLost (h : Host F) (l : Trace F) (looped : UninstallLoopResult) (s' : Store F)
    (l' : Trace F) : Prop where
  residuals : ∀ id ∈ looped.residuals, ∃ r ∈ looped.journal.steps, r.stepId = id ∧ Failed r ∧ Journalled l l' r
  recovery : (∃ j, Written l l' j ∧ ∃ x ∈ j.steps, Failed x ∧ x.errorKind = some pathPolicyViolation) →
    ∀ out s'' l'', Ends (storeHandler h) (recordUninstallFailure looped) s' l' (.ok out) s'' l'' →
      out.1.state = .recoveryRequired

/-- **No lost update.** In every loop that is entered with its source authority intact and no
unresolved custody record, nothing is lost if and only if no path was refused by the policy and no
first look met a symlink. -/
theorem no_lost_update {s₁ : Store F} {l₁ : Trace F} {looped : UninstallLoopResult}
    (he : EntersLoop h env c j s l s₁ l₁)
    (hr : Ends (storeHandler h) (removeAll c j) s₁ l₁ (.ok looped) s' l') :
    ∃ as, Approached h c (j.steps.map (·.sequence)) j s₁ l₁ as looped.journal looped.residuals s' l' ∧
      (NothingLost h l₁ looped s' l' ↔ ∀ a ∈ as, a.lossy = false) := by
  have hj : Numbered j := he.numbered
  obtain ⟨⟨box', residuals⟩, s2, l2, hsteps, hret⟩ := ends_bind hr
  cases hret
  obtain ⟨as, new, hw, hnew⟩ := uninstallSteps_approached hsteps
  subst hnew
  refine ⟨as, hw, ?_, ?_⟩
  · intro hnoth
    by_contra hlossy
    have hl : ∃ a ∈ as, a.lossy = true := by
      simpa only [not_forall, Bool.not_eq_false, exists_prop] using hlossy
    obtain ⟨q, r, hstep, hnot, hres⟩ := hw.lost hj hj.nodup hl
    obtain ⟨r', hr', hid, hfail, -⟩ := hnoth.residuals _ hres
    -- step ids are unique, so the lost record is the one reported
    have hsame : r' = r := (hw.untouched hj).1.eq hr' (mem_of_step hstep).1 hid
    rw [hsame] at hfail
    exact hnot hfail
  · intro hloss
    have hkept := hw.kept hj hj.nodup hloss
    refine ⟨fun id hid => ?_, ?_⟩
    · obtain ⟨q, -, r, hstep, hrid, hfail, hjour⟩ := hkept.residuals id hid
      exact ⟨r, (mem_of_step hstep).1, hrid, hfail, hjour⟩
    · rintro ⟨j', hwr, x, hx, hfail, hkind⟩
      exfalso
      rcases hkept.writes j' hwr x hx hfail with hk | hold
      · exact hk hkind
      obtain ⟨hmem, -⟩ := mem_of_step hold
      obtain ⟨y, hy, hyf⟩ := hkept.visited x.sequence (mem_map_of_mem hmem)
      rw [hold] at hy
      cases hy
      exact hyf hfail

/-! ## In the laboratory -/

/-- The gate of the loop and then the loop, one drive after the other; the loop meets other answers.
-/
def labLoop (a b : LabAnswers) (j : TransactionJournal) (s : Store Unit) (l : Trace Unit) :
    Option (Except Exc Bool) × Option (Except Exc Unit) × Option (Except Exc UninstallLoopResult) :=
  let source := drive a.script.reply
    (liftM (uninstallSourceMatches labEnv labEnv.context j) : EngineProg Bool) () s l
  let roots := drive a.script.reply (liftM verifyAllowedRootsIdentity : EngineProg Unit)
    () source.2.2.1 source.2.2.2
  let loop := drive b.script.reply (removeAll labEnv.context j) () roots.2.2.1 roots.2.2.2
  (source.1, roots.1, loop.1)

theorem labLoop_ends {a b : LabAnswers} {s : Store Unit} {l : Trace Unit} {looped : UninstallLoopResult}
    (hl : labLoop a b j s l = (some (.ok true), some (.ok ()), some (.ok looped)))
    (hc : unresolvedCustodyRecords j = []) :
    ∃ s1 l1 s' l', EntersLoop anyHost labEnv labEnv.context j s l s1 l1 ∧
      Ends (storeHandler anyHost) (removeAll labEnv.context j) s1 l1 (.ok looped) s' l' := by
  simp only [labLoop, Prod.mk.injEq] at hl
  exact ⟨_, _, _, _, ⟨⟨_, _, a.ends hl.1, a.ends hl.2.1⟩, hc⟩, b.ends hl.2.2⟩

/-- The journal of an uninstall of what the laboratory has committed, as it enters the loop. -/
def labRemoval : Option TransactionJournal :=
  let records := (labPrepared.1.ownership? "canary").getD []
  (buildUninstallPlan "canary" records "tt").toOption.map fun plan =>
    { initialUninstallJournal labEnv plan with state := .uninstalling }

/-- The loop has run, and left both steps. -/
def leftBoth : Option (Except Exc Bool) × Option (Except Exc Unit) × Option
    (Except Exc UninstallLoopResult) → Bool
  | (some (.ok true), some (.ok ()), some (.ok looped)) => looped.residuals == ["uninstall_0", "uninstall_1"]
  | _ => false

/-- Both steps of the laboratory's uninstall fail, since their files cannot be looked at. -/
theorem no_lost_update_lab : ∃ (j : TransactionJournal) (s s₁ s' : Store Unit) (l l₁ l' : Trace Unit)
    (looped : UninstallLoopResult), looped.residuals = ["uninstall_0", "uninstall_1"] ∧
    EntersLoop anyHost labEnv labEnv.context j s l s₁ l₁ ∧
    ∃ as, Approached anyHost labEnv.context
      (j.steps.map (·.sequence)) j s₁ l₁ as looped.journal looped.residuals s' l' ∧
      (NothingLost anyHost l₁ looped s' l' ↔ ∀ a ∈ as, a.lossy = false) := by
  have hrun : (labRemoval.any fun j => unresolvedCustodyRecords j == [] &&
      leftBoth (labLoop {} { stat := .error ⟨.osError, "unreadable"⟩ } j
        labPrepared.1 labPrepared.2)) = true := by decide +kernel
  obtain ⟨j, -, hj⟩ := (Option.any_eq_true _ _).mp hrun
  rw [Bool.and_eq_true] at hj
  obtain ⟨hc, hloop⟩ := hj
  unfold leftBoth at hloop
  split at hloop
  · rename_i looped hends
    obtain ⟨s₁, l₁, s', l', henter, hends⟩ := labLoop_ends hends (by simpa using hc)
    exact ⟨j, _, s₁, s', _, l₁, l', looped, by simpa using hloop, henter, no_lost_update henter hends⟩
  · cases hloop

/-- An uninstall of what the laboratory has committed, against this script. -/
def Script.uninstalled (a : Script Unit) : Store Unit × Trace Unit :=
  a.invoke labEnv (.uninstall "canary" true) labPrepared.1
    labPrepared.2

theorem Script.uninstalled_run {a : Script Unit} (hf : a.Fits anyHost) :
    EngineRun anyHost labOnly emptyStore a.uninstalled.1 a.uninstalled.2 :=
  (({} : LabAnswers).run [.prepare labDecision true]).pass ⟨labEnv, _, rfl, rfl⟩
    (drive_exec (Script.follows hf) _ _ _ _)

/-- The laboratory, but every path is refused once the uninstall has begun. -/
def labRefusing : Script Unit where
  name := ({} : LabAnswers).script.name
  host _ q := (match q with
    | .resolveTargetPath _ => .error ⟨.pathPolicyError, "refused"⟩
    | q => ({} : LabAnswers).host q, ())

/-- **A refused path is forgotten.** Both failures are written, each is reverted by the next write,
and the uninstall ends as `UNINSTALL_FAILED` with every step still `PLANNED` instead of being sent
to recovery. -/
theorem refused_path_forgotten : ∃ (s : Store Unit) (l : Trace Unit), EngineRun anyHost labOnly emptyStore s l ∧
    (∃ ev ∈ l, ∃ j, ev.req = .writeJournal j ∧ j.transactionId = "tt" ∧
      ∃ r ∈ j.steps, Failed r ∧ r.errorKind = some pathPolicyViolation) ∧
    ∃ d, s.journal? "tt" = some d ∧ d.state = .uninstallFailed ∧ ∀ r ∈ d.steps, r.state = .planned := by
  have hfits : labRefusing.Fits anyHost := ⟨fun _ _ => trivial, fun _ _ _ _ => trivial⟩
  refine ⟨_, _, Script.uninstalled_run hfits, ?_, ?_⟩
  · obtain ⟨ev, hev, j, hw, hj⟩ := exists_wrote (l := labRefusing.uninstalled.2)
      (p := fun j => j.transactionId == "tt" &&
        j.steps.any fun r => r.state == .applyFailed && r.errorKind == some pathPolicyViolation)
        (by decide +kernel)
    simp only [Bool.and_eq_true, beq_iff_eq, any_eq_true] at hj
    obtain ⟨htid, r, hr, hst, hkind⟩ := hj
    exact ⟨ev, hev, j, hw, htid, r, hr, .inl hst, hkind⟩
  · have hd : (labRefusing.uninstalled.1.journal? "tt").any
        (fun d => d.state == .uninstallFailed && d.steps.all (·.state == .planned)) = true := by decide +kernel
    obtain ⟨d, hd, hst⟩ := (Option.any_eq_true _ _).mp hd
    simp only [Bool.and_eq_true, beq_iff_eq, all_eq_true] at hst
    exact ⟨d, hd, hst.1, hst.2⟩

end WatchdogVpn.Provisioning
