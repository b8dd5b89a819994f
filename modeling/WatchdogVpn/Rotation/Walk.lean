import WatchdogVpn.Rotation.Engine

/-!
# Going through a rotation

Every exit of `rotate` reads the clock and returns, and between two attempts the engine reads the
clock or starts a rollback. What has to be known to carry a property from the start of a rotation to
its end is therefore little.

* `Carries` lists it: `I` holds while the engine tries, `J` once it has made up its mind, `Q` at the
  end.
* **`Carries.tryCandidates`**, `Carries.rotate`: then `Q` holds at the end of the loop, and of the
  rotation.
-/

namespace WatchdogVpn.Rotation

open Effect

variable {P X S : Type}

abbrev RotationLog (P X S : Type) : Type := List (Event (RotationAns (P := P) X) S)

/-- The interval that `can_rotate_now` waits for. -/
def minInterval (c : RotationEngine) (poolSize : Nat) : Rat :=
  if poolSizeCategory poolSize =
    .conservative then c.minSecondsBetweenRotations * c.conservativeIntervalMultiplier
  else c.minSecondsBetweenRotations

/-- The steps of a rotation keep `I`; what is remembered takes it to `J`, the last reading of the
clock to `Q`. -/
structure Carries (H : Handler (RotationAns (P := P) X) S) (G : S → RotationLog P X S → RotationReq P → Prop)
    (F : X → S → RotationLog P X S → Prop) (c : RotationEngine) (preflights : Bool)
    (I J Q : RotationHistory → S → RotationLog P X S → Prop) : Prop where
  attempt : ∀ {p t s l}, I t s l → wp H G (fun out => I out.2) F (tryProfile c preflights p t) s l
  start : ∀ {p t s l}, I t s l → wp H G (fun _ => I t) F (ask (.rollbackStart p)) s l
  read : ∀ {t s l}, I t s l → wp H G (fun _ => I t) F now s l
  stay : ∀ {t s l}, I t s l → J t s l
  remember : ∀ {t s l id}, I t s l → J (t.remember c id) s l
  good : ∀ {t s l id}, J t s l → J { t with lastGoodProfileId := id } s l
  stamp : ∀ {t s l}, J t s l → wp H G (fun at' => Q { t with lastRotationAt := some at' }) F now s l

namespace Carries

variable {H : Handler (RotationAns (P := P) X) S} {G : S → RotationLog P X S → RotationReq P → Prop}
  {F : X → S → RotationLog P X S → Prop} {c : RotationEngine} {preflights : Bool}
  {I J Q : RotationHistory → S → RotationLog P X S → Prop} {idOf : P → String} {pool : List P}
  {t : RotationHistory}
  {s : S} {l : RotationLog P X S} (h : Carries H G F c preflights I J Q)
include h

theorem finish {result : RotationResult P} (ht : J t s l) :
    wp H G (fun out => Q out.2) F (finish t result) s l :=
  wp_seq (h.stamp ht) fun _ _ _ hQ => hQ

/-- A rollback that fails is an attempt that failed. -/
theorem rollback (ht : I t s l) :
    wp H G (fun out s' l' => J out.2 s' l' ∧ (out.1 = none → I out.2 s' l')) F
      (rollback idOf c preflights pool t) s l := by
  unfold Rotation.rollback
  split
  · exact ⟨h.stay ht, fun _ => ht⟩
  refine wp_seq (h.start ht) fun _ s1 l1 ht1 => wp_seq (h.attempt ht1) fun out s2 l2 ht2 => ?_
  obtain ⟨status, t2⟩ := out
  simp only
  split
  · exact ⟨h.remember ht2, nofun⟩
  · exact ⟨h.stay ht2, fun _ => ht2⟩

theorem concludeRotation {category : PoolCategory} {k : Nat} {rollbackAttempted : Bool} (ht : I t s l) :
    wp H G (fun out => Q out.2) F
      (concludeRotation idOf c preflights pool category k rollbackAttempted t) s l := by
  have hfin : wp H G (fun out => J out.2) F (finalRollback idOf c preflights pool rollbackAttempted t) s l := by
    unfold finalRollback
    split
    · exact h.stay ht
    · exact wp_imp (h.rollback ht) fun _ _ _ hout => hout.1
  refine wp_seq hfin fun out s1 l1 ht1 => ?_
  obtain ⟨target, t1⟩ := out
  simp only
  split
  · exact h.finish ht1
  · split <;> exact h.finish ht1

/-- **The loop**, by induction on the candidates that are left. -/
theorem tryCandidates {category : PoolCategory} {cycleStart : Rat} (rest : List P) :
    ∀ (k failures : Nat) rollbackAttempted t s l, I t s l → wp H G (fun out => Q out.2) F
        (tryCandidates idOf c preflights pool category cycleStart rest k failures rollbackAttempted t) s l := by
  induction rest with
  | nil => exact fun k failures rollbackAttempted t s l ht => h.concludeRotation ht
  | cons p rest ih =>
    intro k failures rollbackAttempted t s l ht
    unfold Rotation.tryCandidates
    split
    · exact h.concludeRotation ht
    refine wp_seq (h.attempt ht) fun out s1 l1 ht1 => ?_
    obtain ⟨status, t1⟩ := out
    simp only
    split
    · exact h.finish (h.stay ht1)
    split
    · exact h.finish (h.good (h.remember ht1))
    refine wp_seq (h.read ht1) fun at' s2 l2 ht2 => ?_
    split
    · refine wp_seq (h.rollback ht2) fun out s3 l3 hout => ?_
      obtain ⟨target, t3⟩ := out
      obtain ⟨hJ, hI⟩ := hout
      simp only
      split
      · exact h.finish hJ
      split
      · exact h.finish hJ
      · exact ih _ _ _ _ _ _ (hI rfl)
    · exact ih _ _ _ _ _ _ ht2

theorem singleNodeCheck {p : P} (ht : I t s l) :
    wp H G (fun out => Q out.2) F (singleNodeCheck idOf c preflights p t) s l := by
  refine wp_seq (h.attempt ht) fun out s1 l1 ht1 => ?_
  obtain ⟨status, t1⟩ := out
  simp only
  split
  · exact h.finish (h.good (h.remember ht1))
  · exact h.finish (h.stay ht1)

/-- The rotation, where nothing depends on whether it was skipped. -/
theorem rotate (hskip : ∀ {t s l}, I t s l → Q t s l) {force : Bool}
    (ht : I { t with cleanupBarrierFailed := false } s l) :
    wp H G (fun out => Q out.2) F (rotate idOf c preflights pool force t) s l := by
  match pool with
  | [] => exact hskip ht
  | [p] => exact h.singleNodeCheck ht
  | p :: q :: rest =>
    have hmay : ∀ category, wp H G (fun _ => I { t with cleanupBarrierFailed := false }) F
        (canRotateNow c { t with cleanupBarrierFailed := false } category force) s l := by
      intro category
      unfold canRotateNow
      split
      · exact ht
      split
      · exact ht
      · exact wp_seq (h.read ht) fun _ _ _ ht' => ht'
    refine wp_seq (hmay _) fun may s1 l1 ht1 => ?_
    split
    · exact hskip ht1
    · exact wp_seq (h.read ht1) fun at' s2 l2 ht2 => h.tryCandidates _ _ _ _ _ _ _ ht2

end Carries

end WatchdogVpn.Rotation
