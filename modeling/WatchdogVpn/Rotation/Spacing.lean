import Mathlib
import WatchdogVpn.Rotation.Alternation

/-!
# The time between rotations

The engine keeps the time at which the latest rotation ended and the ids of the profiles that were
used last.

* `rotate_stamps`: a rotation that returns and was not skipped leaves the time at which it ended.
* `rotate_waits`: a rotation without force connects only if the interval since the time that was
  kept has passed.
* **`rotations_spaced`**: over any calls, the profiles used last are kept in order, and rotations
  are spaced from the latest one that returned.
* `raised_rotation_forgotten`: a rotation that raises leaves no time.
* `connects_torn_down`: no connection without a disconnect before it, in a rotation that raises or
  is killed as well.
-/

namespace WatchdogVpn.Rotation

open Effect List

variable {P X S : Type} {idOf : P → String} {c : RotationEngine} {pool : List P} {t : RotationHistory}

/-- When a rotation ended that was not skipped: the clock was read last, and not as the only
question. -/
def endOf : RotationLog P X S → Option Rat
  | ⟨_, .clock, some at'⟩ :: _ :: _ => some at'
  | _ => none

/-- How and when the latest rotation ended that was not skipped. -/
inductive Latest
  | never
  | returned (at' : Rat)
  | raised (at' : Rat)

/-- Any calls of an engine. A rotation that raises does so in an attempt, and has assigned only the
mark of the barrier; when it ended is not read from the clock. -/
inductive Calls (idOf : P → String) (c : RotationEngine) : RotationHistory → Latest → Prop
  | fresh : Calls idOf c {} .never
  | recorded {t : RotationHistory} {latest : Latest} (id : String) : Calls idOf c t latest →
      Calls idOf c (t.recordSuccessfulProfile c id) latest
  | rotated {t t' : RotationHistory} {latest : Latest} {X S : Type} {H : Handler (RotationAns (P := P) X) S}
      {preflights force : Bool} {pool : List P} {s s' : S} {l : RotationLog P X S} {result : RotationResult P} :
      Calls idOf c t latest → Ends H (rotate idOf c preflights pool force t) s [] (.ok (result, t')) s' l →
      Calls idOf c t' ((endOf l).elim latest .returned)
  | raised {t : RotationHistory} {latest : Latest} {X S : Type} {H : Handler (RotationAns (P := P) X) S}
      {preflights force : Bool} {pool : List P} {s s' : S} {l : RotationLog P X S} {x : X}
      (barrier : Bool) (at' : Rat) :
      Calls idOf c t latest → Ends H (rotate idOf c preflights pool force t) s [] (.error x) s' l →
      Calls idOf c { t with cleanupBarrierFailed := barrier } (.raised at')

/-- The profiles used last: none twice, no more than are to be kept, the last one first. -/
structure Kept (c : RotationEngine) (t : RotationHistory) : Prop where
  nodup : t.recentProfileIds.Nodup
  length : (t.recentProfileIds.length : Int) ≤ c.recentKeep
  head : t.recentProfileIds.head? = t.lastProfileId

theorem Kept.remember (hkeep : 1 ≤ c.recentKeep) (h : Kept c t) (id : String) : Kept c (t.remember c id) := by
  obtain ⟨n, hn⟩ : ∃ n : Nat, c.recentKeep = n + 1 := ⟨c.recentKeep.toNat - 1, by omega⟩
  have hrcnt : (t.remember c id).recentProfileIds = id :: (t.recentProfileIds.filter (· ≠ id)).take n := by
    change sliceTo _ c.recentKeep = _
    rw [hn, sliceTo]
    rfl
  have hnew : id ∉ t.recentProfileIds.filter (· ≠ id) := by simp
  constructor
  · rw [hrcnt, nodup_cons]
    exact ⟨fun hin => hnew (mem_of_mem_take hin), (h.nodup.filter _).sublist (take_sublist _ _)⟩
  · rw [hrcnt, length_cons]
    have := length_take_le n (t.recentProfileIds.filter (· ≠ id))
    omega
  · rw [hrcnt]
    rfl

theorem SameHistory.kept {t' : RotationHistory} (h : SameHistory t t') (hk : Kept c t) : Kept c t' := by
  rw [h]
  exact ⟨hk.nodup, hk.length, hk.head⟩

section Rotation

variable {H : Handler (RotationAns (P := P) X) S} {s : S} {l : RotationLog P X S} {preflights : Bool}

theorem leaves_asked {α : Type} {prog : RotationProg P X α} (hl : l ≠ []) :
    wp H (fun _ _ _ => True) (fun _ _ l' => l' ≠ []) (fun _ _ _ => True) prog s l :=
  wp_mono (wp_frame hl (fun _ _ _ _ => trivial) fun _ _ _ _ _ _ _ => cons_ne_nil _ _)
    (fun _ _ _ h => h) (fun _ _ _ h => h) fun _ _ _ _ => trivial

theorem tryProfile_asks (p : P) :
    wp H (fun _ _ _ => True) (fun out _ l' => SameHistory t out.2 ∧ l' ≠ []) (fun _ _ _ => True)
    (tryProfile c preflights p t) s l := by
  have hasks : wp H (fun _ _ _ => True) (fun _ _ l' => l' ≠ []) (fun _ _ _ => True)
      (tryProfile c preflights p t) s l := by
    cases preflights <;> exact ⟨trivial, fun _ _ _ => leaves_asked (cons_ne_nil _ _)⟩
  exact wp_mono (wp_and tryProfile_leaves hasks) (fun _ _ _ h => h) (fun _ _ _ h => h) fun _ _ _ _ => trivial

/-- **A rotation that returns keeps the profiles used last, and the time of its end unless it was
skipped.** -/
theorem rotate_stamps (hkeep : 1 ≤ c.recentKeep) (hk : Kept c t) {force : Bool} :
    wp H (fun _ _ _ => True) (fun out _ l' => Kept c out.2 ∧
      out.2.lastRotationAt = (endOf l').or t.lastRotationAt)
      (fun _ _ _ => True) (rotate idOf c preflights pool force t) s [] := by
  -- until a candidate succeeds the history is the old one; its end is stamped last
  have hcar : Carries H (fun _ _ _ => True) (fun _ _ _ => True) c preflights
      (fun t' _ l' => SameHistory t t' ∧ l' ≠ []) (fun t' _ l' => Kept c t' ∧ l' ≠ [])
      fun t' _ l' => Kept c t' ∧ t'.lastRotationAt = (endOf l').or t.lastRotationAt :=
    { attempt := fun ht => wp_imp (tryProfile_asks _) fun _ _ _ hout => ⟨by rw [hout.1, ht.1]; rfl, hout.2⟩
      start := fun ht => ⟨trivial, fun _ _ _ => ⟨ht.1, cons_ne_nil _ _⟩⟩
      read := fun ht => ⟨trivial, fun _ _ _ => ⟨ht.1, cons_ne_nil _ _⟩⟩
      stay := fun ht => ⟨ht.1.kept hk, ht.2⟩
      remember := fun ht => ⟨(ht.1.kept hk).remember hkeep _, ht.2⟩
      good := fun ht => ⟨⟨ht.1.nodup, ht.1.length, ht.1.head⟩, ht.2⟩
      stamp := fun {_ _ l} ht => ⟨trivial, fun at' _ _ => ⟨⟨ht.1.nodup, ht.1.length, ht.1.head⟩, by
        cases l with
        | nil => exact absurd rfl ht.2
        | cons ev l => rfl⟩⟩ }
  have hk' : Kept c { t with cleanupBarrierFailed := false } := ⟨hk.nodup, hk.length, hk.head⟩
  match pool with
  | [] => exact ⟨hk', rfl⟩
  | [p] =>
    refine wp_seq (tryProfile_asks p) fun out s1 l1 hout => ?_
    obtain ⟨status, t1⟩ := out
    have ht1 : SameHistory t t1 ∧ l1 ≠ [] := hout
    simp only
    split
    · exact hcar.finish (hcar.good (s := s1) (hcar.remember (s := s1) ht1))
    · exact hcar.finish (hcar.stay (s := s1) ht1)
  | p :: q :: rest =>
    have hmay : ∀ category, wp H (fun _ _ _ => True) (fun _ _ l' => endOf l' = none) (fun _ _ _ => True)
        (canRotateNow c { t with cleanupBarrierFailed := false } category force) s [] := by
      intro category
      unfold canRotateNow
      split
      · exact rfl
      split
      · exact rfl
      · exact ⟨trivial, fun _ _ _ => rfl⟩
    refine wp_seq (hmay _) fun may s1 l1 hend => ?_
    split
    · exact ⟨hk', by rw [hend]; rfl⟩
    · refine (wp_bind _ _ _ _).mpr ⟨trivial, fun at' s2 _ => ?_⟩
      exact hcar.tryCandidates _ _ _ _ _ _ _ ⟨rfl, cons_ne_nil _ _⟩

/-- The rotation began with a reading of the clock at which the interval had passed. -/
def Waited (c : RotationEngine) (n : Nat) (last : Rat) (l : RotationLog P X S) : Prop :=
  ∃ s start, l.getLast? = some ⟨s, .clock, some start⟩ ∧ minInterval c n ≤ start - last

theorem rotate_waits {last : Rat} (hlast : t.lastRotationAt = some last) (hpool : 2 ≤ pool.length) :
    wp H (fun _ l e => (∃ p, e = .connect p) → Waited c pool.length last l) (fun _ _ _ => True)
      (fun _ _ _ => True) (rotate idOf c preflights pool false t) s [] := by
  obtain ⟨lastId, recent, good, rotated, barrier⟩ := t
  cases hlast
  match pool, hpool with
  | p :: q :: rest, _ =>
    refine ⟨fun hconn => (nomatch hconn.choose_spec), fun start s1 _ => ?_⟩
    change wp _ _ _ _ (if decide (start - last ≥ minInterval c (p :: q :: rest).length) =
      false then _ else _) _ _
    split
    · trivial
    rename_i hwaited
    rw [Bool.not_eq_false, decide_eq_true_eq] at hwaited
    refine wp_guard (K := fun _ l => Waited c (p :: q :: rest).length last l) ⟨s, start, rfl, hwaited⟩
      (fun _ _ _ h _ => h) fun _ l e a _ h _ => ?_
    obtain ⟨s0, start, hfst, hint⟩ := h
    exact ⟨s0, start, by rw [getLast?_cons, hfst]; rfl, hint⟩

end Rotation

/-- The calls keep the profiles used last; and the time that is kept is that of the latest rotation,
if that returned. -/
theorem Calls.kept (hkeep : 1 ≤ c.recentKeep) {latest : Latest} (h : Calls idOf c t latest) :
    Kept c t ∧ ∀ at', latest = .returned at' → t.lastRotationAt = some at' := by
  induction h with
  | fresh => exact ⟨⟨nodup_nil, by simp; omega, rfl⟩, nofun⟩
  | recorded id _ ih =>
    unfold RotationHistory.recordSuccessfulProfile
    split
    · exact ih
    have hk := ih.1.remember hkeep id
    exact ⟨⟨hk.nodup, hk.length, hk.head⟩, ih.2⟩
  | @rotated _ t' latest _ _ _ _ _ _ _ _ l _ _ hends ih =>
    obtain ⟨hk, hstamp⟩ := (wp_ends (rotate_stamps hkeep ih.1) hends).1 _ rfl
    refine ⟨hk, fun at' hlat => hstamp.trans ?_⟩
    cases hend : endOf l with
    | none => exact ih.2 at' (by rwa [hend] at hlat)
    | some end' =>
      rw [hend] at hlat
      cases hlat
      rfl
  | raised barrier at' _ _ ih => exact ⟨⟨ih.1.nodup, ih.1.length, ih.1.head⟩, nofun⟩

/-- **Rotations are spaced.** After any calls with at least one id to keep, the ids that are kept
are distinct, as many as are to be kept at most, and the profile used last comes first; and if the
latest rotation that was not skipped returned, then every connect of the next rotation of two
profiles or more without force comes in a rotation that began when the interval since had passed. -/
theorem rotations_spaced (hkeep : 1 ≤ c.recentKeep) {latest : Latest} (h : Calls idOf c t latest) :
    Kept c t ∧ ∀ at', latest = .returned at' →
    ∀ {X S : Type} {H : Handler (RotationAns (P := P) X) S} {preflights : Bool}
      {pool : List P} {s s' : S} {l' later earlier : RotationLog P X S} {s₁ : S} {p : P} {a}, 2 ≤ pool.length →
      Exec H (rotate idOf c preflights pool false t) s [] s' l' → l' = later ++ ⟨s₁, .connect p, a⟩ :: earlier →
      Waited c pool.length at' earlier := by
  obtain ⟨hk, hlast⟩ := h.kept hkeep
  refine ⟨hk, fun at' hlat X S H preflights pool s s' l' later earlier s₁ p a hpool hexec hsplit => ?_⟩
  have hlaw := exec_lawful .init (rotate_waits (hlast at' hlat) hpool) hexec
  rw [hsplit] at hlaw
  exact (lawful_split hlaw).2.1 ⟨p, rfl⟩

/-- Whether a profile is connected in a log. -/
def hasConnect (l : RotationLog String Unit Unit) : Bool :=
  l.any fun e => match e.req with
    | .connect _ => true
    | _ => false

theorem hasConnect_split {l : RotationLog String Unit Unit} (h : hasConnect l = true) :
    ∃ p a later earlier, l = later ++ ⟨(), .connect p, a⟩ :: earlier := by
  obtain ⟨⟨s, e, a⟩, hmem, hconn⟩ := any_eq_true.mp h
  obtain ⟨later, earlier, hsplit⟩ := append_of_mem hmem
  cases e with
  | connect p => exact ⟨p, a, later, earlier, hsplit⟩
  | _ => cases hconn

/-- A forced rotation at `0` and the next one, without force, with the clock at `300`: the two
profiles wait for four minutes, and these have passed. -/
theorem rotations_spaced_forced :
    ∃ t' l p a later earlier, Calls (P := String) id {} t' (.returned 0) ∧ Kept {} t' ∧
    Exec (DriverAnswers.world (X := Unit) { clock := 300 }) (rotate id {} true ["a", "b"] false t') () [] () l ∧
    l = later ++ ⟨(), .connect p, a⟩ :: earlier ∧ 0 < minInterval {} 2 ∧ Waited {} 2 0 earlier := by
  obtain ⟨⟨_, t'⟩, l, hends, htest⟩ := DriverAnswers.ends (X := Unit) {} (rotate id {} true ["a", "b"] true {})
    (fun out l => endOf l == some 0 &&
      DriverAnswers.passes { clock := 300 } (rotate id {} true ["a", "b"] false out.2) fun _ => hasConnect)
    (by decide +kernel)
  rw [Bool.and_eq_true] at htest
  have hcalls := Calls.rotated .fresh hends
  rw [eq_of_beq htest.1] at hcalls
  obtain ⟨hkept, hspaced⟩ := rotations_spaced (by decide) hcalls
  obtain ⟨_, l', hnext, hconn⟩ := DriverAnswers.ends (X := Unit) { clock := 300 } _ _ htest.2
  obtain ⟨p, a, later, earlier, hsplit⟩ := hasConnect_split hconn
  have hexec := ends_exec hnext
  exact ⟨t', l', p, a, later, earlier, hcalls, hkept, hexec, hsplit, by decide +kernel,
    hspaced 0 rfl (by decide) hexec hsplit⟩

/-- A driver whose connect raises. -/
def raising : Handler (RotationAns (P := String) Unit) Unit where
  step _ e a _ := a = answer e
  cut _ _ _ := False
where
  answer : (e : RotationReq String) → RotationAns Unit e
    | .connect _ => .error ()
    | e => DriverAnswers.answer {} e

/-- The clock is before this time. -/
def clockBefore (time : Rat) : Event (RotationAns (P := String) Unit) Unit → Bool
  | ⟨_, .clock, some start⟩ => decide (start - 0 < time)
  | _ => true

/-- **A rotation that raises is forgotten.** The connect raises at `0`; the next rotation, without
force and with the clock still at `0`, connects at once, though two profiles are to wait for four
minutes. -/
theorem raised_rotation_forgotten :
    ∃ (l : RotationLog String Unit Unit) (out : RotationResult String × RotationHistory),
    Calls (P := String) id {} {} (.raised 0) ∧
    Ends (({} : DriverAnswers String).world (X := Unit)) (rotate id {} true ["a", "b"] false {}) ()
      [] (.ok out) () l ∧ .connect "a" true ∈ driverEvents l ∧
    (∀ s start, ⟨s, .clock, some start⟩ ∈ l → start - 0 < minInterval {} 2) := by
  obtain ⟨out, l, hends, htest⟩ := DriverAnswers.ends (X := Unit) {} (rotate id {} true ["a", "b"] false {})
    (fun _ l => decide (.connect "a" true ∈ driverEvents l) && l.all (clockBefore (minInterval {} 2)))
    (by decide +kernel)
  rw [Bool.and_eq_true, decide_eq_true_eq, all_eq_true] at htest
  have hfol : Follows (fun (_ _ : Unit) e => .answer (raising.answer e) () ()) raising :=
    ⟨fun _ _ _ _ _ _ h => by cases h; rfl, fun _ _ _ _ h => by cases h⟩
  have hraises : Ends raising (rotate id {} true ["a", "b"] false {}) () [] (.error ()) () _ :=
    drive_ends (i := ()) hfol rfl
  exact ⟨l, out, .raised false 0 .fresh hraises, hends, htest.1,
    fun s start hmem => by simpa [clockBefore] using htest.2 _ hmem⟩

/-- **Every connection of a rotation comes right after a disconnect that succeeded**, in every
execution, complete or cut off, whatever the driver, the health check and the clock answer or raise.
-/
theorem connects_torn_down {H : Handler (RotationAns (P := P) X) S} {preflights force : Bool} {s s' s1 : S}
    {l later earlier : RotationLog P X S}
    (hrun : Exec H (rotate idOf c preflights pool force t) s [] s' l) {p : P}
    {a : Option (RotationAns X (.connect p))} (hsplit : l = later ++ ⟨s1, .connect p, a⟩ :: earlier) :
    JustDisconnected earlier := by
  have hlaw := exec_lawful .init (orderly_rotate force t s []) hrun
  rw [hsplit] at hlaw
  exact (lawful_split hlaw).2.1 p rfl

/-- The rotation ends at the connect that raises. -/
theorem connects_torn_down_raising : ∃ p earlier, Exec raising (rotate id {} true ["a", "b"] false {}) () [] ()
    (⟨(), .connect p, some (.error ())⟩ :: earlier) ∧ JustDisconnected earlier := by
  have hfol : Follows (fun (_ _ : Unit) e => .answer (raising.answer e) () ()) raising :=
    ⟨fun _ _ _ _ _ _ h => by cases h; rfl, fun _ _ _ _ h => by cases h⟩
  have hrun : Exec raising (rotate id {} true ["a", "b"] false {}) () [] ()
      (⟨(), .connect "a", some (.error ())⟩ :: _) :=
    drive_exec hfol _ () _ _
  exact ⟨"a", _, hrun, connects_torn_down hrun (nil_append _).symm⟩

end WatchdogVpn.Rotation
