import WatchdogVpn.Rotation.Walk

/-!
# The cleanup barrier and the end of a rotation

What one rotation does to the tunnel is read off the calls it makes to the driver.

* `tryProfile_meets`, `rollback_meets`: an attempt ends with the profile up and checked, at the
  barrier (a tunnel that could not be torn down), or with every tunnel it opened torn down.
* `rotate_meets` lifts this over the loop, with the bounds on attempts, rollbacks and connects.
* **`cleanup_barrier`**: nothing is connected behind the barrier.
* **`rotation_outcome`**: what a returned success or failure says about the tunnel.
-/

namespace WatchdogVpn.Rotation

open Effect List

variable {P X S : Type}

/-! ## What the log says of the driver -/

/-- A call of the driver and whether it returned `True`. -/
inductive DriverEvent (P : Type) : Type
  | preflight (p : P) (ok : Bool)
  | disconnect (ok : Bool)
  | connect (p : P) (ok : Bool)
  deriving DecidableEq

def returnedTrue : Option (Except X Bool) → Bool
  | some (.ok b) => b
  | _ => false

def driverEvent : Event (RotationAns (P := P) X) S → Option (DriverEvent P)
  | ⟨_, .preflight p, a⟩ => some (.preflight p (returnedTrue a))
  | ⟨_, .disconnect, a⟩ => some (.disconnect (returnedTrue a))
  | ⟨_, .connect p, a⟩ => some (.connect p (returnedTrue a))
  | _ => none

variable (l : RotationLog P X S)

/-- The calls of the driver, the latest first. -/
def driverEvents : List (DriverEvent P) := l.filterMap driverEvent

def HealthSaid (p : P) (status : String) : Prop :=
  ∃ s, ⟨s, .healthCheck p, some (.ok status)⟩ ∈ l

def DriverEvent.isConnect : DriverEvent P → Bool
  | .connect _ _ => true
  | _ => false

def isRollbackStart : Event (RotationAns (P := P) X) S → Bool
  | ⟨_, .rollbackStart _, _⟩ => true
  | _ => false

def connects : Nat := (driverEvents l).countP DriverEvent.isConnect

def rollbacks : Nat := l.countP isRollbackStart

/-- Every disconnect returned `True`. -/
def Sound (d : List (DriverEvent P)) : Prop := .disconnect false ∉ d

/-- Every connect is followed by a disconnect that returned `True`. -/
def Closed (d : List (DriverEvent P)) : Prop :=
  ∀ later p ok earlier, d = later ++ .connect p ok :: earlier → .disconnect true ∈ later

/-- Every tunnel that was opened is torn down again. -/
structure Clean : Prop where
  sound : Sound (driverEvents l)
  closed : Closed (driverEvents l)

variable {d : List (DriverEvent P)}

theorem closed_cons {e : DriverEvent P} (he : ∀ p ok, e ≠ .connect p ok)
    (hd : e = .disconnect true ∨ Closed d) : Closed (e :: d) := by
  intro later p ok earlier heq
  cases later with
  | nil => exact absurd (cons.inj heq).1 (he p ok)
  | cons e' later =>
    obtain ⟨rfl, htail⟩ := cons.inj heq
    rcases hd with rfl | hd
    · exact mem_cons_self
    · exact mem_cons_of_mem _ (hd later p ok earlier htail)

theorem clean_nil : Clean ([] : RotationLog P X S) :=
  ⟨not_mem_nil, fun later p ok earlier hd => by simp [driverEvents] at hd⟩

/-! ## One attempt -/

/-- How an attempt to use `p` ends: with the profile up and checked, at the barrier, or with the
tunnel torn down. -/
inductive Tried (p : P) (t : RotationHistory) (l : RotationLog P X S) : String →
    RotationHistory → Prop
  | up (d : List (DriverEvent P)) (hd : driverEvents l = .connect p true :: d) (hs : Sound d)
  (hh : HealthSaid l p "ok") :
      Tried p t l "ok" t
  | barred (d : List (DriverEvent P)) (hd : driverEvents l = .disconnect false :: d)
  (hs : Sound d) :
      Tried p t l "cleanup_failed" { t with cleanupBarrierFailed := true }
  | down (status : String) (hne : status ≠ "ok") (hl : Clean l)
      (hh : status = "cleanup_failed" → ∃ q, HealthSaid l q "cleanup_failed") : Tried p t l status t

/-- The driver and the health check do not raise where the engine would not catch it. -/
structure Calm (H : Handler (RotationAns (P := P) X) S) : Prop where
  connect : ∀ s p x s', ¬ H.step s (.connect p) (.error x) s'
  healthCheck : ∀ s p x s', ¬ H.step s (.healthCheck p) (.error x) s'

/-- The program returns, and what it leaves satisfies `Q`. -/
abbrev Completes {α : Type} (H : Handler (RotationAns (P := P) X) S)
    (Q : α → S → RotationLog P X S → Prop)
    (p : RotationProg P X α) (s : S) (l : RotationLog P X S) : Prop :=
  wp H (fun _ _ _ => True) Q (fun _ _ _ => False) p s l

section Attempt

variable {H : Handler (RotationAns (P := P) X) S} {s : S} {l l' l'' l0 : RotationLog P X S}
  {t : RotationHistory} {p : P}
  {c : RotationEngine} {preflights : Bool}

/-- At most `n` connects and no rollback between two logs. -/
structure Within (l l' : RotationLog P X S) (n : Nat) : Prop where
  connects : connects l' ≤ connects l + n
  rollbacks : rollbacks l' = rollbacks l

theorem Within.trans {n m : Nat} (h1 : Within l l' n) (h2 : Within l' l'' m) :
    Within l l'' (n + m) := by
  have hc := h1.connects
  have hc' := h2.connects
  exact ⟨by omega, h2.rollbacks.trans h1.rollbacks⟩

theorem sound_cons {e : DriverEvent P} (hd : Sound d) (he : e ≠ .disconnect false) :
    Sound (e :: d) := not_mem_cons_of_ne_of_not_mem he.symm hd

theorem HealthSaid.cons {p : P} {status : String} (hh : HealthSaid l p status)
    (ev : Event (RotationAns (P := P) X) S) : HealthSaid (ev :: l) p status := by
  obtain ⟨s, hs⟩ := hh
  exact ⟨s, mem_cons_of_mem _ hs⟩

theorem disconnected_meets : Completes H
    (fun b _ l' => driverEvents l' = .disconnect b :: driverEvents l ∧ Within l l' 0)
    disconnected s l := by
  refine ⟨trivial, fun a s' _ => ?_⟩
  cases a with
  | ok b | error x => exact ⟨rfl, ⟨le_rfl, rfl⟩⟩

theorem preflightOk_meets (hl : Clean l) : Completes H (fun _ _ l' => Clean l' ∧ Within l l' 0)
    (preflightOk preflights p) s l := by
  unfold preflightOk
  split
  · refine ⟨trivial, fun a s' _ => ?_⟩
    have hclean : Clean (⟨s, .preflight p, some a⟩ :: l) :=
      ⟨sound_cons hl.sound nofun, closed_cons nofun (.inr hl.closed)⟩
    cases a <;> exact ⟨hclean, ⟨le_rfl, rfl⟩⟩
  · exact ⟨hl, ⟨le_rfl, rfl⟩⟩

/-- The cleanup of a failed attempt: the tunnel is torn down, or the barrier is reached. -/
theorem cleanupFailedAttempt_meets (p : P) {status : String} (hl : Sound (driverEvents l))
    (hne : status ≠ "ok") (hh : status = "cleanup_failed" → ∃ q, HealthSaid l q "cleanup_failed") :
    Completes H (fun out _ l' => Tried p t l' out.1 out.2 ∧ Within l l' 0)
      (cleanupFailedAttempt t status) s l := by
  refine (wp_bind _ _ _ _).mpr ⟨trivial, fun a s' _ => ?_⟩
  have hw : Within l (⟨s, .disconnect, some a⟩ :: l) 0 := ⟨le_rfl, rfl⟩
  match a with
  | .ok true =>
    refine ⟨.down status hne ⟨sound_cons hl nofun, closed_cons nofun (.inl rfl)⟩ fun he => ?_, hw⟩
    obtain ⟨q, hq⟩ := hh he
    exact ⟨q, hq.cons _⟩
  | .ok false | .error x => exact ⟨.barred _ rfl hl, hw⟩

theorem warmUp_meets : Completes H (fun _ _ l' => driverEvents l' = driverEvents l ∧ Within l l' 0)
    (warmUp c) s l := by
  unfold warmUp
  split
  · exact ⟨trivial, fun _ _ _ => ⟨rfl, ⟨le_rfl, rfl⟩⟩⟩
  · exact ⟨rfl, ⟨le_rfl, rfl⟩⟩

variable (hcalm : Calm H)
include hcalm

theorem checkConnected_meets (hd : driverEvents l = .connect p true :: d) (hs : Sound d) :
    Completes H (fun out _ l' => Tried p t l' out.1 out.2 ∧ Within l l' 0)
      (checkConnected c p t) s l := by
  refine wp_seq warmUp_meets fun _ s1 l1 hw => ?_
  obtain ⟨hd1, hw1⟩ := hw
  rw [hd] at hd1
  refine (wp_bind _ _ _ _).mpr ⟨trivial, fun a s2 hstep => ?_⟩
  cases a with
  | error x => exact absurd hstep (hcalm.healthCheck _ _ _ _)
  | ok status =>
    set l2 : RotationLog P X S := ⟨s1, .healthCheck p, some (.ok status)⟩ :: l1
    have hsaid : HealthSaid l2 p status := ⟨s1, mem_cons_self⟩
    have hw2 : Within l l2 0 := ⟨hw1.connects, hw1.rollbacks⟩
    have hd2 : driverEvents l2 = .connect p true :: d := hd1
    change wp _ _ _ _ (if status ≠ "ok" then cleanupFailedAttempt t status
      else pure (status, t)) _ l2
    split
    · rename_i hne
      have hsound : Sound (driverEvents l2) := hd2 ▸ sound_cons hs nofun
      refine wp_imp (cleanupFailedAttempt_meets p hsound hne fun he => ⟨p, he ▸ hsaid⟩)
        fun out s' l' hout => ?_
      exact ⟨hout.1, hw2.trans hout.2⟩
    · rename_i hok
      have hstat : status = "ok" := not_not.mp hok
      subst hstat
      exact ⟨.up d hd2 hs hsaid, hw2⟩

theorem tryProfile_meets (hl : Clean l) :
    Completes H (fun out _ l' => Tried p t l' out.1 out.2 ∧ Within l l' 1)
      (tryProfile c preflights p t) s l := by
  refine wp_seq (preflightOk_meets hl) fun ok s1 l1 h1 => ?_
  obtain ⟨hl1, hw1⟩ := h1
  split
  · exact ⟨.down "preflight_failed" (by decide) hl1 (fun he => by simp at he),
      hw1.connects.trans (by omega), hw1.rollbacks⟩
  refine wp_seq disconnected_meets fun torn s2 l2 h2 => ?_
  obtain ⟨hd2, hw2⟩ := h2
  have hw12 := hw1.trans hw2
  split
  · rename_i htorn
    rw [htorn] at hd2
    exact ⟨.barred _ hd2 hl1.sound, hw12.connects.trans (by omega), hw12.rollbacks⟩
  rename_i htorn
  rw [Bool.not_eq_false] at htorn
  rw [htorn] at hd2
  refine (wp_bind _ _ _ _).mpr ⟨trivial, fun a s3 hstep => ?_⟩
  cases a with
  | error x => exact absurd hstep (hcalm.connect _ _ _ _)
  | ok b =>
    set l3 : RotationLog P X S := ⟨s2, .connect p, some (.ok b)⟩ :: l2
    have hd3 : driverEvents l3 = .connect p b :: .disconnect true ::
        driverEvents l1 := congrArg _ hd2
    have hs2 : Sound (.disconnect true :: driverEvents l1) := sound_cons hl1.sound nofun
    have hw3 : Within l2 l3 1 := by
      refine ⟨?_, rfl⟩
      rw [connects, connects, hd3, hd2, countP_cons_of_pos rfl]
    have hw : Within l l3 1 := hw12.trans hw3
    cases b with
    | false =>
      have hsound : Sound (driverEvents l3) := hd3 ▸ sound_cons hs2 nofun
      change Completes H (fun out _ l' => Tried p t l' out.1 out.2 ∧ Within l l' 1)
        (cleanupFailedAttempt t "down") s3 _
      exact wp_imp (cleanupFailedAttempt_meets p hsound (by decide) fun he => by simp at he)
        fun out s' l' hout =>
        ⟨hout.1, hw.trans hout.2⟩
    | true =>
      change Completes H (fun out _ l' => Tried p t l' out.1 out.2 ∧ Within l l' 1)
        (checkConnected c p t) s3 _
      exact wp_imp (checkConnected_meets hcalm hd3 hs2) fun out s' l' hout =>
        ⟨hout.1, hw.trans hout.2⟩

end Attempt

/-! ## The rotation -/

inductive RolledBack (pool : List P) (l : RotationLog P X S) : Option P → RotationHistory → Prop
  | up (q : P) (t : RotationHistory) (ht : t.cleanupBarrierFailed = false) (hq : q ∈ pool)
  (d : List (DriverEvent P))
      (hd : driverEvents l = .connect q true :: d) (hs : Sound d) (hh : HealthSaid l q "ok") :
        RolledBack pool l (some q) t
  | barred (t : RotationHistory) (ht : t.cleanupBarrierFailed = true) (d : List (DriverEvent P))
      (hd : driverEvents l = .disconnect false :: d) (hs : Sound d) : RolledBack pool l none t
  | down (t : RotationHistory) (ht : t.cleanupBarrierFailed = false) (hl : Clean l) :
      RolledBack pool l none t

/-- How a rotation ends: with a profile of the pool up and checked, at the barrier, after a health
check whose answer is the engine's own word for the barrier, or with every tunnel torn down. -/
inductive Ended (pool : List P) (l : RotationLog P X S) (result : RotationResult P) : Prop
  | up (q : P) (hq : q ∈ pool) (d : List (DriverEvent P))
  (hd : driverEvents l = .connect q true :: d) (hs : Sound d)
      (hh : HealthSaid l q "ok") (hp : result.profile = some q) (hr : result.success = true)
      (hc : result.cleanupFailed = false)
  | barred (d : List (DriverEvent P)) (hd : driverEvents l = .disconnect false :: d) (hs : Sound d)
      (hp : result.profile = none) (hr : result.success = false) (hc : result.cleanupFailed = true)
  | said (q : P) (hh : HealthSaid l q "cleanup_failed") (hl : Clean l) (hp : result.profile = none)
      (hr : result.success = false) (hc : result.cleanupFailed = true)
  | down (hl : Clean l) (hp : result.profile = none) (hr : result.success = false)
  (hc : result.cleanupFailed = false)

/-- The bounds of a rotation over `n` candidates. -/
structure Bounded (c : RotationEngine) (n : Nat) (result : RotationResult P)
    (l : RotationLog P X S) : Prop where
  attempts : (result.attempts : Int) ≤ max c.maxAttemptsPerCycle 1
  candidates : result.attempts ≤ n
  rollbacks : rollbacks l ≤ 1
  connects : connects l ≤ result.attempts + 1

section Rotate

variable {H : Handler (RotationAns (P := P) X) S} {s : S} {l : RotationLog P X S}
  {t : RotationHistory}
  {c : RotationEngine} {preflights : Bool} {pool : List P} {idOf : P → String} {n : Nat}
  {result : RotationResult P}

theorem Ended.tick (he : Ended pool l result) {a : Option Rat} :
    Ended pool (⟨s, .clock, a⟩ :: l) result := by
  cases he with
  | up q hq d hd hs hh hp hr hc => exact .up q hq d hd hs (hh.cons _) hp hr hc
  | barred d hd hs hp hr hc => exact .barred d hd hs hp hr hc
  | said q hh hl hp hr hc => exact .said q (hh.cons _) ⟨hl.sound, hl.closed⟩ hp hr hc
  | down hl hp hr hc => exact .down ⟨hl.sound, hl.closed⟩ hp hr hc

theorem finish_meets (he : Ended pool l result) (hb : Bounded c n result l) :
    Completes H (fun out _ l' => Ended pool l' out.1 ∧ Bounded c n out.1 l')
      (finish t result) s l := by
  refine ⟨trivial, fun a s' _ => ⟨he.tick, ?_⟩⟩
  exact ⟨hb.attempts, hb.candidates, hb.rollbacks, hb.connects⟩

theorem rollbackTarget_mem {q : P} (hq : rollbackTarget idOf t pool = some q) : q ∈ pool := by
  unfold rollbackTarget at hq
  split at hq
  · cases hq
  split at hq
  · cases hq
  · exact mem_of_find?_eq_some hq

/-- The engine is in its loop with `rest` to try. -/
structure Looping (c : RotationEngine) (n : Nat) (rest : List P) (k : Nat)
    (rollbackAttempted : Bool) (t : RotationHistory) (l : RotationLog P X S) : Prop where
  clean : Clean l
  barrier : t.cleanupBarrierFailed = false
  attempts : (k : Int) ≤ max c.maxAttemptsPerCycle 1
  candidates : k + rest.length ≤ n
  rollback : rollbacks l ≤ rollbackAttempted.toNat
  connect : connects l ≤ k + rollbacks l

variable (hcalm : Calm H)
include hcalm

theorem rollback_meets (hl : Clean l) (ht : t.cleanupBarrierFailed = false) :
    Completes H (fun out _ l' => RolledBack pool l' out.1 out.2 ∧
      connects l' + rollbacks l ≤ connects l + rollbacks l' ∧
        rollbacks l' ≤ rollbacks l + 1)
      (rollback idOf c preflights pool t) s l := by
  unfold rollback
  split
  · exact ⟨.down t ht hl, le_rfl, Nat.le_succ _⟩
  rename_i q hq
  refine ⟨trivial, fun a s1 _ => ?_⟩
  set l1 : RotationLog P X S := ⟨s, .rollbackStart q, some a⟩ :: l with hl1
  have hclean : Clean l1 := ⟨hl.sound, hl.closed⟩
  have hroll : rollbacks l1 = rollbacks l + 1 := countP_cons_of_pos rfl
  have hconn : connects l1 = connects l := rfl
  change Completes H _ (tryProfile c preflights q t >>= _) s1 l1
  refine wp_seq (tryProfile_meets hcalm hclean) fun out s2 l2 hout => ?_
  obtain ⟨status, t2⟩ := out
  obtain ⟨htried, hw⟩ := hout
  have hc := hw.connects
  have hr := hw.rollbacks
  have hcount : connects l2 + rollbacks l ≤ connects l + rollbacks l2 ∧
      rollbacks l2 ≤ rollbacks l + 1 := by
    omega
  simp only at htried ⊢
  cases htried with
  | up d hd hs hh => exact ⟨.up q _ ht (rollbackTarget_mem hq) d hd hs hh, hcount⟩
  | barred d hd hs => exact ⟨.barred _ rfl d hd hs, hcount⟩
  | down status hne hl hh =>
    rw [if_neg hne]
    exact ⟨.down t ht hl, hcount⟩

theorem finalRollback_meets {rollbackAttempted : Bool} (hl : Clean l)
    (ht : t.cleanupBarrierFailed = false) (hr : rollbacks l ≤ rollbackAttempted.toNat) :
    Completes H (fun out _ l' => RolledBack pool l' out.1 out.2 ∧
      connects l' + rollbacks l ≤ connects l + rollbacks l' ∧
        rollbacks l' ≤ 1)
      (finalRollback idOf c preflights pool rollbackAttempted t) s l := by
  cases rollbackAttempted with
  | true => exact ⟨.down t ht hl, le_rfl, hr⟩
  | false =>
    refine wp_imp (rollback_meets hcalm hl ht) fun out s' l' hout => ⟨hout.1, hout.2.1, ?_⟩
    have h0 : rollbacks l ≤ 0 := hr
    omega

theorem concludeRotation_meets {category : PoolCategory} {k : Nat} {rollbackAttempted : Bool}
    {rest : List P} (hloop : Looping c n rest k rollbackAttempted t l) :
    Completes H (fun out _ l' => Ended pool l' out.1 ∧ Bounded c n out.1 l')
      (concludeRotation idOf c preflights pool category k rollbackAttempted t) s l := by
  refine wp_seq (finalRollback_meets hcalm hloop.clean hloop.barrier hloop.rollback)
    fun out s1 l1 hout => ?_
  obtain ⟨target, t1⟩ := out
  obtain ⟨hroll, hc, hr⟩ := hout
  have hconn := hloop.connect
  have hcand := hloop.candidates
  have hbd : ∀ result : RotationResult P, result.attempts = k → Bounded c n result l1 := by
    intro result hk
    exact ⟨by rw [hk]; exact hloop.attempts, by omega, hr, by omega⟩
  simp only at hroll ⊢
  cases hroll with
  | up q t1 ht hq d hd hs hh =>
    rw [if_neg (by simp [ht])]
    exact finish_meets (.up q hq d hd hs hh rfl rfl rfl) (hbd _ rfl)
  | barred t1 ht d hd hs =>
    rw [if_pos ht]
    exact finish_meets (.barred d hd hs rfl rfl rfl) (hbd _ rfl)
  | down t1 ht hl =>
    rw [if_neg (by simp [ht])]
    exact finish_meets (.down hl rfl rfl rfl) (hbd _ rfl)

theorem tryCandidates_meets {category : PoolCategory} {cycleStart : Rat} (rest : List P) :
    ∀ (k failures : Nat) rollbackAttempted t s l, (∀ p ∈ rest, p ∈ pool) →
    Looping c n rest k rollbackAttempted t l →
      Completes H (fun out _ l' => Ended pool l' out.1 ∧ Bounded c n out.1 l')
        (tryCandidates idOf c preflights pool category cycleStart rest k failures rollbackAttempted
          t) s l := by
  induction rest with
  | nil =>
    intro k failures rollbackAttempted t s l _ hloop
    exact concludeRotation_meets hcalm hloop
  | cons p rest ih =>
    intro k failures rollbackAttempted t s l hmem hloop
    unfold tryCandidates
    split
    · exact concludeRotation_meets hcalm hloop
    refine wp_seq (tryProfile_meets hcalm hloop.clean) fun out s1 l1 hout => ?_
    obtain ⟨status, t1⟩ := out
    obtain ⟨htried, hw⟩ := hout
    have hc := hw.connects
    have hr := hw.rollbacks
    have hconn := hloop.connect
    have hroll := hloop.rollback
    have hcand : k + 1 + rest.length ≤ n := by
      have := hloop.candidates
      rw [length_cons] at this
      omega
    have hone : rollbackAttempted.toNat ≤ 1 := Bool.toNat_le _
    -- an attempt connects at most once, and so does the one rollback
    have hbd : ∀ (result : RotationResult P) (l' : RotationLog P X S), result.attempts = k + 1 →
        connects l' ≤ k + 1 + rollbacks l' → rollbacks l' ≤ 1 → Bounded c n result l' := by
      intro result l' hk hc' hr'
      refine ⟨?_, ?_, hr', ?_⟩ <;> rw [hk] <;> omega
    simp only at htried ⊢
    cases htried with
    | up d hd hs hh =>
      exact finish_meets (.up p (hmem p mem_cons_self) d hd hs hh rfl rfl rfl)
        (hbd _ _ rfl (by omega) (by omega))
    | barred d hd hs =>
      exact finish_meets (.barred d hd hs rfl rfl rfl) (hbd _ _ rfl (by omega) (by omega))
    | down status hne hl hh =>
      split
      · rename_i he
        obtain ⟨q, hq⟩ := hh he
        exact finish_meets (.said q hq hl rfl rfl rfl) (hbd _ _ rfl (by omega) (by omega))
      refine (wp_bind _ _ _ _).mpr ⟨trivial, fun a s2 _ => ?_⟩
      set l2 : RotationLog P X S := ⟨s1, .clock, some a⟩ :: l1 with hl2
      have hclean : Clean l2 := ⟨hl.sound, hl.closed⟩
      have hconn2 : connects l2 = connects l1 := rfl
      have hroll2 : rollbacks l2 = rollbacks l1 := rfl
      have hrest : ∀ q ∈ rest, q ∈ pool := fun q hq => hmem q (mem_cons_of_mem _ hq)
      simp only [wp_ret]
      split
      · -- there was no rollback before, and there will be none after this one
        rename_i hroll'
        rw [hroll'.1, Bool.toNat_false] at hroll
        refine wp_seq (rollback_meets hcalm hclean hloop.barrier) fun out s3 l3 hout => ?_
        obtain ⟨target, t3⟩ := out
        obtain ⟨hrolled, hc3, hr3⟩ := hout
        simp only at hrolled ⊢
        cases hrolled with
        | up q t3 ht hq d hd hs hh =>
          rw [if_neg (by simp [ht])]
          exact finish_meets (.up q hq d hd hs hh rfl rfl rfl) (hbd _ _ rfl (by omega) (by omega))
        | barred t3 ht d hd hs =>
          rw [if_pos ht]
          exact finish_meets (.barred d hd hs rfl rfl rfl) (hbd _ _ rfl (by omega) (by omega))
        | down t3 ht hl3 =>
          rw [if_neg (by simp [ht])]
          refine ih (k + 1) (failures + 1) true t3 s3 l3 hrest
            ⟨hl3, ht, by omega, hcand, ?_, by omega⟩
          rw [Bool.toNat_true]
          omega
      · exact ih (k + 1) (failures + 1) rollbackAttempted t s2 l2 hrest
          ⟨hclean, hloop.barrier, by omega, hcand, by omega, by omega⟩

theorem singleNodeCheck_meets {p : P} :
    Completes H (fun out _ l' => Ended [p] l' out.1 ∧ Bounded c 1 out.1 l')
      (singleNodeCheck idOf c preflights p t) s [] := by
  refine wp_seq (tryProfile_meets hcalm clean_nil) fun out s1 l1 hout => ?_
  obtain ⟨status, t1⟩ := out
  obtain ⟨htried, hw⟩ := hout
  have hc : connects l1 ≤ 0 + 1 := hw.connects
  have hr : rollbacks l1 = 0 := hw.rollbacks
  have hbd : ∀ result : RotationResult P, result.attempts = 1 → Bounded c 1 result l1 := by
    intro result hk
    exact ⟨by rw [hk]; exact le_max_right _ _, by omega, by omega, by omega⟩
  simp only at htried ⊢
  cases htried with
  | up d hd hs hh => exact finish_meets (.up p mem_cons_self d hd hs hh rfl rfl rfl) (hbd _ rfl)
  | barred d hd hs => exact finish_meets (.barred d hd hs rfl rfl rfl) (hbd _ rfl)
  | down status hne hl hh =>
    rw [if_neg hne]
    by_cases he : status = "cleanup_failed"
    · obtain ⟨q, hq⟩ := hh he
      exact finish_meets (.said q hq hl rfl rfl (by simp [he])) (hbd _ rfl)
    · exact finish_meets (.down hl rfl rfl (by simp [he])) (hbd _ rfl)

omit hcalm in
theorem candidates_cases (idOf : P → String) (t : RotationHistory) (pool : List P) :
    (candidates idOf t pool = pool ∧ ∀ p ∈ pool, idOf p ∈ t.blockedIds) ∨
      candidates idOf t pool = pool.filter (fun p => idOf p ∉ t.blockedIds) ∧
      candidates idOf t pool ≠ [] := by
  unfold candidates
  simp only
  split
  · rename_i hne
    exact .inr ⟨rfl, hne⟩
  · rename_i hnil
    rw [not_not, filter_eq_nil_iff] at hnil
    exact .inl ⟨rfl, fun p hp => by simpa using hnil p hp⟩

omit hcalm in
theorem mem_of_candidates {p : P} (hp : p ∈ candidates idOf t pool) : p ∈ pool := by
  rcases candidates_cases idOf t pool with ⟨he, -⟩ | ⟨he, -⟩
  · exact he ▸ hp
  · rw [he] at hp
    exact mem_of_mem_filter hp

omit hcalm in
theorem candidates_ne_nil (hne : pool ≠ []) : candidates idOf t pool ≠ [] := by
  rcases candidates_cases idOf t pool with ⟨he, -⟩ | ⟨-, hne'⟩
  · rw [he]; exact hne
  · exact hne'

variable {force : Bool}

theorem rotatePool_meets (ht : t.cleanupBarrierFailed = false) :
    Completes H (fun out _ l' => Ended pool l' out.1 ∧
      Bounded c (candidates idOf t pool).length out.1 l')
      (rotatePool idOf c preflights pool force t) s [] := by
  have hnil : Clean ([] : RotationLog P X S) := clean_nil
  have hmay : Completes H (fun _ _ l' => Clean l' ∧ Within [] l' 0)
      (canRotateNow c t (poolSizeCategory pool.length) force) s [] := by
    unfold canRotateNow
    split
    · exact ⟨hnil, ⟨le_rfl, rfl⟩⟩
    split
    · exact ⟨hnil, ⟨le_rfl, rfl⟩⟩
    · exact ⟨trivial, fun _ _ _ => ⟨⟨hnil.sound, hnil.closed⟩, ⟨le_rfl, rfl⟩⟩⟩
  refine wp_seq hmay fun may s1 l1 hout => ?_
  obtain ⟨hl1, hw1⟩ := hout
  have hc1 : connects l1 ≤ 0 + 0 := hw1.connects
  have hr1 : rollbacks l1 = 0 := hw1.rollbacks
  split
  · refine ⟨.down hl1 rfl rfl rfl, ⟨?_, Nat.zero_le _, by omega, by omega⟩⟩
    exact le_max_of_le_right (by simp)
  refine (wp_bind _ _ _ _).mpr ⟨trivial, fun a s2 _ => ?_⟩
  refine tryCandidates_meets hcalm _ 0 0 false t s2 _ (fun p hp => mem_of_candidates hp) ?_
  refine ⟨⟨hl1.sound, hl1.closed⟩, ht, le_max_of_le_right (by simp), by omega, ?_, ?_⟩
  · exact hr1.le
  · exact hc1.trans (Nat.zero_le _)

/-- Every rotation returns, ends in one of the four ways and keeps to its bounds. -/
theorem rotate_meets :
    Completes H (fun out _ l' => Ended pool l' out.1 ∧
      Bounded c (candidates idOf t pool).length out.1 l')
      (rotate idOf c preflights pool force t) s [] := by
  match pool with
  | [] => exact ⟨.down clean_nil rfl rfl rfl,
      ⟨le_max_of_le_right (by simp), Nat.zero_le _, Nat.zero_le _, Nat.zero_le _⟩⟩
  | [p] =>
    refine wp_imp (singleNodeCheck_meets hcalm) fun out s' l' hout =>
      ⟨hout.1, hout.2.attempts, ?_, hout.2.rollbacks, hout.2.connects⟩
    have hpos : 0 < (candidates idOf t [p]).length :=
      length_pos_of_ne_nil (candidates_ne_nil (by simp))
    exact hout.2.candidates.trans hpos
  | p :: q :: rest =>
    exact rotatePool_meets (t := { t with cleanupBarrierFailed := false }) hcalm rfl

variable {o : Except X (RotationResult P × RotationHistory)}

theorem rotate_ends {s' : S} {l' : RotationLog P X S}
    (he : Ends H (rotate idOf c preflights pool force t) s [] o s' l') :
    ∃ result t', o = .ok (result, t') ∧ Ended pool l' result ∧
    Bounded c (candidates idOf t pool).length result l' := by
  have hmeets := wp_ends (rotate_meets hcalm) he
  cases o with
  | error x => exact (hmeets.2 x rfl).elim
  | ok out => exact ⟨out.1, out.2, rfl, hmeets.1 _ rfl⟩

/-- **The cleanup barrier.** Every rotation returns. Once a disconnect did not return `True` no
connect is made any more, and the result says that the cleanup failed and names no profile; and it
says so only then, or when a health check itself answered with the engine's own word
`cleanup_failed`. -/
theorem cleanup_barrier {s' : S}
    {l' : RotationLog P X S} (he : Ends H (rotate idOf c preflights pool force t) s [] o s' l') :
    ∃ result t', o = .ok (result, t') ∧
    (∀ later earlier, driverEvents l' = later ++ .disconnect false :: earlier →
        (∀ p ok, .connect p ok ∉ later) ∧ result.cleanupFailed = true ∧ result.success = false ∧
          result.profile = none) ∧
      (result.cleanupFailed = true → .disconnect false ∈ driverEvents l' ∨
        ∃ q, HealthSaid l' q "cleanup_failed") := by
  obtain ⟨result, t', ho, hended, -⟩ := rotate_ends hcalm he
  refine ⟨result, t', ho, ?_, ?_⟩
  · intro later earlier hd
    have hmem : .disconnect false ∈ driverEvents l' := by
      rw [hd]
      exact mem_append_right _ mem_cons_self
    cases hended with
    | up q hq d hd' hs hh hp hr hc =>
      rw [hd'] at hmem
      exact absurd hmem (sound_cons hs (by simp))
    | said q hh hl hp hr hc | down hl hp hr hc => exact absurd hmem hl.sound
    | barred d hd' hs hp hr hc =>
      refine ⟨fun p ok hin => ?_, hc, hr, hp⟩
      rw [hd'] at hd
      cases later with
      | nil => cases hin
      | cons e later =>
        -- the barrier is the latest disconnect that failed
        obtain ⟨rfl, hd'⟩ := cons.inj hd
        exact hs (by rw [hd']; exact mem_append_right _ mem_cons_self)
  · intro hcln
    cases hended with
    | up q hq d hd' hs hh hp hr hc => rw [hc] at hcln; cases hcln
    | said q hh hl hp hr hc => exact .inr ⟨q, hh⟩
    | down hl hp hr hc => rw [hc] at hcln; cases hcln
    | barred d hd' hs hp hr hc => exact .inl (by rw [hd']; exact mem_cons_self)

omit hcalm in
theorem DriverAnswers.calm (d : DriverAnswers P) : Calm (d.world (X := X)) := ⟨nofun, nofun⟩

omit hcalm in
/-- Of three profiles none is reached, since the first tunnel cannot be torn down. -/
theorem cleanup_barrier_stuck :
    ∃ (l' : RotationLog String Unit Unit) (result : RotationResult String),
    .disconnect false ∈ driverEvents l' ∧
    ∀ later earlier, driverEvents l' = later ++ .disconnect false :: earlier →
      (∀ p ok, .connect p ok ∉ later) ∧ result.cleanupFailed = true ∧ result.success = false ∧
      result.profile = none := by
  obtain ⟨out, l', hends, hmem⟩ := DriverAnswers.ends (X := Unit) { disconnect := false }
    (rotate id {} true ["a", "b", "c"] true {})
      (fun _ l => decide (.disconnect false ∈ driverEvents l)) (by decide +kernel)
  obtain ⟨result, t', -, hbar, -⟩ := cleanup_barrier (DriverAnswers.calm _) hends
  exact ⟨l', result, by simpa using hmem, hbar⟩

omit hcalm in
/-- **A word with two meanings.** Every disconnect returns `True`, but the health check answers
`cleanup_failed`, which the engine takes for its own word and reports that the cleanup failed. -/
theorem cleanup_failed_said :
    ∃ (l' : RotationLog String Unit Unit) (result : RotationResult String) (t' : RotationHistory),
    Ends (DriverAnswers.world { healthCheck := fun _ => "cleanup_failed" })
      (rotate id {} true ["a", "b"] true {}) () []
      (.ok (result, t')) () l' ∧ .disconnect false ∉ driverEvents l' ∧
      result.cleanupFailed = true := by
  obtain ⟨out, l', hends, htest⟩ :=
    DriverAnswers.ends (X := Unit) { healthCheck := fun _ => "cleanup_failed" }
    (rotate id {} true ["a", "b"] true {})
    (fun out l => decide (.disconnect false ∉ driverEvents l) && out.1.cleanupFailed)
      (by decide +kernel)
  obtain ⟨result, t'⟩ := out
  simp only [Bool.and_eq_true, decide_eq_true_eq] at htest
  exact ⟨l', result, t', hends, htest⟩

/-- **The end of a rotation.** A returned success leaves its profile connected, checked and from the
pool, the connect being the last call of the driver; a returned failure other than at the barrier
leaves every connect torn down; and attempts, rollbacks and connects keep to their bounds. -/
theorem rotation_outcome (hmax : 1 ≤ c.maxAttemptsPerCycle) {force : Bool}
    {o : Except X (RotationResult P × RotationHistory)} {s' : S} {l' : RotationLog P X S}
    (he : Ends H (rotate idOf c preflights pool force t) s [] o s' l') :
    ∃ result t', o = .ok (result, t') ∧
      (result.success = true → ∃ p ∈ pool, result.profile = some p ∧ HealthSaid l' p "ok" ∧
        (driverEvents l').head? = some (.connect p true)) ∧
      (result.success = false → result.cleanupFailed = false → Closed (driverEvents l')) ∧
      result.attempts ≤ min c.maxAttemptsPerCycle (candidates idOf t pool).length ∧
      rollbacks l' ≤ 1 ∧ connects l' ≤ result.attempts + 1 := by
  obtain ⟨result, t', ho, hended, hboun⟩ := rotate_ends hcalm he
  refine ⟨result, t', ho, ?_, ?_, ?_, hboun.rollbacks, hboun.connects⟩
  · intro hsucc
    cases hended with
    | up q hq d hd hs hh hp hr hc => exact ⟨q, hq, hp, hh, by rw [hd]; rfl⟩
    | said q hh hl hp hr hc | down hl hp hr hc | barred d hd hs hp hr hc =>
      rw [hr] at hsucc
      cases hsucc
  · intro hfail hcln
    cases hended with
    | up q hq d hd hs hh hp hr hc => rw [hr] at hfail; cases hfail
    | said q hh hl hp hr hc | down hl hp hr hc => exact hl.closed
    | barred d hd hs hp hr hc => rw [hc] at hcln; cases hcln
  · have hatt : result.attempts ≤ max c.maxAttemptsPerCycle 1 := hboun.attempts
    have hcand : result.attempts ≤ (candidates idOf t pool).length := hboun.candidates
    omega

omit hcalm in
/-- Two profiles fail their checks, and the third is where the rotation ends. -/
theorem rotation_outcome_third :
    ∃ (l' : RotationLog String Unit Unit) (result : RotationResult String),
    result.attempts = 3 ∧ (result.success = true → ∃ p ∈ ["a", "b", "c"], result.profile = some p ∧
      HealthSaid l' p "ok" ∧
      (driverEvents l').head? = some (.connect p true)) ∧ connects l' ≤ result.attempts + 1 := by
  obtain ⟨out, l', hends, htest⟩ :=
    DriverAnswers.ends (X := Unit) { healthCheck := fun p => if p = "c" then "ok" else "down" }
    (rotate id {} true ["a", "b", "c"] true {}) (fun out _ => out.1.attempts == 3)
      (by decide +kernel)
  have hmax : 1 ≤ ({} : RotationEngine).maxAttemptsPerCycle := by decide
  obtain ⟨result, t', hout, hup, -, -, -, hconn⟩ :=
    rotation_outcome (DriverAnswers.calm _) hmax hends
  cases hout
  exact ⟨l', result, by simpa using htest, hup, hconn⟩

end Rotate

/-! ## A connect comes right after a disconnect -/

/-- The last call was a `disconnect` that returned `True`. -/
def JustDisconnected : Prop := ∃ s earlier, l = ⟨s, .disconnect, some (.ok true)⟩ :: earlier

/-- What the engine keeps to whatever is answered. -/
def ConnectsTorn (_ : S) (l : RotationLog P X S) (e : RotationReq P) : Prop :=
  ∀ p, e = .connect p → JustDisconnected l

section Order

variable {H : Handler (RotationAns (P := P) X) S} {α β : Type} {c : RotationEngine}
  {preflights : Bool} {pool : List P}
  {idOf : P → String}

/-- The program keeps to the order from wherever it starts. -/
def Orderly (H : Handler (RotationAns (P := P) X) S) (p : RotationProg P X α) : Prop :=
  ∀ s l, wp H ConnectsTorn (fun _ _ _ => True) (fun _ _ _ => True) p s l

theorem orderly_pure (a : α) : Orderly H (pure a) := fun _ _ => trivial

theorem Orderly.bind {p : RotationProg P X β} {f : β → RotationProg P X α} (hp : Orderly H p)
    (hf : ∀ b, Orderly H (f b)) : Orderly H (p >>= f) := fun s l => wp_seq (hp s l) fun b s' l' _ =>
      hf b s' l'

theorem orderly_ask {e : RotationReq P} (he : ∀ p, e ≠ .connect p) :
    Orderly H (Rotation.ask (X := X) e) :=
  fun _ _ => ⟨fun p hp => absurd hp (he p), fun _ _ _ => trivial⟩

theorem orderly_ofExcept (a : Except X α) : Orderly H (Prog.ofExcept a) := by
  intro s l
  cases a <;> trivial

theorem orderly_disconnected : Orderly H disconnected := by
  refine (orderly_ask (by simp)).bind fun a => ?_
  cases a <;> exact orderly_pure _

theorem orderly_preflightOk (p : P) : Orderly H (preflightOk preflights p) := by
  unfold preflightOk
  split
  · refine (orderly_ask (by simp)).bind fun a => ?_
    cases a <;> exact orderly_pure _
  · exact orderly_pure _

theorem orderly_cleanupFailedAttempt (t : RotationHistory) (status : String) :
    Orderly H (cleanupFailedAttempt t status) := by
  refine orderly_disconnected.bind fun b => ?_
  split <;> exact orderly_pure _

theorem orderly_checkConnected (p : P) (t : RotationHistory) :
    Orderly H (checkConnected c p t) := by
  have hwarm : Orderly H (warmUp c) := by
    unfold warmUp
    split
    · exact orderly_ask (by simp)
    · exact orderly_pure _
  refine hwarm.bind fun _ => ?_
  refine (orderly_ask (by simp)).bind fun a => ?_
  refine (orderly_ofExcept a).bind fun status => ?_
  split
  · exact orderly_cleanupFailedAttempt t status
  · exact orderly_pure _

/-- The one place where a profile is connected. -/
theorem orderly_tryProfile (p : P) (t : RotationHistory) :
    Orderly H (tryProfile c preflights p t) := by
  refine (orderly_preflightOk p).bind fun ok => ?_
  split
  · exact orderly_pure _
  intro s l
  have htorn : wp H ConnectsTorn (fun b _ l' => b = true → JustDisconnected l') (fun _ _ _ => True)
      disconnected s l := by
    refine ⟨nofun, fun a s' _ => ?_⟩
    cases a with
    | ok b =>
      rintro rfl
      exact ⟨s, l, rfl⟩
    | error x => exact nofun
  refine wp_seq htorn fun b s1 l1 hb => ?_
  split
  · trivial
  rename_i hne
  rw [Bool.not_eq_false] at hne
  refine (wp_bind _ _ _ _).mpr ⟨fun q _ => hb hne, fun a s2 _ => ?_⟩
  refine wp_seq (orderly_ofExcept a s2 _) fun connected s3 l3 _ => ?_
  split
  · exact orderly_cleanupFailedAttempt t "down" s3 l3
  · exact orderly_checkConnected p t s3 l3

/-- **The engine connects only right after a disconnect that returned `True`**, whatever else is
answered or raised. -/
theorem orderly_rotate (force : Bool) (t : RotationHistory) :
    Orderly H (rotate idOf c preflights pool force t) := by
  have hcar : Carries H ConnectsTorn (fun _ _ _ => True) c preflights (fun _ _ _ => True)
      (fun _ _ _ => True)
      (fun _ _ _ => True) :=
    { attempt := fun _ => orderly_tryProfile _ _ _ _
      start := fun _ => orderly_ask (by simp) _ _
      read := fun _ => orderly_ask (by simp) _ _
      stamp := fun _ => orderly_ask (by simp) _ _
      stay := id
      remember := id
      good := id }
  exact fun s l => hcar.rotate id trivial

end Order

end WatchdogVpn.Rotation
