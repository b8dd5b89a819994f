import WatchdogVpn.Rotation.Barrier
import Mathlib.Data.List.Perm.Subperm

/-!
# Does a rotation rotate?

On a pool whose profiles all work, a forced rotation takes the first candidate: the first
profile that the history does not block, or the first of the pool if all are blocked.

* `rotate_selects` computes what a rotation of such a pool selects and remembers.
* `Reached` is the histories an engine can have, `reached_length` what bounds them.
* **`rotation_alternates`**: two rotations in a row select different profiles, from every
  history, if and only if the engine tries a candidate at all, the pool is larger than the
  history it keeps, and the first profile of the pool has an id where no history is kept.
-/

namespace WatchdogVpn.Rotation

open Effect List DriverAnswers

variable {P X S : Type} {idOf : P → String} {c : RotationEngine} {pool : List P} {t t' : RotationHistory}

/-! ## What is remembered -/

theorem length_sliceTo_le {α : Type} (items : List α) (k : Int) :
    (sliceTo items k).length ≤ max k.toNat (items.length - 1) := by
  unfold sliceTo
  split <;> rw [length_take] <;> omega

theorem sliceTo_of_length_le {α : Type} {items : List α} {k : Int} (hk : (items.length : Int) ≤ k) :
    sliceTo items k = items := by
  unfold sliceTo
  rw [if_pos (by omega)]
  exact take_of_length_le (by omega)

theorem mem_sliceTo_cons {α : Type} {a : α} {items : List α} {k : Int} (hk : 1 ≤ k) :
    a ∈ sliceTo (a :: items) k := by
  unfold sliceTo
  rw [if_pos (by omega)]
  obtain ⟨n, hn⟩ : ∃ n, k.toNat = n + 1 := ⟨k.toNat - 1, by omega⟩
  rw [hn]
  exact mem_cons_self

/-- The history after a profile was remembered, as far as it decides the next candidates. -/
structure Remembers (c : RotationEngine) (t : RotationHistory) (id : String) (t' : RotationHistory) : Prop where
  last : t'.lastProfileId = some id
  recent : t'.recentProfileIds = sliceTo (id :: t.recentProfileIds.filter (· ≠ id)) c.recentKeep

theorem mem_blockedIds {id : String} :
    id ∈ t.blockedIds ↔ id ∈ t.recentProfileIds ∨ t.lastProfileId = some id ∧ id ≠ "" := by
  unfold RotationHistory.blockedIds
  cases t.lastProfileId with
  | none => simp
  | some last =>
    by_cases hl : last = ""
    · simp
    · grind

theorem blockedIds_empty (hrcnt : t.recentProfileIds = []) (hlast : t.lastProfileId = some "") (id : String) :
    id ∉ t.blockedIds := by
  rw [mem_blockedIds, hrcnt, hlast]
  rintro (hmem | ⟨hlast, hne⟩)
  · cases hmem
  · exact hne (Option.some.inj hlast).symm

/-! ## What is selected -/

/-- Every profile of the pool connects and passes its checks, and tunnels can be torn down. -/
structure Healthy (H : Handler (RotationAns (P := P) X) S) (pool : List P) : Prop where
  calm : Calm H
  preflight : ∀ p ∈ pool, ∀ s a s', H.step s (.preflight p) a s' → a = .ok true
  disconnect : ∀ s a s', H.step s .disconnect a s' → a = .ok true
  connect : ∀ p ∈ pool, ∀ s a s', H.step s (.connect p) a s' → a = .ok true
  healthCheck : ∀ p ∈ pool, ∀ s a s', H.step s (.healthCheck p) a s' → a = .ok "ok"

/-- The profile a forced rotation of a healthy pool ends with. -/
def selected (idOf : P → String) (c : RotationEngine) (t : RotationHistory) (pool : List P) : Option P :=
  if 1 ≤ c.maxAttemptsPerCycle then (candidates idOf t pool).head? else rollbackTarget idOf t pool

/-- The rotation ended with this profile, if any, and remembers it. -/
structure Selected (idOf : P → String) (c : RotationEngine) (t : RotationHistory) (choice : Option P)
    (result : RotationResult P) (t' : RotationHistory) : Prop where
  profile : result.profile = choice
  remembers : ∀ p, choice = some p → Remembers c t (idOf p) t'
  good : ∀ p, choice = some p → t'.lastGoodProfileId = some (idOf p)

section Healthy

variable {H : Handler (RotationAns (P := P) X) S} {s : S} {l : RotationLog P X S} {preflights : Bool} {p : P}

theorem finish_selects {result : RotationResult P} {choice : Option P} {t0 : RotationHistory}
    (hs : Selected idOf c t0 choice result t) :
    Completes H (fun out _ _ => Selected idOf c t0 choice out.1 out.2) (finish t result) s l :=
  ⟨trivial, fun _ _ _ => ⟨hs.profile, fun p hp =>
    ⟨(hs.remembers p hp).last, (hs.remembers p hp).recent⟩, hs.good⟩⟩

variable (hh : Healthy H pool)
include hh

theorem tryProfile_ok (hp : p ∈ pool) : Completes H (fun out _ _ => out = ("ok", t))
      (tryProfile c preflights p t) s l := by
  have hpre : Completes H (fun b _ _ => b = true) (preflightOk preflights p) s l := by
    unfold preflightOk
    split
    · refine ⟨trivial, fun a s' hs => ?_⟩
      rw [hh.preflight p hp _ _ _ hs]
      exact rfl
    · exact rfl
  have hdis : ∀ s l, Completes H (fun b _ _ => b = true) disconnected s l := by
    refine fun s l => ⟨trivial, fun a s' hs => ?_⟩
    rw [hh.disconnect _ _ _ hs]
    exact rfl
  have hchk : ∀ s l, Completes H (fun out _ _ => out = ("ok", t)) (checkConnected c p t) s l := by
    intro s l
    refine wp_seq warmUp_meets fun _ s1 l1 _ => (wp_bind _ _ _ _).mpr ⟨trivial, fun a s2 hs => ?_⟩
    rw [hh.healthCheck p hp _ _ _ hs]
    exact rfl
  refine wp_seq hpre fun ok s1 l1 hok => ?_
  subst hok
  refine wp_seq (hdis s1 l1) fun ok s2 l2 hok => ?_
  subst hok
  refine (wp_bind _ _ _ _).mpr ⟨trivial, fun a s3 hs => ?_⟩
  rw [hh.connect p hp _ _ _ hs]
  exact hchk s3 _

theorem rollback_selects :
    Completes H (fun out _ _ => out.1 = rollbackTarget idOf t pool ∧
      out.2.cleanupBarrierFailed = t.cleanupBarrierFailed ∧
        out.2.lastGoodProfileId = t.lastGoodProfileId ∧ ∀ p, out.1 = some p → Remembers c t (idOf p) out.2)
      (rollback idOf c preflights pool t) s l := by
  unfold rollback
  split
  · rename_i hnone
    exact ⟨hnone.symm, rfl, rfl, nofun⟩
  · rename_i q hq
    refine ⟨trivial, fun a s1 _ => ?_⟩
    change Completes H _ (tryProfile c preflights q t >>= _) s1 _
    refine wp_seq (tryProfile_ok hh (rollbackTarget_mem hq)) fun out s2 l2 hout => ?_
    subst hout
    refine ⟨hq.symm, rfl, rfl, fun p hp => ?_⟩
    cases hp
    exact ⟨rfl, rfl⟩

omit hh in
theorem rollbackTarget_good {q : P} (hq : rollbackTarget idOf t pool = some q) :
    t.lastGoodProfileId = some (idOf q) := by
  unfold rollbackTarget at hq
  split at hq
  · cases hq
  rename_i good hgood
  split at hq
  · cases hq
  have : idOf q = good := by simpa using find?_some hq
  rw [hgood, this]

/-- The first candidate is tried if the engine tries any, and else the rotation is its rollback. -/
theorem tryCandidates_selects {category : PoolCategory} {cycleStart : Rat} {rest : List P}
    (ht : t.cleanupBarrierFailed = false) (hrest : ∀ q ∈ rest, q ∈ pool) (hne : rest ≠ []) :
    Completes H (fun out _ _ => Selected idOf c t
        (if 1 ≤ c.maxAttemptsPerCycle then rest.head? else rollbackTarget idOf t pool) out.1 out.2)
      (tryCandidates idOf c preflights pool category cycleStart rest 0 0 false t) s l := by
  obtain ⟨p, rest, rfl⟩ := exists_cons_of_ne_nil hne
  unfold tryCandidates
  by_cases hmax : 1 ≤ c.maxAttemptsPerCycle
  · have hgo : ¬ ((0 : Nat)) ≥ c.maxAttemptsPerCycle := by omega
    rw [if_neg hgo]
    refine wp_seq (tryProfile_ok hh (hrest p mem_cons_self)) fun out s1 l1 hout => ?_
    subst hout
    refine finish_selects ⟨by simp [hmax], fun q hq => ?_, fun q hq => ?_⟩
    · simp only [hmax, if_true, head?_cons, Option.some.injEq] at hq
      exact hq ▸ ⟨rfl, rfl⟩
    · simp only [hmax, if_true, head?_cons, Option.some.injEq] at hq
      rw [hq]
  · have hstop : ((0 : Nat)) ≥ c.maxAttemptsPerCycle := by omega
    rw [if_pos hstop]
    simp only [hmax, if_false]
    refine wp_seq (rollback_selects hh) fun out s1 l1 hout => ?_
    obtain ⟨target, t1⟩ := out
    obtain ⟨htgt, hbar, hgood, hrem⟩ := hout
    simp only at htgt hbar hgood hrem ⊢
    rw [if_neg (by simp [hbar, ht])]
    have hgood' : ∀ q, rollbackTarget idOf t pool = some q → t1.lastGoodProfileId = some (idOf q) :=
      fun q hq => hgood.trans (rollbackTarget_good hq)
    cases target <;> exact finish_selects ⟨htgt, fun q hq => hrem q (htgt.trans hq), hgood'⟩

/-- **What a forced rotation of a healthy pool selects.** -/
theorem rotate_selects (hpool : 2 ≤ pool.length) :
    Completes H (fun out _ _ => Selected idOf c t (selected idOf c t pool) out.1 out.2)
      (rotate idOf c preflights pool true t) s [] := by
  have hrotate : rotate (X := X) idOf c preflights pool true t =
      rotatePool idOf c preflights pool true { t with cleanupBarrierFailed := false } := by
    match pool with
    | [] | [_] => simp at hpool
    | _ :: _ :: _ => rfl
  rw [hrotate]
  refine (wp_bind _ _ _ _).mpr ⟨trivial, fun a s1 _ => ?_⟩
  have hne : pool ≠ [] := ne_nil_of_length_pos (by omega)
  refine wp_imp (tryCandidates_selects hh rfl
    (fun q hq => mem_of_candidates hq) (candidates_ne_nil hne)) fun out s' l' hout => ?_
  exact ⟨hout.profile, fun q hq => ⟨(hout.remembers q hq).last, (hout.remembers q hq).recent⟩, hout.good⟩

end Healthy

/-! ## Histories -/

/-- The history is as it was, or one more profile was remembered. -/
def Moved (c : RotationEngine) (t t' : RotationHistory) : Prop :=
  t'.recentProfileIds = t.recentProfileIds ∨
    ∃ id, t'.recentProfileIds = sliceTo (id :: t.recentProfileIds.filter (· ≠ id)) c.recentKeep

/-- Whenever the program returns, what it leaves satisfies `Q`. -/
abbrev Leaves {α : Type} (H : Handler (RotationAns (P := P) X) S) (Q : α → Prop)
    (p : RotationProg P X α) (s : S)
    (l : RotationLog P X S) : Prop := wp H (fun _ _ _ => True) (fun a _ _ => Q a) (fun _ _ _ => True) p s l

/-- But for the mark of the barrier, the history is as it was. -/
def SameHistory (t t' : RotationHistory) : Prop :=
  t' = { t with cleanupBarrierFailed := t'.cleanupBarrierFailed }

section Histories

variable {H : Handler (RotationAns (P := P) X) S} {s : S} {l : RotationLog P X S} {preflights : Bool} {p : P}

theorem leaves_anything {α : Type} {prog : RotationProg P X α} : Leaves H (fun _ => True) prog s l :=
  wp_frame trivial (fun _ _ _ _ => trivial) fun _ _ _ _ _ _ _ => trivial

theorem cleanupFailedAttempt_leaves {status : String} :
    Leaves H (fun out => SameHistory t out.2) (cleanupFailedAttempt t status) s l := by
  refine wp_seq leaves_anything fun b s' l' _ => ?_
  split <;> exact rfl

theorem tryProfile_leaves : Leaves H (fun out => SameHistory t out.2) (tryProfile c preflights p t) s l := by
  refine wp_seq leaves_anything fun ok s1 l1 _ => ?_
  split
  · exact rfl
  refine wp_seq leaves_anything fun torn s2 l2 _ => ?_
  split
  · exact rfl
  refine wp_seq leaves_anything fun a s3 l3 _ => wp_seq leaves_anything fun connected s4 l4 _ => ?_
  split
  · exact cleanupFailedAttempt_leaves
  refine wp_seq leaves_anything fun _ s5 l5 _ => wp_seq leaves_anything fun a s6 l6 _ => ?_
  refine wp_seq leaves_anything fun status s7 l7 _ => ?_
  split
  · exact cleanupFailedAttempt_leaves
  · exact rfl

theorem rotate_leaves {force : Bool} :
    Leaves H (fun out => Moved c t out.2) (rotate idOf c preflights pool force t) s l := by
  have hcar : Carries H (fun _ _ _ => True) (fun _ _ _ => True) c preflights
      (fun t' _ _ => t'.recentProfileIds = t.recentProfileIds) (fun t' _ _ => Moved c t t')
        fun t' _ _ => Moved c t t' :=
    { attempt := fun ht => wp_imp tryProfile_leaves fun _ _ _ hout => (congrArg _ hout).trans ht
      start := fun ht => ⟨trivial, fun _ _ _ => ht⟩
      read := fun ht => ⟨trivial, fun _ _ _ => ht⟩
      stay := .inl
      remember := fun ht => .inr ⟨_, by rw [← ht]; rfl⟩
      good := id
      stamp := fun ht => ⟨trivial, fun _ _ _ => ht⟩ }
  exact hcar.rotate .inl rfl

end Histories

/-- The histories an engine can have: it is made, it records connections made by others, it rotates
any pool in any world. -/
inductive Reached (idOf : P → String) (c : RotationEngine) : RotationHistory → Prop
  | fresh : Reached idOf c {}
  | recorded {t : RotationHistory} (id : String) : Reached idOf c t →
      Reached idOf c (t.recordSuccessfulProfile c id)
  | rotated {t t' : RotationHistory} {X S : Type} {H : Handler (RotationAns (P := P) X) S}
  {preflights force : Bool}
      {pool : List P} {s s' : S} {l : RotationLog P X S} {result : RotationResult P} : Reached idOf c t →
      Ends H (rotate idOf c preflights pool force t) s [] (.ok (result, t')) s' l → Reached idOf c t'

theorem Moved.length_le (hm : Moved c t t') (ht : t.recentProfileIds.length ≤ c.recentKeep.toNat) :
    t'.recentProfileIds.length ≤ c.recentKeep.toNat := by
  rcases hm with he | ⟨id, he⟩
  · rw [he]; exact ht
  rw [he]
  refine (length_sliceTo_le _ _).trans (max_le le_rfl ?_)
  exact (length_filter_le _ _).trans ht

theorem reached_length (hr : Reached idOf c t) : t.recentProfileIds.length ≤ c.recentKeep.toNat := by
  induction hr with
  | fresh => exact Nat.zero_le _
  | @recorded t id _ ih =>
    unfold RotationHistory.recordSuccessfulProfile
    split
    · exact ih
    · exact Moved.length_le (.inr ⟨id, rfl⟩) ih
  | rotated _ hends ih => exact ((wp_ends rotate_leaves hends).1 _ rfl).length_le ih

/-! ## Two rotations in a row -/

/-- From every history and in every world in which the pool works, two forced rotations in a row end
with different profiles. -/
def Alternates (idOf : P → String) (c : RotationEngine) (pool : List P) : Prop :=
  ∀ (X S : Type) H, Healthy H pool → ∀ (preflights : Bool) t,
    Reached idOf c t → ∀ (s s₁ s₂ : S) (l₁ l₂ : RotationLog P X S) (r₁ r₂) (t₁ t₂),
      Ends H (rotate idOf c preflights pool true t) s [] (.ok (r₁, t₁)) s₁ l₁ →
      Ends H (rotate idOf c preflights pool true t₁) s₁ [] (.ok (r₂, t₂)) s₂ l₂ →
      ∃ p q, r₁.profile = some p ∧ r₂.profile = some q ∧ idOf p ≠ idOf q

theorem Remembers.moved {id : String} (hr : Remembers c t id t') : Moved c t t' := .inr ⟨id, hr.recent⟩

theorem next_differs (hpool : 2 ≤ pool.length) (hn : (pool.map idOf).Nodup) (hkeep : c.recentKeep < pool.length)
    (hemp : c.recentKeep ≤ 0 → pool.head?.map idOf ≠ some "")
    (hlen : t.recentProfileIds.length ≤ c.recentKeep.toNat)
    {p q : P} (hr : Remembers c t (idOf p) t') (hq : (candidates idOf t' pool).head? = some q) :
    idOf p ≠ idOf q := by
  have hlen' := hr.moved.length_le hlen
  have hbloc : ∀ id ∈ t'.blockedIds, id ∈ t'.recentProfileIds ∨ id = idOf p := by
    intro id hid
    rcases mem_blockedIds.mp hid with hid | ⟨hlast, -⟩
    · exact .inl hid
    · rw [hr.last] at hlast
      exact .inr (Option.some.inj hlast).symm
  have hsize : ∀ ids : List String, (∀ x ∈ pool, idOf x ∈ ids) → pool.length ≤ ids.length := by
    intro ids hsub
    have hsub' : pool.map idOf ⊆ ids := by
      intro id hid
      obtain ⟨x, hx, rfl⟩ := mem_map.mp hid
      exact hsub x hx
    have := (subperm_of_subset hn hsub').length_le
    rwa [length_map] at this
  rcases candidates_cases idOf t' pool with ⟨-, hall⟩ | ⟨hfilt, -⟩
  · -- the pool is too large for all of it to be blocked
    exfalso
    by_cases hk : 1 ≤ c.recentKeep
    · have hp : idOf p ∈ t'.recentProfileIds := by rw [hr.recent]; exact mem_sliceTo_cons hk
      have := hsize t'.recentProfileIds fun x hx => by
        rcases hbloc _ (hall x hx) with hin | he
        · exact hin
        · rw [he]; exact hp
      omega
    · have hnil : t'.recentProfileIds = [] := eq_nil_of_length_eq_zero (by omega)
      have := hsize [idOf p] fun x hx => by
        rcases hbloc _ (hall x hx) with hin | he
        · rw [hnil] at hin; cases hin
        · rw [he]; exact mem_singleton.mpr rfl
      simp at this
      omega
  · have hmem : q ∈ pool.filter fun x => idOf x ∉ t'.blockedIds := by
      rw [← hfilt]
      exact mem_of_mem_head? hq
    have hfree : idOf q ∉ t'.blockedIds := by simpa using (mem_filter.mp hmem).2
    intro he
    by_cases hk : 1 ≤ c.recentKeep
    · exact hfree (mem_blockedIds.mpr (.inl (by rw [← he, hr.recent]; exact mem_sliceTo_cons hk)))
    by_cases hid : idOf p = ""
    · -- nothing is blocked, so the next one is the first of the pool
      have hnil : t'.recentProfileIds = [] := eq_nil_of_length_eq_zero (by omega)
      have hnone := blockedIds_empty hnil (hr.last.trans (congrArg _ hid))
      rw [hfilt, filter_eq_self.mpr (by simp [hnone])] at hq
      exact hemp (by omega) (by rw [hq, Option.map_some, ← he, hid])
    · exact hfree (mem_blockedIds.mpr (.inr ⟨by rw [hr.last, he], by rw [← he]; exact hid⟩))

theorem DriverAnswers.healthy (pool : List P) : Healthy (({} : DriverAnswers P).world (X := Unit)) pool where
  calm := calm _
  preflight _ _ _ _ _ hs := hs
  disconnect _ _ _ hs := hs
  connect _ _ _ _ _ hs := hs
  healthCheck _ _ _ _ _ hs := hs

theorem exists_selected (idOf : P → String) (c : RotationEngine) (hpool : 2 ≤ pool.length)
    (t : RotationHistory) : ∃ r t' l,
    Ends (({} : DriverAnswers P).world (X := Unit)) (rotate idOf c true pool true t) () [] (.ok (r, t')) () l ∧
      Selected idOf c t (selected idOf c t pool) r t' := by
  obtain ⟨o, l, hends⟩ := exists_ends {} (rotate idOf c true pool true t)
  have hsel := wp_ends (rotate_selects (healthy pool) hpool) hends
  cases o with
  | error x => exact (hsel.2 x rfl).elim
  | ok out => exact ⟨out.1, out.2, l, hends, hsel.1 out rfl⟩

theorem Alternates.step (ha : Alternates idOf c pool) (hpool : 2 ≤ pool.length) (hr : Reached idOf c t) :
    ∃ p q t', selected idOf c t pool = some p ∧ Remembers c t (idOf p) t' ∧
    t'.lastGoodProfileId = some (idOf p) ∧
      selected idOf c t' pool = some q ∧ idOf p ≠ idOf q := by
  obtain ⟨r1, t1, l1, hends1, hsel1⟩ := exists_selected idOf c hpool t
  obtain ⟨r2, t2, l2, hends2, hsel2⟩ := exists_selected idOf c hpool t1
  obtain ⟨p, q, hp, hq, hne⟩ := ha Unit Unit _ (healthy pool) true t hr () () () l1 l2 r1 r2 t1 t2 hends1 hends2
  have hp' : selected idOf c t pool = some p := hsel1.profile.symm.trans hp
  exact ⟨p, q, t1, hp', hsel1.remembers p hp', hsel1.good p hp', hsel2.profile.symm.trans hq, hne⟩

/-- Without a candidate to try, a rotation is a rollback to one and the same profile. -/
theorem Alternates.tries (ha : Alternates idOf c pool) (hpool : 2 ≤ pool.length) (hn : (pool.map idOf).Nodup) :
    1 ≤ c.maxAttemptsPerCycle := by
  by_contra hmax
  obtain ⟨r, hr, hid⟩ : ∃ r ∈ pool, idOf r ≠ "" := by
    match pool, hpool, hn with
    | x :: y :: rest, _, hn =>
      by_cases hx : idOf x = ""
      · refine ⟨y, by simp, fun hy => ?_⟩
        rw [map_cons, map_cons, hx, hy] at hn
        simp at hn
      · exact ⟨x, by simp, hx⟩
  have hreach : Reached idOf c (({} : RotationHistory).recordSuccessfulProfile c (idOf r)) := .recorded _ .fresh
  obtain ⟨p, q, t', hp, -, hgood, hq, hne⟩ := ha.step hpool hreach
  unfold selected at hp hq
  rw [if_neg hmax] at hp hq
  have hsame : rollbackTarget idOf t' pool =
      rollbackTarget idOf (({} : RotationHistory).recordSuccessfulProfile c (idOf r)) pool := by
    have hgood' := rollbackTarget_good hp
    unfold rollbackTarget
    rw [hgood, hgood']
  rw [hsame, hp] at hq
  cases hq
  exact hne rfl

/-- Where no history is kept, an empty id at the head of the pool is selected again and again. -/
theorem Alternates.named (ha : Alternates idOf c pool) (hpool : 2 ≤ pool.length)
    (hmax : 1 ≤ c.maxAttemptsPerCycle) (hk : c.recentKeep ≤ 0) : pool.head?.map idOf ≠ some "" := by
  intro hhead
  obtain ⟨p, q, t', hp, hrem, -, hq, hne⟩ := ha.step hpool .fresh
  obtain ⟨x, hx, hid⟩ := Option.map_eq_some_iff.mp hhead
  have hfree : ∀ {t y}, (∀ id, id ∉ t.blockedIds) → selected idOf c t pool = some y → y = x := by
    intro t y hnone hy
    have hall : pool.filter (fun y => idOf y ∉ t.blockedIds) = pool := filter_eq_self.mpr (by simp [hnone])
    have hcands : candidates idOf t pool = pool := by
      rcases candidates_cases idOf t pool with ⟨he, -⟩ | ⟨he, -⟩
      · exact he
      · exact he.trans hall
    rw [selected, if_pos hmax, hcands, hx] at hy
    exact (Option.some.inj hy).symm
  have hp' : p = x := hfree (by simp [RotationHistory.blockedIds]) hp
  have hnil : t'.recentProfileIds = [] := by
    have := hrem.moved.length_le (Nat.zero_le _)
    exact eq_nil_of_length_eq_zero (by omega)
  have hq' : q = x := hfree (blockedIds_empty hnil (by rw [hrem.last, hp', hid])) hq
  rw [hp', hq'] at hne
  exact hne rfl

theorem exists_remembered (p : P) (hr : Reached idOf c t) : ∃ t', Reached idOf c t' ∧
    Remembers c t (idOf p) t' := by
  have hsingle : Completes (({} : DriverAnswers P).world (X := Unit))
    (fun out _ _ => Remembers c t (idOf p) out.2)
      (rotate idOf c true [p] true t) () [] := by
    refine wp_seq (tryProfile_ok (healthy [p]) mem_cons_self) fun out s1 l1 hout => ?_
    subst hout
    exact ⟨trivial, fun _ _ _ => ⟨rfl, rfl⟩⟩
  obtain ⟨o, l, hends⟩ := exists_ends {} (rotate idOf c true [p] true t)
  cases o with
  | error x => exact ((wp_ends hsingle hends).2 x rfl).elim
  | ok out => exact ⟨out.2, .rotated hr hends, (wp_ends hsingle hends).1 out rfl⟩

theorem exists_reached (qs : List P) (hn : (qs.map idOf).Nodup) (hk : (qs.length : Int) ≤ c.recentKeep) :
    ∃ t, Reached idOf c t ∧ t.recentProfileIds = qs.map idOf := by
  induction qs with
  | nil => exact ⟨{}, .fresh, rfl⟩
  | cons p qs ih =>
    rw [map_cons, nodup_cons] at hn
    rw [length_cons] at hk
    obtain ⟨t, hr, ht⟩ := ih hn.2 (by omega)
    obtain ⟨t', hr', hrem⟩ := exists_remembered p hr
    refine ⟨t', hr', ?_⟩
    have hfilt : t.recentProfileIds.filter (· ≠ idOf p) = qs.map idOf := by
      rw [ht]
      refine filter_eq_self.mpr fun id hid => ?_
      have hne : id ≠ idOf p := fun he => hn.1 (he ▸ hid)
      simpa using hne
    rw [hrem.recent, hfilt, sliceTo_of_length_le]
    · rfl
    · rw [length_cons, length_map]
      omega

/-- A pool no larger than the history ends up blocked as a whole, and then its first profile is
selected for ever. -/
theorem Alternates.larger (ha : Alternates idOf c pool) (hpool : 2 ≤ pool.length) (hn : (pool.map idOf).Nodup)
    (hmax : 1 ≤ c.maxAttemptsPerCycle) : c.recentKeep < pool.length := by
  by_contra hlarge
  obtain ⟨t, hr, ht⟩ := exists_reached (c := c) pool hn (by omega)
  obtain ⟨p, q, t', hp, hrem, -, hq, hne⟩ := ha.step hpool hr
  have hstuck : ∀ t : RotationHistory, (∀ x ∈ pool, idOf x ∈ t.recentProfileIds) →
      candidates idOf t pool = pool := by
    intro t hall
    rcases candidates_cases idOf t pool with ⟨he, -⟩ | ⟨he, hne'⟩
    · exact he
    refine absurd ?_ hne'
    rw [he, filter_eq_nil_iff]
    intro x hx
    simpa using mem_blockedIds.mpr (.inl (hall x hx))
  have hall : ∀ x ∈ pool, idOf x ∈ t.recentProfileIds := fun x hx => ht ▸ mem_map_of_mem hx
  unfold selected at hp hq
  rw [if_pos hmax, hstuck t hall] at hp
  -- remembering a profile of the history only reorders it
  have hroom : ((idOf p :: t.recentProfileIds.filter (· ≠ idOf p)).length) ≤ c.recentKeep := by
    have hlt : (t.recentProfileIds.filter (· ≠ idOf p)).length < t.recentProfileIds.length :=
      length_filter_lt_length_iff_exists.mpr ⟨idOf p, hall p (mem_of_mem_head? hp), by simp⟩
    rw [ht, length_map] at hlt
    rw [length_cons, ht]
    omega
  have hall' : ∀ x ∈ pool, idOf x ∈ t'.recentProfileIds := by
    intro x hx
    rw [hrem.recent, sliceTo_of_length_le hroom]
    by_cases he : idOf x = idOf p
    · rw [he]; exact mem_cons_self
    · exact mem_cons_of_mem _ (mem_filter.mpr ⟨hall x hx, by simpa using he⟩)
  rw [if_pos hmax, hstuck t' hall', hp] at hq
  cases hq
  exact hne rfl

/-- **When a rotation rotates.** For every engine and every pool of two or more profiles with
distinct ids, two forced rotations in a row end with different profiles from every history if and
only if the engine tries a candidate at all, the pool is larger than the history the engine keeps,
and the first profile has an id where no history is kept. -/
theorem rotation_alternates (hpool : 2 ≤ pool.length) (hn : (pool.map idOf).Nodup) :
    Alternates idOf c pool ↔ 1 ≤ c.maxAttemptsPerCycle ∧ c.recentKeep < pool.length ∧
      (c.recentKeep ≤ 0 → pool.head?.map idOf ≠ some "") := by
  constructor
  · intro ha
    have hmax := ha.tries hpool hn
    exact ⟨hmax, ha.larger hpool hn hmax, ha.named hpool hmax⟩
  · rintro ⟨hmax, hkeep, hemp⟩ X S H hh preflights t hr s s1 s2 l1 l2 r1 r2 t1 t2 hends1 hends2
    have hsel1 := (wp_ends (rotate_selects hh hpool) hends1).1 _ rfl
    have hsel2 := (wp_ends (rotate_selects hh hpool) hends2).1 _ rfl
    have hne : pool ≠ [] := ne_nil_of_length_pos (by omega)
    have hfst : ∀ t, ∃ p, selected idOf c t pool = some p ∧ (candidates idOf t pool).head? = some p := by
      intro t
      obtain ⟨p, rest, hp⟩ := exists_cons_of_ne_nil (candidates_ne_nil hne : candidates idOf t pool ≠ [])
      unfold selected
      rw [if_pos hmax, hp]
      exact ⟨p, rfl, rfl⟩
    obtain ⟨p, hp, -⟩ := hfst t
    obtain ⟨q, hq, hq'⟩ := hfst t1
    exact ⟨p, q, hsel1.profile.trans hp, hsel2.profile.trans hq,
      next_differs hpool hn hkeep hemp (reached_length hr) (hsel1.remembers p hp) hq'⟩

/-- Six profiles under the default settings, which keep five. -/
theorem rotation_alternates_six : Alternates id {} ["a", "b", "c", "d", "e", "f"] ↔
    1 ≤ ({} : RotationEngine).maxAttemptsPerCycle ∧ ({} : RotationEngine).recentKeep < 6 ∧
      (({} : RotationEngine).recentKeep ≤ 0 → some "a" ≠ some "") :=
  @rotation_alternates String id {} ["a", "b", "c", "d", "e", "f"] (by decide) (by decide)

/-- **Two profiles are one too few.** Under the default settings the rotation of a pool of two ends
with `a`, `b`, `a`, and then with `a` again. -/
theorem rotation_repeats : ∃ (t t₁ t₂ : RotationHistory) (r₁ r₂ : RotationResult String)
    (l₁ l₂ : RotationLog String Unit Unit), Reached id {} t ∧
      Ends (({} : DriverAnswers String).world (X := Unit)) (rotate id {} true ["a", "b"] true t) ()
        [] (.ok (r₁, t₁)) () l₁ ∧
      Ends (({} : DriverAnswers String).world (X := Unit)) (rotate id {} true ["a", "b"] true t₁) ()
        [] (.ok (r₂, t₂)) () l₂ ∧ r₁.profile = some "a" ∧ r₂.profile = some "a" := by
  let after id recent : RotationHistory :=
    { lastProfileId := some id, recentProfileIds := recent, lastGoodProfileId := some id,
      lastRotationAt := some 0 }
  have hstep : ∀ t t' p, ({} : DriverAnswers String).passes (X := Unit) (rotate id {} true ["a", "b"] true t)
      (fun out _ => out.2 == t' && out.1.profile == some p) = true → ∃ r l,
        Ends (({} : DriverAnswers String).world (X := Unit)) (rotate id {} true ["a", "b"] true t)
        () [] (.ok (r, t')) () l ∧
          r.profile = some p := by
    intro t t' p hpass
    obtain ⟨⟨r, t''⟩, l, hends, htest⟩ := ends _ _ _ hpass
    simp only [Bool.and_eq_true, beq_iff_eq] at htest
    obtain ⟨rfl, hp⟩ := htest
    exact ⟨r, l, hends, hp⟩
  obtain ⟨_, _, h1, -⟩ := hstep {} (after "a" ["a"]) "a" (by decide +kernel)
  obtain ⟨_, _, h2, -⟩ := hstep (after "a" ["a"]) (after "b" ["b", "a"]) "b" (by decide +kernel)
  obtain ⟨r3, l3, h3, hp3⟩ := hstep (after "b" ["b", "a"]) (after "a" ["a", "b"]) "a" (by decide +kernel)
  obtain ⟨r4, l4, h4, hp4⟩ := hstep (after "a" ["a", "b"]) (after "a" ["a", "b"]) "a" (by decide +kernel)
  exact ⟨_, _, _, r3, r4, l3, l4, .rotated (.rotated .fresh h1) h2, h3, h4, hp3, hp4⟩

end WatchdogVpn.Rotation
