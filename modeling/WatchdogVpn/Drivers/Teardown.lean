import WatchdogVpn.Drivers.Process

/-!
# What a `True` of `disconnect` is worth

As long as every child obeys — signals can be sent, and a child is gone when the wait after `kill`
is over — the field of the handle covers all children that are alive (`Covered`). Then `disconnect`
returns `True` only when none is left, and `connect` starts a child only then.

* `Driver.disconnect_covered`, `Driver.connect_covered`: what one call keeps.
* **`teardown_honest`**: so it is after every sequence of calls.
* `teardown_forgets`: a child that does not obey is forgotten, and the next `True` is not true.
-/

namespace WatchdogVpn.Drivers

open Effect List

/-- The answer is that of a child that obeys. -/
def obeys : (e : ProcReq) → ProcAns e → Prop
  | .send _ _, .error _ => False
  | .wait .kill _, exited => exited = true
  | _, _ => True

instance : (e : ProcReq) → (a : ProcAns e) → Decidable (obeys e a)
  | .send _ _, .error _ => .isFalse id
  | .send _ _, .ok _ => .isTrue trivial
  | .wait .kill _, exited => inferInstanceAs (Decidable (exited = true))
  | .wait .terminate _, _ => .isTrue trivial
  | .spawn, _ | .poll _, _ | .killAllRecordedChildren, _ | .chore _, _ => .isTrue trivial

def Obedient (ev : Event ProcAns Host) : Prop := ∀ a, ev.ans = some a → obeys ev.req a

instance (ev : Event ProcAns Host) : Decidable (Obedient ev) :=
  decidable_of_iff (∀ a ∈ ev.ans, obeys ev.req a) Iff.rfl

/-- The world in which all children obey. -/
abbrev tame : Handler ProcAns Host := world.restrict Obedient

/-- A child is started only when none is alive. -/
def Alone (s : Host) (_ : List (Event ProcAns Host)) (e : ProcReq) : Prop := e = .spawn → s.alive = []

/-- The handle covers the children that are alive. -/
def Covered (t : DriverFields) (s : Host) : Prop := ∀ child ∈ s.alive, t.process = some child

variable {t : DriverFields}

theorem Covered.mono {t' : DriverFields} {s s' : Host} (h : Covered t s) (ht : t'.process = t.process)
    (hs : s'.alive ⊆ s.alive) : Covered t' s' := fun child hchild => ht.trans (h child (hs hchild))

theorem covered_of_none {s : Host} (h : s.alive = []) : Covered t s := by
  intro child hchild
  rw [h] at hchild
  cases hchild

theorem none_of_covered {s : Host} (h : Covered t s) (ht : t.process = none) : s.alive = [] := by
  rw [eq_nil_iff_forall_not_mem]
  intro child hchild
  have hp := h child hchild
  rw [ht] at hp
  cases hp

theorem none_of_subset {s s' : Host} (h : s.alive = []) (hs : s'.alive ⊆ s.alive) : s'.alive = [] := by
  rw [h] at hs
  exact subset_nil.mp hs

section Steps

variable {α β : Type} {t : DriverFields} {s : Host} {l : List (Event ProcAns Host)}
  {Q : Except PyError α → DriverFields → Host → List (Event ProcAns Host) → Prop}

/-! ## Methods that leave the handle alone -/

theorem tame_step {e : ProcReq} {a : ProcAns e} {s' : Host} (he : e ≠ .spawn) (h : tame.step s e a s') :
    s'.alive ⊆ s.alive := by
  obtain ⟨⟨hsub, -⟩, -⟩ := h
  unfold mayLive at hsub
  split at hsub
  · exact absurd rfl he
  · exact hsub

/-- The handle stays, and children are only lost. -/
def Quiet (m : DriverMethod α) : Prop :=
  ∀ t s l, meets tame Alone (fun _ t' s' _ => t'.process = t.process ∧ s'.alive ⊆ s.alive) m t s l

theorem quiet_pure (v : α) : Quiet (pure v) := fun _ _ _ => ⟨rfl, List.Subset.refl _⟩

theorem quiet_raise (x : PyError) : Quiet (Method.raise x : DriverMethod α) :=
  fun _ _ _ => ⟨rfl, List.Subset.refl _⟩

theorem quiet_ofExcept (o : Except PyError α) : Quiet (Method.ofExcept o) :=
  fun _ _ _ => ⟨rfl, List.Subset.refl _⟩

theorem quiet_modify {f : DriverFields → DriverFields} (hf : ∀ t, (f t).process = t.process) :
    Quiet (Method.modify f) := fun t _ _ => ⟨hf t, List.Subset.refl _⟩

theorem quiet_ask {e : ProcReq} (he : e ≠ .spawn) : Quiet (Method.ask e) := by
  intro t s l
  exact ⟨fun h => absurd h he, fun a s' hs => ⟨rfl, tame_step he hs⟩⟩

variable {m : DriverMethod β} {f : β → DriverMethod α}

theorem quiet_then (hm : Quiet m)
    (hok : ∀ v t' s' l', t'.process = t.process → s'.alive ⊆ s.alive → meets tame Alone Q (f v) t' s' l')
    (herr : ∀ x t' s' l', t'.process = t.process → s'.alive ⊆ s.alive → Q (.error x) t' s' l') :
    meets tame Alone Q (m >>= f) t s l :=
  meets_seq (hm t s l) (fun v t' s' l' h => hok v t' s' l' h.1 h.2) fun x t' s' l' h => herr x t' s' l' h.1 h.2

theorem Quiet.bind (hm : Quiet m) (hf : ∀ v, Quiet (f v)) : Quiet (m >>= f) := by
  intro t s l
  refine quiet_then hm (fun v t' s' l' ht hs => ?_) fun x t' s' l' ht hs => ⟨ht, hs⟩
  refine meets_imp (hf v t' s' l') fun _ t'' s'' _ h => ?_
  exact ⟨h.1.trans ht, List.Subset.trans h.2 hs⟩

theorem Quiet.attempt {m : DriverMethod α} (hm : Quiet m) : Quiet m.attempt := by
  intro t s l
  rw [meets_attempt]
  exact hm t s l

theorem quiet_ite {c : Bool} {m m' : DriverMethod α} (hm : Quiet m) (hm' : Quiet m') :
    Quiet (if c then m else m') := by
  cases c with
  | true => exact hm
  | false => exact hm'

theorem quiet_chore (c : Chore) : Quiet (chore c) := (quiet_ask (by simp)).bind fun a => quiet_ofExcept a

theorem quiet_choreIf (due : Bool) (c : Chore) : Quiet (choreIf due c) :=
  quiet_ite (quiet_chore c) (quiet_pure true)

theorem quiet_andThen {first : Bool} {m : DriverMethod Bool} (hm : Quiet m) : Quiet (andThen first m) :=
  quiet_ite hm (quiet_pure false)

theorem quiet_killAllRecordedChildren : Quiet killAllRecordedChildren :=
  (quiet_ask (by decide)).bind fun a => quiet_ofExcept a

theorem quiet_hasStopped (process : Option Nat) : Quiet (hasStopped process) := by
  cases process with
  | none => exact quiet_pure true
  | some child => exact quiet_ask (by simp)

/-! ## Methods that keep the children covered -/

/-- The handle covers the children after the method if it did before. -/
def Keeps (m : DriverMethod α) : Prop :=
  ∀ t s l, Covered t s → meets tame Alone (fun _ t' s' _ => Covered t' s') m t s l

theorem Quiet.keeps {m : DriverMethod α} (hm : Quiet m) : Keeps m := by
  intro t s l hcov
  exact meets_imp (hm t s l) fun _ t' s' _ h => hcov.mono h.1 h.2

theorem Keeps.bind (hm : Keeps m) (hf : ∀ v, Keeps (f v)) : Keeps (m >>= f) := by
  intro t s l hcov
  exact meets_seq (hm t s l hcov) (fun v t' s' l' h => hf v t' s' l' h) fun _ _ _ _ h => h

theorem keeps_ite {c : Bool} {m m' : DriverMethod α} (hm : Keeps m) (hm' : Keeps m') :
    Keeps (if c then m else m') := by
  cases c with
  | true => exact hm
  | false => exact hm'

/-- Moreover its `True` means that no child is alive. -/
def Closes (m : DriverMethod Bool) : Prop :=
  ∀ t s l, Covered t s →
    meets tame Alone (fun o t' s' _ => Covered t' s' ∧ (o = .ok true → s'.alive = [])) m t s l

theorem Closes.keeps {m : DriverMethod Bool} (hm : Closes m) : Keeps m := by
  intro t s l hcov
  exact meets_imp (hm t s l hcov) fun _ _ _ _ h => h.1

/-- Where no child is alive, the method starts one or none and keeps it covered. -/
def Starts (m : DriverMethod α) : Prop :=
  ∀ t s l, s.alive = [] → meets tame Alone (fun _ t' s' _ => Covered t' s') m t s l

theorem Keeps.starts {m : DriverMethod α} (hm : Keeps m) : Starts m :=
  fun t s l h => hm t s l (covered_of_none h)

theorem Quiet.starts_bind (hm : Quiet m) (hf : ∀ v, Starts (f v)) : Starts (m >>= f) := by
  intro t s l hnone
  refine quiet_then hm (fun v t' s' l' _ hs => hf v t' s' l' (none_of_subset hnone hs))
    fun x t' s' l' _ hs => ?_
  exact covered_of_none (none_of_subset hnone hs)

theorem Starts.bind (hm : Starts m) (hf : ∀ v, Keeps (f v)) : Starts (m >>= f) := by
  intro t s l hnone
  exact meets_seq (hm t s l hnone) (fun v t' s' l' h => hf v t' s' l' h) fun _ _ _ _ h => h

theorem starts_ite {c : Bool} {m m' : DriverMethod α} (hm : Starts m) (hm' : Starts m') :
    Starts (if c then m else m') := by
  cases c with
  | true => exact hm
  | false => exact hm'

theorem Starts.attempt {m : DriverMethod α} (hm : Starts m) : Starts m.attempt := by
  intro t s l hnone
  rw [meets_attempt]
  exact hm t s l hnone

theorem starts_spawn : Starts spawn := by
  intro t s l hnone
  refine ⟨fun _ => hnone, fun a s' hs => ?_⟩
  obtain ⟨⟨hsub, -⟩, -⟩ := hs
  cases a with
  | error x => exact covered_of_none (none_of_subset hnone hsub)
  | ok child =>
    intro c hc
    have hmem := hsub hc
    change c ∈ child :: s.alive at hmem
    rw [hnone, mem_singleton] at hmem
    rw [hmem]

/-! ## Stopping a child -/

theorem stopLiving_meets (child : Nat) : meets tame Alone
    (fun o t' s' _ => o = .ok true ∧ t' = t ∧ s'.alive ⊆ s.alive ∧ child ∉ s'.alive)
      (stopLiving child) t s l := by
  have hsend : ∀ (signal : Signal) {Q} {f : Unit → DriverMethod Bool} {s : Host} {l},
      (∀ s' l', s'.alive ⊆ s.alive → meets tame Alone Q (f ()) t s' l') →
      meets tame Alone Q (send signal child >>= f) t s l := by
    intro signal Q f s l hf
    refine ⟨nofun, fun a s' hs => ?_⟩
    cases a with
    | ok u => exact hf s' _ (tame_step (by simp) hs)
    | error x => exact (hs.2 (.error x) rfl).elim
  refine hsend .terminate fun s1 l1 h1 => ?_
  rw [meets_bind, meets_ask]
  refine ⟨nofun, fun exited s2 h2 => ?_⟩
  have hsub2 : s2.alive ⊆ s.alive := List.Subset.trans (tame_step (by simp) h2) h1
  cases exited with
  | true => exact ⟨rfl, rfl, hsub2, h2.1.2 rfl⟩
  | false =>
    refine hsend .kill fun s3 l3 h3 => ?_
    refine ⟨nofun, fun exited s4 h4 => ?_⟩
    have hexited : exited = true := h4.2 exited rfl
    subst hexited
    exact ⟨rfl, rfl, List.Subset.trans (tame_step (by simp) h4) (List.Subset.trans h3 hsub2), h4.1.2 rfl⟩

theorem stopChild_meets (process : Option Nat) : meets tame Alone
    (fun o t' s' _ => o = .ok true ∧ t' = t ∧ s'.alive ⊆ s.alive ∧ ∀ child, process = some child →
      child ∉ s'.alive) (stopChild process) t s l := by
  cases process with
  | none => exact ⟨rfl, rfl, List.Subset.refl _, nofun⟩
  | some child =>
    unfold stopChild
    rw [meets_bind, meets_ask]
    refine ⟨nofun, fun exited s1 h1 => ?_⟩
    have hsub1 := tame_step (by simp) h1
    cases exited with
    | true =>
      refine ⟨rfl, rfl, hsub1, fun c hc => ?_⟩
      cases hc
      exact h1.1.2.mp rfl
    | false =>
      refine meets_imp (stopLiving_meets child) fun o t' s' _ h => ?_
      refine ⟨h.1, h.2.1, List.Subset.trans h.2.2.1 hsub1, fun c hc => ?_⟩
      cases hc
      exact h.2.2.2

theorem stopChild_none (hcov : Covered t s) {t' : DriverFields} :
    meets tame Alone (fun o t'' s' _ => o = .ok true ∧ t'' = t' ∧ s'.alive = [])
      (stopChild t.process) t' s l := by
  refine meets_imp (stopChild_meets t.process) fun o t'' s' _ h => ?_
  obtain ⟨ho, ht, hsub, hgone⟩ := h
  refine ⟨ho, ht, ?_⟩
  rw [eq_nil_iff_forall_not_mem]
  exact fun child hchild => hgone child (hcov child (hsub hchild)) hchild

end Steps

/-! ## The drivers -/

section Drivers

variable {α : Type} {t : DriverFields} {s : Host} {l : List (Event ProcAns Host)}

theorem ensureDisconnected_closes {existing : DriverFields → Bool} {disconnect : DriverMethod Bool}
    (hd : Closes disconnect) (hex : ∀ t, existing t = false → t.process = none) :
    Closes (ensureDisconnected existing disconnect) := by
  intro t s l hcov
  unfold ensureDisconnected
  rw [meets_get_bind]
  cases hx : existing t with
  | true => exact hd t s l hcov
  | false => exact ⟨hcov, fun _ => none_of_covered hcov (hex t hx)⟩

/-- A start behind a successful `_ensure_disconnected_before_connect`. -/
theorem Closes.then_starts {m : DriverMethod Bool} {f : Bool → DriverMethod α} (hm : Closes m)
    (htrue : Starts (f true)) (hfalse : Keeps (f false)) : Keeps (m >>= f) := by
  intro t s l hcov
  refine meets_seq (hm t s l hcov) (fun v t' s' l' h => ?_) fun _ _ _ _ h => h.1
  cases v with
  | true => exact htrue t' s' l' (h.2 rfl)
  | false => exact hfalse t' s' l' h.1

theorem Quiet.then_closes {m : DriverMethod α} {f : α → DriverMethod Bool} (hm : Quiet m)
    (hf : ∀ v, Closes (f v)) : Closes (m >>= f) := by
  intro t s l hcov
  refine quiet_then hm (fun v t' s' l' ht hs => hf v t' s' l' (hcov.mono ht hs)) fun x t' s' l' ht hs => ?_
  exact ⟨hcov.mono ht hs, nofun⟩

theorem Quiet.closes {m : DriverMethod Bool} (hm : Quiet m) (hnone : s.alive = []) :
    meets tame Alone (fun o t' s' _ => Covered t' s' ∧ (o = .ok true → s'.alive = [])) m t s l := by
  refine meets_imp (hm t s l) fun _ t' s' _ h => ?_
  have hnone' : s'.alive = [] := none_of_subset hnone h.2
  exact ⟨covered_of_none hnone', fun _ => hnone'⟩

end Drivers

namespace SingBox

theorem quiet_flushFakeip (flush ok : Bool) : Quiet (flushFakeip flush ok) := by
  refine quiet_ite ?_ (quiet_pure _)
  refine (quiet_chore _).bind fun flushed => ?_
  exact Quiet.bind (quiet_modify fun _ => rfl) fun _ => quiet_pure _

theorem quiet_finallyCleanup (process : Option Nat) (residue : Bool) :
    Quiet (finallyCleanup process residue) := by
  refine (quiet_chore _).bind fun _ => ?_
  refine (quiet_hasStopped _).bind fun stopped => ?_
  refine (quiet_choreIf _ _).bind fun tunCleanupOk => ?_
  refine quiet_killAllRecordedChildren.bind fun _ => ?_
  exact (quiet_chore _).bind fun _ => quiet_pure _

theorem disconnect_closes : Closes disconnect := by
  intro t s l hcov
  unfold disconnect
  rw [meets_get_bind]
  refine quiet_then (quiet_choreIf _ _) (fun _ t1 s1 l1 _ hs1 => ?_) fun x t1 s1 l1 ht1 hs1 => ?_
  · -- the handle is dropped here, before the child is stopped
    rw [meets_modify_bind, meets_attempt_bind]
    have hcov1 : Covered t s1 := hcov.mono rfl hs1
    refine meets_imp (stopChild_none hcov1) fun stopped t2 s2 l2 h2 => ?_
    refine Quiet.closes ?_ h2.2.2
    refine (quiet_finallyCleanup _ _).bind fun tunCleanupOk => ?_
    refine (quiet_ofExcept _).bind fun stopped => ?_
    exact quiet_ite (quiet_flushFakeip _ _) (quiet_pure _)
  · exact ⟨hcov.mono ht1 hs1, nofun⟩

theorem keeps_failed : Keeps failed := by
  refine Keeps.bind (quiet_modify fun _ => rfl).keeps fun _ => ?_
  exact disconnect_closes.keeps.bind fun _ => (quiet_pure _).keeps

theorem keeps_register (c : Options) : Keeps (register c) := by
  refine (quiet_choreIf _ _).keeps.bind fun _ => ?_
  refine (quiet_choreIf _ _).keeps.bind fun recorded => keeps_ite ?_ keeps_failed
  refine (quiet_choreIf _ _).keeps.bind fun flushed => keeps_ite ?_ keeps_failed
  exact (quiet_choreIf _ _).keeps.bind fun applied => keeps_ite (quiet_pure _).keeps keeps_failed

theorem starts_start (c : Options) : Starts (start c) := by
  refine (quiet_chore _).starts_bind fun _ => ?_
  refine (quiet_choreIf _ _).starts_bind fun _ => ?_
  refine (quiet_chore _).starts_bind fun _ => ?_
  refine (quiet_chore _).starts_bind fun _ => ?_
  refine (quiet_chore _).starts_bind fun _ => ?_
  refine starts_spawn.bind fun child => ?_
  refine (quiet_chore _).keeps.bind fun _ => ?_
  refine Keeps.bind (quiet_modify fun _ => rfl).keeps fun _ => ?_
  refine Keeps.bind (quiet_ask (by simp)).keeps fun exited => ?_
  refine (quiet_andThen (quiet_chore _)).keeps.bind fun healthy => ?_
  refine keeps_ite (keeps_register c) ?_
  exact (quiet_choreIf _ _).keeps.bind fun _ => keeps_failed

theorem keeps_connectPrepared (c : Options) : Keeps (connectPrepared c) := by
  refine Closes.then_starts (ensureDisconnected_closes disconnect_closes fun t h => ?_) ?_ (quiet_pure _).keeps
  · simpa using h
  · refine (quiet_chore _).starts_bind fun found => ?_
    exact starts_ite (starts_start c) (quiet_pure _).keeps.starts

theorem keeps_connect (c : Options) : Keeps (connect c) := by
  refine keeps_ite (keeps_connectPrepared c) ?_
  refine (quiet_chore _).attempt.keeps.bind fun preflight => ?_
  split
  · exact (quiet_pure _).keeps
  · exact (quiet_raise _).keeps
  · exact keeps_connectPrepared c

end SingBox

namespace OpenVpn

theorem quiet_finallyCleanup : Quiet finallyCleanup := by
  refine quiet_killAllRecordedChildren.bind fun _ => ?_
  refine (quiet_chore _).bind fun _ => ?_
  exact (quiet_chore _).bind fun _ => quiet_pure _

theorem disconnect_none {s : Host} {l} (hcov : Covered t s) :
    meets tame Alone (fun _ _ s' _ => s'.alive = []) disconnect t s l := by
  unfold disconnect
  rw [meets_get_bind, meets_modify_bind, meets_attempt_bind]
  refine meets_imp (stopChild_none hcov) fun stopped t2 s2 l2 h2 => ?_
  have hrest : Quiet (finallyCleanup >>= fun _ => Method.ofExcept stopped) :=
    quiet_finallyCleanup.bind fun _ => quiet_ofExcept _
  exact meets_imp (hrest t2 s2 l2) fun _ _ _ _ h => none_of_subset h2.2.2 h.2

theorem disconnect_closes : Closes disconnect := by
  intro t s l hcov
  exact meets_imp (disconnect_none hcov) fun _ _ _ _ h => ⟨covered_of_none h, fun _ => h⟩

/-- The roll back drops the handle a second time: nothing is alive by then. -/
theorem keeps_rollbackStartup : Keeps rollbackStartup := by
  intro t s l hcov
  unfold rollbackStartup
  rw [meets_attempt_bind]
  refine meets_imp (disconnect_none hcov) fun o t1 s1 l1 hnone => ?_
  have hrest : Quiet (do let _ ← chore .cleanupEndpointRoute; let _ ← chore .cleanupRuntime; pure ()) :=
    (quiet_chore _).bind fun _ => (quiet_chore _).bind fun _ => quiet_pure _
  exact hrest.keeps _ _ _ (covered_of_none hnone)

theorem keeps_rolledBack : Keeps rolledBack := keeps_rollbackStartup.bind fun _ => (quiet_pure _).keeps

theorem quiet_unlinkStatus : Quiet unlinkStatus := by
  refine (quiet_chore _).attempt.bind fun outcome => ?_
  split
  · exact quiet_pure _
  · exact quiet_pure _
  · exact quiet_raise _

theorem starts_launch : Starts launch := by
  refine (quiet_chore _).starts_bind fun _ => ?_
  refine quiet_unlinkStatus.starts_bind fun _ => ?_
  refine (quiet_chore _).starts_bind fun _ => ?_
  refine starts_spawn.bind fun child => ?_
  refine (quiet_chore _).keeps.bind fun _ => ?_
  refine Keeps.bind (quiet_modify fun _ => rfl).keeps fun _ => ?_
  exact (quiet_chore _).keeps.bind fun ready => keeps_ite (quiet_pure _).keeps keeps_rolledBack

theorem starts_start : Starts start := by
  refine (quiet_chore _).starts_bind fun _ => ?_
  refine (quiet_chore _).starts_bind fun _ => ?_
  refine (quiet_chore _).starts_bind fun available => starts_ite ?_ ?_
  · have hstar : Starts startup :=
      (quiet_chore _).starts_bind fun isProtected => starts_ite starts_launch keeps_rolledBack.starts
    refine hstar.attempt.bind fun outcome => ?_
    split
    · exact (quiet_pure _).keeps
    · exact keeps_rolledBack
  · exact (quiet_chore _).starts_bind fun _ => (quiet_pure _).keeps.starts

theorem keeps_connect : Keeps connect := by
  refine (quiet_chore _).keeps.bind fun valid => keeps_ite ?_ (quiet_pure _).keeps
  refine Closes.then_starts (ensureDisconnected_closes disconnect_closes fun t h => ?_) ?_ (quiet_pure _).keeps
  · simpa using h
  · exact (quiet_chore _).starts_bind fun found => starts_ite starts_start (quiet_pure _).keeps.starts

end OpenVpn

namespace AmneziaWg

theorem quiet_routesDue (t : DriverFields) : Quiet (routesDue t) := by
  refine quiet_ite (quiet_pure _) ?_
  exact (quiet_chore _).bind fun interface => quiet_pure _

/-- The child that covered all is stopped last. -/
theorem stopUserspaceProcess_closes (deleted : Bool) :
    Closes (do let stopped ← stopUserspaceProcess; pure (stopped && deleted)) := by
  intro t s l hcov
  unfold stopUserspaceProcess
  rw [meets_bind, meets_get_bind, meets_modify_bind]
  refine meets_imp (stopChild_none hcov) fun o t1 s1 l1 h1 => ?_
  obtain ⟨rfl, -, hnone⟩ := h1
  exact (quiet_pure _).closes hnone

/-- What is done before leaves the handle in place. -/
theorem takeDown_closes : Closes takeDown := by
  intro t s l hcov
  refine Quiet.then_closes (quiet_routesDue t) (fun due => ?_) t s l hcov
  refine (quiet_choreIf _ _).then_closes fun _ => ?_
  refine (quiet_chore _).then_closes fun interface => ?_
  exact (quiet_choreIf _ _).then_closes stopUserspaceProcess_closes

theorem quiet_finallyCleanup : Quiet finallyCleanup := by
  refine Quiet.bind (quiet_modify fun _ => rfl) fun _ => ?_
  refine quiet_killAllRecordedChildren.bind fun _ => ?_
  exact (quiet_chore _).bind fun _ => quiet_modify fun _ => rfl

/-- A `True` of `disconnect` is a `True` of the body. -/
theorem disconnect_closes : Closes disconnect := by
  intro t s l hcov
  unfold disconnect
  rw [meets_attempt_bind]
  refine meets_imp (takeDown_closes t s l hcov) fun o t1 s1 l1 h1 => ?_
  obtain ⟨hcov1, hnone1⟩ := h1
  refine quiet_then quiet_finallyCleanup (fun _ t2 s2 l2 ht2 hs2 => ?_) fun x t2 s2 _ ht2 hs2 => ?_
  · have hcov2 := hcov1.mono ht2 hs2
    match o with
    | .ok true =>
      refine Quiet.closes ?_ (none_of_subset (hnone1 rfl) hs2)
      exact (quiet_chore _).bind fun interface => quiet_pure _
    | .ok false | .error x => exact ⟨hcov2, nofun⟩
  · exact ⟨hcov1.mono ht2 hs2, nofun⟩

theorem starts_startUserspaceInterface : Starts startUserspaceInterface := by
  refine (quiet_chore _).starts_bind fun _ => ?_
  refine (quiet_chore _).starts_bind fun _ => ?_
  refine starts_spawn.bind fun child => ?_
  refine (quiet_chore _).keeps.bind fun _ => ?_
  refine (quiet_chore _).keeps.bind fun appeared => ?_
  exact keeps_ite (quiet_chore _).keeps (quiet_pure _).keeps

theorem starts_createInterface : Starts createInterface := by
  refine (quiet_chore _).starts_bind fun added => starts_ite (quiet_pure _).keeps.starts ?_
  refine (quiet_chore _).starts_bind fun found => ?_
  have hstar : Starts (andThen found startUserspaceInterface) :=
    starts_ite starts_startUserspaceInterface (quiet_pure _).keeps.starts
  exact hstar.bind fun started => keeps_ite (quiet_pure _).keeps (quiet_raise _).keeps

theorem starts_bringUp : Starts bringUp := by
  refine (quiet_chore _).starts_bind fun _ => ?_
  refine Quiet.starts_bind (quiet_modify fun _ => rfl) fun _ => ?_
  refine (quiet_chore _).starts_bind fun _ => ?_
  refine (quiet_chore _).starts_bind fun _ => ?_
  refine (quiet_chore _).starts_bind fun _ => ?_
  refine starts_createInterface.bind fun _ => ?_
  exact ((quiet_chore _).bind fun _ => quiet_pure _).keeps

theorem keeps_bringUpFailed : Keeps bringUpFailed := by
  refine (quiet_chore _).keeps.bind fun _ => ?_
  refine disconnect_closes.keeps.bind fun _ => ?_
  refine (quiet_chore _).keeps.bind fun _ => ?_
  exact Keeps.bind (quiet_modify fun _ => rfl).keeps fun _ => (quiet_pure _).keeps

theorem keeps_confirm : Keeps confirm := by
  refine Keeps.bind (quiet_modify fun _ => rfl).keeps fun _ => ?_
  refine (quiet_chore _).keeps.bind fun interface => keeps_ite (quiet_pure _).keeps ?_
  refine Keeps.bind (quiet_modify fun _ => rfl).keeps fun _ => ?_
  exact disconnect_closes.keeps.bind fun _ => (quiet_pure _).keeps

theorem starts_start : Starts start := by
  refine starts_bringUp.attempt.bind fun outcome => ?_
  split
  · exact keeps_confirm
  · exact keeps_ite keeps_bringUpFailed (quiet_raise _).keeps

theorem starts_connectPrepared : Starts connectPrepared := by
  refine (quiet_chore _).starts_bind fun ipTool => ?_
  refine (quiet_andThen (quiet_chore _)).starts_bind fun wgTool => ?_
  refine (quiet_andThen ((quiet_chore _).bind fun _ => quiet_choreIf _ _)).starts_bind fun clear => ?_
  exact starts_ite starts_start (quiet_pure _).keeps.starts

theorem keeps_connect : Keeps connect := by
  refine Closes.then_starts (ensureDisconnected_closes disconnect_closes fun t h => ?_) starts_connectPrepared
    (quiet_pure _).keeps
  rw [Bool.or_eq_false_iff] at h
  simpa using h.2

end AmneziaWg

theorem Driver.disconnect_covered (d : Driver) : Closes d.disconnect := by
  cases d with
  | singBox => exact SingBox.disconnect_closes
  | openVpn => exact OpenVpn.disconnect_closes
  | amneziaWg => exact AmneziaWg.disconnect_closes

theorem Driver.connect_covered (d : Driver) (options : SingBox.Options) : Keeps (d.connect options) := by
  cases d with
  | singBox => exact SingBox.keeps_connect options
  | openVpn => exact OpenVpn.keeps_connect
  | amneziaWg => exact AmneziaWg.keeps_connect

/-! ## Sequences of calls -/

/-- The fields, the children and all events after any sequence of calls of `connect` and
`disconnect`, whatever each of them returns or raises. -/
inductive Session (d : Driver) : DriverFields → Host → List (Event ProcAns Host) → Prop
  | fresh (next : Nat) : Session d {} ⟨next, []⟩ []
  | connect {t s l o t' s' l'} (options : SingBox.Options) : Session d t s l →
      Ends world (d.connect options t) s l (.ok (o, t')) s' l' → Session d t' s' l'
  | disconnect {t s l o t' s' l'} : Session d t s l →
      Ends world (d.disconnect t) s l (.ok (o, t')) s' l' → Session d t' s' l'

variable {d : Driver}

/-- The run lemma: in an obedient session the handle covers the children, and every child was
started alone. -/
theorem Session.covered {t s l} (h : Session d t s l) (hob : ∀ ev ∈ l, Obedient ev) :
    Covered t s ∧ ∃ s0, Lawful tame Alone s0 s l := by
  have step : ∀ {m : DriverMethod Bool} {t s l o t' s' l'}, Keeps m → Ends world (m t) s l (.ok (o, t')) s' l' →
      ((∀ ev ∈ l, Obedient ev) → Covered t s ∧ ∃ s0, Lawful tame Alone s0 s l) →
      (∀ ev ∈ l', Obedient ev) → Covered t' s' ∧ ∃ s0, Lawful tame Alone s0 s' l' := by
    intro m t s l o t' s' l' hm hend ih hob
    have hsuf := exec_suffix (ends_exec hend)
    obtain ⟨hcov, s0, hlaw⟩ := ih fun ev hev => hob ev (hsuf.subset hev)
    have htame := ends_restrict hend hob
    obtain ⟨a, ha, hcov'⟩ := meets_ends (hm t s l hcov) htame
    cases ha
    exact ⟨hcov', s0, exec_lawful hlaw (hm t s l hcov) (ends_exec htame)⟩
  induction h with
  | fresh next => exact ⟨covered_of_none rfl, _, .init⟩
  | connect options _ hend ih => exact step (d.connect_covered options) hend ih hob
  | disconnect _ hend ih => exact step d.disconnect_covered.keeps hend ih hob

/-! ## Concrete sessions -/

/-- Chores succeed; the AmneziaWG interface is never there, so that its child is needed. -/
def choreAnswer : Chore → Bool
  | .interfaceExists | .linkAdd => false
  | _ => true

/-- A host whose children exit when told to, or never. -/
def script (stubborn : Bool) (_ : Unit) (s : Host) : (e : ProcReq) → Reply ProcAns Host Unit e
  | .spawn => .answer (.ok s.next) ⟨s.next + 1, s.next :: s.alive⟩ ()
  | .poll child => .answer (decide (child ∉ s.alive)) s ()
  | .send _ _ => .answer (.ok ()) s ()
  | .wait _ child =>
    if stubborn then .answer false s () else .answer true ⟨s.next, s.alive.filter (· ≠ child)⟩ ()
  | .killAllRecordedChildren => .answer (.ok ()) s ()
  | .chore c => .answer (.ok (choreAnswer c)) s ()

theorem script_follows (stubborn : Bool) : Follows (script stubborn) world where
  answer i s e a s' i' h := by
    cases e with
    | spawn =>
      cases h
      exact ⟨List.Subset.refl _, rfl, rfl⟩
    | poll child =>
      cases h
      exact ⟨List.Subset.refl _, decide_eq_true_iff⟩
    | send | killAllRecordedChildren | chore =>
      cases h
      exact ⟨List.Subset.refl _, trivial⟩
    | wait signal child =>
      cases stubborn with
      | true =>
        cases h
        exact ⟨List.Subset.refl _, nofun⟩
      | false =>
        cases h
        refine ⟨filter_subset_self _, fun _ hmem => ?_⟩
        simp at hmem
  kill i s e s' h := by
    cases e with
    | wait signal child => cases stubborn <;> cases h
    | _ => cases h

inductive Call
  | connect
  | disconnect

def Driver.call (d : Driver) : Call → DriverMethod Bool
  | .connect => d.connect ⟨true, false, true, false⟩
  | .disconnect => d.disconnect

/-- Calls on a fresh driver: what the last one returned, and what is left. -/
def play (stubborn : Bool) (d : Driver) : List Call → DriverFields → Host → List (Event ProcAns Host) →
    Option (DriverFields × Host × List (Event ProcAns Host))
  | [], t, s, l => some (t, s, l)
  | c :: calls, t, s, l =>
    match drive (script stubborn) (d.call c t) () s l with
    | (some (.ok (_, t')), _, s', l') => play stubborn d calls t' s' l'
    | _ => none

theorem play_session {stubborn : Bool} (calls : List Call) {t s l r} (h : Session d t s l)
    (hplay : play stubborn d calls t s l = some r) : Session d r.1 r.2.1 r.2.2 := by
  induction calls generalizing t s l with
  | nil =>
    cases hplay
    exact h
  | cons c calls ih =>
    unfold play at hplay
    split at hplay
    · rename_i o t' _ s' l' hdrive
      refine ih ?_ hplay
      have hend := drive_ends (i := ()) (script_follows stubborn) (congrArg Prod.fst hdrive)
      rw [hdrive] at hend
      cases c with
      | connect => exact .connect _ h hend
      | disconnect => exact .disconnect h hend
    · cases hplay

theorem exists_session (stubborn : Bool) (calls : List Call)
    {A : DriverFields → Host → List (Event ProcAns Host) → Bool}
    (h : (play stubborn d calls {} ⟨0, []⟩ []).any (fun r => A r.1 r.2.1 r.2.2) = true) :
    ∃ t s l, Session d t s l ∧ A t s l = true := by
  rw [Option.any_eq_true_iff_get] at h
  obtain ⟨hsome, hA⟩ := h
  exact ⟨_, _, _, play_session calls (.fresh 0) (Option.some_get hsome).symm, hA⟩

/-! ## The theorem -/

/-- **A `True` of `disconnect` is honest as long as the children obey**: in any sequence of calls in
which no signal failed and no child outlived the wait after `kill`, a child is started only when
none is alive, and a `disconnect` that returns `True` leaves none alive. -/
theorem teardown_honest (d : Driver) {t s l} (hsession : Session d t s l) (hob : ∀ ev ∈ l, Obedient ev) :
    (∀ ev ∈ l, ev.req = .spawn → ev.pre.alive = []) ∧
      ∀ o t' s' l', Ends world (d.disconnect t) s l (.ok (o, t')) s' l' → (∀ ev ∈ l', Obedient ev) →
        o = .ok true → s'.alive = [] := by
  obtain ⟨hcov, s0, hlaw⟩ := hsession.covered hob
  refine ⟨fun ev hev hspawn => ?_, fun o t' s' l' hend hob' ho => ?_⟩
  · obtain ⟨later, earlier, rfl⟩ := append_of_mem hev
    exact (lawful_split hlaw).2.1 hspawn
  obtain ⟨a, ha, -, hnone⟩ := meets_ends (d.disconnect_covered t s l hcov) (ends_restrict hend hob')
  cases ha
  exact hnone ho

/-- The sing-box driver is connected, disconnected and connected once more. -/
theorem teardown_honest_played : ∃ t s l, Session .singBox t s l ∧ 2 ≤ (l.filter (·.req = .spawn)).length ∧
    ∀ ev ∈ l, ev.req = .spawn → ev.pre.alive = [] := by
  have hplay : ∃ t s l, Session .singBox t s l ∧
      decide (2 ≤ (l.filter (·.req = .spawn)).length ∧ ∀ ev ∈ l, Obedient ev) = true :=
    exists_session false [.connect, .disconnect, .connect] (by decide +kernel)
  obtain ⟨t, s, l, hsess, hl⟩ := hplay
  rw [decide_eq_true_iff] at hl
  exact ⟨t, s, l, hsess, hl.1, (teardown_honest .singBox hsess hl.2).1⟩

/-- Whether `disconnect` returns `True` while a child is alive. -/
def liesAfter (d : Driver) (t : DriverFields) (s : Host) (l : List (Event ProcAns Host)) : Bool :=
  match drive (script true) (d.disconnect t) () s l with
  | (some (.ok (.ok true, _)), _, s', _) => !s'.alive.isEmpty
  | _ => false

theorem exists_lie {t s l} (h : liesAfter d t s l = true) :
    ∃ t' s' l', Ends world (d.disconnect t) s l (.ok (.ok true, t')) s' l' ∧ s'.alive ≠ [] := by
  unfold liesAfter at h
  split at h
  · rename_i t' _ s' l' hdrive
    have hend := drive_ends (i := ()) (script_follows true) (congrArg Prod.fst hdrive)
    rw [hdrive] at hend
    refine ⟨t', s', l', hend, ?_⟩
    simpa using h
  · cases h

/-- The driver forgets a child: `disconnect` returns `True` while it is alive, and `connect` starts
another one beside it. -/
def Forgets (d : Driver) : Prop :=
  (∃ t s l, Session d t s l ∧
    ∃ t' s' l', Ends world (d.disconnect t) s l (.ok (.ok true, t')) s' l' ∧ s'.alive ≠ []) ∧
  ∃ t s l, Session d t s l ∧ ∃ ev ∈ l, ev.req = .spawn ∧ ev.pre.alive ≠ []

theorem forgets (d : Driver) : Forgets d := by
  constructor
  · obtain ⟨t, s, l, hsess, hlie⟩ : ∃ t s l, Session d t s l ∧ liesAfter d t s l = true :=
      exists_session true [.connect, .disconnect] (by cases d <;> decide +kernel)
    exact ⟨t, s, l, hsess, exists_lie hlie⟩
  · obtain ⟨t, s, l, hsess, hl⟩ : ∃ t s l, Session d t s l ∧
        decide (∃ ev ∈ l, ev.req = .spawn ∧ ev.pre.alive ≠ []) = true :=
      exists_session true [.connect, .disconnect, .disconnect, .connect] (by cases d <;> decide +kernel)
    exact ⟨t, s, l, hsess, of_decide_eq_true hl⟩

/-- A child that outlives the wait after `kill` is forgotten by each of the drivers: the second
`disconnect` returns `True` while it is alive, and the next `connect` starts another one beside it.
-/
theorem teardown_forgets : Forgets .singBox ∧ Forgets .openVpn ∧ Forgets .amneziaWg :=
  ⟨forgets _, forgets _, forgets _⟩

end WatchdogVpn.Drivers
