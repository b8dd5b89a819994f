import Mathlib.Tactic.Common

/-!
# Computations with a state that may fail

What a successful run of a computation in `StateT σ (Except ε)` is made of.

* `bind_ok` takes a successful run apart, `bind_of_ok` and `bind_of_error` go the other way.
* `liftM_ok`: what has no state leaves it as it is.
-/

namespace StateExcept

variable {σ ε β γ : Type}

section

variable {x : StateT σ (Except ε) β} {f : β → StateT σ (Except ε) γ}

theorem bind_ok {s s' : σ} {c : γ}
    (h : (x >>= f) s = .ok (c, s')) : ∃ b s1, x s = .ok (b, s1) ∧ f b s1 = .ok (c, s') := by
  change (x s >>= fun p => f p.1 p.2) = .ok (c, s') at h
  cases hx : x s with
  | error e =>
    rw [hx] at h
    cases h
  | ok p =>
    rw [hx] at h
    exact ⟨p.1, p.2, rfl, h⟩

theorem bind_of_ok {s s1 : σ} {b : β} (h : x s = .ok (b, s1)) : (x >>= f) s = f b s1 := by
  change (x s >>= fun p => f p.1 p.2) = _
  rw [h]
  rfl

theorem bind_of_error {s : σ} {e : ε} (h : x s = .error e) : (x >>= f) s = .error e := by
  change (x s >>= fun p => f p.1 p.2) = _
  rw [h]
  rfl

end

theorem liftM_ok {x : Except ε β} {s s' : σ} {b : β} (h : (liftM x : StateT σ (Except ε) β) s = .ok (b, s')) :
    x = .ok b ∧ s = s' := by
  cases x with
  | error e => cases h
  | ok b =>
    cases h
    exact ⟨rfl, rfl⟩

end StateExcept
