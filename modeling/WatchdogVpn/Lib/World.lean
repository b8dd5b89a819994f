import WatchdogVpn.Lib.Prog
import Mathlib.Logic.Function.Basic

/-!
# Programs in a world that answers in one way

A `World` gives every request one answer and one next state, so a program has one run. A process
that is killed between two requests leaves one of the `states` of that run.

* `run` is what a program returns or raises, and the state it ends in.
* `states` is every state the run passes through.
* `Holds I Q p s`: every state of the run of `p` from `s` meets `I` and its end meets `Q`
  (**`holds_iff`**), with the rules to prove it along the program; `Keeps I p`: `p` keeps `I`.
* `rewrite` puts a list of contents back into a function from places to contents, the undo step of
  a journal: how much of it has been done before does not matter.
-/

namespace Effect

/-- A state of the world answers every request and goes to one next state. -/
structure World {E : Type} (R : E → Type) (S : Type) where
  answer : S → (e : E) → R e
  next : S → E → S

section Runs

variable {E : Type} {R : E → Type} {X α β S : Type} (W : World R S)

/-- What a program returns or raises, and the state it ends in. -/
def World.run : Prog R X α → S → Except X α × S
  | .ret a, s => (.ok a, s)
  | .raise x, s => (.error x, s)
  | .call e k, s => World.run (k (W.answer s e)) (W.next s e)

/-- The states a run passes through, from its first to its last. -/
def World.states : Prog R X α → S → List S
  | .ret _, s => [s]
  | .raise _, s => [s]
  | .call e k, s => s :: World.states (k (W.answer s e)) (W.next s e)

/-- Every state of the run meets `I`, its end meets `Q`. -/
def World.Holds (I : S → Prop) (Q : Except X α → S → Prop) : Prog R X α → S → Prop
  | .ret a, s => I s ∧ Q (.ok a) s
  | .raise x, s => I s ∧ Q (.error x) s
  | .call e k, s => I s ∧ World.Holds I Q (k (W.answer s e)) (W.next s e)

variable {W} {I J : S → Prop}

variable {Q : Except X α → S → Prop} {p : Prog R X α}

theorem holds_iff {s : S} : W.Holds I Q p s ↔ (∀ s' ∈ W.states p s, I s') ∧ Q (W.run p s).1 (W.run p s).2 := by
  induction p generalizing s with
  | ret a | raise x => simp [World.Holds, World.states, World.run]
  | call e k ih => simp [World.Holds, World.states, World.run, ih, and_assoc]

theorem World.Holds.start {s : S} (h : W.Holds I Q p s) : I s := by
  cases p with
  | ret a => exact h.1
  | raise x => exact h.1
  | call e k => exact h.1

theorem World.Holds.mono {Q' : Except X α → S → Prop} {s : S} (h : W.Holds I Q p s)
    (hI : ∀ s, I s → J s) (hQ : ∀ o s, I s → Q o s → Q' o s) : W.Holds J Q' p s := by
  induction p generalizing s with
  | ret a | raise x => exact ⟨hI _ h.1, hQ _ _ h.1 h.2⟩
  | call e k ih => exact ⟨hI _ h.1, ih _ h.2⟩

theorem holds_ofExcept (r : Except X α) (s : S) : W.Holds I Q (.ofExcept r) s ↔ I s ∧ Q r s := by
  cases r <;> rfl

theorem holds_bind {Q : Except X β → S → Prop} (p : Prog R X α) (f : α → Prog R X β) (s : S) :
    W.Holds I Q (p >>= f) s ↔ W.Holds I (fun o s' =>
      match o with
      | .ok a => W.Holds I Q (f a) s'
      | .error x => Q (.error x) s') p s := by
  change W.Holds I Q (p.bind f) s ↔ _
  induction p generalizing s with
  | ret a => exact ⟨fun h => ⟨h.start, h⟩, fun h => h.2⟩
  | raise x => rfl
  | call e k ih => simp only [Prog.bind, World.Holds, ih]

theorem holds_attempt {Q : Except X (Except X α) → S → Prop} (p : Prog R X α) (s : S) :
    W.Holds I Q p.attempt s ↔ W.Holds I (fun o s' => Q (.ok o) s') p s := by
  induction p generalizing s with
  | ret a => rfl
  | raise x => rfl
  | call e k ih => simp only [Prog.attempt, World.Holds, ih]

section

variable {Q : Except X α → S → Prop} {p : Prog R X α} {s : S} (h : W.Holds I Q p s)
include h

theorem World.Holds.last : I (W.run p s).2 := by
  induction p generalizing s with
  | ret a => exact h.1
  | raise x => exact h.1
  | call e k ih => exact ih _ h.2

theorem World.Holds.ends : Q (W.run p s).1 (W.run p s).2 := (holds_iff.mp h).2

end

theorem bind_pure_unit (p : Prog R X Unit) : (p >>= fun _ => pure ()) = p := by
  change p.bind (fun _ => .ret ()) = p
  induction p with
  | ret a => rfl
  | raise x => rfl
  | call e k ih => rw [Prog.bind, funext ih]

/-- A program keeps `I` if every state of every run from a state with `I` has it. -/
def World.Keeps (W : World R S) (I : S → Prop) (p : Prog R X α) : Prop :=
  ∀ s, I s → W.Holds I (fun _ _ => True) p s

theorem keeps_pure (a : α) : W.Keeps I (pure a : Prog R X α) := fun _ hs => ⟨hs, trivial⟩

theorem keeps_ofExcept (r : Except X α) : W.Keeps I (Prog.ofExcept r) :=
  fun s hs => (holds_ofExcept r s).mpr ⟨hs, trivial⟩

theorem World.Keeps.bind {f : α → Prog R X β} (hp : W.Keeps I p) (hf : ∀ a, W.Keeps I (f a)) :
    W.Keeps I (p >>= f) := by
  intro s hs
  refine (holds_bind p f s).mpr ((hp s hs).mono (fun _ h => h) fun o s' hI _ => ?_)
  cases o with
  | ok a => exact hf a s' hI
  | error x => trivial

end Runs

/-! ## Putting contents back -/

section Rewrite

variable {P B : Type} [DecidableEq P]

/-- Put every content of the list at its place, in order. -/
def rewrite (l : List (P × B)) (f : P → B) : P → B := l.foldl (fun f e => Function.update f e.1 e.2) f

@[simp] theorem rewrite_cons (e : P × B) (l : List (P × B)) (f : P → B) :
    rewrite (e :: l) f = rewrite l (Function.update f e.1 e.2) := rfl

/-- At a place the list names, or where they agree, what was there before does not matter. -/
theorem rewrite_congr {l : List (P × B)} {f g : P → B} {p : P} (h : p ∈ l.map Prod.fst ∨ f p = g p) :
    rewrite l f p = rewrite l g p := by
  induction l generalizing f g with
  | nil => exact h.resolve_left List.not_mem_nil
  | cons e l ih =>
    rw [rewrite_cons, rewrite_cons]
    refine ih ?_
    by_cases hp : p = e.1
    · exact .inr (by rw [hp, Function.update_self, Function.update_self])
    · simpa [hp] using h

theorem rewrite_of_not_mem {l : List (P × B)} {f : P → B} {p : P} (h : p ∉ l.map Prod.fst) :
    rewrite l f p = f p := by
  induction l generalizing f with
  | nil => rfl
  | cons e l ih =>
    rw [List.map_cons, List.mem_cons, not_or] at h
    rw [rewrite_cons, ih h.2, Function.update_of_ne h.1]

/-- A list of the contents `f` has puts `f` back wherever it names a place. -/
theorem rewrite_of_mem {l : List (P × B)} {f g : P → B} {p : P} (hl : ∀ e ∈ l, e.2 = f e.1)
    (h : p ∈ l.map Prod.fst) : rewrite l g p = f p := by
  rw [rewrite_congr (g := f) (.inl h)]
  clear h
  induction l with
  | nil => rfl
  | cons e l ih =>
    rw [rewrite_cons, hl e List.mem_cons_self, Function.update_eq_self]
    exact ih fun e' he' => hl e' (List.mem_cons_of_mem _ he')

end Rewrite

end Effect
