import Mathlib.Data.List.Basic
import Mathlib.Tactic.Common

/-!
# Programs that ask a changing world

A program is a tree of requests: it returns, raises, or asks one request and goes
on with the answer. A `Handler` says which answers a state of the world can give to
a request, and in which states a process killed during that request can leave it.

* `wp H G Q F p` is the weakest precondition of `p`: every request it asks meets the
  guard `G`, every return meets `Q` and every exception meets `F`. The predicates
  see the state and the log of all events so far, newest first.
* `Exec H p` is the executions of `p` cut at any point, `Ends H p` the complete ones.
* `Run H Pass` is the histories made of one pass after another, each of which may be
  killed anywhere; `Lawful H G` is the histories all of whose requests meet `G`.
  **`run_lawful`**: if every pass meets its guard, every run is lawful, so what holds
  along lawful histories holds along runs.
* `handle` interprets the requests of one program by programs over other requests.
* `drive` executes a program against a script, for evaluation on concrete inputs.
-/

namespace Effect

open List

variable {E : Type} {R : E → Type} {X α β S : Type}

/-- A program over requests `e : E` with answers in `R e`, exceptions in `X`. -/
inductive Prog {E : Type} (R : E → Type) (X α : Type) : Type
  | ret (a : α)
  | raise (x : X)
  | call (e : E) (k : R e → Prog R X α)

namespace Prog

def bind : Prog R X α → (α → Prog R X β) → Prog R X β
  | ret a, f => f a
  | raise x, _ => raise x
  | call e k, f => call e fun r => (k r).bind f

instance : Monad (Prog R X) where
  pure := ret
  bind := bind

def ask (e : E) : Prog R X (R e) := call e ret

/-- Run a program and hand its exception, if any, over as a value. -/
def attempt : Prog R X α → Prog R X (Except X α)
  | ret a => ret (.ok a)
  | raise x => ret (.error x)
  | call e k => call e fun r => (k r).attempt

/-- Raise the exception of an answer that carries one. -/
def ofExcept : Except X α → Prog R X α
  | .ok a => ret a
  | .error x => raise x

/-- A program over some of the requests, as a program over all of them. -/
def widen {P : E → Prop} : Prog (fun e : Subtype P => R e.1) X α → Prog R X α
  | ret a => ret a
  | raise x => raise x
  | call e k => call e.1 fun r => (k r).widen

def first : Prog R X α → Option E
  | call e _ => some e
  | _ => none

end Prog

section

variable {x : Except X α} {f : α → Except X β} {b : β}

theorem except_bind_iff : x >>= f = .ok b ↔ ∃ a, x = .ok a ∧ f a = .ok b := by
  cases x with
  | error e => exact iff_of_false nofun nofun
  | ok a =>
    simp only [Except.ok.injEq, exists_eq_left']
    rfl

theorem except_bind_ok (hx : x >>= f = .ok b) : ∃ a, x = .ok a ∧ f a = .ok b := except_bind_iff.mp hx

end

/-- What the world does with a request: `step s e r s'` if it can answer `r` and move to
`s'`, `cut s e s'` if a process killed while the request runs can leave it in `s'`. -/
structure Handler {E : Type} (R : E → Type) (S : Type) where
  step : S → (e : E) → R e → S → Prop
  cut : S → E → S → Prop

/-- What a request as it happened did: it was answered, or the process was killed inside it. -/
def Handler.Happens {E : Type} {R : E → Type} {S : Type} (H : Handler R S) (s : S) (e : E) :
    Option (R e) → S → Prop
  | some r, s' => H.step s e r s'
  | none, s' => H.cut s e s'

/-- One request as it happened: the state before it, and the answer unless the process
was killed inside it. -/
structure Event {E : Type} (R : E → Type) (S : Type) where
  pre : S
  req : E
  ans : Option (R req)

/-! ## Weakest preconditions -/

variable {p : Prog R X α} {K : S → List (Event R S) → Prop}

section WP

variable (H : Handler R S) (G : S → List (Event R S) → E → Prop)

/-- Every request meets `G`, every return `Q`, every exception `F`. -/
def wp (Q : α → S → List (Event R S) → Prop) (F : X → S → List (Event R S) → Prop) :
    Prog R X α → S → List (Event R S) → Prop
  | .ret a, s, l => Q a s l
  | .raise x, s, l => F x s l
  | .call e k, s, l => G s l e ∧ ∀ r s', H.step s e r s' → wp Q F (k r) s' (⟨s, e, some r⟩ :: l)

variable {H G} {Q Q' : α → S → List (Event R S) → Prop} {F F' : X → S → List (Event R S) → Prop}

@[simp] theorem wp_ret (a : α) (s l) : wp H G Q F (.ret a) s l ↔ Q a s l := Iff.rfl

@[simp] theorem wp_pure (a : α) (s l) : wp H G Q F (pure a) s l ↔ Q a s l := Iff.rfl

@[simp] theorem wp_raise (x : X) (s l) : wp H G Q F (.raise x) s l ↔ F x s l := Iff.rfl

@[simp] theorem wp_bind {Q : β → S → List (Event R S) → Prop} (p : Prog R X α) (f : α → Prog R X β) (s l) :
    wp H G Q F (p >>= f) s l ↔ wp H G (fun a s l => wp H G Q F (f a) s l) F p s l := by
  change wp H G Q F (p.bind f) s l ↔ _
  induction p generalizing s l with
  | ret a => rfl
  | raise x => rfl
  | call e k ih => simp only [Prog.bind, wp, ih]

@[simp] theorem wp_attempt {Q : Except X α → S → List (Event R S) → Prop} (p : Prog R X α) (s l) :
    wp H G Q F p.attempt s l ↔ wp H G (fun a => Q (.ok a)) (fun x => Q (.error x)) p s l := by
  induction p generalizing s l with
  | ret a => rfl
  | raise x => rfl
  | call e k ih => simp only [Prog.attempt, wp, ih]

theorem wp_mono {G' : S → List (Event R S) → E → Prop} {s l}
    (h : wp H G Q F p s l) (hG : ∀ s l e, G s l e → G' s l e) (hQ : ∀ a s l, Q a s l → Q' a s l)
    (hF : ∀ x s l, F x s l → F' x s l) : wp H G' Q' F' p s l := by
  induction p generalizing s l with
  | ret a => exact hQ _ _ _ h
  | raise x => exact hF _ _ _ h
  | call e k ih => exact ⟨hG _ _ _ h.1, fun r s' hs => ih r (h.2 r s' hs)⟩

/-- A specification of the first part, then the rest from what it leaves. -/
theorem wp_seq {Q1 : β → S → List (Event R S) → Prop} {p : Prog R X β} {f : β → Prog R X α} {s l}
    (h : wp H G Q1 F p s l) (hf : ∀ b s' l', Q1 b s' l' → wp H G Q F (f b) s' l') :
    wp H G Q F (p >>= f) s l := (wp_bind p f s l).mpr (wp_mono h (fun _ _ _ h => h) hf fun _ _ _ h => h)

theorem wp_imp {s l} (h : wp H G Q F p s l) (hQ : ∀ a s l, Q a s l → Q' a s l) : wp H G Q' F p s l :=
  wp_mono h (fun _ _ _ h => h) hQ fun _ _ _ h => h

theorem wp_and {s l} (h : wp H G Q F p s l) (h' : wp H G Q' F' p s l) :
    wp H G (fun a s l => Q a s l ∧ Q' a s l) (fun x s l => F x s l ∧ F' x s l) p s l := by
  induction p generalizing s l with
  | ret a | raise x => exact ⟨h, h'⟩
  | call e k ih => exact ⟨h.1, fun r s' hs => ih r (h.2 r s' hs) (h'.2 r s' hs)⟩

/-- **Invariants of a program**: what every answer keeps and what makes every request admissible. -/
theorem wp_frame {s l} (hs : K s l) (hG : ∀ s l e, K s l → G s l e)
    (hK : ∀ s l e r s', K s l → H.step s e r s' → K s' (⟨s, e, some r⟩ :: l)) :
    wp H G (fun _ => K) (fun _ => K) p s l := by
  induction p generalizing s l with
  | ret a => exact hs
  | raise x => exact hs
  | call e k ih => exact ⟨hG _ _ _ hs, fun r s' h => ih r (hK _ _ _ _ _ hs h)⟩

theorem wp_guard {s l} (hs : K s l) (hG : ∀ s l e, K s l → G s l e)
    (hK : ∀ s l e r s', K s l → H.step s e r s' → K s' (⟨s, e, some r⟩ :: l)) :
    wp H G (fun _ _ _ => True) (fun _ _ _ => True) p s l :=
  wp_mono (wp_frame hs hG hK) (fun _ _ _ h => h) (fun _ _ _ _ => trivial) fun _ _ _ _ => trivial

/-- The events between two logs are requests of a kind. -/
def Extends (A : E → Prop) (l l' : List (Event R S)) : Prop := ∃ new, l' = new ++ l ∧ ∀ ev ∈ new, A ev.req

theorem Extends.refl {A : E → Prop} (l : List (Event R S)) : Extends A l l := ⟨[], rfl, nofun⟩

theorem Extends.cons {A : E → Prop} {l l' : List (Event R S)} {s e a}
    (h : Extends A (⟨s, e, a⟩ :: l) l') (he : A e) : Extends A l l' := by
  obtain ⟨new, rfl, hnew⟩ := h
  exact ⟨new ++ [⟨s, e, a⟩], by simp, forall_mem_append.mpr ⟨hnew, forall_mem_singleton.mpr he⟩⟩

/-- What every such event preserves. -/
theorem Extends.induct {A : E → Prop} {I : List (Event R S) → Prop} {l l' : List (Event R S)}
    (h : Extends A l l') (hstep : ∀ s e a l, A e → I l → I (⟨s, e, a⟩ :: l)) (hl : I l) : I l' := by
  obtain ⟨new, rfl, hnew⟩ := h
  induction new with
  | nil => exact hl
  | cons ev new ih =>
    rw [forall_mem_cons] at hnew
    exact hstep _ _ _ _ hnew.1 (ih hnew.2)

/-- A program whose guard speaks of the request alone adds only such requests. -/
theorem wp_extends {A : E → Prop} {s l} (h : wp H (fun _ _ e => A e) Q F p s l) :
    wp H (fun _ _ e => A e) (fun a s' l' => Q a s' l' ∧ Extends A l l')
      (fun x s' l' => F x s' l' ∧ Extends A l l') p s l := by
  induction p generalizing s l with
  | ret a | raise x => exact ⟨h, .refl l⟩
  | call e k ih =>
    refine ⟨h.1, fun r s' hs => ?_⟩
    exact wp_mono (ih r (h.2 r s' hs)) (fun _ _ _ hA => hA) (fun _ _ _ hq => ⟨hq.1, hq.2.cons h.1⟩)
      fun _ _ _ hq => ⟨hq.1, hq.2.cons h.1⟩

end WP

/-! ## Programs that ask only some requests -/

section Widen

variable {P : E → Prop} {H : Handler R S} {G : S → List (Event R S) → E → Prop}
  (p : Prog (fun e : Subtype P => R e.1) X α)

@[simp] theorem widen_bind
    (f : α → Prog (fun e : Subtype P => R e.1) X β) : (p >>= f).widen = p.widen >>= fun a => (f a).widen := by
  change (p.bind f).widen = p.widen.bind fun a => (f a).widen
  induction p with
  | ret a => rfl
  | raise x => rfl
  | call e k ih => simp only [Prog.bind, Prog.widen, ih]

@[simp] theorem widen_attempt : p.attempt.widen = p.widen.attempt := by
  induction p with
  | ret a => rfl
  | raise x => rfl
  | call e k ih => simp only [Prog.attempt, Prog.widen, ih]

/-- **Frame rule.** A program that asks only requests in `P` keeps every property of the
state and the log that the requests in `P` keep. -/
theorem wp_widen {s l} (hs : K s l) (hG : ∀ s l e, P e → K s l → G s l e)
    (hK : ∀ s l e r s', P e → K s l → H.step s e r s' → K s' (⟨s, e, some r⟩ :: l)) :
    wp H G (fun _ => K) (fun _ => K) p.widen s l := by
  induction p generalizing s l with
  | ret a => exact hs
  | raise x => exact hs
  | call e k ih => exact ⟨hG _ _ _ e.2 hs, fun r s' h => ih r (hK _ _ _ _ _ e.2 hs h)⟩

end Widen

/-! ## Executions and histories -/

section Exec

variable (H : Handler R S)

/-- An execution of a program cut at any point: before a request, inside one, or at its end. -/
inductive Exec : Prog R X α → S → List (Event R S) → S → List (Event R S) → Prop
  | stop (p s l) : Exec p s l s l
  | step {e k s l r s' s'' l''} : H.step s e r s' →
      Exec (k r) s' (⟨s, e, some r⟩ :: l) s'' l'' → Exec (.call e k) s l s'' l''
  | cut {e k s l s'} : H.cut s e s' → Exec (.call e k) s l s' (⟨s, e, none⟩ :: l)

/-- A complete execution, with what it returns or raises. -/
inductive Ends : Prog R X α → S → List (Event R S) → Except X α → S → List (Event R S) → Prop
  | ret (a s l) : Ends (.ret a) s l (.ok a) s l
  | raise (x s l) : Ends (.raise x) s l (.error x) s l
  | step {e k s l r s' o s'' l''} : H.step s e r s' →
      Ends (k r) s' (⟨s, e, some r⟩ :: l) o s'' l'' → Ends (.call e k) s l o s'' l''

/-- A history of passes from `s0`, each a program of `Pass` that may be killed anywhere. -/
inductive Run (Pass : Prog R X α → Prop) (s0 : S) : S → List (Event R S) → Prop
  | init : Run Pass s0 s0 []
  | pass {p s l s' l'} : Run Pass s0 s l → Pass p → Exec H p s l s' l' → Run Pass s0 s' l'

/-- A history all of whose requests meet the guard `G` where they are asked. -/
inductive Lawful (G : S → List (Event R S) → E → Prop) (s0 : S) : S → List (Event R S) → Prop
  | init : Lawful G s0 s0 []
  | step {s l e r s'} : Lawful G s0 s l → G s l e → H.step s e r s' →
      Lawful G s0 s' (⟨s, e, some r⟩ :: l)
  | cut {s l e s'} : Lawful G s0 s l → G s l e → H.cut s e s' → Lawful G s0 s' (⟨s, e, none⟩ :: l)

variable {H} {G : S → List (Event R S) → E → Prop} {s0 : S}

theorem wp_ends {Q : α → S → List (Event R S) → Prop} {F : X → S → List (Event R S) → Prop}
    {s l o s' l'} (h : wp H G Q F p s l) (he : Ends H p s l o s' l') :
    (∀ a, o = .ok a → Q a s' l') ∧ ∀ x, o = .error x → F x s' l' := by
  induction he with
  | ret a s l =>
    refine ⟨fun b hb => ?_, nofun⟩
    cases hb; exact h
  | raise x s l =>
    refine ⟨nofun, fun y hy => ?_⟩
    cases hy; exact h
  | step hs _ ih => exact ih (h.2 _ _ hs)

/-- A sequence that returns is its first part returning and then its second. -/
theorem ends_bind {f : α → Prog R X β} {s l b s' l'} (he : Ends H (p >>= f) s l (.ok b) s' l') :
    ∃ a s1 l1, Ends H p s l (.ok a) s1 l1 ∧ Ends H (f a) s1 l1 (.ok b) s' l' := by
  induction p generalizing s l with
  | ret a => exact ⟨a, s, l, .ret a s l, he⟩
  | raise x => cases he
  | call e k ih =>
    cases he with
    | step hs hrest =>
      obtain ⟨a, s1, l1, hk, hf⟩ := ih _ hrest
      exact ⟨a, s1, l1, .step hs hk, hf⟩

theorem Ends.bind {f : α → Prog R X β} {s l a s1 l1 o s' l'} (hp : Ends H p s l (.ok a) s1 l1)
    (hf : Ends H (f a) s1 l1 o s' l') : Ends H (p >>= f) s l o s' l' := by
  generalize hr : Except.ok a = r at hp
  induction hp with
  | ret b s l =>
    cases hr
    exact hf
  | raise x s l => cases hr
  | step hs _ ih => exact .step hs (ih hf hr)

theorem ends_exec {s l o s' l'} (he : Ends H p s l o s' l') : Exec H p s l s' l' := by
  induction he with
  | ret a s l | raise x s l => exact .stop _ _ _
  | step hs _ ih => exact .step hs ih

/-- A program that meets its guard extends lawful histories to lawful histories. -/
theorem exec_lawful {Q : α → S → List (Event R S) → Prop} {F : X → S → List (Event R S) → Prop}
    {s l s' l'} (hl : Lawful H G s0 s l) (h : wp H G Q F p s l)
    (he : Exec H p s l s' l') : Lawful H G s0 s' l' := by
  induction he with
  | stop p s l => exact hl
  | step hs _ ih => exact ih (hl.step h.1 hs) (h.2 _ _ hs)
  | cut hs => exact hl.cut h.1 hs

/-- **Every run is lawful** if every pass meets the guard from wherever it starts. -/
theorem run_lawful {Pass : Prog R X α → Prop} {s l}
    (h : ∀ p, Pass p → ∀ s l, wp H G (fun _ _ _ => True) (fun _ _ _ => True) p s l)
    (hr : Run H Pass s0 s l) : Lawful H G s0 s l := by
  induction hr with
  | init => exact .init
  | pass _ hp he ih => exact exec_lawful ih (h _ hp _ _) he

/-- **Invariants of lawful histories**: what holds at the start and is kept by every request that
meets the guard, answered or cut. -/
theorem lawful_invariant {I : S → List (Event R S) → Prop} {s l} (hI : I s0 [])
    (hstep : ∀ s l e a s', Lawful H G s0 s l → I s l → G s l e → H.Happens s e a s' → I s' (⟨s, e, a⟩ :: l))
    (h : Lawful H G s0 s l) : I s l := by
  induction h with
  | init => exact hI
  | step h hG hs ih => exact hstep _ _ _ (some _) _ h ih hG hs
  | cut h hG hs ih => exact hstep _ _ _ none _ h ih hG hs

theorem lawful_last {s ev l} (h : Lawful H G s0 s (ev :: l)) :
    Lawful H G s0 ev.pre l ∧ G ev.pre l ev.req ∧ H.Happens ev.pre ev.req ev.ans s := by
  cases h with
  | step h hG hs | cut h hG hs => exact ⟨h, hG, hs⟩

/-- A lawful history cut at an event is lawful, and the event met the guard and happened. -/
theorem lawful_split {s later ev earlier} (h : Lawful H G s0 s (later ++ ev :: earlier)) :
    Lawful H G s0 ev.pre earlier ∧ G ev.pre earlier ev.req ∧ ∃ s', H.Happens ev.pre ev.req ev.ans s' := by
  induction later generalizing s with
  | nil => exact ⟨(lawful_last h).1, (lawful_last h).2.1, s, (lawful_last h).2.2⟩
  | cons a later ih => exact ih (lawful_last h).1

/-- The state from which the events `later` led to `s`. -/
def stateAt (s : S) : List (Event R S) → S
  | [] => s
  | ev :: later => stateAt ev.pre later

/-- **Invariants from a point on**: what holds at some point of a lawful history and is kept by
every event after it. -/
theorem lawful_from {I : S → Prop} {s later earlier} (h : Lawful H G s0 s (later ++ earlier))
    (hI : I (stateAt s later))
    (hstep : ∀ s l e a s', ⟨s, e, a⟩ ∈ later → Lawful H G s0 s l → I s → G s l e →
      H.Happens s e a s' → I s') : I s := by
  induction later generalizing s with
  | nil => exact hI
  | cons ev later ih =>
    obtain ⟨hl, hG, hs⟩ := lawful_last h
    have hpre : I ev.pre := ih hl hI fun s l e a s' hmem => hstep s l e a s' (mem_cons_of_mem _ hmem)
    exact hstep _ _ _ _ _ mem_cons_self hl hpre hG hs

theorem exec_suffix {s l s' l'} (he : Exec H p s l s' l') : l <:+ l' := by
  induction he with
  | stop p s l => exact suffix_refl _
  | step _ _ ih => exact (suffix_cons _ _).trans ih
  | cut _ => exact suffix_cons _ _

/-- The first event of an execution is the first request of its program. -/
theorem exec_first {s l s' later ev} (he : Exec H p s l s' (later ++ ev :: l)) : p.first = some ev.req := by
  -- two suffixes of one list, both one longer than `l`
  have hone : ∀ a : Event R S, a :: l <:+ later ++ ev :: l → a = ev := by
    rintro a ⟨mid, hmid⟩
    have hlen : mid.length = later.length := by
      have := congrArg length hmid
      simp at this
      omega
    exact (cons.inj (append_inj hmid hlen).2).1
  generalize hl' : later ++ ev :: l = l' at he hone
  cases he with
  | stop p s l =>
    have := congrArg length hl'
    simp at this
    omega
  | step hs hrest => rw [← hone _ (exec_suffix hrest)]; rfl
  | cut hs => rw [← hone _ (suffix_refl _)]; rfl

end Exec

/-! ## Handling one kind of request by another -/

section Handle

variable {E' : Type} {R' : E' → Type} {Y σ : Type}

/-- Interpret every request by a program over other requests, passing a state along. The
exceptions of the interpreted program become values, so the state survives them. -/
def handle (h : (e : E) → σ → Prog R' Y (R e × σ)) : Prog R X α → σ → Prog R' Y (Except X α × σ)
  | .ret a, t => .ret (.ok a, t)
  | .raise x, t => .ret (.error x, t)
  | .call e k, t => (h e t).bind fun a => handle h (k a.1) a.2

/-- An invariant kept by the interpretation of each request is kept by the whole. -/
theorem wp_handle {H : Handler R' S} {G : S → List (Event R' S) → E' → Prop}
    {h : (e : E) → σ → Prog R' Y (R e × σ)} {J : σ → S → List (Event R' S) → Prop}
    {F : Y → S → List (Event R' S) → Prop}
    (hJ : ∀ e t s l, J t s l → wp H G (fun a => J a.2) F (h e t) s l) (p : Prog R X α) :
    ∀ t s l, J t s l → wp H G (fun a => J a.2) F (handle h p t) s l := by
  induction p with
  | ret a | raise x => intro t s l ht; exact ht
  | call e k ih =>
    intro t s l ht
    exact wp_seq (hJ e t s l ht) fun a s' l' ha => ih a.1 a.2 s' l' ha

/-- The world that may answer anything. -/
def anything : Handler R Unit where
  step _ _ _ _ := True
  cut _ _ _ := True

/-- Interpreting a request, one may rely on the guard that the interpreted program meets on its own
log. -/
theorem wp_handle_under {H : Handler R' S} {G : S → List (Event R' S) → E' → Prop}
    {U : Unit → List (Event R Unit) → E → Prop} {h : (e : E) → σ → Prog R' Y (R e × σ)}
    {J : σ → S → List (Event R' S) → List (Event R Unit) → Prop} {F : Y → S → List (Event R' S) → Prop}
    (hJ : ∀ e t s l u, J t s l u → U () u e →
      wp H G (fun a s' l' => J a.2 s' l' (⟨(), e, some a.1⟩ :: u)) F (h e t) s l) (p : Prog R X α) :
    ∀ t s l u, J t s l u → wp anything U (fun _ _ _ => True) (fun _ _ _ => True) p () u →
      wp H G (fun a s' l' => ∃ u', J a.2 s' l' u') F (handle h p t) s l := by
  induction p with
  | ret a | raise x => intro t s l u ht _; exact ⟨u, ht⟩
  | call e k ih =>
    intro t s l u ht hU
    exact wp_seq (hJ e t s l u ht hU.1) fun a s' l' ha => ih a.1 a.2 s' l' _ ha (hU.2 a.1 () trivial)

end Handle

@[simp] theorem ok_bind (a : α) (f : α → Except X β) : (Except.ok a >>= f) = f a := rfl

/-! ## Scripted executions -/

/-- What a script does with a request: answer it, kill the process inside it, or kill the
process before it. -/
inductive Reply {E : Type} (R : E → Type) (S ι : Type) (e : E) : Type
  | answer (r : R e) (s : S) (i : ι)
  | kill (s : S)
  | stop

section Drive

variable {ι : Type} (o : ι → S → (e : E) → Reply R S ι e)

/-- Execute a program against a script. The first component is what it returned or raised,
`none` if the script killed it. -/
def drive : Prog R X α → ι → S → List (Event R S) → Option (Except X α) × ι × S × List (Event R S)
  | .ret a, i, s, l => (some (.ok a), i, s, l)
  | .raise x, i, s, l => (some (.error x), i, s, l)
  | .call e k, i, s, l =>
    match o i s e with
    | .answer r s' i' => drive (k r) i' s' (⟨s, e, some r⟩ :: l)
    | .kill s' => (none, i, s', ⟨s, e, none⟩ :: l)
    | .stop => (none, i, s, l)

/-- A script that only does what the handler allows. -/
structure Follows (H : Handler R S) : Prop where
  answer : ∀ i s e r s' i', o i s e = .answer r s' i' → H.step s e r s'
  kill : ∀ i s e s', o i s e = .kill s' → H.cut s e s'

variable {o} {H : Handler R S}

theorem drive_exec (ho : Follows o H) (p : Prog R X α) (i s l) :
    Exec H p s l (drive o p i s l).2.2.1 (drive o p i s l).2.2.2 := by
  induction p generalizing i s l with
  | ret a | raise x => exact .stop _ _ _
  | call e k ih =>
    unfold drive
    split
    · rename_i r s' i' h
      exact .step (ho.answer _ _ _ _ _ _ h) (ih r i' s' _)
    · rename_i s' h
      exact .cut (ho.kill _ _ _ _ h)
    · exact .stop _ _ _

theorem drive_ends (ho : Follows o H) {i s l a} (h : (drive o p i s l).1 = some a) :
    Ends H p s l a (drive o p i s l).2.2.1 (drive o p i s l).2.2.2 := by
  induction p generalizing i s l with
  | ret b => cases h; exact .ret _ _ _
  | raise x => cases h; exact .raise _ _ _
  | call e k ih =>
    unfold drive at h ⊢
    split at h
    · rename_i r s' i' he
      exact .step (ho.answer _ _ _ _ _ _ he) (ih r h)
    · cases h
    · cases h

end Drive

end Effect
