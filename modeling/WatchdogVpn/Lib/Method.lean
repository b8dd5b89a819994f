import WatchdogVpn.Lib.Prog

/-!
# Methods of an object

A method reads and assigns the fields of its object, asks the world and may raise; what it has
assigned before it raises stays assigned. It is a program that returns its outcome together with
the fields.

* `meets H G Q m` is its weakest precondition: every request meets the guard `G`, and the outcome,
  the fields and the world meet `Q` in the end. There is one rule for each construction.
* `meets_ends`: what that says about an execution.
* `ends_restrict`: an execution all of whose events are of a kind is one in the world that only
  has such events.
* `can H m t s o t' s'`: the method may end with the outcome `o`, with a rule for each construction
  to build such an execution.
-/

namespace Effect

variable {E : Type} {R : E → Type} {X α β σ S : Type}

/-- A method of an object with fields `σ`. -/
def Method {E : Type} (R : E → Type) (X σ α : Type) : Type := σ → Prog R X (Except X α × σ)

namespace Method

/-- Go on with the value; an exception ends the method. -/
def bind (m : Method R X σ α) (f : α → Method R X σ β) : Method R X σ β := fun t =>
  m t >>= fun a =>
    match a.1 with
    | .ok v => f v a.2
    | .error x => .ret (.error x, a.2)

instance : Monad (Method R X σ) where
  pure v := fun t => .ret (.ok v, t)
  bind := bind

def get : Method R X σ σ := fun t => .ret (.ok t, t)

def modify (f : σ → σ) : Method R X σ Unit := fun t => .ret (.ok (), f t)

def ask (e : E) : Method R X σ (R e) := fun t => .call e fun r => .ret (.ok r, t)

def raise (x : X) : Method R X σ α := fun t => .ret (.error x, t)

/-- Raise the exception of an answer that carries one. -/
def ofExcept (a : Except X α) : Method R X σ α := fun t => .ret (a, t)

/-- `try: … except`: the outcome as a value. -/
def attempt (m : Method R X σ α) : Method R X σ (Except X α) := fun t => m t >>= fun a => .ret (.ok a.1, a.2)

end Method

variable {m : Method R X σ α}

section Meets

variable (H : Handler R S) (G : S → List (Event R S) → E → Prop)

/-- Every request meets `G`; in the end the outcome, the fields, the world and the log meet `Q`. -/
def meets (Q : Except X α → σ → S → List (Event R S) → Prop) (m : Method R X σ α) (t : σ) (s : S)
    (l : List (Event R S)) : Prop := wp H G (fun a => Q a.1 a.2) (fun _ _ _ => False) (m t) s l

variable {H G} {Q Q' : Except X α → σ → S → List (Event R S) → Prop} {t : σ} {s : S} {l : List (Event R S)}

@[simp] theorem meets_pure (v : α) : meets H G Q (pure v) t s l ↔ Q (.ok v) t s l := Iff.rfl

@[simp] theorem meets_get {Q : Except X σ → σ → S → List (Event R S) → Prop} :
    meets H G Q Method.get t s l ↔ Q (.ok t) t s l := Iff.rfl

@[simp] theorem meets_modify {Q : Except X Unit → σ → S → List (Event R S) → Prop} (f : σ → σ) :
    meets H G Q (Method.modify f) t s l ↔ Q (.ok ()) (f t) s l := Iff.rfl

@[simp] theorem meets_raise (x : X) : meets H G Q (Method.raise x) t s l ↔ Q (.error x) t s l := Iff.rfl

@[simp] theorem meets_ofExcept (a : Except X α) : meets H G Q (Method.ofExcept a) t s l ↔ Q a t s l := Iff.rfl

@[simp] theorem meets_ask {e : E} {Q : Except X (R e) → σ → S → List (Event R S) → Prop} :
    meets H G Q (Method.ask e) t s l ↔
      G s l e ∧ ∀ r s', H.step s e r s' → Q (.ok r) t s' (⟨s, e, some r⟩ :: l) := Iff.rfl

@[simp] theorem meets_bind {Q : Except X β → σ → S → List (Event R S) → Prop} (m : Method R X σ α)
    (f : α → Method R X σ β) : meets H G Q (m >>= f) t s l ↔ meets H G (fun o t' s' l' =>
        match o with
        | .ok v => meets H G Q (f v) t' s' l'
        | .error x => Q (.error x) t' s' l') m t s l := by
  refine (wp_bind _ _ s l).trans ?_
  constructor
  all_goals
    intro h
    refine wp_imp h fun a s' l' ha => ?_
    obtain ⟨o, t'⟩ := a
    cases o <;> exact ha

@[simp] theorem meets_attempt {Q : Except X (Except X α) → σ → S → List (Event R S) → Prop}
    (m : Method R X σ α) :
    meets H G Q m.attempt t s l ↔ meets H G (fun o => Q (.ok o)) m t s l := wp_bind _ _ s l

theorem meets_get_bind (f : σ → Method R X σ α) : meets H G Q (Method.get >>= f) t s l ↔
    meets H G Q (f t) t s l := by
  rw [meets_bind, meets_get]

theorem meets_modify_bind (g : σ → σ) (f : Unit → Method R X σ α) :
    meets H G Q (Method.modify g >>= f) t s l ↔ meets H G Q (f ()) (g t) s l := by
  rw [meets_bind, meets_modify]

theorem meets_ask_bind {e : E} (f : R e → Method R X σ α) : meets H G Q (Method.ask e >>= f) t s l ↔
    G s l e ∧ ∀ r s', H.step s e r s' → meets H G Q (f r) t s' (⟨s, e, some r⟩ :: l) := by
  rw [meets_bind, meets_ask]

theorem meets_ofExcept_bind (o : Except X β) (f : β → Method R X σ α)
    (hok : ∀ v, o = .ok v → meets H G Q (f v) t s l)
    (herr : ∀ x, o = .error x → Q (.error x) t s l) : meets H G Q (Method.ofExcept o >>= f) t s l := by
  cases o with
  | ok v => exact hok v rfl
  | error x => exact herr x rfl

/-- Whatever the first part ends with, the rest goes on. -/
theorem meets_attempt_bind (m : Method R X σ β) (f : Except X β → Method R X σ α) :
    meets H G Q (m.attempt >>= f) t s l ↔ meets H G (fun o => meets H G Q (f o)) m t s l := by
  rw [meets_bind, meets_attempt]

theorem meets_imp (h : meets H G Q m t s l) (hQ : ∀ o t s l, Q o t s l → Q' o t s l) : meets H G Q' m t s l :=
  wp_imp h fun a s l ha => hQ a.1 a.2 s l ha

/-- A specification of the first part, then the rest from what it leaves; its exceptions end the
whole. -/
theorem meets_seq {Q1 : Except X β → σ → S → List (Event R S) → Prop} {m : Method R X σ β}
    {f : β → Method R X σ α}
    (h : meets H G Q1 m t s l) (hok : ∀ v t' s' l', Q1 (.ok v) t' s' l' → meets H G Q (f v) t' s' l')
    (herr : ∀ x t' s' l', Q1 (.error x) t' s' l' → Q (.error x) t' s' l') : meets H G Q (m >>= f) t s l := by
  rw [meets_bind]
  refine meets_imp h fun o t' s' l' ho => ?_
  cases o with
  | ok v => exact hok v t' s' l' ho
  | error x => exact herr x t' s' l' ho

theorem meets_ends {o s' l'} (h : meets H G Q m t s l) (he : Ends H (m t) s l o s' l') :
    ∃ a, o = .ok a ∧ Q a.1 a.2 s' l' := by
  cases o with
  | ok a => exact ⟨a, rfl, (wp_ends h he).1 a rfl⟩
  | error x => exact ((wp_ends h he).2 x rfl).elim

end Meets

/-- The world with only the events of a kind. -/
def Handler.restrict (H : Handler R S) (A : Event R S → Prop) : Handler R S where
  step s e r s' := H.step s e r s' ∧ A ⟨s, e, some r⟩
  cut s e s' := H.cut s e s' ∧ A ⟨s, e, none⟩

/-- An execution whose events are all of the kind. -/
theorem ends_restrict {H : Handler R S} {A : Event R S → Prop} {p : Prog R X α} {s l o s' l'}
    (he : Ends H p s l o s' l') (hA : ∀ ev ∈ l', A ev) : Ends (H.restrict A) p s l o s' l' := by
  induction he with
  | ret a s l => exact .ret a s l
  | raise x s l => exact .raise x s l
  | step hs hrest ih =>
    exact .step ⟨hs, hA _ ((exec_suffix (ends_exec hrest)).subset List.mem_cons_self)⟩ (ih hA)

/-! ## What a method may end with -/

section Can

variable (H : Handler R S)

/-- There is an execution of the method from `s` that ends with the outcome `o` in `s'`. -/
def can (m : Method R X σ α) (t : σ) (s : S) (o : Except X α) (t' : σ) (s' : S) : Prop :=
  ∀ l, ∃ l', Ends H (m t) s l (.ok (o, t')) s' l'

variable {H} {t t' t'' : σ} {s s' s'' : S}

theorem can_pure (v : α) : can (X := X) H (pure v) t s (.ok v) t s := fun l => ⟨l, .ret _ s l⟩

theorem can_get : can (X := X) H Method.get t s (.ok t) t s := fun l => ⟨l, .ret _ s l⟩

theorem can_modify (g : σ → σ) : can (X := X) H (Method.modify g) t s (.ok ()) (g t) s :=
  fun l => ⟨l, .ret _ s l⟩

theorem can_raise (x : X) : can (α := α) H (Method.raise x) t s (.error x) t s := fun l => ⟨l, .ret _ s l⟩

theorem can_ofExcept (o : Except X α) : can H (Method.ofExcept o) t s o t s := fun l => ⟨l, .ret _ s l⟩

theorem can_ask {e : E} {r : R e} (h : H.step s e r s') : can (X := X) H (Method.ask e) t s (.ok r) t s' :=
  fun _ => ⟨_, .step h (.ret _ _ _)⟩

/-- The first part returns a value, and the second goes on with it. -/
theorem can_bind {f : α → Method R X σ β} {v : α} {o : Except X β}
    (hm : can H m t s (.ok v) t' s') (hf : can H (f v) t' s' o t'' s'') : can H (m >>= f) t s o t'' s'' := by
  intro l
  obtain ⟨l1, h1⟩ := hm l
  obtain ⟨l2, h2⟩ := hf l1
  exact ⟨l2, h1.bind h2⟩

theorem can_bind_error {f : α → Method R X σ β} {x : X}
    (hm : can H m t s (.error x) t' s') : can H (m >>= f) t s (.error x) t' s' := by
  intro l
  obtain ⟨l1, h1⟩ := hm l
  exact ⟨l1, h1.bind (.ret _ _ _)⟩

theorem can_attempt {o : Except X α} (hm : can H m t s o t' s') : can H m.attempt t s (.ok o) t' s' := by
  intro l
  obtain ⟨l1, h1⟩ := hm l
  exact ⟨l1, h1.bind (.ret _ _ _)⟩

end Can

end Effect
