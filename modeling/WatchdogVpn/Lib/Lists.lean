import WatchdogVpn.Lib.Prog
import Mathlib.Data.List.Forall2

/-!
# Lists that correspond

* `mem_left`, `mem_right`: a member of one of two related lists has a partner in the other.
* `exists_related`: if every member has one, there is a related list.
* `mapM_ok_mem`: so have the members of a list and of what a fallible function made of it.
-/

namespace Lists

open List

variable {α β : Type}

section

variable {R : α → β → Prop} {l : List α} {u : List β} (h : List.Forall₂ R l u)
include h

theorem mem_left {a : α} (ha : a ∈ l) : ∃ b ∈ u, R a b := by
  induction h with
  | nil => cases ha
  | cons hab _ ih =>
    rcases mem_cons.mp ha with rfl | ha
    · exact ⟨_, mem_cons_self, hab⟩
    · obtain ⟨b, hb, hr⟩ := ih ha
      exact ⟨b, mem_cons_of_mem _ hb, hr⟩

theorem mem_right {b : β} (hb : b ∈ u) : ∃ a ∈ l, R a b := mem_left h.flip hb

/-- What is picked and read alike in both lists. -/
theorem map_filter_eq {γ : Type} {p : α → Bool} {q : β → Bool} {f : α → γ} {g : β → γ}
    (hR : ∀ a b, R a b → q b = p a ∧ g b = f a) : (u.filter q).map g = (l.filter p).map f := by
  induction h with
  | nil => rfl
  | cons hab _ ih =>
    obtain ⟨hpick, hread⟩ := hR _ _ hab
    simp only [filter_cons, hpick]
    split <;> simp [ih, hread]

end

theorem pairwise_of_forall₂ {S : α → α → Prop} {T : β → β → Prop} {R : α → β → Prop} {l : List α} {u : List β}
    (h : List.Forall₂ R l u) (hl : l.Pairwise S) (himp : ∀ a c b d, d ∈ u → R a b → R c d → S a c → T b d) :
    u.Pairwise T := by
  induction h with
  | nil => exact .nil
  | cons hab hrest ih =>
    obtain ⟨hfirst, hl⟩ := pairwise_cons.mp hl
    refine pairwise_cons.mpr ⟨fun d hd => ?_, ih hl fun a c b d hd => himp a c b d (mem_cons_of_mem _ hd)⟩
    obtain ⟨c, hc, hcd⟩ := mem_right hrest hd
    exact himp _ c _ d (mem_cons_of_mem _ hd) hab hcd (hfirst c hc)

/-- If every member has a partner, there is a related list. -/
theorem exists_related {R : α → β → Prop} {l : List α} (h : ∀ a ∈ l, ∃ b, R a b) : ∃ u, List.Forall₂ R l u := by
  induction l with
  | nil => exact ⟨[], .nil⟩
  | cons a l ih =>
    obtain ⟨⟨b, hb⟩, hrest⟩ := forall_mem_cons.mp h
    obtain ⟨u, hu⟩ := ih hrest
    exact ⟨b :: u, .cons hb hu⟩

section

variable {ε : Type} {f : α → Except ε β} {l : List α} {u : List β} (h : l.mapM f = .ok u)
include h

/-- A fallible function that succeeds on a list relates it to what it made of it. -/
theorem mapM_ok : List.Forall₂ (fun a b => f a = .ok b) l u := by
  induction l generalizing u with
  | nil =>
    cases h
    exact .nil
  | cons a l ih =>
    rw [mapM_cons] at h
    obtain ⟨b, hb, h⟩ := Effect.except_bind_ok h
    obtain ⟨u', hu', h⟩ := Effect.except_bind_ok h
    cases h
    exact .cons hb (ih hu')

theorem mapM_ok_eq {g : α → β} (hg : ∀ a b, f a = .ok b → b = g a) : u = l.map g := by
  have hmap := (mapM_ok h).imp fun a b hab => (hg a b hab).symm
  rw [← forall₂_map_left_iff, forall₂_eq_eq_eq] at hmap
  exact hmap.symm

theorem mapM_ok_mem : (∀ b ∈ u, ∃ a ∈ l, f a = .ok b) ∧ ∀ a ∈ l, ∃ b ∈ u, f a = .ok b :=
  ⟨fun _ hb => mem_right (mapM_ok h) hb, fun _ ha => mem_left (mapM_ok h) ha⟩

end

end Lists
