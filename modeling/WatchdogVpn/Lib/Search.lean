import WatchdogVpn.Lib.StateExcept
import Mathlib.Data.List.Basic

/-!
# Going through a list until an item ends the search

The items of a list are judged in turn, in a state that the judgements may change and with errors
that end everything. An item is passed with a remark, or ends the search.

* `Each R s items remarks s'`: the items, in turn, are related to the remarks and the states they
  lead to.
* `search_ok`: a search that comes to an end has passed the items of a first part of the list, each
  in turn, and was ended by the item behind them, or has passed the whole list.
* `search_of_each`: and what it finds is determined by that.
-/

namespace Search

open StateExcept

variable {α σ ε ρ ρ' β γ : Type}

inductive Verdict (ρ β : Type)
  | pass (remark : ρ)
  | stop (result : β)

/-- The remarks on the items that were passed; the result of the item that ended the search and the
items behind it. -/
def search (judge : α → StateT σ (Except ε) (Verdict ρ β)) :
    List α → StateT σ (Except ε) (List ρ × Option (β × List α))
  | [] => pure ([], none)
  | item :: rest => do
    match ← judge item with
    | .pass remark =>
      let found ← search judge rest
      pure (remark :: found.1, found.2)
    | .stop result => pure ([], some (result, rest))

/-- The items are dealt with one after the other. -/
inductive Each (R : α → σ → ρ → σ → Prop) : σ → List α → List ρ → σ → Prop
  | nil (s : σ) : Each R s [] [] s
  | cons {s s1 s' : σ} {item : α} {remark : ρ} {items : List α} {remarks : List ρ} (first : R item s remark s1)
      (rest : Each R s1 items remarks s') : Each R s (item :: items) (remark :: remarks) s'

variable {R : α → σ → ρ → σ → Prop}

theorem Each.map {R' : α → σ → ρ' → σ → Prop} {s s' : σ} {items : List α} {remarks : List ρ}
    (f : ρ → ρ') (h : Each R s items remarks s')
    (himp : ∀ item s remark s', R item s remark s' → R' item s (f remark) s') :
    Each R' s items (remarks.map f) s' := by
  induction h with
  | nil s => exact .nil s
  | cons first rest ih => exact .cons (himp _ _ _ _ first) ih

theorem Each.exists_remarks {R' : α → σ → ρ' → σ → Prop} {s s' : σ} {items : List α}
    {remarks : List ρ} (h : Each R s items remarks s')
    (himp : ∀ item s remark s', R item s remark s' → ∃ remark', R' item s remark' s') :
    ∃ remarks', Each R' s items remarks' s' := by
  induction h with
  | nil s => exact ⟨[], .nil s⟩
  | cons first rest ih =>
    obtain ⟨remark', hfst⟩ := himp _ _ _ _ first
    obtain ⟨remarks', hrest⟩ := ih
    exact ⟨remark' :: remarks', .cons hfst hrest⟩

/-- What a remark says of its item, whatever the states are. -/
theorem Each.map_eq {s s' : σ} {items : List α} {remarks : List ρ} {f : ρ → γ} {g : α → γ}
    (h : Each R s items remarks s') (hsame : ∀ item s remark s', R item s remark s' → f remark = g item) :
    remarks.map f = items.map g := by
  induction h with
  | nil s => rfl
  | cons first rest ih => rw [List.map_cons, List.map_cons, hsame _ _ _ _ first, ih]

variable {judge : α → StateT σ (Except ε) (Verdict ρ β)} {items before rest : List α} {s s1 s' : σ}
  {passed : List ρ}

/-- The judgement passes the item with the remark. -/
def Passes (judge : α → StateT σ (Except ε) (Verdict ρ β)) (item : α) (s : σ) (remark : ρ) (s' : σ) : Prop :=
  judge item s = .ok (.pass remark, s')

theorem search_ok {stop : Option (β × List α)} (h : search judge items s = .ok ((passed, stop), s')) :
    (stop = none ∧ Each (Passes judge) s items passed s') ∨
    ∃ result before item rest s1, stop = some (result, rest) ∧ items = before ++ item :: rest ∧
      Each (Passes judge) s before passed s1 ∧ judge item s1 = .ok (.stop result, s') := by
  induction items generalizing s passed with
  | nil =>
    cases h
    exact .inl ⟨rfl, .nil _⟩
  | cons item items ih =>
    obtain ⟨verdict, s1, hverd, h⟩ := bind_ok h
    cases verdict with
    | stop result =>
      cases h
      exact .inr ⟨result, [], item, items, s, rfl, rfl, .nil s, hverd⟩
    | pass remark =>
      obtain ⟨found, s2, hfnd, h⟩ := bind_ok h
      cases h
      rcases ih hfnd with ⟨hstop, heach⟩ | ⟨result, before, last, rest, s2, hstop, hitems, heach, hlast⟩
      · exact .inl ⟨hstop, .cons hverd heach⟩
      · refine .inr ⟨result, item :: before, last, rest, s2, hstop, ?_, .cons hverd heach, hlast⟩
        rw [hitems, List.cons_append]

/-- Once the items in front are passed, the next one ends the search or not. -/
theorem search_of_each {item : α} {result : β} (heach : Each (Passes judge) s before passed s1)
    (hlast : judge item s1 = .ok (.stop result, s')) :
    search judge (before ++ item :: rest) s = .ok ((passed, some (result, rest)), s') := by
  induction heach with
  | nil s => exact bind_of_ok hlast
  | cons first _ ih =>
    refine (bind_of_ok first).trans ?_
    exact bind_of_ok (ih hlast)

end Search
