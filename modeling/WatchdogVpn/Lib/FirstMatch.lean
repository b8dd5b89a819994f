import Mathlib.Data.List.Basic
import Mathlib.Data.List.Perm.Basic
import Mathlib.Tactic.Common

/-!
# Lists of rules, the first that applies decides

A rule applies to a subject or not and has a verdict; a list of rules gives the verdict of
the first rule that applies, and a default if none does.

* `decide_append`: a list in front of another has the other for its default.
* `decide_uniform`: among rules of one verdict only their presence counts.
* `decide_congr`: what decides is the test of each rule, and nothing else.
* `decide_eq_decide_iff`: when a stricter test comes to the same verdict.
-/

namespace FirstMatch

open List

variable {ρ α υ : Type} (applies : ρ → α → Bool) (verdict : ρ → υ)

/-- The verdict of the first rule that applies, or the default. -/
def decide (rules : List ρ) (default : υ) (a : α) : υ :=
  match rules with
  | [] => default
  | r :: rules => if applies r a then verdict r else decide rules default a

variable {applies verdict} {rules rules' : List ρ} {default v : υ} {a : α}

@[simp] theorem decide_nil : decide applies verdict [] default a = default := rfl

theorem decide_cons (r : ρ) : decide applies verdict (r :: rules) default a =
    if applies r a then verdict r else decide applies verdict rules default a := rfl

theorem decide_append : decide applies verdict (rules ++ rules') default a =
    decide applies verdict rules (decide applies verdict rules' default a) a := by
  induction rules with
  | nil => rfl
  | cons r rules ih => rw [cons_append, decide_cons, decide_cons, ih]

theorem decide_map {σ : Type} (f : σ → ρ) (rules : List σ) : decide applies verdict (rules.map f) default a =
    decide (fun r => applies (f r)) (fun r => verdict (f r)) rules default a := by
  induction rules with
  | nil => rfl
  | cons r rules ih => rw [map_cons, decide_cons, decide_cons, ih]

/-- The subject counts only through what applies to it. -/
theorem decide_comap {β : Type} (f : β → α) (b : β) : decide applies verdict rules default (f b) =
    decide (fun r b => applies r (f b)) verdict rules default b := by
  induction rules with
  | nil => rfl
  | cons r rules ih => rw [decide_cons, decide_cons, ih]

/-- A function of the verdict can be taken rule by rule. -/
theorem apply_decide {υ' : Type} (g : υ → υ') : g (decide applies verdict rules default a) =
    decide applies (fun r => g (verdict r)) rules (g default) a := by
  induction rules with
  | nil => rfl
  | cons r rules ih => rw [decide_cons, decide_cons, apply_ite g, ih]

/-- Rules of one verdict decide if any of them applies. -/
theorem decide_uniform (hv : ∀ r ∈ rules, verdict r = v) : decide applies verdict rules default a =
    if rules.any (applies · a) then v else default := by
  induction rules with
  | nil => rfl
  | cons r rules ih =>
    rw [decide_cons, ih fun r' hr' => hv r' (mem_cons_of_mem _ hr')]
    by_cases hr : applies r a = true
    · simp [hr, hv r mem_cons_self]
    · simp [hr]

/-- The verdict of the first rule that applies, whatever stands behind it. -/
theorem decide_of_split {passed rest : List ρ} {r : ρ} (hpass : ∀ p ∈ passed, applies p a = false)
    (hr : applies r a = true) : decide applies verdict (passed ++ r :: rest) default a = verdict r := by
  induction passed with
  | nil => rw [nil_append, decide_cons, if_pos hr]
  | cons p passed ih =>
    rw [cons_append, decide_cons, if_neg (by simp [hpass p mem_cons_self])]
    exact ih fun q hq => hpass q (mem_cons_of_mem _ hq)

theorem decide_of_none (hnone : ∀ r ∈ rules, applies r a = false) :
    decide applies verdict rules default a = default := by
  induction rules with
  | nil => rfl
  | cons r rules ih =>
    rw [decide_cons, if_neg (by simp [hnone r mem_cons_self])]
    exact ih fun q hq => hnone q (mem_cons_of_mem _ hq)

/-- Only whether each rule applies counts. -/
theorem decide_congr {applies' : ρ → α → Bool} (h : ∀ r ∈ rules, applies r a = applies' r a) :
    decide applies verdict rules default a = decide applies' verdict rules default a := by
  induction rules with
  | nil => rfl
  | cons r rules ih =>
    obtain ⟨hr, hrest⟩ := forall_mem_cons.mp h
    rw [decide_cons, decide_cons, hr, ih hrest]

/-- A reading under which more rules apply decides alike exactly if the first rule that applies
under it only, if it is in front of all that apply under both, has the verdict that the other
reading comes to behind it. -/
theorem decide_eq_decide_iff {applies' : ρ → α → Bool}
    (himp : ∀ r ∈ rules, applies' r a = true → applies r a = true) :
    decide applies verdict rules default a = decide applies' verdict rules default a ↔
    ∀ passed r rest, rules = passed ++ r :: rest → (∀ p ∈ passed, applies p a = false) → applies r a = true →
      applies' r a = false → verdict r = decide applies' verdict rest default a := by
  induction rules with
  | nil => simp
  | cons r rules ih =>
    obtain ⟨hr, hrest⟩ := forall_mem_cons.mp himp
    rw [decide_cons, decide_cons]
    constructor
    · intro heq passed r' rest hsplit hpass happ hnot
      cases passed with
      | nil =>
        cases hsplit
        simpa [happ, hnot] using heq
      | cons p passed =>
        cases hsplit
        obtain ⟨hp, hpass⟩ := forall_mem_cons.mp hpass
        have hp' : applies' r a = false := Bool.eq_false_iff.mpr fun h => by simp [hr h] at hp
        exact (ih hrest).mp (by simpa [hp, hp'] using heq) passed r' rest rfl hpass happ hnot
    · intro hall
      cases happ : applies r a with
      | true =>
        cases happ' : applies' r a with
        | true => rfl
        | false => simpa using hall [] r rules rfl nofun happ happ'
      | false =>
        have happ' : applies' r a = false := Bool.eq_false_iff.mpr fun h => by simp [hr h] at happ
        simp only [happ', Bool.false_eq_true, if_false]
        refine (ih hrest).mpr fun passed r' rest hsplit hpass => ?_
        exact hall (r :: passed) r' rest (by rw [hsplit]; rfl) (forall_mem_cons.mpr ⟨happ, hpass⟩)

end FirstMatch
