import Mathlib.Data.List.Nodup
import Mathlib.Data.List.Forall2
import Mathlib.Tactic.Common

/-!
# Python's dictionaries

Lists of pairs in the order of insertion. The lemmas say what a key has after each operation.
-/

abbrev PyDict (κ ν : Type) : Type := List (κ × ν)

namespace PyDict

open List

variable {κ ν : Type} [DecidableEq κ] {d : PyDict κ ν} {k k' : κ} {v : ν}

def get (k : κ) : PyDict κ ν → Option ν
  | [] => none
  | (k', v) :: d => if k' = k then some v else get k d

/-- `d[k] = v`: a key that is there keeps its place. -/
def set (k : κ) (v : ν) : PyDict κ ν → PyDict κ ν
  | [] => [(k, v)]
  | (k', v') :: d => if k' = k then (k, v) :: d else (k', v') :: set k v d

def setdefault (k : κ) (v : ν) (d : PyDict κ ν) : PyDict κ ν :=
  match d.get k with
  | some _ => d
  | none => d.set k v

theorem get_set : (d.set k v).get k' = if k' = k then some v else d.get k' := by
  induction d with
  | nil =>
    unfold set get
    by_cases hk : k' = k
    · rw [if_pos hk.symm, if_pos hk]
    · rw [if_neg fun h => hk h.symm, if_neg hk]
      rfl
  | cons entry d ih =>
    obtain ⟨k0, v0⟩ := entry
    unfold set
    by_cases h0 : k0 = k
    · subst h0
      rw [if_pos rfl]
      by_cases hk : k' = k0
      · rw [if_pos hk, get, if_pos hk.symm]
      · have hk' : k0 ≠ k' := fun h => hk h.symm
        rw [if_neg hk, get, get, if_neg hk', if_neg hk']
    · rw [if_neg h0, get, ih, get]
      by_cases hk0 : k0 = k'
      · subst hk0
        rw [if_pos rfl, if_neg h0, if_pos rfl]
      · rw [if_neg hk0, if_neg hk0]

@[simp] theorem get_set_self : (d.set k v).get k = some v := by rw [get_set, if_pos rfl]

@[simp] theorem get_set_ne (h : k' ≠ k) : (d.set k v).get k' = d.get k' := by rw [get_set, if_neg h]

theorem get_congr {d' : PyDict κ ν}
    (h : List.Forall₂ (fun entry entry' => entry.1 = entry'.1 ∧ (entry.1 = k → entry.2 = entry'.2)) d d') :
    d.get k = d'.get k := by
  induction h with
  | nil => rfl
  | @cons entry entry' d d' hent _ ih =>
    rw [get, get, ← hent.1, ih]
    by_cases hk : entry.1 = k
    · rw [if_pos hk, if_pos hk, hent.2 hk]
    · rw [if_neg hk, if_neg hk]

theorem mem_of_get (h : d.get k = some v) : (k, v) ∈ d := by
  induction d with
  | nil => cases h
  | cons entry d ih =>
    rw [get] at h
    split at h
    · rename_i hk
      cases h
      rw [← hk]
      exact mem_cons_self
    · exact mem_cons_of_mem _ (ih h)

theorem isSome_get : (d.get k).isSome = true ↔ k ∈ d.map (·.1) := by
  induction d with
  | nil => simp [get]
  | cons entry d ih =>
    rw [get, map_cons, mem_cons, ← ih]
    by_cases hk : entry.1 = k
    · simp [hk]
    · simp [hk, Ne.symm hk]

theorem get_of_mem (h : (k, v) ∈ d) (hnd : (d.map (·.1)).Nodup) : d.get k = some v := by
  obtain ⟨v', hv'⟩ := Option.isSome_iff_exists.mp (isSome_get.mpr (mem_map_of_mem h))
  cases inj_on_of_nodup_map hnd h (mem_of_get hv') rfl
  exact hv'

theorem mem_set {entry : κ × ν} (h : entry ∈ d.set k v) : entry = (k, v) ∨ entry ∈ d := by
  induction d with
  | nil => exact .inl (mem_singleton.mp h)
  | cons first d ih =>
    rw [set] at h
    split at h
    · rcases mem_cons.mp h with heq | hmem
      · exact .inl heq
      · exact .inr (mem_cons_of_mem _ hmem)
    · rcases mem_cons.mp h with heq | hmem
      · exact .inr (heq ▸ mem_cons_self)
      · exact (ih hmem).imp_right (mem_cons_of_mem _)

theorem get_filter_ne : PyDict.get k' (filter (fun entry => decide (entry.1 ≠ k)) d) =
    if k' = k then none else d.get k' := by
  induction d with
  | nil => exact (ite_self _).symm
  | cons entry d ih =>
    obtain ⟨k0, v0⟩ := entry
    by_cases h0 : k0 = k
    · rw [filter_cons_of_neg (by simp [h0]), ih, get]
      by_cases hk : k' = k
      · rw [if_pos hk, if_pos hk]
      · rw [if_neg hk, if_neg hk, if_neg fun h => hk (h.symm.trans h0)]
    · rw [filter_cons_of_pos (by simp [h0]), get, ih, get]
      by_cases hk0 : k0 = k'
      · rw [if_pos hk0, if_pos hk0, if_neg fun h => h0 (hk0.trans h)]
      · rw [if_neg hk0, if_neg hk0]

/-- `d.pop(k, None)`, without the value. -/
def pop (k : κ) (d : PyDict κ ν) : PyDict κ ν := d.filter fun entry => decide (entry.1 ≠ k)

theorem get_pop : (d.pop k).get k' = if k' = k then none else d.get k' := get_filter_ne

@[simp] theorem get_setdefault_self : (d.setdefault k v).get k = some ((d.get k).getD v) := by
  unfold setdefault
  cases h : d.get k with
  | none => exact get_set_self
  | some v0 => exact h

@[simp] theorem get_setdefault_ne (h : k' ≠ k) : (d.setdefault k v).get k' = d.get k' := by
  unfold setdefault
  cases d.get k with
  | none => exact get_set_ne h
  | some v0 => rfl

def update (d : PyDict κ ν) (e : PyDict κ ν) : PyDict κ ν := e.foldl (fun d entry => d.set entry.1 entry.2) d

theorem get_update {e : PyDict κ ν} :
    (d.update e).get k = ((e.reverse.find? fun entry => entry.1 = k).map (·.2)).or (d.get k) := by
  induction e generalizing d with
  | nil => rfl
  | cons entry e ih =>
    rw [update, foldl_cons, ← update, ih, get_set, reverse_cons, find?_append]
    cases e.reverse.find? fun entry => entry.1 = k with
    | some found => rfl
    | none =>
      by_cases hk : entry.1 = k
      · simp [hk]
      · simp [hk, Ne.symm hk]

theorem set_absent (h : k ∉ d.map (·.1)) : d.set k v = d ++ [(k, v)] := by
  induction d with
  | nil => rfl
  | cons entry d ih =>
    rw [map_cons, mem_cons, not_or] at h
    rw [set, if_neg (Ne.symm h.1), ih h.2, cons_append]

theorem update_of_nodup {e : PyDict κ ν} (h : ((d ++ e).map (·.1)).Nodup) : d.update e = d ++ e := by
  induction e generalizing d with
  | nil => exact (append_nil d).symm
  | cons entry e ih =>
    have habs : entry.1 ∉ d.map (·.1) := by
      rw [map_append, nodup_append] at h
      exact fun hin => h.2.2 _ hin _ mem_cons_self rfl
    rw [append_cons] at h ⊢
    rw [← ih h, ← set_absent habs]
    rfl

end PyDict
