import Mathlib.Data.List.DropRight
import Mathlib.Tactic.Common

/-!
# Python's text functions, on lists of characters

White space and line breaks are the ones of `str`: `splitlines` breaks at more characters than
the line feed, and `strip` goes by more than the blank.

* `splitlines_terminated`: lines that are each ended by a line feed come back as they were.
* `strip_eq_self_iff`: only a text with white space at an end is changed by `strip`.
* `append_cons_inj`: a text is cut in one way only at the last place of a character.
-/

namespace PyText

open List

abbrev Text : Type := List Char

instance : LawfulBEq Text := inferInstance

def isSpace (c : Char) : Bool :=
  (9 ≤ c.toNat && c.toNat ≤ 13) || (28 ≤ c.toNat && c.toNat ≤ 32) || (0x2000 ≤ c.toNat && c.toNat ≤ 0x200a) ||
    [0x85, 0xa0, 0x1680, 0x2028, 0x2029, 0x202f, 0x205f, 0x3000].contains c.toNat

/-- The characters at which `splitlines` breaks. -/
def isLineBreak (c : Char) : Bool :=
  (10 ≤ c.toNat && c.toNat ≤ 13) || (28 ≤ c.toNat && c.toNat ≤ 30) || [0x85, 0x2028, 0x2029].contains c.toNat

/-- A character in front of the first of the lines. -/
def consHead (c : Char) : List Text → List Text
  | [] => [[c]]
  | line :: lines => (c :: line) :: lines

def splitlines : Text → List Text
  | [] => []
  | '\r' :: '\n' :: rest => [] :: splitlines rest
  | c :: rest => if isLineBreak c then [] :: splitlines rest else consHead c (splitlines rest)

def lstrip (text : Text) : Text := text.dropWhile isSpace

def strip (text : Text) : Text := (lstrip (lstrip text).reverse).reverse

/-- `strip(chars)`, for a set of characters. -/
def stripOf (chars : Char → Bool) (text : Text) : Text :=
  ((text.dropWhile chars).reverse.dropWhile chars).reverse

/-- A run of characters that are not kept becomes one hyphen. -/
def hyphenate (kept : Char → Bool) : Text → Text
  | [] => []
  | c :: rest =>
    if kept c then c :: hyphenate kept rest
    else
      match rest with
      | [] => ['-']
      | c' :: _ => if kept c' then '-' :: hyphenate kept rest else hyphenate kept rest

/-- `" ".join(words)`. -/
def unwords : List Text → Text
  | [] => []
  | [word] => word
  | word :: words => word ++ ' ' :: unwords words

/-- `needle in text`. -/
def isIn (needle : Text) : Text → Bool
  | [] => needle.isEmpty
  | c :: text => needle.isPrefixOf (c :: text) || isIn needle text

/-- What stands behind the given beginning, if the text begins so. -/
def dropLeading : Text → Text → Option Text
  | [], text => some text
  | _ :: _, [] => none
  | c :: lead, c' :: text => if c = c' then dropLeading lead text else none

/-- `text.removeprefix(lead)`. -/
def removeLeading (lead text : Text) : Text := (dropLeading lead text).getD text

/-! ## White space at the ends -/

theorem strip_eq (text : Text) : strip text = (text.dropWhile isSpace).rdropWhile isSpace := rfl

theorem dropWhile_eq_self {text : Text} : text.dropWhile isSpace = text ↔
    ∀ c ∈ text.head?, isSpace c = false := by
  cases text with
  | nil => simp
  | cons c rest => simp

theorem rdropWhile_eq_self {text : Text} : text.rdropWhile isSpace = text ↔
    ∀ c ∈ text.getLast?, isSpace c = false := by
  rw [rdropWhile_eq_self_iff]
  constructor
  · intro h c hc
    obtain ⟨hne, rfl⟩ := mem_getLast?_eq_getLast hc
    exact Bool.eq_false_iff.mpr (h hne)
  · intro h hne
    exact Bool.eq_false_iff.mp (h _ (getLast?_eq_some_getLast hne))

theorem strip_eq_self_iff {text : Text} : strip text = text ↔
    (∀ c ∈ text.head?, isSpace c = false) ∧ ∀ c ∈ text.getLast?, isSpace c = false := by
  rw [← dropWhile_eq_self, ← rdropWhile_eq_self, strip_eq]
  constructor
  · intro h
    -- nothing can have gone at either end, or the text would be shorter
    have hright := ( rdropWhile_prefix isSpace (text.dropWhile isSpace)).length_le
    rw [h] at hright
    have hleft : text.dropWhile isSpace = text :=
      (dropWhile_suffix isSpace).eq_of_length_le hright
    rw [hleft] at h
    exact ⟨hleft, h⟩
  · rintro ⟨hleft, hright⟩
    rw [hleft, hright]

theorem strip_strip (text : Text) : strip (strip text) = strip text := by
  rw [strip_eq_self_iff]
  constructor
  · intro c hc
    -- the first character is that of the text without the white space on its left
    have hhead : c ∈ (text.dropWhile isSpace).head? := by
      obtain ⟨tail, htail⟩ := rdropWhile_prefix isSpace (text.dropWhile isSpace)
      rw [← htail]
      exact mem_head?_append_of_mem_head? hc
    exact dropWhile_eq_self.mp (dropWhile_idempotent _ _) c hhead
  · intro c hc
    exact rdropWhile_eq_self.mp (rdropWhile_idempotent _ _) c hc

theorem strip_append_newline (text : Text) : strip (text ++ ['\n']) = strip text := by
  rw [strip_eq, strip_eq, dropWhile_append]
  split
  · rename_i hemp
    rw [isEmpty_iff.mp hemp]
    decide
  · exact rdropWhile_concat_pos _ _ _ (by decide)

/-! ## Lines -/

theorem splitlines_cons {c : Char} (hc : isLineBreak c = false) (rest : Text) :
    splitlines (c :: rest) = consHead c (splitlines rest) := by
  have hcr : c ≠ '\r' := by rintro rfl; revert hc; decide
  rw [splitlines]
  · rw [hc]; rfl
  · rintro _ rfl _; exact hcr rfl

theorem splitlines_newline (rest : Text) : splitlines ('\n' :: rest) = [] :: splitlines rest := by
  rw [splitlines]
  · rfl
  · intro _ h; exact absurd h (by decide)

theorem splitlines_line {line : Text} (hline : ∀ c ∈ line, isLineBreak c = false) (rest : Text) :
    splitlines (line ++ '\n' :: rest) = line :: splitlines rest := by
  induction line with
  | nil => exact splitlines_newline rest
  | cons c line ih =>
    rw [cons_append, splitlines_cons (hline c mem_cons_self), ih fun c' hc' => hline c' (mem_cons_of_mem _ hc')]
    rfl

theorem splitlines_terminated {lines : List Text} (hlines : ∀ line ∈ lines, ∀ c ∈ line, isLineBreak c = false) :
    splitlines (lines.flatMap fun line => line ++ ['\n']) = lines := by
  induction lines with
  | nil => rfl
  | cons line lines ih =>
    rw [flatMap_cons, append_assoc, singleton_append,
      splitlines_line (hlines line mem_cons_self), ih fun l hl => hlines l (mem_cons_of_mem _ hl)]

/-! ## Words -/

theorem unwords_cons_cons (w w' : Text) (ws : List Text) :
    unwords (w :: w' :: ws) = w ++ ' ' :: unwords (w' :: ws) := rfl

/-! ## Search -/

/-- A text is cut in one way only at the last place of a character. -/
theorem append_cons_inj {c : Char} {a b d e : Text} (hd : c ∉ d) (he : c ∉ e) (h : a ++ c :: d = b ++ c :: e) :
    a = b ∧ d = e := by
  rcases append_eq_append_iff.mp h with ⟨m, rfl, hm⟩ | ⟨m, rfl, hm⟩
  · cases m with
    | nil =>
      cases hm
      exact ⟨(append_nil a).symm, rfl⟩
    | cons c' m =>
      cases hm
      exact absurd (mem_append_right m mem_cons_self) hd
  · cases m with
    | nil =>
      cases hm
      exact ⟨append_nil b, rfl⟩
    | cons c' m =>
      cases hm
      exact absurd (mem_append_right m mem_cons_self) he

end PyText
