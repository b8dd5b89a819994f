import WatchdogVpn.Lib.PyText
import Mathlib.Data.List.Forall2

/-!
# Python's `shlex`, on one line

The lexer of POSIX shells with `whitespace_split`: quotes join, a backslash escapes, and a comment
character outside quotes ends the line, also in the middle of a word.

* `shlex_plain`: a line that begins with a plain character has a first word that begins with it.
* `shlexSplit_unwords`: words that are written plainly or in quotes are read back.
-/

namespace PyText

open List

inductive ShlexState
  | idle
  | word (token : Text)
  | quote (q : Char) (token : Text)
  /-- Behind a backslash; in quotes if there is a quote. -/
  | escape (q : Option Char) (token : Text)

def isShlexSpace (c : Char) : Bool := [' ', '\t', '\r', '\n'].contains c

def isQuote (c : Char) : Bool := c == '\'' || c == '"'

/-- The words of a line without line feed, or the `ValueError` of an open quote or a last backslash.
-/
def shlexFrom (commenters : Text) : ShlexState → Text → Option (List Text)
  | .idle, [] => some []
  | .idle, c :: rest =>
    if isShlexSpace c then shlexFrom commenters .idle rest
    else if commenters.contains c then some []
    else if c = '\\' then shlexFrom commenters (.escape none []) rest
    else if isQuote c then shlexFrom commenters (.quote c []) rest
    else shlexFrom commenters (.word [c]) rest
  | .word token, [] => some [token]
  | .word token, c :: rest =>
    if isShlexSpace c then (shlexFrom commenters .idle rest).map (token :: ·)
    else if commenters.contains c then some [token]
    else if isQuote c then shlexFrom commenters (.quote c token) rest
    else if c = '\\' then shlexFrom commenters (.escape none token) rest
    else shlexFrom commenters (.word (token ++ [c])) rest
  | .quote _ _, [] => none
  | .quote q token, c :: rest =>
    if c = q then shlexFrom commenters (.word token) rest
    else if c = '\\' ∧ q = '"' then shlexFrom commenters (.escape (some q) token) rest
    else shlexFrom commenters (.quote q (token ++ [c])) rest
  | .escape _ _, [] => none
  | .escape none token, c :: rest => shlexFrom commenters (.word (token ++ [c])) rest
  | .escape (some q) token, c :: rest =>
    -- in quotes the backslash itself stays unless it escapes the quote or itself
    shlexFrom commenters (.quote q (if c ≠ '\\' ∧ c ≠ q then token ++ ['\\', c] else token ++ [c])) rest

def shlexSplit (commenters line : Text) : Option (List Text) := shlexFrom commenters .idle line

/-- The word that the state is in. -/
def ShlexState.token? : ShlexState → Option Text
  | .idle => none
  | .word token | .quote _ token | .escape _ token => some token

variable {commenters : Text}

/-- A word that has been begun is only extended. -/
theorem shlexFrom_extends {line : Text} {state : ShlexState} {token : Text} {tokens : List Text}
    (hstate : state.token? = some token) (h : shlexFrom commenters state line = some tokens) :
    ∃ more rest, tokens = (token ++ more) :: rest := by
  induction line generalizing state token tokens with
  | nil =>
    cases state with
    | idle => cases hstate
    | word t =>
      cases hstate
      rw [shlexFrom, Option.some_inj] at h
      exact ⟨[], [], by rw [← h, append_nil]⟩
    | quote q t | escape q t => simp [shlexFrom] at h
  | cons c line ih =>
    -- a step that keeps the word or adds to it
    have hstep : ∀ {state' : ShlexState} (added : Text), shlexFrom commenters state' line = some tokens →
        state'.token? = some (token ++ added) → ∃ more rest, tokens = (token ++ more) :: rest := by
      intro state' added h' hstate'
      obtain ⟨more, rest, hext⟩ := ih hstate' h'
      exact ⟨added ++ more, rest, by rw [hext, append_assoc]⟩
    have hsame : some token = some (token ++ []) := by rw [append_nil]
    cases state with
    | idle => cases hstate
    | word t =>
      cases hstate
      rw [shlexFrom] at h
      split at h
      · obtain ⟨rest, -, rfl⟩ := Option.map_eq_some_iff.mp h
        exact ⟨[], rest, by rw [append_nil]⟩
      split at h
      · cases h
        exact ⟨[], [], by rw [append_nil]⟩
      split at h
      · exact hstep [] h hsame
      split at h
      · exact hstep [] h hsame
      · exact hstep [c] h rfl
    | quote q t =>
      cases hstate
      rw [shlexFrom] at h
      split at h
      · exact hstep [] h hsame
      split at h
      · exact hstep [] h hsame
      · exact hstep [c] h rfl
    | escape q t =>
      cases hstate
      cases q with
      | none => exact hstep [c] h rfl
      | some q =>
        rw [shlexFrom] at h
        split at h
        · exact hstep ['\\', c] h rfl
        · exact hstep [c] h rfl

/-- A character that starts a word by itself. -/
def isPlain (commenters : Text) (c : Char) : Bool :=
  !isShlexSpace c && !commenters.contains c && c != '\\' && !isQuote c

theorem shlex_plain {c : Char} {line : Text} {tokens : List Text} (hc : isPlain commenters c = true)
    (h : shlexSplit commenters (c :: line) = some tokens) : ∃ more rest, tokens = (c :: more) :: rest := by
  simp only [isPlain, Bool.and_eq_true, Bool.not_eq_true', bne_iff_ne, ne_eq] at hc
  obtain ⟨⟨⟨hspace, hcom⟩, hesc⟩, hquote⟩ := hc
  unfold shlexSplit at h
  rw [shlexFrom, hspace, hcom, hquote, if_neg hesc] at h
  exact shlexFrom_extends rfl h

/-! ## Reading back what is written -/

/-- The text is read as the word, at the end of the line and in front of a blank. -/
structure Written (commenters word text : Text) : Prop where
  last : shlexFrom commenters .idle text = some [word]
  before : ∀ rest, shlexFrom commenters .idle (text ++ ' ' :: rest) =
    (shlexFrom commenters .idle rest).map (word :: ·)

theorem shlexFrom_plain {text : Text} (h : ∀ c ∈ text, isPlain commenters c = true) (token rest : Text) :
    shlexFrom commenters (.word token) (text ++ rest) = shlexFrom commenters (.word (token ++ text)) rest := by
  induction text generalizing token with
  | nil => rw [append_nil]; rfl
  | cons c text ih =>
    obtain ⟨hc, htext⟩ := forall_mem_cons.mp h
    simp only [isPlain, Bool.and_eq_true, Bool.not_eq_true', bne_iff_ne, ne_eq] at hc
    obtain ⟨⟨⟨hspace, hcom⟩, hesc⟩, hquote⟩ := hc
    rw [cons_append, shlexFrom, hspace, hcom, hquote, if_neg hesc]
    exact (ih htext _).trans (by rw [append_assoc]; rfl)

theorem shlexFrom_quoted {text : Text} (h : ∀ c ∈ text, c ≠ '"' ∧ c ≠ '\\') (token rest : Text) :
    shlexFrom commenters (.quote '"' token) (text ++ rest) =
      shlexFrom commenters (.quote '"' (token ++ text)) rest := by
  induction text generalizing token with
  | nil => rw [append_nil]; rfl
  | cons c text ih =>
    obtain ⟨hc, htext⟩ := forall_mem_cons.mp h
    rw [cons_append, shlexFrom, if_neg hc.1, if_neg fun hboth => hc.2 hboth.1]
    exact (ih htext _).trans (by rw [append_assoc]; rfl)

theorem written_plain {word : Text} (hne : word ≠ []) (h : ∀ c ∈ word, isPlain commenters c = true) :
    Written commenters word word := by
  obtain ⟨c, word, rfl⟩ := exists_cons_of_ne_nil hne
  obtain ⟨hc, hword⟩ := forall_mem_cons.mp h
  have hstart : ∀ rest, shlexFrom commenters .idle (c :: word ++ rest) =
      shlexFrom commenters (.word (c :: word)) rest := by
    intro rest
    simp only [isPlain, Bool.and_eq_true, Bool.not_eq_true', bne_iff_ne, ne_eq] at hc
    obtain ⟨⟨⟨hspace, hcom⟩, hesc⟩, hquote⟩ := hc
    rw [cons_append, shlexFrom, hspace, hcom, hquote, if_neg hesc]
    exact shlexFrom_plain hword [c] rest
  exact ⟨(append_nil (c :: word) ▸ hstart [] :), fun rest => hstart _⟩

theorem written_quoted {word : Text} (hcom : '"' ∉ commenters) (h : ∀ c ∈ word, c ≠ '"' ∧ c ≠ '\\') :
    Written commenters word ('"' :: word ++ ['"']) := by
  have hstart : ∀ rest, shlexFrom commenters .idle ('"' :: word ++ '"' :: rest) =
      shlexFrom commenters (.word word) rest := by
    intro rest
    have hnot : commenters.contains '"' = false := by simpa using hcom
    rw [cons_append, shlexFrom, hnot]
    exact shlexFrom_quoted h [] _
  refine ⟨hstart [], fun rest => ?_⟩
  rw [append_assoc]
  exact hstart _

theorem shlexSplit_unwords {words texts : List Text} (h : List.Forall₂ (Written commenters) words texts) :
    shlexSplit commenters (unwords texts) = some words := by
  unfold shlexSplit
  induction h with
  | nil => rfl
  | cons hfst htail ih =>
    cases htail with
    | nil => exact hfst.last
    | cons => rw [unwords_cons_cons, hfst.before, ih]; rfl

end PyText
