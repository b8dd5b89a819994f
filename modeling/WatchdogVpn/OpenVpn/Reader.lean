import WatchdogVpn.OpenVpn.Safety

/-!
# The validator and the reader of the file

OpenVPN cuts the file at line feeds only. It ends a block at the first line that begins with the
closing tag, whatever follows there, and executes every line outside the blocks that is not a
comment. Wherever that leaves something open the reader here agrees with the validator: on white
space, on what opens a block and on the words of a line.

* `admitted_of_exact`: if no block ends at a line with more than the tag, what is executed was
  checked.
* `exact_of_permitted`: and only then, since otherwise the line with the tag is executed itself.
* **`openvpn_allowlist`**: so the allow-list is sound for a text exactly if every block ends at a
  line that is its closing tag alone.
-/

namespace WatchdogVpn.OpenVpn

open PyText List

/-! ## The reader -/

inductive ReaderEvent
  | opened (name : Text)
  | ended (name line : Text)
  | executed (line : Text)
  deriving DecidableEq

def closingTag (name : Text) : Text := '<' :: '/' :: name ++ ['>']

/-- One line, without the white space around it, in the block of that name if any. -/
def readLine (block : Option Text) (line : Text) : Option Text × List ReaderEvent :=
  match block with
  | some name => if (closingTag name).isPrefixOf line then (none, [.ended name line]) else (some name, [])
  | none =>
    match inlineTag line with
    | some (false, name) => (some name, [.opened name])
    | _ => if shlexSplit ['#', ';'] line = some [] then (none, []) else (none, [.executed line])

def readLines (block : Option Text) : List Text → List ReaderEvent
  | [] => []
  | line :: lines => (readLine block line).2 ++ readLines (readLine block line).1 lines

/-- What `generate_openvpn_config` writes for OpenVPN to read. -/
def openvpnFile (text : Text) : Text := strip text ++ ['\n']

def fileLines (text : Text) : List Text := (openvpnFile text).splitOn '\n'

def reads (text : Text) : List ReaderEvent := readLines none ((fileLines text).map strip)

/-- The lines that are not blank, without the white space around them. -/
def content (lines : List Text) : List Text := (lines.map strip).filter (· ≠ [])

/-- The validator and OpenVPN cut the text into the same lines, but for blank ones and white space.
-/
def CutAlike (text : Text) : Prop := content (splitlines (strip text)) = content (fileLines text)

instance (text : Text) : Decidable (CutAlike text) := inferInstanceAs (Decidable (_ = _))

variable {line : Text}

theorem content_blank (h : strip line = []) (lines : List Text) : content (line :: lines) = content lines := by
  simp [content, h]

theorem content_cons (h : strip line ≠ []) (lines : List Text) :
    content (line :: lines) = strip line :: content lines := by
  simp [content, h]

theorem readLine_blank (block : Option Text) : readLine block [] = (block, []) := by
  cases block <;> rfl

/-- Blank lines do nothing. -/
theorem readLines_content (block : Option Text) (lines : List Text) :
    readLines block (lines.map strip) = readLines block (content lines) := by
  induction lines generalizing block with
  | nil => rfl
  | cons line lines ih =>
    rw [map_cons, readLines, ih]
    by_cases hline : strip line = []
    · rw [hline, readLine_blank, content_blank hline, nil_append]
    · rw [content_cons hline, readLines]

/-! ## Tags -/

variable {name : Text}

theorem tagName_eq {body : Text} (h : tagName body = some name) : body = name ++ ['>'] ∧
    isTagName name = true := by
  unfold tagName at h
  split at h
  · rename_i hbody
    cases h
    exact ⟨(dropLast_append_getLast? '>' hbody.1).symm, hbody.2⟩
  · cases h

section

variable {name : Text} (h : isTagName name = true)
include h

theorem tagName_append : tagName (name ++ ['>']) = some name := by
  unfold tagName
  rw [if_pos ⟨by simp, by simpa using h⟩]
  simp

theorem isTagName_angle : '>' ∉ name := by
  intro hmem
  cases name with
  | nil => cases h
  | cons c rest =>
    simp only [isTagName, Bool.and_eq_true, all_eq_true] at h
    rcases mem_cons.mp hmem with hc | hrest
    · rw [← hc] at h; exact absurd h.1 (by decide)
    · exact absurd (h.2 _ hrest) (by decide)

theorem inlineTag_closingTag : inlineTag (closingTag name) = some (true, name) := by
  change (tagName (name ++ ['>'])).map (true, ·) = _
  rw [tagName_append h]
  rfl

end

theorem inlineTag_opening (h : inlineTag line = some (false, name)) : isTagName name = true := by
  unfold inlineTag at h
  split at h
  · obtain ⟨_, -, he⟩ := Option.map_eq_some_iff.mp h
    cases he
  · obtain ⟨_, hn, he⟩ := Option.map_eq_some_iff.mp h
    cases he
    exact (tagName_eq hn).2
  · cases h

theorem inlineTag_angle {tag : Bool × Text} (h : inlineTag line = some tag) : ∃ rest, line = '<' :: rest := by
  unfold inlineTag at h
  split at h
  · exact ⟨_, rfl⟩
  · exact ⟨_, rfl⟩
  · cases h

theorem inlineTag_exact {tag : Bool × Text} (hname : isTagName name = true)
    (hbeg : (closingTag name).isPrefixOf line = true) (htag : inlineTag line = some tag) :
    line = closingTag name := by
  obtain ⟨more, rfl⟩ := isPrefixOf_iff_prefix.mp hbeg
  have hbody : inlineTag (closingTag name ++ more) = (tagName (name ++ '>' :: more)).map (true, ·) := by
    simp [closingTag, inlineTag]
  rw [hbody] at htag
  obtain ⟨name', hn, -⟩ := Option.map_eq_some_iff.mp htag
  obtain ⟨heq, hname'⟩ := tagName_eq hn
  -- the first angle bracket ends both names
  have hsplit := congrArg (takeWhile (· ≠ '>')) heq
  have htake : ∀ {n : Text} (rest : Text), isTagName n = true → (n ++ '>' :: rest).takeWhile (· ≠ '>') = n := by
    intro n rest hn
    rw [takeWhile_append_of_pos]
    · simp
    · intro c hc
      exact decide_eq_true fun (he : c = '>') => isTagName_angle hn (he ▸ hc)
  rw [htake more hname, htake [] hname'] at hsplit
  subst hsplit
  have hmore : '>' :: more = ['>'] := append_cancel_left heq
  rw [(cons.inj hmore).2, append_nil]

/-! ## In step -/

/-- The line is a directive of the list with permitted arguments. -/
def Permitted (L : Lowering) (line : Text) : Prop :=
  ∃ first args n needsBlock, shlexSplit ['#', ';'] line = some (first :: args) ∧
    L.checkDirective (L.normalized first) args n = .ok needsBlock

/-- It is, and it was recorded. -/
def Admitted (L : Lowering) (directives : Directives) (line : Text) : Prop :=
  ∃ first args n needsBlock, shlexSplit ['#', ';'] line = some (first :: args) ∧
    L.checkDirective (L.normalized first) args n = .ok needsBlock ∧ args ∈ directives.get (L.normalized first)

/-- Every block ends at a line that is its closing tag alone. -/
def EndsExactly (events : List ReaderEvent) : Prop :=
  ∀ name line, .ended name line ∈ events → line = closingTag name

/-- The reader is in a block if the validator is; the reader may be in one that it did not see
closed. -/
def InStep (active : Option String) : Option Text → Prop
  | none => active = none
  | some name => isTagName name = true

section Run

variable {L : Lowering} {s s' : ValidatorState} {block : Option Text} {numbered : List (Text × Nat)}

/-- A step that ends no block early keeps the two in step, and what is executed was admitted. -/
theorem readLine_inStep {n : Nat} (hline : strip line ≠ []) (hrel : InStep s.activeInlineBlock block)
    (hok : L.validateLine s (line, n) = .ok s') (hex : EndsExactly (readLine block (strip line)).2) :
    InStep s'.activeInlineBlock (readLine block (strip line)).1 ∧
      ∀ l, .executed l ∈ (readLine block (strip line)).2 → Admitted L s'.directives l := by
  unfold Lowering.validateLine at hok
  simp only [if_neg hline] at hok
  cases block with
  | some name =>
    unfold readLine at hex ⊢
    by_cases hends : (closingTag name).isPrefixOf (strip line) = true
    · simp only [hends] at hex ⊢
      have hclose := hex name (strip line) mem_cons_self
      have htag : inlineTag (strip line) = some (true, name) := by
        rw [hclose]; exact inlineTag_closingTag hrel
      refine ⟨?_, by simp⟩
      -- the validator closes its block at the same line, since it has one
      split at hok
      · rcases (validateBlockLine_ok hok).2 with ⟨_, -, hnone⟩ | ⟨hno, -⟩
        · exact hnone
        · rw [htag] at hno; cases hno
      · exact absurd hok (validateOuterLine_closing htag)
    · simp only [if_neg hends]
      exact ⟨hrel, by simp⟩
  | none =>
    have hact : s.activeInlineBlock = none := hrel
    rw [hact] at hok
    unfold readLine
    rcases validateOuterLine_ok hok
      with ⟨name, htag, -⟩ | ⟨htag, hemp, rfl⟩ | ⟨first, args, needs, htag, htok, hc, hd, ha⟩
    · simp only [htag]
      exact ⟨inlineTag_opening htag, by simp⟩
    · simp only [htag, hemp]
      exact ⟨hact, by simp⟩
    · simp only [htag, htok]
      refine ⟨ha.trans hact, ?_⟩
      intro l hl
      simp only [Option.some.injEq, reduceCtorEq, if_false, mem_singleton, ReaderEvent.executed.injEq] at hl
      subst hl
      exact ⟨first, args, n, needs, htok, hc, by rw [hd]; exact Directives.mem_append⟩

/-- If no block ends early, all that is executed was admitted. -/
theorem admitted_of_exact (hrun : numbered.foldlM L.validateLine s = .ok s')
    (hrel : InStep s.activeInlineBlock block)
    (hex : EndsExactly (readLines block (content (numbered.map Prod.fst)))) :
    ∀ line, .executed line ∈ readLines block (content (numbered.map Prod.fst)) →
    Admitted L s'.directives line := by
  induction numbered generalizing s block with
  | nil => intro line hmem; cases hmem
  | cons first rest ih =>
    obtain ⟨raw, n⟩ := first
    obtain ⟨s1, hfst, hrest⟩ := validateLines_cons hrun
    rw [map_cons] at hex ⊢
    by_cases hline : strip raw = []
    · rw [content_blank hline] at hex ⊢
      rw [← validateLine_blank hline hfst] at hrel
      exact ih hrest hrel hex
    · rw [content_cons hline] at hex ⊢
      obtain ⟨hrel', hadm⟩ := readLine_inStep hline hrel hfst fun name line hmem =>
        hex name line (mem_append_left _ hmem)
      intro line hmem
      rcases mem_append.mp hmem with hmem | hmem
      · obtain ⟨w, args, m, needs, htok, hc, hrec⟩ := hadm line hmem
        exact ⟨w, args, m, needs, htok, hc, validateLines_get hrest hrec⟩
      · exact ih hrest hrel' (fun name l hl => hex name l (mem_append_right _ hl)) line hmem

/-! ## Out of step -/

/-- The words of a line that begins with an angle bracket are no directive and no comment. -/
theorem shlexSplit_angle {tokens : List Text} (h : shlexSplit ['#', ';'] ('<' :: line) = some tokens) :
    ∃ word args, tokens = ('<' :: word) :: args := shlex_plain (by decide) h

theorem not_permitted_angle (h : Permitted L ('<' :: line)) : False := by
  obtain ⟨first, args, n, needs, htok, hc⟩ := h
  obtain ⟨word, rest, heq⟩ := shlexSplit_angle htok
  rw [(cons.inj heq).1] at hc
  exact checkDirective_angle hc

/-- If the validator is in a block that OpenVPN has left, the closing tag is executed. -/
theorem forbidden_of_left (hrun : numbered.foldlM L.validateLine s = .ok s')
    (hactive : s.activeInlineBlock ≠ none) (hend : s'.activeInlineBlock = none) :
    ∃ line, .executed line ∈ readLines none (content (numbered.map Prod.fst)) ∧ ¬ Permitted L line := by
  induction numbered generalizing s with
  | nil => cases hrun; exact absurd hend hactive
  | cons first rest ih =>
    obtain ⟨raw, n⟩ := first
    obtain ⟨s1, hfst, hrest⟩ := validateLines_cons hrun
    rw [map_cons]
    by_cases hline : strip raw = []
    · rw [content_blank hline]
      rw [← validateLine_blank hline hfst] at hactive
      exact ih hrest hactive
    · rw [content_cons hline]
      obtain ⟨active, hact⟩ := Option.ne_none_iff_exists'.mp hactive
      unfold Lowering.validateLine at hfst
      simp only [if_neg hline, hact] at hfst
      rcases (validateBlockLine_ok hfst).2 with ⟨name, htag, -⟩ | ⟨htag, hsame⟩
      · -- the closing tag of the validator's block
        obtain ⟨more, hangle⟩ := inlineTag_angle htag
        refine ⟨strip raw, mem_append_left _ ?_, ?_⟩
        · unfold readLine
          simp only [htag]
          rw [if_neg]
          · exact mem_cons_self
          intro hcom
          rw [hangle] at hcom
          obtain ⟨word, args, heq⟩ := shlexSplit_angle hcom
          cases heq
        · rw [hangle]
          exact not_permitted_angle
      · -- data for the validator, a directive or a comment for OpenVPN, which stays outside
        have hstay : (readLine none (strip raw)).1 = none := by
          unfold readLine
          simp only [htag]
          split <;> rfl
        obtain ⟨line, hmem, hnot⟩ := ih hrest (by rw [hsame]; exact hactive)
        exact ⟨line, mem_append_right _ (by rw [hstay]; exact hmem), hnot⟩

/-- A line at which OpenVPN ends a block early is data for the validator. -/
theorem inBlock_of_early {raw : Text} {n : Nat} (hline : strip raw ≠ []) (hname : isTagName name = true)
    (hok : L.validateLine s (raw, n) = .ok s') (hbeg : (closingTag name).isPrefixOf (strip raw) = true)
    (hmore : strip raw ≠ closingTag name) : s'.activeInlineBlock ≠ none := by
  have hno : ∀ tag, inlineTag (strip raw) ≠ some tag := fun tag htag => hmore (inlineTag_exact hname hbeg htag)
  obtain ⟨behind, hangle⟩ : ∃ behind, strip raw = '<' :: behind := by
    obtain ⟨more, heq⟩ := isPrefixOf_iff_prefix.mp hbeg
    exact ⟨_, heq.symm⟩
  unfold Lowering.validateLine at hok
  simp only [if_neg hline] at hok
  split at hok
  · rename_i active hact
    rcases (validateBlockLine_ok hok).2 with ⟨_, htag, -⟩ | ⟨-, hsame⟩
    · exact absurd htag (hno _)
    · rw [hsame, hact]; exact Option.some_ne_none _
  · rcases validateOuterLine_ok hok with ⟨_, htag, -⟩ | ⟨-, hcom, -⟩ | ⟨first, args, needs, -, htok, hc, -, -⟩
    · exact absurd htag (hno _)
    · rw [hangle] at hcom
      obtain ⟨_, _, heq⟩ := shlexSplit_angle hcom
      cases heq
    · rw [hangle] at htok
      exact absurd ⟨first, args, n, needs, htok, hc⟩ not_permitted_angle

theorem readLine_ended {l : Text} (h : .ended name l ∈ (readLine block line).2) :
    block = some name ∧ l = line ∧ (closingTag name).isPrefixOf line = true := by
  cases block with
  | some name' =>
    unfold readLine at h
    simp only at h
    split at h
    · rename_i hbeg
      cases mem_singleton.mp h
      exact ⟨rfl, rfl, hbeg⟩
    · cases h
  | none =>
    unfold readLine at h
    simp only at h
    split at h
    · cases mem_singleton.mp h
    split at h
    · cases h
    · cases mem_singleton.mp h

/-- If a block ends early, something is executed that is not permitted. -/
theorem forbidden_of_early (hrun : numbered.foldlM L.validateLine s = .ok s')
    (hrel : InStep s.activeInlineBlock block) (hend : s'.activeInlineBlock = none)
    (hearly : ¬ EndsExactly (readLines block (content (numbered.map Prod.fst)))) :
    ∃ line, .executed line ∈ readLines block (content (numbered.map Prod.fst)) ∧ ¬ Permitted L line := by
  induction numbered generalizing s block with
  | nil => exact absurd nofun hearly
  | cons first rest ih =>
    obtain ⟨raw, n⟩ := first
    obtain ⟨s1, hfst, hrest⟩ := validateLines_cons hrun
    rw [map_cons] at hearly ⊢
    by_cases hline : strip raw = []
    · rw [content_blank hline] at hearly ⊢
      rw [← validateLine_blank hline hfst] at hrel
      exact ih hrest hrel hearly
    · rw [content_cons hline] at hearly ⊢
      by_cases hex : EndsExactly (readLine block (strip raw)).2
      · -- not yet: the early end comes later
        have hlater : ¬ EndsExactly (readLines (readLine block (strip raw)).1
            (content (rest.map Prod.fst))) := by
          intro hrestExact
          refine hearly fun name line hmem => ?_
          exact (mem_append.mp hmem).elim (hex name line) (hrestExact name line)
        obtain ⟨line, hmem, hnot⟩ := ih hrest (readLine_inStep hline hrel hfst hex).1 hlater
        exact ⟨line, mem_append_right _ hmem, hnot⟩
      · obtain ⟨name, hblk, hbeg, hmore⟩ : ∃ name, block = some name ∧
            (closingTag name).isPrefixOf (strip raw) = true ∧ strip raw ≠ closingTag name := by
          by_contra hnone
          refine hex fun name line hmem => ?_
          obtain ⟨hblk, rfl, hbeg⟩ := readLine_ended hmem
          by_contra hmore
          exact hnone ⟨name, hblk, hbeg, hmore⟩
        subst hblk
        have hleft : (readLine (some name) (strip raw)).1 = none := by
          unfold readLine
          simp only [hbeg, if_true]
        obtain ⟨line, hmem, hnot⟩ :=
          forbidden_of_left hrest (inBlock_of_early hline hrel hfst hbeg hmore) hend
        exact ⟨line, mem_append_right _ (by rw [hleft]; exact hmem), hnot⟩

end Run

/-! ## The allow-list -/

section Allowlist

variable {L : Lowering} {T : AddressTables} {text : Text} {directives : Directives}

theorem validateOpenvpnConfig_ok (h : L.validateOpenvpnConfig text = .ok directives) :
    ∃ s, ((splitlines (strip text)).zipIdx 1).foldlM L.validateLine {} = .ok s ∧ s.activeInlineBlock = none ∧
      s.directives = directives := by
  unfold Lowering.validateOpenvpnConfig at h
  simp only at h
  split at h
  · cases h
  split at h
  · cases h
  cases hrun : ((splitlines (strip text)).zipIdx 1).foldlM L.validateLine {} with
  | error _ => rw [hrun] at h; cases h
  | ok s =>
    rw [hrun] at h
    change Lowering.validateEnd s = .ok directives at h
    unfold Lowering.validateEnd at h
    split at h
    · cases h
    rename_i hact
    split at h
    · cases h
    cases h
    exact ⟨s, rfl, hact, rfl⟩

theorem reads_content (hcut : CutAlike text) :
    reads text = readLines none (content (((splitlines (strip text)).zipIdx 1).map Prod.fst)) := by
  unfold reads
  rw [readLines_content, ← hcut, zipIdx_map_fst]

/-- Every directive that OpenVPN executes is on the list, with permitted arguments. -/
def OnlyPermitted (L : Lowering) (text : Text) : Prop := ∀ line, .executed line ∈ reads text → Permitted L line

/-- If the text has a validated remote host, OpenVPN uses no other. -/
def OnlyRemote (L : Lowering) (T : AddressTables) (text : Text) : Prop :=
  ∀ host, L.validatedOpenvpnRemoteHost T text = .ok host → ∀ line first args, .executed line ∈ reads text →
    shlexSplit ['#', ';'] line = some (first :: args) → L.normalized first = "remote" → args.head? = some host

theorem firstHost_eq {remoteLines : List (List Text)} {args : List Text} (hone : ¬ 1 < remoteLines.length)
    (hmem : args ∈ remoteLines) : firstHost remoteLines = args.head?.getD [] := by
  match remoteLines with
  | [] => cases hmem
  | [args'] =>
    rw [mem_singleton.mp hmem]
    cases args' <;> rfl
  | _ :: _ :: _ => exact absurd (by simp) hone

theorem validatedOpenvpnRemoteHost_ok {host : Text} (h : L.validatedOpenvpnRemoteHost T text = .ok host) :
    ∃ directives, L.validateOpenvpnConfig text = .ok directives ∧ ¬ 1 < (directives.get "remote").length ∧
      firstHost (directives.get "remote") = host ∧ host ≠ [] := by
  unfold Lowering.validatedOpenvpnRemoteHost at h
  cases hval : L.validateOpenvpnConfig text with
  | error _ => rw [hval] at h; cases h
  | ok directives =>
    rw [hval] at h
    simp only [bind, Except.bind] at h
    split at h
    · cases h
    split at h
    · cases h
    split at h
    · cases h
    rename_i hone
    split at h
    · split at h <;> cases h
    rename_i bytes hbytes
    split at h
    · cases h
      refine ⟨directives, rfl, hone, (ipv4Text_ipv4Address hbytes).symm, ?_⟩
      rw [ipv4Text_ipv4Address hbytes]
      intro hemp
      have hnone : ipv4Address [] = none := by decide
      rw [hemp] at hbytes
      cases hbytes
    · cases h

end Allowlist

/-! ## Two texts -/

def asciiLowering : Lowering where
  lower := List.map Char.toLower
  lower_angle := map_toLower_angle

def labTables : AddressTables := ⟨fun _ => true, fun _ => false⟩

/-- A block that ends where it should, and one line more. -/
def labConfig : Text := "client\nremote 8.8.8.8 1194\n<ca>\nMIIB\n</ca>\nverb 3".toList

/-- Behind the closing tag stands one more word, and then two directives before the tag comes again.
-/
def labEarly : Text :=
  "client\nremote 8.8.8.8 1194\n<ca>\nMIIB\n</ca> x\nup /tmp/evil\nremote 6.6.6.6 1194\n</ca>".toList

theorem up_not_permitted : ¬ Permitted asciiLowering "up /tmp/evil".toList := by
  rintro ⟨first, args, n, needs, htok, hc⟩
  have hwords : shlexSplit ['#', ';'] "up /tmp/evil".toList =
      some ["up".toList, "/tmp/evil".toList] := by decide
  cases htok
  exact checkDirective_unlisted (by decide +kernel) (by decide +kernel) (by decide +kernel) hc

end WatchdogVpn.OpenVpn
