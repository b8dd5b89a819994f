import WatchdogVpn.Lib.Shlex

/-!
# The allow-list of OpenVPN directives

`validate_openvpn_config` reads a configuration line by line. Inside an inline block everything is
data up to the line that is its closing tag; outside, a line opens a block or is split into words
like a shell line, and its first word must be a directive of the list. What `str.lower` does to
letters is left open (`Lowering`).

* `checkDirective_angle`: no word that begins with an angle bracket passes for a directive.
* `validateLine_blank`: a blank line changes nothing.
-/

namespace WatchdogVpn.OpenVpn

open PyText List

def supportedOpenvpnDirectives : List String :=
  ["allow-compression", "allow-pull-fqdn", "allow-recursive-routing", "auth", "auth-nocache", "auth-retry",
    "bcast-buffers", "bind", "bind-dev", "block-ipv6", "block-outside-dns", "cipher", "client", "comp-lzo",
    "comp-noadapt", "compress", "connect-retry", "connect-retry-max", "connect-timeout", "data-ciphers",
    "data-ciphers-fallback", "dev", "dev-type", "dhcp-option", "disable-dco", "disable-occ", "dns",
    "explicit-exit-notify", "float", "fragment", "hand-window", "http-proxy-option", "ifconfig",
    "ifconfig-ipv6", "ifconfig-noexec", "ifconfig-nowarn", "inactive", "keepalive", "key-direction",
    "keying-material-exporter", "link-mtu", "lladdr", "local", "lport", "machine-readable-output", "mark",
    "mssfix", "mtu-disc", "mtu-test", "multihome", "mute", "mute-replay-warnings", "nice", "nobind",
    "ns-cert-type", "passtos", "persist-key", "persist-local-ip", "persist-remote-ip", "persist-tun", "ping",
    "ping-exit", "ping-restart", "ping-timer-rem", "port", "preresolve", "proto", "proto-force", "pull",
    "pull-filter", "push-peer-info", "rcvbuf", "redirect-gateway", "redirect-private", "register-dns",
    "remap-usr1", "remote", "remote-cert-eku", "remote-cert-ku", "remote-cert-tls", "remote-random",
    "remote-random-hostname", "reneg-bytes", "reneg-pkts", "reneg-sec", "replay-window", "resolv-retry",
    "route", "route-delay", "route-gateway", "route-ipv6", "route-ipv6-gateway", "route-metric", "route-noexec",
    "route-nopull", "route-table", "rport", "session-timeout", "shaper", "single-session", "sndbuf",
    "socks-proxy-retry", "static-challenge", "suppress-timestamps", "tcp-nodelay", "tcp-queue-limit",
    "tls-cert-profile", "tls-cipher", "tls-ciphersuites", "tls-client", "tls-crypt-v2-max-age", "tls-exit",
    "tls-timeout", "tls-version-max", "tls-version-min", "topology", "tran-window", "tun-ipv6", "tun-mtu",
    "tun-mtu-extra", "tun-mtu-max", "txqueuelen", "verb", "verify-hash", "verify-x509-name", "x509-track",
    "x509-username-field"]

def supportedOpenvpnInlineBlocks : List String :=
  ["auth-user-pass", "ca", "cert", "crl-verify", "extra-certs", "http-proxy-user-pass", "key",
    "peer-fingerprint", "pkcs12", "secret", "tls-auth", "tls-crypt", "tls-crypt-v2"]

def inlinePathDirectives : List String :=
  supportedOpenvpnInlineBlocks.filter fun name => !(["auth-user-pass", "peer-fingerprint"].contains name)

def specialDirectives : List String :=
  ["auth-user-pass", "dns-updown", "http-proxy", "ignore-unknown-option", "setenv", "socks-proxy"]

def safeOptionalCompatibilityDirectives : List String := ["block-outside-dns", "register-dns"]

/-- `str.lower`. Of what it does only this is used: it leaves an angle bracket where it is. -/
structure Lowering where
  lower : Text → Text
  lower_angle : ∀ text, lower ('<' :: text) = '<' :: lower text

theorem map_toLower_angle (text : Text) : ('<' :: text).map Char.toLower = '<' :: text.map Char.toLower := rfl

/-! ## Lines -/

def isTagChar (c : Char) : Bool := c.isAlphanum || c == '_' || c == '-'

def isTagName : Text → Bool
  | [] => false
  | c :: rest => c.isAlphanum && rest.all isTagChar

/-- The name in front of a last angle bracket. -/
def tagName (body : Text) : Option Text :=
  if body.getLast? = some '>' ∧ isTagName body.dropLast = true then some body.dropLast else none

/-- `_INLINE_TAG.fullmatch(line)`: whether the tag closes, and its name. -/
def inlineTag : Text → Option (Bool × Text)
  | '<' :: '/' :: body => (tagName body).map (true, ·)
  | '<' :: body => (tagName body).map (false, ·)
  | _ => none

def directiveTokens (line : Text) (lineNumber : Nat) : Except String (List Text) :=
  match shlexSplit ['#', ';'] line with
  | none => .error ("OpenVPN config has invalid quoting at line " ++ toString lineNumber)
  | some tokens => .ok tokens

namespace Lowering

variable (L : Lowering)

/-- The lower-case text without two leading dashes. -/
def normalized (word : Text) : String := String.ofList (removeLeading ['-', '-'] (L.lower word))

def lowered (word : Text) : String := String.ofList (L.lower word)

/-! ## Directives -/

/-- The arguments that `_validate_special_directive` lets pass. -/
def specialArguments (key : String) (args : List Text) : Bool :=
  let normalized := args.map L.lowered
  if key = "auth-user-pass" then args.isEmpty || normalized == ["username-only"] || normalized == ["[inline]"]
  else if key = "dns-updown" then normalized == ["disable"]
  else if key = "http-proxy" then
    args.length == 2 || (args.length == 3 && normalized[2]?.any fun mode => mode == "auto" ||
      mode == "auto-nct")
  else if key = "ignore-unknown-option" then
    !args.isEmpty && args.all fun arg => safeOptionalCompatibilityDirectives.contains (L.normalized arg)
  else if key = "setenv" then
    args.length == 2 && normalized[0]? == some "opt" &&
      args[1]?.any fun arg => safeOptionalCompatibilityDirectives.contains (L.normalized arg)
  else if key = "socks-proxy" then args.length == 1 || args.length == 2
  else false

def unsafeArguments (key : String) (lineNumber : Nat) : String :=
  "OpenVPN directive '" ++ key ++ "' has unsupported or unsafe arguments at line " ++ toString lineNumber

def validateSpecialDirective (key : String) (args : List Text) (lineNumber : Nat) : Except String Unit :=
  if L.specialArguments key args then .ok () else .error (unsafeArguments key lineNumber)

def validateInlinePathDirective (key : String) (args : List Text) (lineNumber : Nat) : Except String Unit :=
  match args with
  | [] =>
    .error ("OpenVPN directive '" ++ key ++ "' must use managed inline data at line " ++ toString lineNumber)
  | first :: rest =>
    if L.lowered first ≠ "[inline]" then
      .error ("OpenVPN directive '" ++ key ++ "' must use managed inline data at line " ++ toString lineNumber)
    else
      let valid :=
        if key = "tls-auth" then
          match rest with
          | [] => true
          | [direction] => direction == ['0'] || direction == ['1']
          | _ => false
        else rest.isEmpty
      if valid then .ok () else .error (unsafeArguments key lineNumber)

/-- Whether the directive is one of the list with permitted arguments, and whether it needs an
inline block. -/
def checkDirective (key : String) (args : List Text) (lineNumber : Nat) : Except String Bool :=
  if inlinePathDirectives.contains key then do
    L.validateInlinePathDirective key args lineNumber
    return true
  else if specialDirectives.contains key then do
    L.validateSpecialDirective key args lineNumber
    return key == "auth-user-pass" && args.map L.lowered == ["[inline]"]
  else if supportedOpenvpnDirectives.contains key then .ok false
  else .error ("OpenVPN directive '" ++ key ++ "' is unsupported or unsafe at line " ++ toString lineNumber)

end Lowering

/-! ## The loop -/

abbrev Directives : Type := List (String × List (List Text))

def Directives.get (directives : Directives) (key : String) : List (List Text) :=
  (directives.lookup key).getD []

/-- `directives.setdefault(key, []).append(args)`. -/
def Directives.append (key : String) (args : List Text) : Directives → Directives
  | [] => [(key, [args])]
  | (key', lines) :: rest =>
    if key = key' then (key', lines ++ [args]) :: rest else (key', lines) :: Directives.append key args rest

/-- The local variables of the loop. -/
structure ValidatorState where
  directives : Directives := []
  inlineBlocks : List String := []
  requiredInlineBlocks : List (String × Nat) := []
  activeInlineBlock : Option String := none
  activeInlineHasData : Bool := false

namespace Lowering

variable (L : Lowering) (s : ValidatorState)

def validateBlockLine (active : String) (line : Text) (lineNumber : Nat) :
    Except String ValidatorState :=
  match inlineTag line with
  | some (true, name) =>
    if L.lowered name ≠ active then
      .error ("OpenVPN inline block '" ++ active ++ "' has a mismatched close at line " ++ toString lineNumber)
    else if s.activeInlineHasData = false then .error ("OpenVPN inline block '" ++ active ++ "' is empty")
    else .ok { s with activeInlineBlock := none, activeInlineHasData := false }
  | some (false, _) =>
    .error ("OpenVPN inline block nesting is not supported at line " ++ toString lineNumber)
  | none => .ok { s with activeInlineHasData := true }

def validateWords (parts : List Text) (lineNumber : Nat) : Except String ValidatorState :=
  match parts with
  | [] => .ok s
  | first :: args =>
    let key := L.normalized first
    if key = "" then .error ("OpenVPN config has an empty directive at line " ++ toString lineNumber)
    else do
      let needsBlock ← L.checkDirective key args lineNumber
      return { s with
        directives := s.directives.append key args
        requiredInlineBlocks := s.requiredInlineBlocks ++ if needsBlock then [(key, lineNumber)] else [] }

def validateOuterLine (line : Text) (lineNumber : Nat) : Except String ValidatorState :=
  match inlineTag line with
  | some (closing, name) =>
    let blockName := L.lowered name
    if closing then
      .error ("OpenVPN inline block '" ++ blockName ++ "' closes without an opener at line " ++
        toString lineNumber)
    else if supportedOpenvpnInlineBlocks.contains blockName then
      .ok { s with
        inlineBlocks := blockName :: s.inlineBlocks
        activeInlineBlock := some blockName
        activeInlineHasData := false }
    else
      .error
        ("OpenVPN inline block '" ++ blockName ++ "' is unsupported or unsafe at line " ++ toString lineNumber)
  | none => do
    let parts ← directiveTokens line lineNumber
    L.validateWords s parts lineNumber

/-- The body of the loop. -/
def validateLine (numbered : Text × Nat) : Except String ValidatorState :=
  let line := strip numbered.1
  if line = [] then .ok s
  else
    match s.activeInlineBlock with
    | some active => L.validateBlockLine s active line numbered.2
    | none => L.validateOuterLine s line numbered.2

/-- What is checked behind the loop. -/
def validateEnd : Except String Directives :=
  match s.activeInlineBlock with
  | some active => .error ("OpenVPN inline block '" ++ active ++ "' is not closed")
  | none =>
    match s.requiredInlineBlocks.find? fun required => !s.inlineBlocks.contains required.1 with
    | some (blockName, lineNumber) =>
      .error ("OpenVPN directive '" ++ blockName ++ "' requires a matching inline block at line " ++
        toString lineNumber)
    | none => .ok s.directives

def validateOpenvpnConfig (text : Text) : Except String Directives :=
  let rawConfig := strip text
  if rawConfig = [] then .error "OpenVPN config is empty"
  else if rawConfig.contains '\x00' then .error "OpenVPN config contains a NUL byte"
  else do
    let s ← (rawConfig |> splitlines).zipIdx 1 |>.foldlM L.validateLine {}
    validateEnd s

end Lowering

/-! ## What each line can do -/

section Steps

variable {L : Lowering} {s s' : ValidatorState} {line : Text} {n : Nat}

variable {key : String} {args : List Text}

theorem checkDirective_unlisted {needsBlock : Bool}
    (hpath : inlinePathDirectives.contains key = false) (hspec : specialDirectives.contains key = false)
    (hsup : supportedOpenvpnDirectives.contains key = false) :
    L.checkDirective key args n ≠ .ok needsBlock := by
  unfold Lowering.checkDirective
  rw [hpath, hspec, hsup]
  nofun

/-- No word that begins with an angle bracket is a directive. -/
theorem checkDirective_angle {word : Text} {needsBlock : Bool} :
    L.checkDirective (L.normalized ('<' :: word)) args n ≠ .ok needsBlock := by
  have hkey : L.normalized ('<' :: word) = String.ofList ('<' :: L.lower word) := by
    unfold Lowering.normalized
    rw [L.lower_angle]
    rfl
  have hnot : ∀ names : List String, (∀ name ∈ names, name.toList.head? ≠ some '<') →
      names.contains (L.normalized ('<' :: word)) = false := by
    intro names hnames
    rw [Bool.eq_false_iff, ne_eq, contains_iff_mem]
    intro hmem
    refine hnames _ hmem ?_
    rw [hkey, String.toList_ofList, head?_cons]
  exact checkDirective_unlisted (hnot inlinePathDirectives (by decide)) (hnot specialDirectives (by decide))
    (hnot supportedOpenvpnDirectives (by decide +kernel))

theorem validateLine_blank (hblank : strip line = []) (h : L.validateLine s (line, n) = .ok s') : s' = s := by
  unfold Lowering.validateLine at h
  rw [hblank] at h
  cases h
  rfl

/-- Inside a block a line is its closing tag or data. -/
theorem validateBlockLine_ok {active : String} (h : L.validateBlockLine s active line n = .ok s') :
    s'.directives = s.directives ∧ ((∃ name, inlineTag line = some (true, name) ∧ s'.activeInlineBlock = none) ∨
        (inlineTag line = none ∧ s'.activeInlineBlock = s.activeInlineBlock)) := by
  unfold Lowering.validateBlockLine at h
  split at h
  · rename_i name htag
    split at h
    · cases h
    split at h
    · cases h
    cases h
    exact ⟨rfl, .inl ⟨name, htag, rfl⟩⟩
  · cases h
  · rename_i htag
    cases h
    exact ⟨rfl, .inr ⟨htag, rfl⟩⟩

theorem Directives.mem_append {directives : Directives} : args ∈ (directives.append key args).get key := by
  induction directives with
  | nil => simp [Directives.append, Directives.get]
  | cons entry rest ih =>
    obtain ⟨key', lines⟩ := entry
    unfold Directives.append
    by_cases hkey : key = key'
    · subst hkey; simp [Directives.get]
    have hne : (key == key') = false := by simpa using hkey
    rw [if_neg hkey]
    unfold Directives.get at ih ⊢
    rw [lookup_cons, hne]
    exact ih

theorem Directives.get_append {directives : Directives} {key key' : String} {args args' : List Text}
    (h : args ∈ directives.get key) : args ∈ (directives.append key' args').get key := by
  induction directives with
  | nil => simp [Directives.get] at h
  | cons entry rest ih =>
    obtain ⟨key0, lines⟩ := entry
    unfold Directives.append
    unfold Directives.get at h ih ⊢
    rw [lookup_cons] at h
    by_cases hkey' : key' = key0
    · rw [if_pos hkey', lookup_cons]
      cases hk : key == key0 with
      | true => rw [hk] at h; simpa using .inl h
      | false => rw [hk] at h; exact h
    · rw [if_neg hkey', lookup_cons]
      cases hk : key == key0 with
      | true => rw [hk] at h; exact h
      | false => rw [hk] at h; exact ih h

/-- Outside the blocks a line opens a block, is a comment, or is a directive that passes and is
recorded. -/
theorem validateOuterLine_ok (h : L.validateOuterLine s line n = .ok s') :
    (∃ name, inlineTag line = some (false, name) ∧ s'.directives = s.directives) ∨
    (inlineTag line = none ∧ shlexSplit ['#', ';'] line = some [] ∧ s' = s) ∨
    (∃ first args needsBlock, inlineTag line = none ∧ shlexSplit ['#', ';'] line = some (first :: args) ∧
      L.checkDirective (L.normalized first) args n = .ok needsBlock ∧
      s'.directives = s.directives.append (L.normalized first) args ∧
      s'.activeInlineBlock = s.activeInlineBlock) := by
  unfold Lowering.validateOuterLine at h
  split at h
  · rename_i closing name htag
    cases closing with
    | true => cases h
    | false =>
      simp only [Bool.false_eq_true, if_false] at h
      split at h
      · cases h
        exact .inl ⟨name, htag, rfl⟩
      · cases h
  · rename_i htag
    unfold directiveTokens at h
    cases htoks : shlexSplit ['#', ';'] line with
    | none => rw [htoks] at h; cases h
    | some parts =>
      rw [htoks] at h
      change L.validateWords s parts n = .ok s' at h
      unfold Lowering.validateWords at h
      cases parts with
      | nil =>
        cases h
        exact .inr (.inl ⟨htag, rfl, rfl⟩)
      | cons first args =>
        simp only at h
        split at h
        · cases h
        cases hchk : L.checkDirective (L.normalized first) args n with
        | error _ => rw [hchk] at h; cases h
        | ok needsBlock =>
          rw [hchk] at h
          cases h
          exact .inr (.inr ⟨first, args, needsBlock, htag, rfl, hchk, rfl, rfl⟩)

theorem validateOuterLine_closing {name : Text} (htag : inlineTag line = some (true, name)) :
    L.validateOuterLine s line n ≠ .ok s' := by
  unfold Lowering.validateOuterLine
  rw [htag]
  nofun

theorem validateLine_get {numbered : Text × Nat}
    (h : L.validateLine s numbered = .ok s') (hmem : args ∈ s.directives.get key) :
    args ∈ s'.directives.get key := by
  unfold Lowering.validateLine at h
  simp only at h
  split at h
  · cases h; exact hmem
  split at h
  · rw [(validateBlockLine_ok h).1]; exact hmem
  rcases validateOuterLine_ok h with ⟨_, -, hd⟩ | ⟨-, -, rfl⟩ | ⟨_, _, _, -, -, -, hd, -⟩
  · rw [hd]; exact hmem
  · exact hmem
  · rw [hd]; exact Directives.get_append hmem

theorem validateLines_cons {first : Text × Nat} {rest : List (Text × Nat)}
    (h : (first :: rest).foldlM L.validateLine s = .ok s') :
    ∃ s1, L.validateLine s first = .ok s1 ∧ rest.foldlM L.validateLine s1 = .ok s' := by
  rw [foldlM_cons] at h
  cases hfst : L.validateLine s first with
  | error _ => rw [hfst] at h; cases h
  | ok s1 =>
    rw [hfst] at h
    exact ⟨s1, rfl, h⟩

theorem validateLines_get {numbered : List (Text × Nat)}
    (h : numbered.foldlM L.validateLine s = .ok s') (hmem : args ∈ s.directives.get key) :
    args ∈ s'.directives.get key := by
  induction numbered generalizing s with
  | nil => cases h; exact hmem
  | cons first rest ih =>
    obtain ⟨s1, hfst, hrest⟩ := validateLines_cons h
    exact ih hrest (validateLine_get hfst hmem)

end Steps

/-! ## The remote endpoint -/

/-- What the standard library knows about addresses. -/
structure AddressTables where
  /-- `IPv4Address.is_global`. -/
  isGlobal : List Nat → Bool
  /-- `IPv6Address(text)` does not raise. -/
  isIpv6 : Text → Bool

/-- A decimal numeral of a byte, without leading zeros. -/
def octet (text : Text) : Option Nat := (List.range 256).find? fun n => Nat.toDigits 10 n == text

/-- `IPv4Address(text)`: the four bytes, or a `ValueError`. -/
def ipv4Address (text : Text) : Option (List Nat) :=
  let parts := text.splitOn '.'
  if parts.length = 4 then parts.mapM octet else none

/-- `str(address)`. -/
def ipv4Text (bytes : List Nat) : Text := List.intercalate ['.'] (bytes.map (Nat.toDigits 10))

theorem ipv4Text_ipv4Address {text : Text} {bytes : List Nat} (h : ipv4Address text = some bytes) :
    ipv4Text bytes = text := by
  have hpart : ∀ {parts : List Text} {bytes : List Nat}, parts.mapM octet = some bytes →
      bytes.map (Nat.toDigits 10) = parts := by
    intro parts
    induction parts with
    | nil => intro bytes h; cases h; rfl
    | cons part parts ih =>
      intro bytes h
      rw [mapM_cons] at h
      obtain ⟨n, hn, h⟩ := Option.bind_eq_some_iff.mp h
      obtain ⟨rest, hrest, h⟩ := Option.bind_eq_some_iff.mp h
      cases h
      have hdig : Nat.toDigits 10 n = part := by simpa using find?_some hn
      rw [map_cons, ih hrest, hdig]
  unfold ipv4Address at h
  simp only at h
  split at h
  · unfold ipv4Text
    rw [hpart h]
    exact intercalate_splitOn '.'
  · cases h

/-- The first argument of the first line that has one. -/
def firstHost (remoteLines : List (List Text)) : Text := ((remoteLines.filterMap List.head?).head?).getD []

/-- `validated_openvpn_remote_host`, from the `raw_config` of the profile. -/
def Lowering.validatedOpenvpnRemoteHost (L : Lowering) (T : AddressTables) (text : Text) :
    Except String Text := do
  let directives ← L.validateOpenvpnConfig text
  if directives.get "remote-random" ≠ [] then
    .error "OpenVPN remote-random is not supported by native endpoint protection"
  else if directives.get "remote-random-hostname" ≠ [] then
    .error "OpenVPN remote-random-hostname is not supported by native endpoint protection"
  else if 1 < (directives.get "remote").length then
    .error "OpenVPN profiles with multiple remote endpoints are not supported by native endpoint protection"
  else
    let host := firstHost (directives.get "remote")
    match ipv4Address host with
    | none =>
      if T.isIpv6 host then
        .error "OpenVPN IPv6 remote endpoints are not supported by native endpoint protection"
      else .error "OpenVPN hostname remote endpoints are not supported by native endpoint protection"
    | some bytes =>
      if T.isGlobal bytes then .ok (ipv4Text bytes)
      else .error "OpenVPN remote endpoints must be global IPv4 addresses for native endpoint protection"

end WatchdogVpn.OpenVpn
