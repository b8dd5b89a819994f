import WatchdogVpn.Firewall.KillSwitch
import WatchdogVpn.Lib.Shlex

/-!
# The kill switch on iptables

Where there is no nftables, a chain of iptables takes its place, and one of ip6tables if IPv6 is
blocked. The rules are written out twice: `_enable_iptables` and `_ip6tables_enable_commands` append
them, `_expected_iptables_rules` lists what an inspection is to find, token by token.

* `appendedRules_eq_iff`: the two lists are the same, unless the tunnel interface is called `-j`.
* `inspectIptablesFamily_listing`: the listing of the expected rules passes the inspection, if it
  prints plain words (`PlainTexts`).
* **`iptables_agrees_iff`**: both together.
-/

namespace WatchdogVpn.Firewall

open PyText (Text unwords splitlines shlexSplit Written isPlain isLineBreak)
open List

structure FirewallState where
  method : String
  artifactsPresent : Bool := false
  active : Bool := false
  consistent : Bool := true
  mismatchReasons : List String := []
  deriving DecidableEq

inductive Binary
  | iptables
  | ip6tables
  deriving DecidableEq

def Binary.text : Binary → String
  | iptables => "iptables"
  | ip6tables => "ip6tables"

def Binary.family : Binary → Family
  | iptables => .ip
  | ip6tables => .ip6

def outboundMarkText : String := "0x2024"

def watchdogvpnIptablesChain : String := "WATCHDOGVPN-OUTPUT"

def commentTokens : List String := ["-m", "comment", "--comment", watchdogvpnComment]

/-- What is used of the standard library: `ip_address(text)` and `int(text, 0)`. The options of
iptables are neither, and a text with a slash is not an address. -/
structure TokenLibrary where
  ipAddress : IpAddress
  int : String → Option Int
  ipAddress_option : ∀ option ∈ ["-m", "-p"], ipAddress option = none
  ipAddress_slash : ∀ text, '/' ∈ text.toList → ipAddress text = none
  int_option : ∀ option ∈ ["-m", "-p"], int option = none
  int_mark : int "0x2024" = some 0x2024

/-! ## The commands -/

variable (binary : Binary)

/-- The commands that append a rule are all of this form. -/
def appendCommand (match' : List String) (verdict : String) : List String :=
  [binary.text, "-A", watchdogvpnIptablesChain] ++ (match' ++ (commentTokens ++ ["-j", verdict]))

/-- `_iptables_rule_command`: the comment goes in front of the first `-j`. -/
def iptablesRuleCommand (tokens : List String) : List String :=
  [binary.text, "-A", watchdogvpnIptablesChain] ++
    (tokens.takeWhile (· ≠ "-j") ++ (commentTokens ++ tokens.dropWhile (· ≠ "-j")))

namespace KillSwitch

variable (L : TokenLibrary) (K : KillSwitch)

def iptablesDirectEgressRules (binary : Binary) : List (List String) :=
  match K.directEgressUid with
  | none => []
  | some uid =>
    [iptablesRuleCommand binary ["-m", "owner", "--uid-owner", toString uid, "-m", "mark", "--mark",
      outboundMarkText, "-j", "ACCEPT"]]

def iptablesLanRules (binary : Binary) : List (List String) :=
  K.lanCidrs.map fun cidr => appendCommand binary ["-d", cidr] "ACCEPT"

/-- `_iptables_endpoint_rules` and `_ip6tables_endpoint_rules`: the endpoints of the family. -/
def endpointRules (binary : Binary) : List (List String) :=
  K.allowedEndpoints.filterMap fun endpoint =>
    match L.ipAddress endpoint with
    | none => none
    | some (family, text) => if family ≠ binary.family then none
        else some (appendCommand binary ["-d", text] "ACCEPT")

def iptablesEndpointRules : List (List String) := K.endpointRules L .iptables

def ip6tablesEndpointRules : List (List String) := K.endpointRules L .ip6tables

def iptablesInternalDnsRules (binary : Binary) : List (List String) :=
  singBoxTunDnsEndpoints.flatMap fun endpoint =>
    match L.ipAddress endpoint with
    | none => []
    | some (family, text) =>
      if family ≠ binary.family then []
      else ["udp", "tcp"].map fun protocol =>
        appendCommand binary ["-d", text, "-p", protocol, "--dport", "53"] "ACCEPT"

def iptablesDnsLeakBlockRules : List (List String) :=
  ["udp", "tcp"].flatMap fun protocol => ["53", "853"].map fun port =>
    appendCommand binary ["-p", protocol, "--dport", port] "REJECT"

def ip6tablesEnableCommands : List (List String) :=
  [["ip6tables", "-N", watchdogvpnIptablesChain],
    appendCommand .ip6tables ["-o", "lo"] "ACCEPT",
    appendCommand .ip6tables ["-d", "::1/128"] "ACCEPT",
    appendCommand .ip6tables ["-o", K.tunnelInterface] "ACCEPT"] ++
  K.iptablesDirectEgressRules .ip6tables ++ K.ip6tablesEndpointRules L ++
  iptablesInternalDnsRules L .ip6tables ++ iptablesDnsLeakBlockRules .ip6tables ++
  [appendCommand .ip6tables ["-m", "conntrack", "--ctstate", "ESTABLISHED,RELATED"] "ACCEPT",
    appendCommand .ip6tables [] "REJECT",
    ["ip6tables", "-I", "OUTPUT", "-j", watchdogvpnIptablesChain]]

/-- The commands of `_enable_iptables`. -/
def enableIptablesCommands (hasIp6tables : Bool) : List (List String) :=
  [["iptables", "-N", watchdogvpnIptablesChain],
    appendCommand .iptables ["-o", "lo"] "ACCEPT",
    appendCommand .iptables ["-d", "127.0.0.0/8"] "ACCEPT",
    appendCommand .iptables ["-o", K.tunnelInterface] "ACCEPT"] ++
  K.iptablesDirectEgressRules .iptables ++ K.iptablesEndpointRules L ++ iptablesInternalDnsRules L .iptables ++
  iptablesDnsLeakBlockRules .iptables ++
  [appendCommand .iptables ["-m", "conntrack", "--ctstate", "ESTABLISHED,RELATED"] "ACCEPT"] ++
  (if K.allowLan then K.iptablesLanRules .iptables else []) ++
  [appendCommand .iptables [] "REJECT",
    ["iptables", "-I", "OUTPUT", "-j", watchdogvpnIptablesChain]] ++
  if K.blockIpv6 && hasIp6tables then K.ip6tablesEnableCommands L else []

/-- The rule that a command appends to the managed chain of the binary. -/
def appendedRule (command : List String) : Option (List String) :=
  if command.take 3 = [binary.text, "-A", watchdogvpnIptablesChain] then some (command.drop 3) else none

/-- The commands that set up the chain of a binary. -/
def enableCommands (hasIp6tables : Bool) : Binary → List (List String)
  | .iptables => K.enableIptablesCommands L hasIp6tables
  | .ip6tables => K.ip6tablesEnableCommands L

/-- The commands of `_expected_iptables_rules`. -/
def expectedCommands (binary : Binary) : List (List String) :=
  let loopback := match binary with
    | .ip6tables => "::1/128"
    | .iptables => "127.0.0.0/8"
  [iptablesRuleCommand binary ["-o", "lo", "-j", "ACCEPT"],
    iptablesRuleCommand binary ["-d", loopback, "-j", "ACCEPT"],
    iptablesRuleCommand binary ["-o", K.tunnelInterface, "-j", "ACCEPT"]] ++
  K.iptablesDirectEgressRules binary ++
  (match binary with
    | .ip6tables => K.ip6tablesEndpointRules L
    | .iptables => K.iptablesEndpointRules L) ++
  iptablesInternalDnsRules L binary ++ iptablesDnsLeakBlockRules binary ++
  [iptablesRuleCommand binary ["-m", "conntrack", "--ctstate", "ESTABLISHED,RELATED", "-j", "ACCEPT"]] ++
  (if binary = .iptables ∧ K.allowLan then K.iptablesLanRules binary else []) ++
  [iptablesRuleCommand binary ["-j", "REJECT"]]

/-- `_expected_iptables_rules`, with the labels of what is missing. -/
def expectedIptablesRules (binary : Binary) : List (String × List String) :=
  (K.expectedCommands L binary).mapIdx fun index command =>
    ("missing_managed_rule:" ++ binary.text ++ "/" ++ toString index, command.drop 3)

/-! ## The inspection -/

/-- What follows the option is changed. -/
def mapBehind (option : String) (change : String → String) : Option String → List String → List String
  | _, [] => []
  | previous, token :: rest =>
    (if previous = some option then change token else token) :: mapBehind option change (some token) rest

def withLength (text : String) : String :=
  match L.ipAddress text with
  | none => text
  | some (.ip, parsed) => parsed ++ "/32"
  | some (.ip6, parsed) => parsed ++ "/128"

/-- `f"0x{value:x}"`. -/
def hexText : Int → String
  | .ofNat n => "0x" ++ String.ofList (Nat.toDigits 16 n)
  | .negSucc n => "0x-" ++ String.ofList (Nat.toDigits 16 (n + 1))

/-- A mark, without its mask, in hexadecimal digits. -/
def inHex (text : String) : String :=
  match L.int (String.ofList (text.toList.takeWhile (· ≠ '/'))) with
  | none => text
  | some value => hexText value

def canonicalizeIptablesTokens (tokens : List String) : List String :=
  mapBehind "--mark" (inHex L) none (mapBehind "-d" (withLength L) none tokens)

def iptablesChainRules (output : Text) : List (List String) :=
  (splitlines output).filterMap fun line =>
    match shlexSplit [] line with
    | none => none
    | some tokens =>
      if tokens.take 2 ≠ ["-A".toList, watchdogvpnIptablesChain.toList] then none
      else some (canonicalizeIptablesTokens L ((tokens.drop 2).map String.ofList))

def iptablesRuleContains (actual expected : List String) : Bool :=
  (canonicalizeIptablesTokens L expected).isSublist actual

def iptablesRuleMatchesExpected (actual expected : List String) : Bool :=
  let canonical := canonicalizeIptablesTokens L expected
  if canonical.take 2 = ["-m", "comment"] then actual.take canonical.length == canonical
  else iptablesRuleContains L actual canonical

def terminalRule : List String := commentTokens ++ ["-j", "REJECT"]

/-- `_inspect_iptables_family`, from the listing of the chain if there is one, and whether the
output chain jumps to it. -/
def inspectIptablesFamily (binary : Binary) (chain : Option Text) (hasJump : Bool) : FirewallState :=
  if chain.isNone && !hasJump then { method := binary.text }
  else
    let actualRules := iptablesChainRules L (chain.getD [])
    let expectedRules := K.expectedIptablesRules L binary
    let missingRules := (expectedRules.filter fun expected =>
      !actualRules.any fun rule => iptablesRuleMatchesExpected L rule expected.2).map Prod.fst
    let hasTerminalReject := actualRules.any fun rule => rule.take terminalRule.length == terminalRule
    let active := chain.isSome && hasJump && hasTerminalReject
    let checks := [("missing_managed_chain", chain.isSome), ("missing_output_jump", hasJump),
      ("missing_terminal_reject", hasTerminalReject)]
    let reasons := (checks.filter fun check => !check.2).map Prod.fst ++ missingRules ++
      if actualRules.length ≠ expectedRules.length then
        ["managed_rule_count:" ++ toString actualRules.length ++ "/" ++ toString expectedRules.length]
      else []
    { method := binary.text
      artifactsPresent := true
      active := active
      consistent := active && reasons.isEmpty
      mismatchReasons := reasons }

/-! ## One list of rules -/

variable {binary : Binary}

theorem iptablesRuleCommand_eq {match' : List String} (h : "-j" ∉ match') (verdict : String) :
    iptablesRuleCommand binary (match' ++ ["-j", verdict]) = appendCommand binary match' verdict := by
  have hall : ∀ token ∈ match', decide (token ≠ "-j") = true := fun token ht => decide_eq_true
    fun he => h (he ▸ ht)
  unfold iptablesRuleCommand appendCommand
  rw [takeWhile_append_of_pos hall, dropWhile_append_of_pos hall]
  simp

/-- The commands that append the rules of a chain, in the words of the generator. -/
def generatedCommands (binary : Binary) : List (List String) :=
  [appendCommand binary ["-o", "lo"] "ACCEPT",
    appendCommand binary
      ["-d", match binary with | .ip6tables => "::1/128" | .iptables => "127.0.0.0/8"] "ACCEPT",
    appendCommand binary ["-o", K.tunnelInterface] "ACCEPT"] ++
  K.iptablesDirectEgressRules binary ++ K.endpointRules L binary ++ iptablesInternalDnsRules L binary ++
  iptablesDnsLeakBlockRules binary ++
  [appendCommand binary ["-m", "conntrack", "--ctstate", "ESTABLISHED,RELATED"] "ACCEPT"] ++
  (if binary = .iptables ∧ K.allowLan then K.iptablesLanRules binary else []) ++
  [appendCommand binary [] "REJECT"]

variable {L K}

/-- A digit string is plain; it may start with a minus. -/
theorem toString_char {n : Int} {c : Char} (hc : c ∈ (toString n).toList) : c = '-' ∨ c.isDigit = true := by
  cases n with
  | ofNat n =>
    have hdig : c ∈ Nat.toDigits 10 n := by simpa [Int.repr] using hc
    exact .inr (Nat.isDigit_of_mem_toDigits (by decide) (by decide) hdig)
  | negSucc n =>
    have hdig : c = '-' ∨ c ∈ Nat.toDigits 10 (n + 1) := by simpa [Int.repr] using hc
    exact hdig.imp_right fun h => Nat.isDigit_of_mem_toDigits (by decide) (by decide) h

theorem directEgressRules_eq (binary : Binary) : K.iptablesDirectEgressRules binary =
    K.directEgressUid.toList.map fun uid => appendCommand binary
      ["-m", "owner", "--uid-owner", toString uid, "-m", "mark", "--mark", outboundMarkText] "ACCEPT" := by
  unfold iptablesDirectEgressRules
  cases K.directEgressUid with
  | none => rfl
  | some uid =>
    have hne : toString uid ≠ "-j" := by
      intro h
      have hj : 'j' ∈ (toString uid).toList := by rw [h]; decide
      rcases toString_char hj with hc | hc <;> exact absurd hc (by decide)
    have hnot : "-j" ∉ ["-m", "owner", "--uid-owner", toString uid, "-m", "mark", "--mark",
        outboundMarkText] := by
      simp only [mem_cons, hne.symm]
      decide
    exact congrArg (fun command => [command]) (iptablesRuleCommand_eq hnot "ACCEPT")

/-- All texts that the configuration puts into the rules, as they are listed, are such: the tunnel
interface, the LAN ranges, and the addresses of the endpoints and of the internal resolvers. -/
structure Texts (Q : String → Prop) (L : TokenLibrary) (K : KillSwitch) : Prop where
  interface : Q K.tunnelInterface
  ranges : K.allowLan = true → ∀ cidr ∈ K.lanCidrs, Q (withLength L cidr)
  addresses : ∀ endpoint ∈ K.allowedEndpoints ++ singBoxTunDnsEndpoints, ∀ family text,
    L.ipAddress endpoint = some (family, text) → Q (withLength L text)

theorem Texts.trivial : Texts (fun _ => True) L K := ⟨.intro, fun _ _ _ => .intro, fun _ _ _ _ _ => .intro⟩

/-- What a rule of the managed chain may match, with configured texts that satisfy `Q`. -/
inductive ManagedMatch (Q : String → Prop) (L : TokenLibrary) : List String → Prop
  | all : ManagedMatch Q L []
  | out {name : String} (h : name = "lo" ∨ Q name) : ManagedMatch Q L ["-o", name]
  | destination {range : String} (h : range ∈ ["::1/128", "127.0.0.0/8"] ∨ Q (withLength L range)) :
    ManagedMatch Q L ["-d", range]
  | dnsAt {address protocol : String} (h : Q (withLength L address)) (hprot : protocol ∈ ["udp", "tcp"]) :
    ManagedMatch Q L ["-d", address, "-p", protocol, "--dport", "53"]
  | dns {protocol port : String} (hprot : protocol ∈ ["udp", "tcp"]) (hport : port ∈ ["53", "853"]) :
    ManagedMatch Q L ["-p", protocol, "--dport", port]
  | owner (uid : Int) :
    ManagedMatch Q L ["-m", "owner", "--uid-owner", toString uid, "-m", "mark", "--mark", outboundMarkText]
  | established : ManagedMatch Q L ["-m", "conntrack", "--ctstate", "ESTABLISHED,RELATED"]

/-- Every command appends a rule of these, accepting or rejecting. -/
theorem generatedCommands_form {Q : String → Prop} (hQ : Texts Q L K) {command : List String}
    (h : command ∈ K.generatedCommands L binary) : ∃ match' verdict, ManagedMatch Q L match' ∧
      verdict ∈ ["ACCEPT", "REJECT"] ∧ command = appendCommand binary match' verdict := by
  unfold generatedCommands at h
  simp only [mem_append] at h
  rcases h with (((((((h | h) | h) | h) | h) | h) | h) | h)
  · simp only [mem_cons, not_mem_nil, or_false] at h
    rcases h with rfl | rfl | rfl
    · exact ⟨_, _, .out (.inl rfl), by decide, rfl⟩
    · exact ⟨_, _, .destination (.inl (by cases binary <;> decide)), by decide, rfl⟩
    · exact ⟨_, _, .out (.inr hQ.interface), by decide, rfl⟩
  · rw [directEgressRules_eq] at h
    obtain ⟨uid, -, rfl⟩ := mem_map.mp h
    exact ⟨_, _, .owner _, by decide, rfl⟩
  · obtain ⟨endpoint, hend, hpar⟩ := mem_filterMap.mp h
    split at hpar
    · cases hpar
    rename_i family text haddr
    split at hpar
    · cases hpar
    cases hpar
    exact ⟨_, _, .destination (.inr (hQ.addresses _ (mem_append_left _ hend) _ _ haddr)), by decide, rfl⟩
  · obtain ⟨endpoint, hend, hpar⟩ := mem_flatMap.mp h
    split at hpar
    · cases hpar
    rename_i family text haddr
    split at hpar
    · cases hpar
    obtain ⟨protocol, hprot, rfl⟩ := mem_map.mp hpar
    exact ⟨_, _, .dnsAt (hQ.addresses _ (mem_append_right _ hend) _ _ haddr) hprot, by decide, rfl⟩
  · obtain ⟨protocol, hprot, hport⟩ := mem_flatMap.mp h
    obtain ⟨port, hmem, rfl⟩ := mem_map.mp hport
    exact ⟨_, _, .dns hprot hmem, by decide, rfl⟩
  · rw [mem_singleton.mp h]
    exact ⟨_, _, .established, by decide, rfl⟩
  · split at h
    · rename_i hlan
      obtain ⟨cidr, hcidr, rfl⟩ := mem_map.mp h
      exact ⟨_, _, .destination (.inr (hQ.ranges hlan.2 cidr hcidr)), by decide, rfl⟩
    · cases h
  · rw [mem_singleton.mp h]
    exact ⟨_, _, .all, by decide, rfl⟩

theorem filterMap_generated (binary : Binary) : (K.generatedCommands L binary).filterMap (appendedRule binary) =
    (K.generatedCommands L binary).map (drop 3) := by
  rw [← filterMap_eq_map]
  refine filterMap_congr fun command hcmd => ?_
  obtain ⟨match', verdict, -, -, rfl⟩ := generatedCommands_form .trivial hcmd
  exact if_pos rfl

theorem ip6tablesEnableCommands_eq : K.ip6tablesEnableCommands L =
    ["ip6tables", "-N", watchdogvpnIptablesChain] :: K.generatedCommands L .ip6tables ++
      [["ip6tables", "-I", "OUTPUT", "-j", watchdogvpnIptablesChain]] := by
  simp [ip6tablesEnableCommands, generatedCommands, ip6tablesEndpointRules]

theorem enableIptablesCommands_eq (hasIp6tables : Bool) : K.enableIptablesCommands L hasIp6tables =
    ["iptables", "-N", watchdogvpnIptablesChain] :: K.generatedCommands L .iptables ++
      [["iptables", "-I", "OUTPUT", "-j", watchdogvpnIptablesChain]] ++
      if K.blockIpv6 && hasIp6tables then K.ip6tablesEnableCommands L else [] := by
  simp [enableIptablesCommands, generatedCommands, iptablesEndpointRules]

theorem filterMap_ip6tables : (K.ip6tablesEnableCommands L).filterMap (appendedRule .iptables) = [] := by
  rw [ip6tablesEnableCommands_eq, filterMap_eq_nil_iff]
  intro command hcmd
  simp only [cons_append, mem_cons, mem_append, not_mem_nil, or_false] at hcmd
  rcases hcmd with rfl | hcmd | rfl
  · rfl
  · obtain ⟨match', verdict, -, -, rfl⟩ := generatedCommands_form .trivial hcmd
    rfl
  · rfl

theorem appendedRules_eq (hasIp6tables : Bool) (binary : Binary) :
    (K.enableCommands L hasIp6tables binary).filterMap (appendedRule binary) =
      (K.generatedCommands L binary).map (drop 3) := by
  rw [← filterMap_generated]
  cases binary with
  | ip6tables =>
    rw [enableCommands, ip6tablesEnableCommands_eq, filterMap_append]
    exact append_nil _
  | iptables =>
    have hoth : (if K.blockIpv6 && hasIp6tables then K.ip6tablesEnableCommands L else []).filterMap
        (appendedRule .iptables) = [] := by
      split
      · exact filterMap_ip6tables
      · rfl
    rw [enableCommands, enableIptablesCommands_eq, filterMap_append, filterMap_append,
      filterMap_cons_none rfl, hoth, append_nil]
    exact append_nil _

theorem expectedCommands_eq (h : K.tunnelInterface ≠ "-j") (binary : Binary) :
    K.expectedCommands L binary = K.generatedCommands L binary := by
  have hnot : "-j" ∉ ["-o", K.tunnelInterface] := by simp [h.symm]
  have htunnel : iptablesRuleCommand binary ["-o", K.tunnelInterface, "-j", "ACCEPT"] =
      appendCommand binary ["-o", K.tunnelInterface] "ACCEPT" :=
    iptablesRuleCommand_eq hnot "ACCEPT"
  unfold expectedCommands generatedCommands
  rw [htunnel]
  cases binary <;> rfl

theorem expectedRules_eq (binary : Binary) :
    (K.expectedIptablesRules L binary).map Prod.snd = (K.expectedCommands L binary).map (drop 3) := by
  refine ext_getElem? fun index => ?_
  simp [expectedIptablesRules, Function.comp_def]

/-- The two lists differ only for an interface that looks like an option. -/
theorem appendedRules_eq_iff (hasIp6tables : Bool) (binary : Binary) :
    (K.enableCommands L hasIp6tables binary).filterMap (appendedRule binary) =
      (K.expectedIptablesRules L binary).map Prod.snd ↔ K.tunnelInterface ≠ "-j" := by
  rw [appendedRules_eq, expectedRules_eq]
  constructor
  · intro h hj
    -- the third rule
    have hthird := congrArg (fun rules => rules[2]?) h
    unfold generatedCommands expectedCommands at hthird
    rw [hj] at hthird
    revert hthird
    cases binary <;> simp [appendCommand, iptablesRuleCommand, commentTokens]
  · intro h
    rw [expectedCommands_eq h]

/-! ## The listing -/

theorem mapBehind_append (option : String) (change : String → String) (previous : Option String)
    (a b : List String) : mapBehind option change previous (a ++ b) =
      mapBehind option change previous a ++ mapBehind option change (a.getLast?.or previous) b := by
  induction a generalizing previous with
  | nil => rfl
  | cons token a ih =>
    rw [cons_append, mapBehind, ih, mapBehind, getLast?_cons]
    cases a.getLast? <;> rfl

variable {option : String}

theorem withLength_option (h : option ∈ ["-m", "-p"]) : withLength L option = option := by
  unfold withLength
  rw [L.ipAddress_option option h]

theorem withLength_withLength (text : String) : withLength L (withLength L text) = withLength L text := by
  have hlen : ∀ parsed length : String, '/' ∈ length.toList → withLength L (parsed ++ length) =
      parsed ++ length := by
    intro parsed length hslash
    unfold withLength
    rw [L.ipAddress_slash _ (by rw [String.toList_append]; exact mem_append_right _ hslash)]
  cases h : L.ipAddress text with
  | none =>
    have hsame : withLength L text = text := by rw [withLength, h]
    rw [hsame, hsame]
  | some parsed =>
    obtain ⟨family, parsed⟩ := parsed
    cases family with
    | ip =>
      have hlong : withLength L text = parsed ++ "/32" := by rw [withLength, h]
      rw [hlong, hlen parsed "/32" (by decide)]
    | ip6 =>
      have hlong : withLength L text = parsed ++ "/128" := by rw [withLength, h]
      rw [hlong, hlen parsed "/128" (by decide)]

theorem inHex_option (h : option ∈ ["-m", "-p"]) : inHex L option = option := by
  have hbare : String.ofList (option.toList.takeWhile (· ≠ '/')) = option := by
    revert option
    decide
  unfold inHex
  rw [hbare, L.int_option option h]

theorem inHex_mark : inHex L outboundMarkText = outboundMarkText := by
  have hbare : String.ofList (outboundMarkText.toList.takeWhile (· ≠ '/')) = "0x2024" := by decide
  unfold inHex
  rw [hbare, L.int_mark]
  decide

theorem options_kept : withLength L "-m" = "-m" ∧ withLength L "-p" = "-p" ∧ inHex L "-m" = "-m" ∧
    inHex L "-p" = "-p" :=
  ⟨withLength_option (by decide), withLength_option (by decide), inHex_option (by decide),
    inHex_option (by decide)⟩

/-- The comment and the verdict are canonical, whatever stands in front of them. -/
theorem mapBehind_end (hoption : option ∈ ["-d", "--mark"]) {change : String → String}
    (hchange : change "-m" = "-m") (previous : Option String) (verdict : String) :
    mapBehind option change previous (commentTokens ++ ["-j", verdict]) = commentTokens ++ ["-j", verdict] := by
  simp only [mem_cons, not_mem_nil, or_false] at hoption
  rcases hoption with rfl | rfl <;> simp [mapBehind, commentTokens, hchange, watchdogvpnComment]

theorem canonicalize_end (match' : List String) (verdict : String) :
    canonicalizeIptablesTokens L (match' ++ (commentTokens ++ ["-j", verdict])) =
      canonicalizeIptablesTokens L match' ++ (commentTokens ++ ["-j", verdict]) := by
  unfold canonicalizeIptablesTokens
  rw [mapBehind_append, mapBehind_end (by decide) options_kept.1, mapBehind_append,
    mapBehind_end (by decide) options_kept.2.2.1]

theorem ManagedMatch.canonical {Q : String → Prop} {match' : List String} (h : ManagedMatch Q L match') :
    canonicalizeIptablesTokens L (canonicalizeIptablesTokens L match') =
      canonicalizeIptablesTokens L match' := by
  unfold canonicalizeIptablesTokens
  cases h with
  | all => rfl
  | out => simp [mapBehind]
  | destination => simp [mapBehind, withLength_withLength]
  | dnsAt _ hprot =>
    simp only [mem_cons, not_mem_nil, or_false] at hprot
    rcases hprot with rfl | rfl <;> simp [mapBehind, withLength_withLength, options_kept]
  | dns hprot hport =>
    simp only [mem_cons, not_mem_nil, or_false] at hprot hport
    rcases hprot with rfl | rfl <;> rcases hport with rfl | rfl <;> simp [mapBehind]
  | owner uid => simp [mapBehind, options_kept, inHex_mark]
  | established => simp [mapBehind]

theorem canonicalize_generated {command : List String} (h : command ∈ K.generatedCommands L binary) :
    canonicalizeIptablesTokens L (canonicalizeIptablesTokens L (command.drop 3)) =
      canonicalizeIptablesTokens L (command.drop 3) := by
  obtain ⟨match', verdict, hmatch, -, rfl⟩ := generatedCommands_form .trivial h
  change canonicalizeIptablesTokens L
    (canonicalizeIptablesTokens L (match' ++ (commentTokens ++ ["-j", verdict]))) =
    canonicalizeIptablesTokens L (match' ++ (commentTokens ++ ["-j", verdict]))
  rw [canonicalize_end, canonicalize_end, hmatch.canonical]

/-- A token as it is printed: only the comment is quoted. -/
def printedToken (token : String) : Text :=
  if token = watchdogvpnComment then '"' :: token.toList ++ ['"'] else token.toList

/-- The line of a rule. Addresses are printed with their length, marks in hexadecimal digits. -/
def listedRule (L : TokenLibrary) (rule : List String) : Text :=
  unwords ((["-A", watchdogvpnIptablesChain] ++ canonicalizeIptablesTokens L rule).map printedToken)

/-- The output of `iptables -S` for the managed chain. -/
def iptablesListing (L : TokenLibrary) (rules : List (List String)) : Text :=
  (unwords ["-N".toList, watchdogvpnIptablesChain.toList] :: rules.map (listedRule L)).flatMap
    fun line => line ++ ['\n']

/-- A word that `shlex.split` gives back as it is: not empty, no white space, quote or backslash. -/
def PlainToken (token : String) : Prop :=
  token ≠ "" ∧ ∀ c ∈ token.toList, isPlain [] c = true ∧ isLineBreak c = false

instance (token : String) : Decidable (PlainToken token) :=
  @instDecidableAnd _ _ inferInstance (decidableBAll _ _)

/-- The texts of the configuration are listed as plain words. -/
abbrev PlainTexts (L : TokenLibrary) (K : KillSwitch) : Prop := Texts PlainToken L K

/-- All tokens but the comment are printed plainly. -/
def Printable (L : TokenLibrary) (rules : List (List String)) : Prop :=
  ∀ rule ∈ rules, ∀ token ∈ canonicalizeIptablesTokens L rule, token = watchdogvpnComment ∨ PlainToken token

theorem written_printed {token : String} (h : token = watchdogvpnComment ∨ PlainToken token) :
    Written [] token.toList (printedToken token) ∧ ∀ c ∈ printedToken token, isLineBreak c = false := by
  unfold printedToken
  split
  · rename_i hcom
    subst hcom
    have hquoted : (watchdogvpnComment.toList.all fun c => c != '"' && c != '\\') = true := by decide
    have honeL : (('"' :: watchdogvpnComment.toList ++ ['"']).all fun c => !isLineBreak c) = true := by decide
    rw [all_eq_true] at honeL
    exact ⟨PyText.written_quoted (by decide) (by simpa using hquoted), fun c hc => by simpa using honeL c hc⟩
  · rename_i hcom
    obtain ⟨hne, hplain⟩ := h.resolve_left hcom
    exact ⟨PyText.written_plain (by simpa using hne) fun c hc => (hplain c hc).1, fun c hc => (hplain c hc).2⟩

theorem plain_toString (n : Int) : PlainToken (toString n) := by
  have hdigits : ∀ k < 58, 48 ≤ k → isPlain [] (Char.ofNat k) = true ∧
      isLineBreak (Char.ofNat k) = false := by decide
  refine ⟨fun h => ?_, fun c hc => ?_⟩
  · have hlen := congrArg (fun text : String => text.toList.length) h
    cases n <;> simp [Int.repr] at hlen
  · rcases toString_char hc with rfl | hc
    · decide
    · rw [← Char.ofNat_toNat c]
      simp only [Char.isDigit, Bool.and_eq_true, decide_eq_true_eq] at hc
      exact hdigits _ (Nat.lt_succ_of_le hc.2) hc.1

/-- The words that are the same in all configurations. -/
theorem plain_fixed : PlainToken "-A" ∧ PlainToken watchdogvpnIptablesChain ∧ PlainToken "-o" ∧
    PlainToken "lo" ∧
    PlainToken "-d" ∧ PlainToken "-p" ∧ PlainToken "udp" ∧ PlainToken "tcp" ∧ PlainToken "--dport" ∧
    PlainToken "53" ∧
    PlainToken "853" ∧ PlainToken "-m" ∧ PlainToken "owner" ∧ PlainToken "--uid-owner" ∧ PlainToken "mark" ∧
    PlainToken "--mark" ∧ PlainToken outboundMarkText ∧ PlainToken "conntrack" ∧ PlainToken "--ctstate" ∧
    PlainToken "ESTABLISHED,RELATED" ∧ PlainToken "comment" ∧ PlainToken "--comment" ∧ PlainToken "-j" ∧
    PlainToken "ACCEPT" ∧ PlainToken "REJECT" := by
  decide

theorem ManagedMatch.plain {match' : List String} (h : ManagedMatch PlainToken L match') :
    ∀ token ∈ canonicalizeIptablesTokens L match', PlainToken token := by
  unfold canonicalizeIptablesTokens
  cases h with
  | all => nofun
  | out h => rcases h with rfl | h <;> simp [mapBehind, plain_fixed, *]
  | destination h =>
    rcases h with h | h
    · have hfix : ∀ range ∈ ["::1/128", "127.0.0.0/8"], '/' ∈ range.toList ∧ PlainToken range := by decide
      obtain ⟨hslash, hplain⟩ := hfix _ h
      simp [mapBehind, plain_fixed, withLength, L.ipAddress_slash _ hslash, hplain]
    · simp [mapBehind, plain_fixed, h]
  | dnsAt h hprot =>
    simp only [mem_cons, not_mem_nil, or_false] at hprot
    rcases hprot with rfl | rfl <;> simp [mapBehind, plain_fixed, options_kept, h]
  | dns hprot hport =>
    simp only [mem_cons, not_mem_nil, or_false] at hprot hport
    rcases hprot with rfl | rfl <;> rcases hport with rfl | rfl <;> simp [mapBehind, plain_fixed]
  | owner uid =>
    simpa [mapBehind, plain_fixed, options_kept, inHex_mark] using plain_toString uid
  | established => simp [mapBehind, plain_fixed]

/-- If the texts of the configuration are plain words, the comment is the only token that is not. -/
theorem printable_generated (h : PlainTexts L K) :
    Printable L ((K.generatedCommands L binary).map (drop 3)) := by
  refine forall_mem_map.mpr fun command hcmd token htoken => ?_
  obtain ⟨match', verdict, hmatch, hverdict, rfl⟩ := generatedCommands_form h hcmd
  change token ∈ canonicalizeIptablesTokens L (match' ++ (commentTokens ++ ["-j", verdict])) at htoken
  rw [canonicalize_end] at htoken
  rcases mem_append.mp htoken with htoken | htoken
  · exact .inr (hmatch.plain token htoken)
  simp only [commentTokens, cons_append, nil_append, mem_cons, not_mem_nil, or_false] at htoken hverdict
  rcases htoken with rfl | rfl | rfl | rfl | rfl | rfl
  · exact .inr (by simp [plain_fixed])
  · exact .inr (by simp [plain_fixed])
  · exact .inr (by simp [plain_fixed])
  · exact .inl rfl
  · exact .inr (by simp [plain_fixed])
  · rcases hverdict with rfl | rfl <;> exact .inr (by simp [plain_fixed])

theorem unwords_oneLine {words : List Text} (h : ∀ word ∈ words, ∀ c ∈ word, isLineBreak c = false) :
    ∀ c ∈ unwords words, isLineBreak c = false := by
  induction words with
  | nil => intro c hc; cases hc
  | cons word words ih =>
    obtain ⟨hword, hwords⟩ := forall_mem_cons.mp h
    cases words with
    | nil => exact hword
    | cons word' words =>
      exact forall_mem_append.mpr ⟨hword, forall_mem_cons.mpr ⟨by decide, ih hwords⟩⟩

theorem iptablesChainRules_listing {rules : List (List String)} (hprint : Printable L rules) :
    iptablesChainRules L (iptablesListing L rules) =
      rules.map fun rule => canonicalizeIptablesTokens L (canonicalizeIptablesTokens L rule) := by
  have htoks : ∀ rule ∈ rules, ∀ token ∈ ["-A", watchdogvpnIptablesChain] ++ canonicalizeIptablesTokens L rule,
      token = watchdogvpnComment ∨ PlainToken token := by
    intro rule hrule token htoken
    simp only [cons_append, nil_append, mem_cons] at htoken
    rcases htoken with rfl | rfl | htoken
    · exact .inr plain_fixed.1
    · exact .inr plain_fixed.2.1
    · exact hprint rule hrule token htoken
  have hlines : splitlines (iptablesListing L rules) =
      unwords ["-N".toList, watchdogvpnIptablesChain.toList] :: rules.map (listedRule L) := by
    refine PyText.splitlines_terminated (forall_mem_cons.mpr ⟨?_, forall_mem_map.mpr fun rule hrule => ?_⟩)
    · have hall : ((unwords ["-N".toList, watchdogvpnIptablesChain.toList]).all fun c =>
          !isLineBreak c) = true := by
        decide
      simpa using hall
    · refine unwords_oneLine (forall_mem_map.mpr fun token htoken => ?_)
      exact (written_printed (htoks rule hrule token htoken)).2
  unfold iptablesChainRules
  rw [hlines, filterMap_cons_none rfl, filterMap_map]
  refine (filterMap_congr fun rule hrule => ?_).trans (congrFun filterMap_eq_map _)
  have hread : shlexSplit [] (listedRule L rule) =
      some ((["-A", watchdogvpnIptablesChain] ++ canonicalizeIptablesTokens L rule).map String.toList) := by
    refine PyText.shlexSplit_unwords ?_
    rw [forall₂_map_left_iff, forall₂_map_right_iff, forall₂_same]
    exact fun token htoken => (written_printed (htoks rule hrule token htoken)).1
  rw [Function.comp_apply, hread]
  simp

theorem matchesExpected_of_canonical {rule : List String}
    (h : canonicalizeIptablesTokens L (canonicalizeIptablesTokens L rule) = canonicalizeIptablesTokens L rule) :
    iptablesRuleMatchesExpected L (canonicalizeIptablesTokens L rule) rule = true := by
  unfold iptablesRuleMatchesExpected iptablesRuleContains
  simp only [h]
  split
  · rw [take_length, beq_self_eq_true]
  · exact isSublist_iff_sublist.mpr (List.Sublist.refl _)

theorem inspectIptablesFamily_listing (h : K.tunnelInterface ≠ "-j")
    (hprint : Printable L ((K.generatedCommands L binary).map (drop 3))) :
    K.inspectIptablesFamily L binary
      (some (iptablesListing L ((K.generatedCommands L binary).map (drop 3)))) true =
      { method := binary.text, artifactsPresent := true, active := true } := by
  generalize hrules : (K.generatedCommands L binary).map (drop 3) = rules at hprint ⊢
  have hcan : ∀ rule ∈ rules,
      canonicalizeIptablesTokens L (canonicalizeIptablesTokens L rule) = canonicalizeIptablesTokens L rule := by
    rw [← hrules, forall_mem_map]
    exact fun command hcmd => canonicalize_generated hcmd
  have hactual : iptablesChainRules L (iptablesListing L rules) = rules.map (canonicalizeIptablesTokens L) := by
    rw [iptablesChainRules_listing hprint]
    exact map_congr_left hcan
  have hexp : (K.expectedIptablesRules L binary).map Prod.snd = rules := by
    rw [expectedRules_eq, expectedCommands_eq h, hrules]
  have hmiss : (K.expectedIptablesRules L binary).filter (fun expected =>
      !(rules.map (canonicalizeIptablesTokens L)).any fun rule =>
        iptablesRuleMatchesExpected L rule expected.2) = [] := by
    rw [filter_eq_nil_iff]
    intro expected hmem
    have hrule : expected.2 ∈ rules := hexp ▸ mem_map_of_mem hmem
    have hany : ((rules.map (canonicalizeIptablesTokens L)).any fun rule =>
        iptablesRuleMatchesExpected L rule expected.2) = true :=
      any_eq_true.mpr ⟨_, mem_map_of_mem hrule, matchesExpected_of_canonical (hcan _ hrule)⟩
    rw [hany]
    decide
  have hterm : ((rules.map (canonicalizeIptablesTokens L)).any fun rule =>
      rule.take terminalRule.length == terminalRule) = true := by
    have hmem : terminalRule ∈ rules := by
      rw [← hrules]
      exact mem_map.mpr ⟨appendCommand binary [] "REJECT", mem_append_right _ (mem_singleton_self _), rfl⟩
    refine any_eq_true.mpr ⟨_, mem_map_of_mem hmem, ?_⟩
    have hsame : canonicalizeIptablesTokens L terminalRule = terminalRule := canonicalize_end [] "REJECT"
    rw [hsame, take_length, beq_self_eq_true]
  have hcount : (K.expectedIptablesRules L binary).length = rules.length := by rw [← hexp, length_map]
  unfold inspectIptablesFamily
  simp only [Option.getD_some, hactual, hmiss, hterm, hcount, length_map, ne_eq]
  rfl

/-- **The generated and the expected rules.** What is appended to the managed chains is, in order,
what the inspection expects, exactly if the tunnel interface is not called `-j`. A listing of it
then passes the inspection, if the interface, the LAN ranges and the addresses are plain words. -/
theorem iptables_agrees_iff (L : TokenLibrary) (K : KillSwitch) (hasIp6tables : Bool) :
    ((∀ binary, (K.enableCommands L hasIp6tables binary).filterMap (appendedRule binary) =
        (K.expectedIptablesRules L binary).map Prod.snd) ↔ K.tunnelInterface ≠ "-j") ∧
    (K.tunnelInterface ≠ "-j" → PlainTexts L K → ∀ binary,
      K.inspectIptablesFamily L binary (some (iptablesListing L
        ((K.enableCommands L hasIp6tables binary).filterMap (appendedRule binary)))) true =
          { method := binary.text, artifactsPresent := true, active := true }) := by
  refine ⟨⟨fun h => (appendedRules_eq_iff hasIp6tables .iptables).mp (h .iptables), fun h binary => ?_⟩, ?_⟩
  · exact (appendedRules_eq_iff hasIp6tables binary).mpr h
  · intro h hplain binary
    rw [appendedRules_eq]
    exact inspectIptablesFamily_listing h (printable_generated hplain)

def labLan : KillSwitch :=
  { allowedEndpoints := ["172.19.0.2"], allowLan := true, lanCidrs := ["192.168.0.0/16"],
    directEgressUid := some 1000 }

/-- A library that knows one address. -/
def labTokens : TokenLibrary where
  ipAddress text := if text = "172.19.0.2" then some (.ip, text) else none
  int text := if text = "0x2024" then some 0x2024 else none
  ipAddress_option := by decide
  ipAddress_slash := by
    intro text h
    refine if_neg fun heq => ?_
    rw [heq] at h
    exact absurd h (by decide)
  int_option := by decide
  int_mark := rfl

/-- The rules of a configuration with an endpoint, a LAN range and an exempt user are found. -/
theorem iptables_agrees_lan : ∀ binary, KillSwitch.inspectIptablesFamily labTokens labLan binary
    (some (iptablesListing labTokens
      ((labLan.enableCommands labTokens true binary).filterMap (appendedRule binary)))) true =
      { method := binary.text, artifactsPresent := true, active := true } := by
  refine (iptables_agrees_iff labTokens labLan true).2 (by decide) ⟨by decide, by decide, ?_⟩
  intro endpoint _ family text h
  change (if endpoint = "172.19.0.2" then some (Family.ip, endpoint) else none) = some (family, text) at h
  split at h
  · cases h
    subst endpoint
    decide
  · cases h

def labDashed : KillSwitch := { tunnelInterface := "-j" }

def labDashedRules : List (List String) :=
  (labDashed.enableCommands labTokens true .iptables).filterMap (appendedRule .iptables)

/-- **An interface that looks like an option.** The comment of the expected rule stands in front of
the name. -/
theorem option_interface_differs :
    labDashedRules[2]? = some ["-o", "-j", "-m", "comment", "--comment", watchdogvpnComment, "-j", "ACCEPT"] ∧
    ((labDashed.expectedIptablesRules labTokens .iptables).map Prod.snd)[2]? =
      some ["-o", "-m", "comment", "--comment", watchdogvpnComment, "-j", "-j", "ACCEPT"] ∧
    (labDashed.inspectIptablesFamily labTokens .iptables
      (some (iptablesListing labTokens labDashedRules)) true).mismatchReasons =
      ["missing_managed_rule:iptables/2"] := by
  decide +kernel

end KillSwitch

end WatchdogVpn.Firewall
