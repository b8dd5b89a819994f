import WatchdogVpn.Firewall.Nft

/-!
# The kill switch

`_nft_enable_commands` builds two chains. The output chain drops by default; it accepts the
tunnel, the loopback, the direct egress of the daemon and the endpoints of the tunnel
(`protected`), then rejects DNS, then accepts what may pass if it is not DNS (`tolerated`),
and drops the rest. The guard chain lets a captured packet go only into the tunnel.

* `install_nftEnableCommands`: the chains that the commands install.
* `outputChain_accepts`, `guardChain_accepts`: when each of them lets a packet pass.
* **`kill_switch_no_leak`**: what leaves the machine.
* `endpoints_exempt`: what the endpoints add to that.
-/

namespace WatchdogVpn.Firewall

open List

def watchdogvpnTable : String := "watchdogvpn"
def watchdogvpnChain : String := "output"
def watchdogvpnCaptureGuardChain : String := "capture_postrouting"
def watchdogvpnComment : String := "WatchdogVPN kill switch"

def singBoxCaptureMark : Nat := 0x2023
def singBoxOutboundMark : Nat := 0x2024
def singBoxTunDnsEndpoints : List String := ["172.19.0.2"]

def defaultLanCidrs : List String := ["10.0.0.0/8", "172.16.0.0/12", "192.168.0.0/16", "169.254.0.0/16"]
def loopbackCidrs : List String := ["127.0.0.0/8", "::1/128"]

structure KillSwitch where
  tunnelInterface : String := "wdvpn-tun0"
  blockIpv6 : Bool := true
  allowLan : Bool := true
  allowedEndpoints : List String := []
  directEgressUid : Option Int := none
  lanCidrs : List String := defaultLanCidrs

/-- `ip_address(text)` of the standard library: the family and the canonical text, or a
`ValueError`. -/
abbrev IpAddress : Type := String → Option (Family × String)

namespace KillSwitch

variable (ipAddress : IpAddress) (K : KillSwitch)

/-! ## The commands -/

/-- The rules of the two chains, without the command around them: `_nft_rule(*tokens)`. -/
def nftRule (matches' : List NftMatch) (verdict : Verdict) : NftRule := ⟨matches', verdict⟩

def nftLoopbackDestinationRules : List NftRule :=
  loopbackCidrs.map fun cidr => nftRule [.daddr (if cidr.toList.contains ':' then .ip6 else .ip) cidr] .accept

def nftDirectEgressRules : List NftRule :=
  match K.directEgressUid with
  | none => []
  | some uid => [nftRule [.skuid uid, .mark singBoxOutboundMark] .accept]

def nftEndpointRules : List NftRule :=
  K.allowedEndpoints.filterMap fun endpoint =>
    (ipAddress endpoint).map fun parsed => nftRule [.daddr parsed.1 parsed.2] .accept

def nftInternalDnsRules : List NftRule :=
  singBoxTunDnsEndpoints.flatMap fun endpoint =>
    [.udp, .tcp].map fun protocol => nftRule [.daddr .ip endpoint, .dport protocol 53] .accept

def nftDnsLeakBlockRules : List NftRule :=
  [53, 853].map (fun port => nftRule [.dport .udp port] .reject) ++
    [53, 853].map fun port => nftRule [.dport .tcp port] .reject

def nftCaptureEgressRules : List NftRule := [nftRule [.mark singBoxCaptureMark] .accept]

def nftLanRules : List NftRule := K.lanCidrs.map fun cidr => nftRule [.daddr .ip cidr] .accept

def nftTerminalDropRules : List NftRule :=
  [.tcp, .udp, .icmp, .ipv6Icmp].map (fun protocol => nftRule [.l4proto protocol] .drop) ++ [nftRule [] .drop]

def nftCaptureGuardRules : List NftRule :=
  [nftRule [.mark singBoxCaptureMark, .oifname K.tunnelInterface] .accept,
    nftRule [.mark singBoxCaptureMark] .drop]

/-- The rules that accept ahead of the DNS rejects. -/
def protectedRules : List NftRule :=
  [nftRule [.oifname "lo"] .accept] ++ nftLoopbackDestinationRules ++
    [nftRule [.oifname K.tunnelInterface] .accept] ++ K.nftDirectEgressRules ++ K.nftEndpointRules ipAddress ++
    nftInternalDnsRules

/-- The rules that accept after them. -/
def toleratedRules : List NftRule :=
  nftCaptureEgressRules ++ [nftRule [.ctEstablishedRelated] .accept] ++
    (if K.allowLan then K.nftLanRules else []) ++
    if K.blockIpv6 = false then [nftRule [.daddr .ip6 "::/0"] .accept] else []

def outputRules : List NftRule :=
  K.protectedRules ipAddress ++ nftDnsLeakBlockRules ++ K.toleratedRules ++ nftTerminalDropRules

def nftEnableCommands : List NftCommand :=
  [.addTable, .addChain watchdogvpnChain .output .drop,
    .addChain watchdogvpnCaptureGuardChain .postrouting .accept] ++
    K.nftCaptureGuardRules.map (.addRule watchdogvpnCaptureGuardChain) ++
    (K.outputRules ipAddress).map (.addRule watchdogvpnChain)

def outputChain : Chain := ⟨watchdogvpnChain, .output, .drop, K.outputRules ipAddress⟩

def guardChain : Chain := ⟨watchdogvpnCaptureGuardChain, .postrouting, .accept, K.nftCaptureGuardRules⟩

theorem install_nftEnableCommands :
    install (K.nftEnableCommands ipAddress) = [K.outputChain ipAddress, K.guardChain] := by
  unfold install nftEnableCommands
  rw [foldl_append, foldl_append, foldl_addRule]
  rfl

/-! ## What the two chains let pass -/

section Leak

variable {A : Type} (R : NftReading A) (p : Packet A)

def GoesTo (family : Family) (range : String) : Prop :=
  p.family = family ∧ R.denotes family range p.destination = true

def DnsTo (port : Nat) : Prop := p.transport = .udp port ∨ p.transport = .tcp port

def IsDns : Prop := DnsTo p 53 ∨ DnsTo p 853

/-- What the kill switch is there to let through: the loopback, the tunnel, its endpoints, the
direct egress of the daemon, and the DNS of the tunnel. -/
def Protected : Prop :=
  R.names "lo" p.outputInterface = true ∨ R.names K.tunnelInterface p.outputInterface = true ∨
  (GoesTo R p .ip "127.0.0.0/8" ∨ GoesTo R p .ip6 "::1/128") ∨
  (∃ endpoint ∈ K.allowedEndpoints, ∃ family text, ipAddress endpoint = some (family, text) ∧
    GoesTo R p family text) ∨
  (∃ uid, K.directEgressUid = some uid ∧ p.uid = some uid ∧ p.mark = singBoxOutboundMark) ∨
  ∃ endpoint ∈ singBoxTunDnsEndpoints, GoesTo R p .ip endpoint ∧ DnsTo p 53

/-- What it lets through as well unless it is DNS. -/
def Tolerated : Prop :=
  ¬ IsDns p ∧ (p.mark = singBoxCaptureMark ∨ p.established = true ∨
    (K.allowLan = true ∧ ∃ cidr ∈ K.lanCidrs, GoesTo R p .ip cidr) ∨ (p.family = .ip6 ∧ K.blockIpv6 = false))

variable {R p}

variable {hook : Hook} {verdict : Verdict}

theorem applies_oifname {name : String} :
    (nftRule [.oifname name] verdict).applies R hook p = R.names name (hook.interface p) := by
  simp [nftRule, NftRule.applies, NftMatch.holds]

theorem applies_daddr {family : Family} {range : String} :
    (nftRule [.daddr family range] verdict).applies R hook p = true ↔ GoesTo R p family range := by
  simp [nftRule, NftRule.applies, NftMatch.holds, GoesTo]

theorem applies_dport {protocol : Protocol} {port : Nat} :
    (nftRule [.dport protocol port] verdict).applies R hook p = true ↔
      p.transport.protocol? = some protocol ∧ p.transport.dport? = some port := by
  simp [nftRule, NftRule.applies, NftMatch.holds]

theorem applies_mark {value : Nat} : (nftRule [.mark value] verdict).applies R hook p = true ↔
    p.mark = value := by
  simp [nftRule, NftRule.applies, NftMatch.holds]

theorem dnsTo_iff {port : Nat} : DnsTo p port ↔
    (p.transport.protocol? = some .udp ∧ p.transport.dport? = some port) ∨
    (p.transport.protocol? = some .tcp ∧ p.transport.dport? = some port) := by
  unfold DnsTo
  cases p.transport <;> simp [Transport.protocol?, Transport.dport?]

theorem any_loopback : nftLoopbackDestinationRules.any (NftRule.applies R .output · p) = true ↔
    GoesTo R p .ip "127.0.0.0/8" ∨ GoesTo R p .ip6 "::1/128" := by
  have hrules : nftLoopbackDestinationRules =
      [nftRule [.daddr .ip "127.0.0.0/8"] .accept, nftRule [.daddr .ip6 "::1/128"] .accept] := by decide
  rw [hrules]
  simp only [any_cons, any_nil, Bool.or_false, Bool.or_eq_true, applies_daddr]

theorem any_endpoint : (K.nftEndpointRules ipAddress).any (NftRule.applies R .output · p) = true ↔
    ∃ endpoint ∈ K.allowedEndpoints, ∃ family text, ipAddress endpoint = some (family, text) ∧
    GoesTo R p family text := by
  rw [any_eq_true]
  constructor
  · rintro ⟨r, hr, happ⟩
    obtain ⟨endpoint, he, hpar⟩ := mem_filterMap.mp hr
    obtain ⟨⟨family, text⟩, hip, rfl⟩ := Option.map_eq_some_iff.mp hpar
    exact ⟨endpoint, he, family, text, hip, applies_daddr.mp happ⟩
  · rintro ⟨endpoint, he, family, text, hip, hgoes⟩
    refine ⟨nftRule [.daddr family text] .accept, mem_filterMap.mpr ⟨endpoint, he, ?_⟩, applies_daddr.mpr hgoes⟩
    rw [hip, Option.map_some]

theorem any_directEgress : K.nftDirectEgressRules.any (NftRule.applies R .output · p) = true ↔
    ∃ uid, K.directEgressUid = some uid ∧ p.uid = some uid ∧ p.mark = singBoxOutboundMark := by
  unfold nftDirectEgressRules
  cases K.directEgressUid with
  | none => simp
  | some uid => simp [nftRule, NftRule.applies, NftMatch.holds]

theorem any_internalDns : nftInternalDnsRules.any (NftRule.applies R .output · p) = true ↔
    ∃ endpoint ∈ singBoxTunDnsEndpoints, GoesTo R p .ip endpoint ∧ DnsTo p 53 := by
  have hrule : ∀ endpoint protocol,
      (nftRule [.daddr .ip endpoint, .dport protocol 53] .accept).applies R .output p = true ↔
      GoesTo R p .ip endpoint ∧ p.transport.protocol? = some protocol ∧ p.transport.dport? = some 53 := by
    simp [nftRule, NftRule.applies, NftMatch.holds, GoesTo]
  unfold nftInternalDnsRules
  rw [any_flatMap, any_eq_true]
  simp only [map_cons, map_nil, any_cons, any_nil, Bool.or_false, Bool.or_eq_true, hrule,
    dnsTo_iff, ← and_or_left]

theorem any_protectedRules : (K.protectedRules ipAddress).any (NftRule.applies R .output · p) = true ↔
    K.Protected ipAddress R p := by
  unfold protectedRules Protected
  simp only [any_append, Bool.or_eq_true, any_loopback, any_endpoint, any_directEgress, any_internalDns]
  simp only [any_cons, any_nil, Bool.or_false, applies_oifname, Hook.interface]
  constructor
  · rintro (((((h | h) | h) | h) | h) | h) <;> simp only [h, true_or, or_true]
  · rintro (h | h | h | h | h | h) <;> simp only [h, true_or, or_true]

theorem any_dnsLeakBlock : nftDnsLeakBlockRules.any (NftRule.applies R .output · p) = true ↔ IsDns p := by
  unfold nftDnsLeakBlockRules IsDns
  simp only [map_cons, map_nil, any_append, any_cons, any_nil, Bool.or_false, Bool.or_eq_true,
    applies_dport, dnsTo_iff]
  tauto

theorem any_toleratedRules : K.toleratedRules.any (NftRule.applies R .output · p) = true →
    p.mark = singBoxCaptureMark ∨ p.established = true ∨
      (K.allowLan = true ∧ ∃ cidr ∈ K.lanCidrs, GoesTo R p .ip cidr) ∨
      (p.family = .ip6 ∧ K.blockIpv6 = false) := by
  unfold toleratedRules nftCaptureEgressRules nftLanRules
  simp only [any_append, Bool.or_eq_true, any_cons, any_nil, Bool.or_false, applies_mark]
  rintro (((hmark | hct) | hlan) | hv6)
  · exact .inl hmark
  · exact .inr (.inl (by simpa [nftRule, NftRule.applies, NftMatch.holds] using hct))
  · split at hlan
    · rename_i hallow
      obtain ⟨r, hr, happ⟩ := any_eq_true.mp hlan
      obtain ⟨cidr, hc, rfl⟩ := mem_map.mp hr
      exact .inr (.inr (.inl ⟨hallow, cidr, hc, applies_daddr.mp happ⟩))
    · cases hlan
  · split at hv6
    · rename_i hblk
      rw [any_cons, any_nil, Bool.or_false, applies_daddr] at hv6
      exact .inr (.inr (.inr ⟨hv6.1, hblk⟩))
    · cases hv6

theorem verdict_protectedRules : ∀ r ∈ K.protectedRules ipAddress, r.verdict = .accept := by
  intro r hr
  unfold protectedRules nftLoopbackDestinationRules nftDirectEgressRules nftEndpointRules
    nftInternalDnsRules at hr
  simp only [mem_append, mem_map, mem_filterMap, mem_flatMap, mem_singleton, Option.map_eq_some_iff] at hr
  rcases hr with ((((rfl | ⟨_, _, rfl⟩) | rfl) | hr) | ⟨_, _, _, _, rfl⟩) | ⟨_, _, _, _, rfl⟩
  case inl.inl.inr =>
    split at hr
    · cases hr
    · rw [mem_singleton.mp hr]; rfl
  all_goals rfl

theorem verdict_dnsLeakBlock : ∀ r ∈ nftDnsLeakBlockRules, r.verdict = .reject := by decide

theorem verdict_toleratedRules : ∀ r ∈ K.toleratedRules, r.verdict = .accept := by
  intro r hr
  unfold toleratedRules nftCaptureEgressRules nftLanRules at hr
  simp only [mem_append, mem_singleton] at hr
  rcases hr with ((rfl | rfl) | hr) | hr
  · rfl
  · rfl
  · split at hr
    · obtain ⟨_, _, rfl⟩ := mem_map.mp hr
      rfl
    · cases hr
  · split at hr
    · rw [mem_singleton.mp hr]; rfl
    · cases hr

theorem verdict_terminalDrop : ∀ r ∈ nftTerminalDropRules, r.verdict = .drop := by decide

/-- The four blocks of the output chain, one after the other. -/
theorem outputChain_verdict : (K.outputChain ipAddress).verdict R p =
    if (K.protectedRules ipAddress).any (NftRule.applies R .output · p) then .accept
    else if nftDnsLeakBlockRules.any (NftRule.applies R .output · p) then .reject
    else if K.toleratedRules.any (NftRule.applies R .output · p) then .accept else .drop := by
  unfold Chain.verdict outputChain outputRules
  rw [FirstMatch.decide_append, FirstMatch.decide_append, FirstMatch.decide_append,
    FirstMatch.decide_uniform (K.verdict_protectedRules ipAddress),
    FirstMatch.decide_uniform verdict_dnsLeakBlock,
    FirstMatch.decide_uniform K.verdict_toleratedRules,
    FirstMatch.decide_uniform verdict_terminalDrop, ite_self]

theorem outputChain_accepts : (K.outputChain ipAddress).verdict R p = .accept →
    K.Protected ipAddress R p ∨ K.Tolerated R p := by
  rw [outputChain_verdict]
  intro h
  by_cases hprot : (K.protectedRules ipAddress).any (NftRule.applies R .output · p) = true
  · exact .inl ((any_protectedRules ipAddress K).mp hprot)
  rw [if_neg hprot] at h
  by_cases hdns : nftDnsLeakBlockRules.any (NftRule.applies R .output · p) = true
  · rw [if_pos hdns] at h; cases h
  rw [if_neg hdns] at h
  by_cases htol : K.toleratedRules.any (NftRule.applies R .output · p) = true
  · exact .inr ⟨fun hd => hdns (any_dnsLeakBlock.mpr hd), any_toleratedRules K htol⟩
  · rw [if_neg htol] at h; cases h

/-- The guard chain stops a captured packet that does not go into the tunnel, and nothing else. -/
theorem guardChain_accepts : K.guardChain.verdict R p = .accept ↔
    (p.mark = singBoxCaptureMark → R.names K.tunnelInterface p.finalInterface = true) := by
  have hinto : (nftRule [.mark singBoxCaptureMark, .oifname K.tunnelInterface] .accept).applies R
      .postrouting p = true ↔
      p.mark = singBoxCaptureMark ∧ R.names K.tunnelInterface p.finalInterface = true := by
    simp [nftRule, NftRule.applies, NftMatch.holds, Hook.interface]
  unfold Chain.verdict guardChain nftCaptureGuardRules
  rw [FirstMatch.decide_cons, FirstMatch.decide_cons]
  by_cases hmark : p.mark = singBoxCaptureMark
  · by_cases hname : R.names K.tunnelInterface p.finalInterface = true
    · rw [if_pos (hinto.mpr ⟨hmark, hname⟩)]
      exact ⟨fun _ _ => hname, fun _ => rfl⟩
    · rw [if_neg fun h => hname (hinto.mp h).2, if_pos (applies_mark.mpr hmark)]
      exact ⟨nofun, fun h => absurd (h hmark) hname⟩
  · rw [if_neg fun h => hmark (hinto.mp h).1, if_neg fun h => hmark (applies_mark.mp h)]
    exact ⟨fun _ h => absurd h hmark, fun _ => rfl⟩

theorem leaves_iff : leaves R (install (K.nftEnableCommands ipAddress)) p = true ↔
    (K.outputChain ipAddress).verdict R p = .accept ∧ K.guardChain.verdict R p = .accept := by
  rw [install_nftEnableCommands]
  unfold leaves passes
  simp [outputChain, guardChain]

/-- **No leak.** A packet leaves only if it is protected or tolerated, with the capture mark only
into the tunnel; and every protected packet without the capture mark does leave. -/
theorem kill_switch_no_leak (ipAddress : IpAddress) (K : KillSwitch) {A : Type} (R : NftReading A)
    (p : Packet A) : (leaves R (install (K.nftEnableCommands ipAddress)) p = true →
      (K.Protected ipAddress R p ∨ K.Tolerated R p) ∧
        (p.mark = singBoxCaptureMark → R.names K.tunnelInterface p.finalInterface = true)) ∧
    (K.Protected ipAddress R p → p.mark ≠ singBoxCaptureMark →
      leaves R (install (K.nftEnableCommands ipAddress)) p = true) := by
  constructor
  · intro h
    obtain ⟨hout, hguard⟩ := (K.leaves_iff ipAddress).mp h
    exact ⟨K.outputChain_accepts ipAddress hout, K.guardChain_accepts.mp hguard⟩
  · intro hprot hmark
    exact (K.leaves_iff ipAddress).mpr
      ⟨by rw [outputChain_verdict, if_pos ((any_protectedRules ipAddress K).mpr hprot)],
        K.guardChain_accepts.mpr fun h => absurd h hmark⟩

end Leak

/-- **Endpoints are exempt, and nothing else depends on them.** What leaves with a list of endpoints
is what leaves without any, and what goes to one of them, which the capture guard may still stop:
neither their order nor an endpoint that is no address makes a difference. -/
theorem endpoints_exempt (ipAddress : IpAddress) (K : KillSwitch) {A : Type} (R : NftReading A) (p : Packet A) :
    leaves R (install (K.nftEnableCommands ipAddress)) p = true ↔
      leaves R (install (nftEnableCommands ipAddress { K with allowedEndpoints := [] })) p = true ∨
      (∃ endpoint ∈ K.allowedEndpoints, ∃ family text, ipAddress endpoint = some (family, text) ∧
        GoesTo R p family text) ∧
        (p.mark = singBoxCaptureMark → R.names K.tunnelInterface p.finalInterface = true) := by
  rw [leaves_iff, leaves_iff, guardChain_accepts, guardChain_accepts, outputChain_verdict, outputChain_verdict,
    ← any_endpoint, ← or_and_right]
  refine and_congr_left fun _ => ?_
  -- the endpoints stand in front of the rules that reject DNS
  have hprot : (K.protectedRules ipAddress).any (NftRule.applies R .output · p) =
      ((protectedRules ipAddress { K with allowedEndpoints := [] }).any (NftRule.applies R .output · p) ||
        (K.nftEndpointRules ipAddress).any (NftRule.applies R .output · p)) := by
    unfold protectedRules
    simp only [any_append, nftEndpointRules, filterMap_nil, any_nil, Bool.or_false]
    rw [Bool.or_right_comm]
    rfl
  rw [hprot]
  cases hend : (K.nftEndpointRules ipAddress).any (NftRule.applies R .output · p) with
  | true => simp
  | false =>
    rw [Bool.or_false, iff_comm]
    exact or_iff_left Bool.false_ne_true

end KillSwitch

end WatchdogVpn.Firewall
