import WatchdogVpn.SingBox.Shape

/-!
# FakeIP

Three builders decide about FakeIP: one makes the server and the rule that sends queries to it, one
the rule that turns its addresses back into names, and one the cache file that keeps them.

* `hasFakeip_iff`: the server is there exactly if the connection allows it and the policy is ready.
* **`fakeip_all_or_nothing`**: the three agree exactly if a ready policy also preserves domains. The
  last two ask for that, the first does not.
-/

namespace WatchdogVpn.SingBox

open List
open Dns (DNSPolicy DNSChannelName Resolver)
open Rules (RouteRule)
open Effect (except_bind_ok)

abbrev HasFakeip (config : SingBoxConfig) : Prop :=
  ∃ server ∈ config.dns.toList.flatMap (·.servers), server.type = "fakeip"

/-- Some query is answered by a FakeIP server. -/
abbrev AnswersFakeip (config : SingBoxConfig) : Prop :=
  ∃ server ∈ config.dns.toList.flatMap (·.servers), server.type = "fakeip" ∧
    ∃ rule ∈ config.dns.toList.flatMap (·.rules), rule.action = .server server.tag

/-- The rule that turns addresses of the FakeIP ranges back into names. -/
def fakeipResolveRule (policy : DNSPolicy) : RouteRule where
  fields := [(.inbound, .texts [tunInboundTag.toList]),
    (.condition .ipCidr, .texts [policy.fakeipInet4Range.toList, policy.fakeipInet6Range.toList])]
  action := .resolve

/-- Nothing comes before that rule but the native bypass and the management. -/
def ResolvesFakeip (req : Request) (policy : DNSPolicy) (config : SingBoxConfig) : Prop :=
  ∃ rest, config.rules =
    req.nativeBypassCidrs.map nativeBypassRule ++ req.managementRules ++ fakeipResolveRule policy :: rest

section Ready

variable {policy : DNSPolicy} {allowFakeip : Bool}

theorem firstTag_of_enabled {channel : DNSChannelName} {resolvers : List Resolver}
    (hmem : (channel, resolvers) ∈ policy.channels) (hany : resolvers.any (·.enabled) = true) :
    ∃ tag, firstTag (channelServersOf policy) channel = some tag := by
  obtain ⟨r, hr⟩ := exists_enabledResolver hany
  obtain ⟨tags, hget⟩ := Option.isSome_iff_exists.mp
    (PyDict.isSome_get.mpr (mem_map.mpr (mem_channelServersOf hmem hr)))
  obtain ⟨htags, -⟩ := channelServersOf_mem (PyDict.mem_of_get hget)
  exact ⟨tags.head htags, by rw [firstTag, hget]; exact head?_eq_some_head htags⟩

theorem firstTag_of_ready (h : fakeipPolicyReady policy = true) :
    policy.mode ≠ .off ∧ ∃ tag, firstTag (channelServersOf policy) .proxy = some tag := by
  simp only [fakeipPolicyReady, Bool.and_eq_true, decide_eq_true_iff] at h
  obtain ⟨⟨hmode, -⟩, hany⟩ := h
  cases hget : policy.channels.get .proxy with
  | none => simp [hget] at hany
  | some resolvers =>
    rw [hget] at hany
    exact ⟨hmode, firstTag_of_enabled (PyDict.mem_of_get hget) hany⟩

theorem fakeipEnabled_iff : fakeipEnabled policy (channelServersOf policy) allowFakeip = true ↔
    allowFakeip = true ∧ fakeipPolicyReady policy = true := by
  simp only [fakeipEnabled, Bool.and_eq_true, and_iff_left_iff_imp]
  rintro ⟨-, hrdy⟩
  obtain ⟨-, tag, htag⟩ := firstTag_of_ready hrdy
  obtain ⟨tags, hget, -⟩ := Option.bind_eq_some_iff.mp htag
  rw [hget]
  rfl

/-- The servers of the channels are not FakeIP servers. -/
theorem fakeip_mem_allServers {proxyOutboundTag : String} {servers : List DnsServer}
    (h : channelServerList policy proxyOutboundTag = .ok servers) :
    (∃ server ∈ allServers policy allowFakeip servers, server.type = "fakeip") ↔
      allowFakeip = true ∧ fakeipPolicyReady policy = true := by
  rw [← fakeipEnabled_iff]
  constructor
  · rintro ⟨server, hserv, htype⟩
    rcases mem_append.mp hserv with hserv | hfake
    · rcases mem_append.mp hserv with hstc | hserv
      · split at hstc
        · cases mem_singleton.mp hstc
          exact absurd htype (by simp [staticIpServer])
        · cases hstc
      · rw [channelServerList_ok h] at hserv
        obtain ⟨entry, -, hserv⟩ := mem_flatMap.mp hserv
        obtain ⟨r, -, rfl⟩ := mem_map.mp hserv
        exact absurd htype (parsedResolverToServer_spec _ _).2.1
    · split at hfake
      · assumption
      · cases hfake
  · intro hon
    refine ⟨fakeipServer policy, mem_append_right _ ?_, rfl⟩
    rw [if_pos hon]
    exact mem_singleton_self _

theorem buildSingboxDnsConfig_fakeip {lower : PyText.Text → PyText.Text} {proxyOutboundTag : String}
    {dns : Option SingBoxDNSConfig}
    (h : buildSingboxDnsConfig lower policy proxyOutboundTag allowFakeip = .ok dns) :
    (∃ server ∈ dns.toList.flatMap (·.config.servers), server.type = "fakeip") ↔
      allowFakeip = true ∧ fakeipPolicyReady policy = true := by
  cases dns with
  | none =>
    refine ⟨nofun, fun hon => ?_⟩
    obtain ⟨hmode, tag, htag⟩ := firstTag_of_ready hon.2
    rcases buildSingboxDnsConfig_none h with hoff | hservs
    · exact absurd hoff hmode
    · cases firstTag_declared hservs htag
  | some dns =>
    obtain ⟨servers, rules, final, hservs, -, -, -, rfl⟩ := buildSingboxDnsConfig_some h
    rw [Option.toList_some, flatMap_singleton]
    exact fakeip_mem_allServers hservs

end Ready

section Generated

variable {host : Host} {req : Request} {targets : List Outbound} {dns : Option SingBoxDNSConfig}
  {config : SingBoxConfig} {policy : DNSPolicy}

section

variable (h : Generated host req targets dns config) (hpolicy : req.dnsPolicy = some policy)
include h hpolicy

theorem hasFakeip_iff : HasFakeip config ↔ req.allowFakeip = true ∧ fakeipPolicyReady policy = true := by
  have hpart := h.dnsPart
  unfold Request.dnsConfig at hpart
  rw [hpolicy] at hpart
  rw [HasFakeip, dns_servers h]
  exact buildSingboxDnsConfig_fakeip hpart

/-- The rule for the addresses, under the condition that the policy preserves domains. -/
theorem resolvesFakeip_of_preserved (hhas : HasFakeip config) (hpres : policy.tunDomainPreservation = true) :
    ResolvesFakeip req policy config ∧ config.storeFakeip = true := by
  obtain ⟨hallow, hrdy⟩ := (hasFakeip_iff h hpolicy).mp hhas
  have hrt : tunDomainPreservationRoute policy req.allowFakeip = [fakeipResolveRule policy] := by
    simp [tunDomainPreservationRoute, hallow, hrdy, hpres, fakeipResolveRule]
  rw [HasFakeip, dns_servers h] at hhas
  cases dns with
  | none =>
    obtain ⟨server, hserv, -⟩ := hhas
    cases hserv
  | some d =>
    refine ⟨⟨dnsHijackRoute policy ++ req.modeRouteRules, ?_⟩, ?_⟩
    · rw [h.parts.rules]
      simp [Request.dnsRoutes, hpolicy, hrt]
    · rw [show config.storeFakeip = _ from congrArg View.storeFakeip h.view, hpolicy]
      simp [hrt]

theorem preserved_of_storeFakeip (hstore : config.storeFakeip = true) :
    HasFakeip config ∧ policy.tunDomainPreservation = true := by
  rw [show config.storeFakeip = _ from congrArg View.storeFakeip h.view, hpolicy] at hstore
  simp only [tunDomainPreservationRoute, Option.any_some, ne_eq, ite_eq_right_iff, reduceCtorEq,
    imp_false, not_not, Bool.and_eq_true, decide_eq_true_iff] at hstore
  obtain ⟨-, ⟨hallow, hpres⟩, hrdy⟩ := hstore
  exact ⟨(hasFakeip_iff h hpolicy).mpr ⟨hallow, hrdy⟩, hpres⟩

end

end Generated

/-- **FakeIP is all or nothing** exactly if the policy preserves domains wherever a FakeIP server is
made: then the server comes with the rule for its addresses and the cache file, and without the
preservation, with a native transport or without TUN no query is answered with FakeIP. -/
theorem fakeip_all_or_nothing (host : Host) (req : Request) (policy : DNSPolicy) (config : SingBoxConfig)
    (hpolicy : req.dnsPolicy = some policy) (h : req.generate host = .ok config) :
    ((HasFakeip config ↔ ResolvesFakeip req policy config ∧ config.storeFakeip = true) ∧
      (policy.tunDomainPreservation = false ∨ req.nativeTransport = true ∨ req.tunActive = false →
        ¬ AnswersFakeip config)) ↔
    (req.allowFakeip = true → fakeipPolicyReady policy = true → policy.tunDomainPreservation = true) := by
  obtain ⟨targets, dns, hgen⟩ := generate_ok h
  have hhas := hasFakeip_iff hgen hpolicy
  constructor
  · rintro ⟨hagr, -⟩ hallow hrdy
    exact (preserved_of_storeFakeip hgen hpolicy (hagr.mp (hhas.mpr ⟨hallow, hrdy⟩)).2).2
  · intro hpres
    refine ⟨⟨fun hfake => ?_, fun hboth => (preserved_of_storeFakeip hgen hpolicy hboth.2).1⟩, ?_⟩
    · obtain ⟨hallow, hrdy⟩ := hhas.mp hfake
      exact resolvesFakeip_of_preserved hgen hpolicy hfake (hpres hallow hrdy)
    · rintro hoff ⟨server, hserv, htype, -⟩
      obtain ⟨hallow, hrdy⟩ := hhas.mp ⟨server, hserv, htype⟩
      rcases hoff with hoff | hnat | htun
      · exact absurd ((hpres hallow hrdy).symm.trans hoff) nofun
      · simp [Request.allowFakeip, hnat] at hallow
      · simp [Request.allowFakeip, htun] at hallow

def labTun (preservation : Bool) : Request :=
  { labRequest "node" with
    captureModes := some ["tun"]
    dnsPolicy := some { labDns with tunDomainPreservation := preservation } }

theorem fakeip_all_or_nothing_preserved : ∃ config, (labTun true).generate labHost = .ok config ∧
    (HasFakeip config ↔ ResolvesFakeip (labTun true) labDns config ∧ config.storeFakeip = true) :=
  ⟨_, rfl, ((fakeip_all_or_nothing labHost (labTun true) labDns _ rfl rfl).mpr fun _ _ => rfl).1⟩

/-- **FakeIP without preservation.** Queries are answered with addresses that no rule turns back
into names and that nothing keeps. -/
theorem fakeip_without_preservation : ∃ config, (labTun false).generate labHost = .ok config ∧
    AnswersFakeip config ∧
    (∀ rule ∈ config.rules, rule.action ≠ .resolve) ∧ config.storeFakeip = false :=
  ⟨_, rfl, by decide +kernel, by decide +kernel, rfl⟩

end WatchdogVpn.SingBox
