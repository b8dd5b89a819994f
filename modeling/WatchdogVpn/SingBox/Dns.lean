import WatchdogVpn.Lib.Lists
import WatchdogVpn.Rules.SingBox

/-!
# The DNS part of the configuration

`build_singbox_dns_config` makes a server of every enabled resolver, named after its channel and its
place in it, and rules that send queries to the first server of a channel.

* `channelServerList_ok`: the servers that come out, channel by channel.
* `buildSingboxDnsConfig_none`, `buildSingboxDnsConfig_some`: when there is a DNS part, and what is
  in it.
-/

namespace WatchdogVpn.SingBox

open List
open PyText (Text strip)
open Dns (DNSPolicy DNSChannelName DNSRule Resolver ParsedResolver ResolverHost)
open Rules (RouteField FieldValues rstripDots)
open Effect (except_bind_ok)

/-! ## What is generated -/

structure DnsServer where
  type : String
  tag : String
  server : Option String := none
  serverPort : Option Nat := none
  path : Option String := none
  domainResolver : Option String := none
  detour : Option String := none
  /-- The two ranges of a FakeIP server. -/
  ranges : Option (String × String) := none
  /-- The addresses of a hosts server. -/
  predefined : PyDict String (List String) := []
  deriving DecidableEq

/-- The fields of a DNS rule. Those of the policy for applications are the ones of the route rules.
-/
inductive DnsField
  | domain
  | domainSuffix
  | domainKeyword
  | domainRegex
  | geosite
  | queryType
  | route (field : RouteField)
  deriving DecidableEq

inductive DnsAction
  | server (tag : String)
  | reject
  deriving DecidableEq

structure DnsRule where
  fields : List (DnsField × FieldValues) := []
  ruleSet : List String := []
  action : DnsAction
  deriving DecidableEq

/-- A domain resolver is the tag of a server, or the tag and a client subnet. -/
structure DomainResolver where
  server : String
  clientSubnet : Option String := none
  deriving DecidableEq

structure DnsConfig where
  servers : List DnsServer
  rules : List DnsRule
  final : String
  deriving DecidableEq

structure SingBoxDNSConfig where
  config : DnsConfig
  channelServers : PyDict DNSChannelName (List String)
  directDomainResolver : Option DomainResolver
  proxyDomainResolver : Option String

/-! ## Servers -/

/-- `CHANNEL_TAGS`. -/
def channelTag : DNSChannelName → String
  | .bootstrap => "bootstrap"
  | .dnsServer => "dns-server"
  | .proxyServer => "proxy-server"
  | .direct => "direct"
  | .proxy => "proxy"
  | .final => "final"

def fakeipServerTag : String := "watchdogvpn-fakeip"

def staticIpServerTag : String := "watchdogvpn-static-ip"

def dnsHijackInboundTags : List String := ["watchdogvpn-dns-udp-in", "watchdogvpn-dns-tcp-in"]

def serverTag (channel : DNSChannelName) (index : Nat) : String :=
  "watchdogvpn-" ++ channelTag channel ++ "-" ++ toString (index + 1)

/-- `_resolver_needs_domain_resolver`. -/
def needsDomainResolver : ParsedResolver → Bool
  | .tls (.name _) _ | .https (.name _) _ _ => true
  | _ => false

variable (policy : DNSPolicy)

def plannedBootstrapTag : Option String :=
  match policy.channels.get .bootstrap with
  | none => none
  | some resolvers =>
    (resolvers.zipIdx.find? fun r => r.1.enabled && !needsDomainResolver r.1.parsed).map fun r =>
      serverTag .bootstrap r.2

def parsedResolverToServer (parsed : ParsedResolver) (tag : String) : DnsServer :=
  let network (type host) port defaultPort : DnsServer :=
    { type, tag, server := some host, serverPort := some ((port.filter (· ≠ 0)).getD defaultPort) }
  match parsed with
  | .localTransport => { type := "local", tag }
  | .dhcp => { type := "dhcp", tag }
  | .udp address port => network "udp" address port 53
  | .tcp address port => network "tcp" address port 53
  | .tls host port => network "tls" host.text port 853
  | .https host port path =>
    { network "https" host.text port 443 with path := some (if path = "" then "/dns-query" else path) }

/-- A server with a name for its host needs another one to resolve it. -/
def withDomainResolver (parsed : ParsedResolver) (bootstrapTag : Option String) (server : DnsServer) :
    Except String DnsServer :=
  if needsDomainResolver parsed then
    match bootstrapTag with
    | none => .error ("hostname DNS resolver requires an enabled bootstrap resolver " ++
        "using an IP address, local, or DHCP transport")
    | some bootstrap => .ok { server with domainResolver := some bootstrap }
  else .ok server

def resolverToSingboxServer (resolver : Resolver) (tag : String) (channel : DNSChannelName)
    (proxyOutboundTag : String) (bootstrapTag : Option String) : Except String DnsServer := do
  let server ← withDomainResolver resolver.parsed bootstrapTag (parsedResolverToServer resolver.parsed tag)
  return {
    server with
    detour :=
      if channel = .proxy then some proxyOutboundTag
      else if resolver.parsed.isLocal then none
      else some "direct" }

/-- The enabled resolvers of a channel with their places. -/
def enabledResolvers (resolvers : List Resolver) : List (Resolver × Nat) :=
  resolvers.zipIdx.filter (·.1.enabled)

def channelServerList (proxyOutboundTag : String) : Except String (List DnsServer) := do
  let servers ← policy.channels.mapM fun channel =>
    (enabledResolvers channel.2).mapM fun r =>
      resolverToSingboxServer r.1 (serverTag channel.1 r.2) channel.1 proxyOutboundTag
        (plannedBootstrapTag policy)
  return servers.flatten

/-- `channel_servers`: the tags of the channels that have a server. -/
def channelServersOf : PyDict DNSChannelName (List String) :=
  policy.channels.filterMap fun channel =>
    let tags := (enabledResolvers channel.2).map fun r => serverTag channel.1 r.2
    if tags = [] then none else some (channel.1, tags)

variable (channelServers : PyDict DNSChannelName (List String))

def firstTag (channel : DNSChannelName) : Option String :=
  (channelServers.get channel).bind head?

/-! ## FakeIP and static addresses -/

def fakeipPolicyReady : Bool :=
  policy.mode ≠ .off && policy.proxyResolutionChannel == "fakeip" &&
    (policy.channels.get .proxy).any fun resolvers => resolvers.any (·.enabled)

def fakeipEnabled (allowFakeip : Bool) : Bool :=
  allowFakeip && fakeipPolicyReady policy && (channelServers.get .proxy).isSome

def fakeipServer : DnsServer :=
  { type := "fakeip", tag := fakeipServerTag,
    ranges := some (policy.fakeipInet4Range, policy.fakeipInet6Range) }

/-- `_static_ip_enabled`. -/
def staticIpOn : Bool :=
  policy.mode ≠ .off && policy.staticIpEnabled && policy.staticIps.any (·.enabled)

/-- `_static_ip_server`; one address stands for itself, several for a list. -/
def staticIpServer : DnsServer :=
  { type := "hosts", tag := staticIpServerTag,
    predefined := (policy.staticIps.filter (·.enabled)).foldl (fun d entry =>
      d.set entry.domain ((d.get entry.domain).getD [] ++ [entry.ip])) [] }

def staticIpRule : DnsRule :=
  { fields := [(.domain,
    .texts ((((policy.staticIps.filter (·.enabled)).map (·.domain)).reverse.dedup.reverse).map
      (·.toList)))], action := .server staticIpServerTag }

/-! ## The graph of domain resolvers -/

/-- `visit`: follows the resolvers of a server. What is done is not gone through again, and a server
on the way is a cycle. -/
def visitResolver (dependencies : PyDict String String) : Nat → List String → List String → String →
    Except String (List String)
  | 0, _, path, tag => .error ("DNS domain resolver dependency cycle: " ++ " -> ".intercalate (path ++ [tag]))
  | fuel + 1, done, path, tag =>
    if tag ∈ path then .error ("DNS domain resolver dependency cycle: " ++ " -> ".intercalate
      (path.dropWhile (· ≠ tag) ++ [tag]))
    else if tag ∈ done then .ok done
    else
      match dependencies.get tag with
      | none => .ok (tag :: done)
      | some dependency => do
        let done ← visitResolver dependencies fuel done (path ++ [tag]) dependency
        return tag :: done

/-- `_validate_domain_resolver_graph`. A way without a cycle is not longer than the graph. -/
def validateDomainResolverGraph (servers : List DnsServer) : Except String Unit := do
  let tags := servers.map (·.tag)
  let dependencies : PyDict String String := servers.filterMap fun server =>
    server.domainResolver.map fun resolver => (server.tag, resolver)
  match dependencies.find? fun d => !tags.contains d.2 with
  | some (tag, resolver) => .error ("DNS server " ++ tag ++ " references unknown domain resolver " ++ resolver)
  | none =>
    discard (dependencies.foldlM (fun done d =>
      visitResolver dependencies (dependencies.length + 2) done [] d.1) [])

/-! ## Rules -/

variable (lower : Text → Text)

/-- `_dns_rule_match_fields`: the field and the values, or the rule sets. -/
def dnsRuleMatchFields (pattern : Text) : Except String (List (DnsField × FieldValues) × List String) :=
  let type := pattern.takeWhile (· ≠ ':')
  let value := strip (pattern.drop (type.length + 1))
  match String.ofList type with
  | "domain" => .ok ([(.domain, .texts [rstripDots (lower value)])], [])
  | "suffix" => .ok ([(.domainSuffix, .texts [rstripDots (lower value)])], [])
  | "keyword" => .ok ([(.domainKeyword, .texts [value])], [])
  | "regex" => .ok ([(.domainRegex, .texts [value])], [])
  | "geosite" => .ok ([(.geosite, .texts [value])], [])
  | "rule_set" => .ok ([], [String.ofList value])
  | _ => .error "unsupported dns rule pattern type"

def dnsDiversionRule (policy : DNSPolicy) (channelServers : PyDict DNSChannelName (List String))
    (allowFakeip : Bool) (rule : DNSRule) : Except String DnsRule := do
  let (fields, ruleSet) ← dnsRuleMatchFields lower rule.pattern
  match rule.action with
  | .reject => return { fields, ruleSet, action := .reject }
  | .useChannel channel =>
    let server := if channel = .proxy ∧
      fakeipEnabled policy channelServers allowFakeip then some fakeipServerTag
      else firstTag channelServers channel
    match server with
    | none => .error ("dns diversion rule channel has no server: " ++ channel.value)
    | some server => return { fields, ruleSet, action := .server server }

/-- `_dns_diversion_rules`, by priority and then in their order. -/
def dnsDiversionRules (policy : DNSPolicy) (channelServers : PyDict DNSChannelName (List String))
    (allowFakeip : Bool) : Except String (List DnsRule) :=
  if policy.mode = .off ∨ policy.rulesEnabled = false then .ok []
  else
    ((policy.rules.insertionSort fun a b => a.priority ≤ b.priority).filter (·.enabled)).mapM
      (dnsDiversionRule lower policy channelServers allowFakeip)

def buildChannelRules (policy : DNSPolicy) (channelServers : PyDict DNSChannelName (List String))
    (allowFakeip : Bool) : Except String (List DnsRule) := do
  let diversions ← dnsDiversionRules lower policy channelServers allowFakeip
  return (if staticIpOn policy then [staticIpRule policy] else []) ++ diversions ++
    (if fakeipEnabled policy channelServers allowFakeip then
      [{ fields := [(.queryType, .texts ["A".toList, "AAAA".toList])]
         action := .server fakeipServerTag }] else [])

def finalServer : Option String :=
  (firstTag channelServers .final).or ((firstTag channelServers .proxy).or ((firstTag channelServers .direct).or
    (channelServers.head?.bind (·.2.head?))))

/-! ## The whole -/

/-- The servers in their order: the static addresses first, FakeIP last. -/
def allServers (allowFakeip : Bool) (servers : List DnsServer) : List DnsServer :=
  (if staticIpOn policy then [staticIpServer policy] else []) ++ servers ++
    (if fakeipEnabled policy (channelServersOf policy) allowFakeip then [fakeipServer policy] else [])

def directDomainResolverOf : Option DomainResolver :=
  (firstTag (channelServersOf policy) .direct).map fun server =>
    { server := server,
      clientSubnet := if policy.ecsDirectEnabled then policy.ecsDirectSubnet.filter (· ≠ "") else none }

def proxyDomainResolverOf (allowFakeip : Bool) : Option String :=
  if fakeipEnabled policy (channelServersOf policy) allowFakeip then some fakeipServerTag
  else firstTag (channelServersOf policy) .proxy

def buildSingboxDnsConfig (policy : DNSPolicy) (proxyOutboundTag : String) (allowFakeip : Bool) :
    Except String (Option SingBoxDNSConfig) :=
  if policy.mode = .off then .ok none
  else do
    let servers ← channelServerList policy proxyOutboundTag
    if servers = [] then return none
    let servers := allServers policy allowFakeip servers
    validateDomainResolverGraph servers
    let rules ← buildChannelRules lower policy (channelServersOf policy) allowFakeip
    match finalServer (channelServersOf policy) with
    | none => .error "StopIteration"
    | some final =>
      return some {
        config := { servers := servers, rules, final }
        channelServers := channelServersOf policy
        directDomainResolver := directDomainResolverOf policy
        proxyDomainResolver := proxyDomainResolverOf policy allowFakeip }

/-! ## What is returned -/

section Built

variable {lower : Text → Text} {policy : DNSPolicy} {proxyOutboundTag : String} {allowFakeip : Bool}
  {servers : List DnsServer} {channel : DNSChannelName} {tag : String}

def serverOf (policy : DNSPolicy) (proxyOutboundTag : String) (channel : DNSChannelName) (r : Resolver × Nat) :
    DnsServer :=
  { parsedResolverToServer r.1.parsed (serverTag channel r.2) with
    domainResolver := if needsDomainResolver r.1.parsed then plannedBootstrapTag policy else none
    detour :=
      if channel = .proxy then some proxyOutboundTag
      else if r.1.parsed.isLocal then none
      else some "direct" }

theorem parsedResolverToServer_spec (parsed : ParsedResolver) (tag : String) :
    (parsedResolverToServer parsed tag).tag = tag ∧ (parsedResolverToServer parsed tag).type ≠ "fakeip" ∧
      (parsedResolverToServer parsed tag).domainResolver = none := by
  cases parsed <;> exact ⟨rfl, by simp [parsedResolverToServer], rfl⟩

theorem resolverToSingboxServer_ok {r : Resolver × Nat} {server : DnsServer}
    (h : resolverToSingboxServer r.1 (serverTag channel r.2) channel proxyOutboundTag
      (plannedBootstrapTag policy) =
      .ok server) : server = serverOf policy proxyOutboundTag channel r := by
  obtain ⟨base, hbase, h⟩ := except_bind_ok h
  cases h
  unfold serverOf
  unfold withDomainResolver at hbase
  split at hbase
  · rename_i hneeds
    split at hbase
    · cases hbase
    rename_i bootstrap hboot
    cases hbase
    rw [if_pos hneeds, hboot]
  · rename_i hno
    cases hbase
    rw [if_neg hno, ← (parsedResolverToServer_spec _ _).2.2]

theorem channelServerList_ok (h : channelServerList policy proxyOutboundTag = .ok servers) :
    servers = policy.channels.flatMap fun entry =>
      (enabledResolvers entry.2).map (serverOf policy proxyOutboundTag entry.1) := by
  obtain ⟨lists, hlists, h⟩ := except_bind_ok h
  cases h
  refine congrArg _ (Lists.mapM_ok_eq hlists fun entry list hlist => ?_)
  exact Lists.mapM_ok_eq hlist fun r server hserv => resolverToSingboxServer_ok hserv

theorem channelServersOf_mem {entry : DNSChannelName × List String} (h : entry ∈ channelServersOf policy) :
    entry.2 ≠ [] ∧ ∃ resolvers, (entry.1, resolvers) ∈ policy.channels ∧
      entry.2 = (enabledResolvers resolvers).map fun r => serverTag entry.1 r.2 := by
  obtain ⟨channel, hchan, hsome⟩ := mem_filterMap.mp h
  simp only at hsome
  split at hsome
  · cases hsome
  rename_i hne
  cases hsome
  exact ⟨hne, channel.2, hchan, rfl⟩

theorem mem_channelServersOf {resolvers : List Resolver} {r : Resolver × Nat}
    (hmem : (channel, resolvers) ∈ policy.channels) (hr : r ∈ enabledResolvers resolvers) :
    ∃ entry ∈ channelServersOf policy, entry.1 = channel :=
  ⟨_, mem_filterMap.mpr ⟨_, hmem, if_neg (ne_nil_of_mem (mem_map_of_mem hr))⟩, rfl⟩

theorem exists_enabledResolver {resolvers : List Resolver} (hany : resolvers.any (·.enabled) = true) :
    ∃ r, r ∈ enabledResolvers resolvers := by
  obtain ⟨r, hr, hen⟩ := any_eq_true.mp hany
  obtain ⟨i, hi, rfl⟩ := mem_iff_getElem.mp hr
  exact ⟨(resolvers[i], i), mem_filter.mpr ⟨mk_mem_zipIdx_iff_getElem?.mpr (getElem?_eq_getElem hi), hen⟩⟩

section

variable (h : channelServerList policy proxyOutboundTag = .ok servers)
include h

theorem channelServersOf_declared {entry : DNSChannelName × List String}
    (hent : entry ∈ channelServersOf policy)
    (htag : tag ∈ entry.2) : tag ∈ servers.map (·.tag) := by
  obtain ⟨-, resolvers, hres, heq⟩ := channelServersOf_mem hent
  rw [heq] at htag
  obtain ⟨r, hr, rfl⟩ := mem_map.mp htag
  rw [channelServerList_ok h]
  exact mem_map.mpr ⟨_, mem_flatMap.mpr ⟨_, hres, mem_map_of_mem hr⟩, (parsedResolverToServer_spec _ _).1⟩

theorem firstTag_declared (htag : firstTag (channelServersOf policy) channel = some tag) :
    tag ∈ servers.map (·.tag) := by
  obtain ⟨tags, hget, hhead⟩ := Option.bind_eq_some_iff.mp htag
  exact channelServersOf_declared h (PyDict.mem_of_get hget) (mem_of_mem_head? hhead)

end

/-- There is a DNS part unless the policy is off or has no server. -/
theorem buildSingboxDnsConfig_none
    (h : buildSingboxDnsConfig lower policy proxyOutboundTag allowFakeip = .ok none) :
    policy.mode = .off ∨ channelServerList policy proxyOutboundTag = .ok [] := by
  unfold buildSingboxDnsConfig at h
  split at h
  · exact .inl ‹_›
  obtain ⟨servers, hservs, h⟩ := except_bind_ok h
  split at h
  · rename_i hnil
    exact .inr (hnil ▸ hservs)
  obtain ⟨-, -, h⟩ := except_bind_ok h
  obtain ⟨rules, -, h⟩ := except_bind_ok h
  split at h <;> cases h

variable {dns : SingBoxDNSConfig}
  (h : buildSingboxDnsConfig lower policy proxyOutboundTag allowFakeip = .ok (some dns))
include h

theorem buildSingboxDnsConfig_some :
    ∃ servers rules final, channelServerList policy proxyOutboundTag = .ok servers ∧
    validateDomainResolverGraph (allServers policy allowFakeip servers) = .ok () ∧
    buildChannelRules lower policy (channelServersOf policy) allowFakeip = .ok rules ∧
    finalServer (channelServersOf policy) = some final ∧
    dns = ⟨⟨allServers policy allowFakeip servers, rules, final⟩, channelServersOf policy,
      directDomainResolverOf policy, proxyDomainResolverOf policy allowFakeip⟩ := by
  unfold buildSingboxDnsConfig at h
  split at h
  · cases h
  obtain ⟨servers, hservs, h⟩ := except_bind_ok h
  split at h
  · cases h
  obtain ⟨⟨⟩, hgraph, h⟩ := except_bind_ok h
  obtain ⟨rules, hrules, h⟩ := except_bind_ok h
  split at h
  · cases h
  cases h
  exact ⟨servers, rules, _, hservs, hgraph, hrules, ‹_›, rfl⟩

end Built

end WatchdogVpn.SingBox
