import WatchdogVpn.Rules.Lifecycle
import WatchdogVpn.ShareLink.Dial
import WatchdogVpn.SingBox.Dns

/-!
# The configuration of sing-box

`generate_singbox_config` puts the outbound of the profile first, then those of the hops of every
resolved chain, and adds a `direct` outbound and one for every management route where none of that
name is there. The route rules come in blocks: native bypass, management, FakeIP, DNS hijack, and
the rules of the mode. What the machine says of interfaces is left open (`Host`).
-/

namespace WatchdogVpn.SingBox

open PyText (Text)
open ShareLink (Profile ConfigValue)
open Dns (DNSPolicy DNSChannelName)
open Chains (ChainRuntimePlan ChainRuntimeHopPlan)
open Rules (Action AppPolicy AppPolicyAction AppPolicyRule RouteContext RouteRule RuleGroup RuleSetDeclaration)

/-! ## What is generated -/

structure Inbound where
  type : String
  tag : String
  listen : Option String := none
  listenPort : Option Nat := none
  routeExcludeAddress : List String := []
  deriving DecidableEq

structure Outbound where
  type : String
  tag : String
  server : Option ConfigValue := none
  serverPort : Option Int := none
  detour : Option String := none
  domainResolver : Option DomainResolver := none
  bindInterface : Option String := none
  deriving DecidableEq

structure SingBoxConfig where
  inbounds : List Inbound := []
  outbounds : List Outbound := []
  endpoints : List Outbound := []
  dns : Option DnsConfig := none
  rules : List RouteRule := []
  ruleSet : List RuleSetDeclaration := []
  defaultDomainResolver : Option String := none
  /-- The cache file that FakeIP needs. -/
  storeFakeip : Bool := false

/-! ## What it is generated from -/

inductive ConnectionMode
  | rules
  | global
  | direct
  | tun
  | proxy
  deriving DecidableEq

structure LanProxy where
  bindAddress : String
  socksPort : Nat
  httpPort : Nat

structure Request where
  profile : Profile
  dnsPolicy : Option DNSPolicy := none
  mode : ConnectionMode := .global
  groups : List RuleGroup := []
  appPolicy : Option AppPolicy := none
  finalPolicy : Action := .simple .currentProfile
  ruleSetTags : PyDict String String := []
  ruleSetDeclarations : List RuleSetDeclaration := []
  chainRuntimePlans : PyDict String ChainRuntimePlan := []
  lanProxy : Option LanProxy := none
  captureModes : Option (List String) := none
  managementPeers : List String := []
  nativeTransport : Bool := false
  nativeBypassCidrs : List String := []
  nativeEgressInterface : Option String := none
  managementRoutes : PyDict String String := []

structure Host where
  lib : ShareLink.Library
  lower : Text → Text
  /-- `_outbound_bind_interface`. -/
  bindInterface : Profile → Option String

/-! ## Outbounds -/

/-- Changes the first element with a property, if there is one. -/
def modifyFirst {α : Type} (p : α → Bool) (f : α → α) : List α → Option (List α)
  | [] => none
  | a :: l => if p a then some (f a :: l) else (modifyFirst p f l).map (a :: ·)

/-- What `_ensure_direct_outbound` does to a `direct` outbound that is there. -/
def updateDirect (domainResolver : Option DomainResolver) (bindInterface : Option String)
    (o : Outbound) : Outbound :=
  { o with
    domainResolver := domainResolver.or o.domainResolver
    bindInterface := o.bindInterface.or bindInterface }

def ensureDirectOutbound (domainResolver : Option DomainResolver) (bindInterface : Option String)
    (outbounds : List Outbound) : List Outbound :=
  match modifyFirst (·.tag == "direct") (updateDirect domainResolver bindInterface) outbounds with
  | some outbounds => outbounds
  | none => outbounds ++ [{ type := "direct", tag := "direct", domainResolver,
                            bindInterface := bindInterface }]

def ensureManagementOutbound (outbounds : List Outbound) (tag bindInterface : String) : List Outbound :=
  if outbounds.any (·.tag == tag) then outbounds
  else outbounds ++ [{ type := "direct", tag, bindInterface := some bindInterface }]

/-- A tag for a target: the endpoint of WireGuard takes an empty one for none. -/
def targetTag (profile : Profile) : Option String → String
  | none => profile.name
  | some tag => if profile.protocol = .wireguard ∧ tag = "" then profile.name else tag

/-- `_profile_to_route_target`, before the target is put in. -/
def Host.routeTarget (host : Host) (profile : Profile) (tag detour : Option String) :
    Except String Outbound := do
  let target ← host.lib.profileToRouteTarget profile
  return { type := target.type, tag := targetTag profile tag, server := target.server,
           serverPort := target.serverPort, detour := detour, bindInterface := host.bindInterface profile }

/-- WireGuard targets are endpoints. -/
def addTarget (config : SingBoxConfig) (profile : Profile) (target : Outbound) : SingBoxConfig :=
  if profile.protocol = .wireguard then { config with endpoints := config.endpoints ++ [target] }
  else { config with outbounds := config.outbounds ++ [target] }

/-- The profile and the tag of a hop that has both. -/
def usableHop (hop : ChainRuntimeHopPlan) : Option (Profile × String) :=
  match hop.resolvedProfile, hop.outboundTag with
  | some profile, some tag => some (profile, tag)
  | _, _ => none

/-- The hops of a plan that become outbounds. -/
def usableHops (plan : ChainRuntimePlan) : List (Profile × String) :=
  if plan.resolved = false then [] else plan.hops.filterMap usableHop

/-- The loop over the hops: each goes through the one before it. -/
def Host.appendHops (host : Host) : Option String → List (Profile × String) → SingBoxConfig →
    Except String SingBoxConfig
  | _, [], config => .ok config
  | previous, (profile, tag) :: hops, config => do
    let target ← host.routeTarget profile (some tag) previous
    host.appendHops (some tag) hops (addTarget config profile target)

def Host.appendChainOutbounds (host : Host) (plans : PyDict String ChainRuntimePlan) (config : SingBoxConfig) :
    Except String SingBoxConfig :=
  plans.foldlM (fun config entry => host.appendHops none (usableHops entry.2) config) config

/-! ## Inbounds -/

def tunInboundTag : String := "watchdogvpn-tun-in"

def buildInbounds (lanProxy : Option LanProxy) : List Inbound :=
  let own : List Inbound := [
    { type := "socks", tag := "watchdogvpn-socks-in", listen := some "127.0.0.1", listenPort := some 2080 },
    { type := "http", tag := "watchdogvpn-http-in", listen := some "127.0.0.1", listenPort := some 2081 }]
  match lanProxy with
  | none => own
  | some lan => own ++ [
    { type := "socks", tag := "watchdogvpn-lan-socks-in", listen := some lan.bindAddress,
      listenPort := some lan.socksPort },
    { type := "http", tag := "watchdogvpn-lan-http-in", listen := some lan.bindAddress,
      listenPort := some lan.httpPort }]

/-- `_mode_requires_tun`. -/
def Request.tunActive (req : Request) : Bool :=
  match req.captureModes with
  | some modes => modes.contains "tun"
  | none => req.mode = .tun

def dnsHijackInbounds (policy : DNSPolicy) : List Inbound :=
  if policy.mode = .off ∨ policy.tunHijack = false then []
  else dnsHijackInboundTags.map fun tag =>
    { type := "direct", tag, listen := some "127.0.0.1", listenPort := some 53 }

/-! ## Routes -/

/-- `build_tun_domain_preservation_route`. -/
def tunDomainPreservationRoute (policy : DNSPolicy) (allowFakeip : Bool) : List RouteRule :=
  if allowFakeip && policy.tunDomainPreservation && fakeipPolicyReady policy then
    [{ fields := [(.inbound, .texts [tunInboundTag.toList]),
        (.condition .ipCidr, .texts [policy.fakeipInet4Range.toList, policy.fakeipInet6Range.toList])],
       action := .resolve }]
  else []

/-- `build_dns_hijack_route`. -/
def dnsHijackRoute (policy : DNSPolicy) : List RouteRule :=
  if policy.mode = .off ∨ policy.tunHijack = false then []
  else [
    { action := .sniff },
    { fields := [(.condition .protocol, .texts ["dns".toList])], action := .hijackDns },
    { fields := [(.inbound, .texts (dnsHijackInboundTags.map (·.toList)))], action := .hijackDns }]

def hostRoute (peer : String) : String := if peer.toList.contains ':' then peer ++ "/128" else peer ++ "/32"

def managementRule (peer outbound : String) : RouteRule :=
  { fields := [(.condition .ipCidr, .texts [(hostRoute peer).toList])], action := .route outbound }

def nativeBypassRule (cidr : String) : RouteRule :=
  { fields := [(.condition .ipCidr, .texts [cidr.toList]), (.condition .network, .texts ["udp".toList])],
    action := .bypass }

def managementTag (index : Nat) : String := "watchdogvpn-management-" ++ toString index

/-- The routes in order, each with its tag and its interface. -/
def managementEntries (routes : PyDict String String) : List (String × String × String) :=
  ((routes.insertionSort fun a b => a.1 ≤ b.1).zipIdx 1).map fun e => (e.1.1, managementTag e.2, e.1.2)

/-! ## DNS -/

def dnsProxyOutboundTag (ctx : RouteContext) (mode : ConnectionMode) (finalPolicy : Action) : String :=
  match mode, finalPolicy with
  | .rules, _ => ctx.currentOutboundTag
  | _, .chain text _ => (ctx.chainTag text).getD ctx.currentOutboundTag
  | _, _ => ctx.currentOutboundTag

/-- The action of one rule of `_app_policy_dns_rules`. -/
def appPolicyDnsAction (dns : SingBoxDNSConfig) : AppPolicyAction → DnsAction
  | .block => .reject
  | .direct =>
    match firstTag dns.channelServers .direct with
    | some server => .server server
    | none => .reject
  | _ => .server ((dns.proxyDomainResolver.or (firstTag dns.channelServers .proxy)).getD dns.config.final)

def appPolicyDnsRules (appPolicy : Option AppPolicy) (dns : SingBoxDNSConfig) : List DnsRule :=
  match appPolicy with
  | none => []
  | some policy =>
    if policy.enabled = false then []
    else (policy.rules.filter (·.enabled)).map fun rule =>
      { fields := rule.matchers.map fun m =>
        (.route (RouteContext.matcherField m).1, (RouteContext.matcherField m).2),
        action := appPolicyDnsAction dns rule.action }

/-- The resolver for the name of the profile's own server: one that does not go through the profile.
-/
def outboundResolver (dns : SingBoxDNSConfig) : Option String :=
  (firstTag dns.channelServers .direct).or ((firstTag dns.channelServers .bootstrap).or
    (if dns.config.final ∈ (dns.channelServers.get .proxy).getD [] then none else some dns.config.final))

def needsDirectOutbound (dns : SingBoxDNSConfig) : Bool :=
  dns.directDomainResolver.isSome || dns.channelServers.any fun channel => channel.1 ≠ .proxy

/-! ## The whole -/

namespace Request

variable (host : Host) (req : Request)

def nativeBindInterface : String := Rules.stripped (req.nativeEgressInterface.getD "")

/-- The tag of the outbound that the profile stands for. -/
def currentTag : String := if req.nativeTransport then "direct" else req.profile.name

def routeContext : RouteContext :=
  { currentOutboundTag := req.currentTag, ruleSetTags := if req.mode = .rules then req.ruleSetTags else []
    chainRuntimePlans := req.chainRuntimePlans }

def directBindInterface : Option String :=
  if req.nativeTransport then some req.nativeBindInterface else host.bindInterface req.profile

/-- The configuration with the outbound of the profile in it. -/
def startConfig : Except String SingBoxConfig :=
  let config : SingBoxConfig := { inbounds := buildInbounds req.lanProxy }
  if req.nativeTransport then
    if req.nativeBindInterface = "" then .error "native_transport requires native_egress_interface"
    else
      .ok { config with outbounds := ensureDirectOutbound none (some req.nativeBindInterface) config.outbounds }
  else do
    let target ← host.routeTarget req.profile none none
    return addTarget config req.profile target

/-- `enable_tun_domain_preservation`. -/
def allowFakeip : Bool := req.tunActive && !req.nativeTransport

/-- The rules that the mode evaluates, and its final policy. -/
def effectiveGroups : List RuleGroup := if req.mode = .rules then req.groups else []

@[inherit_doc effectiveGroups]
def effectiveFinalPolicy : Action := if req.mode = .direct then .simple .direct else req.finalPolicy

def effectiveAppPolicy : Option AppPolicy := if req.mode = .rules then req.appPolicy else none

def dnsConfig : Except String (Option SingBoxDNSConfig) :=
  match req.dnsPolicy with
  | none => .ok none
  | some policy =>
    buildSingboxDnsConfig host.lower policy
      (dnsProxyOutboundTag req.routeContext req.mode req.finalPolicy) req.allowFakeip

/-- The outbound of the profile gets its resolver. It is the first of its kind. -/
def setMainResolver (resolver : Option String) (config : SingBoxConfig) : SingBoxConfig :=
  match resolver with
  | none => config
  | some server =>
    let set o : Outbound := { o with domainResolver := some { server := server } }
    let config := { config with defaultDomainResolver := some server }
    if req.nativeTransport = false ∧ req.profile.protocol = .wireguard then
      { config with endpoints := config.endpoints.modifyHead set }
    else { config with outbounds := config.outbounds.modifyHead set }

def addDns (policy : DNSPolicy) (dns : SingBoxDNSConfig) (config : SingBoxConfig) : SingBoxConfig :=
  let preservation := tunDomainPreservationRoute policy req.allowFakeip
  let config := { config with
    dns := some { dns.config with rules := appPolicyDnsRules req.effectiveAppPolicy dns ++ dns.config.rules }
    inbounds := config.inbounds ++ dnsHijackInbounds policy
    rules := config.rules ++ preservation ++ dnsHijackRoute policy
    storeFakeip := preservation ≠ [] }
  let config := req.setMainResolver (outboundResolver dns) config
  if needsDirectOutbound dns then
    { config with
      outbounds := ensureDirectOutbound dns.directDomainResolver
        (req.directBindInterface host) config.outbounds }
  else config

def modeRouteRules : List RouteRule :=
  req.routeContext.buildSingboxRouteRules req.effectiveGroups req.effectiveAppPolicy req.effectiveFinalPolicy

def addMode (config : SingBoxConfig) : SingBoxConfig :=
  let config :=
    if req.mode = .rules ∨ req.mode = .direct ∨ req.managementPeers ≠ [] then
      { config with outbounds := ensureDirectOutbound none (req.directBindInterface host) config.outbounds }
    else config
  { config with
    rules := config.rules ++ req.modeRouteRules
    ruleSet := config.ruleSet ++ if req.mode = .rules then req.ruleSetDeclarations else [] }

/-- The management routes, or else the peers, come first, behind the native bypass. -/
def addManagement (config : SingBoxConfig) : SingBoxConfig :=
  let bypass := req.nativeBypassCidrs.map nativeBypassRule
  if req.managementRoutes ≠ [] then
    let entries := managementEntries req.managementRoutes
    { config with
      outbounds := entries.foldl (fun outbounds e => ensureManagementOutbound outbounds e.2.1 e.2.2)
        config.outbounds
      rules := bypass ++ entries.map (fun e => managementRule e.1 e.2.1) ++ config.rules }
  else { config with rules := bypass ++ req.managementPeers.map (managementRule · "direct") ++ config.rules }

/-- `generate_singbox_config`. -/
def generate : Except String SingBoxConfig := do
  match req.finalPolicy with
  | .group text => .error ("unsupported final_policy: " ++ Rules.quoted text)
  | _ => pure ()
  let config ← req.startConfig host
  let config ← host.appendChainOutbounds req.chainRuntimePlans config
  let config := if req.tunActive then
      { config with inbounds := config.inbounds ++
        [{ type := "tun", tag := tunInboundTag, routeExcludeAddress := req.nativeBypassCidrs }] }
    else config
  let dns ← req.dnsConfig host
  let config := match req.dnsPolicy, dns with
    | some policy, some dns => req.addDns host policy dns config
    | _, _ => config
  return req.addManagement (req.addMode host config)

end Request

end WatchdogVpn.SingBox
