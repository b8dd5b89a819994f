import WatchdogVpn.SingBox.Config

/-!
# The shape of a generated configuration

What an outbound is made from is not changed by the builders that come later; only its resolver and
its interface are (`Outbound.core`). What the builders do is put together once, so that the results
about tags, chains and management routes need not go through the builders again.

* `generate_ok`: a configuration that is returned comes from the targets that were made and the DNS
  part.
* **`Generated.parts`**: what is in it.
* `targetSpecs_tags`, `baseCores_tags`: the tags of the profile and the hops, and of the outbounds
  before any is added.
-/

namespace WatchdogVpn.SingBox

open ShareLink (Profile)
open Dns (DNSPolicy)
open Rules (RouteRule)
open Effect (except_bind_ok)
open List Request

/-! ## Targets -/

/-- What a target is made from. -/
structure TargetSpec where
  profile : Profile
  tag : Option String
  detour : Option String

def TargetSpec.finalTag (spec : TargetSpec) : String := targetTag spec.profile spec.tag

def TargetSpec.isEndpoint (spec : TargetSpec) : Bool := spec.profile.protocol = .wireguard

/-- The hops of one chain, each with the tag of the one before it. -/
def hopSpecs : Option String → List (Profile × String) → List TargetSpec
  | _, [] => []
  | previous, (profile, tag) :: hops => ⟨profile, some tag, previous⟩ :: hopSpecs (some tag) hops

namespace Request

variable (host : Host) (req : Request)

/-- The targets of a request, in the order in which they are made. -/
def targetSpecs : List TargetSpec :=
  (if req.nativeTransport then [] else [⟨req.profile, none, none⟩]) ++
    req.chainRuntimePlans.flatMap fun entry => hopSpecs none (usableHops entry.2)

end Request

/-- The target that came out for a specification. -/
def Made (host : Host) (spec : TargetSpec) (target : Outbound) : Prop :=
  host.routeTarget spec.profile spec.tag spec.detour = .ok target

theorem profileToRouteTarget_type {lib : ShareLink.Library} {profile : Profile} {target : ShareLink.RouteTarget}
    (h : lib.profileToRouteTarget profile = .ok target) :
    target.type ≠ "direct" ∧ (target.type = "wireguard" ↔ profile.protocol = .wireguard) := by
  obtain ⟨_, -, h⟩ := except_bind_ok h
  split at h
  · rename_i hw
    cases h
    exact ⟨by simp [ShareLink.Library.wireguardToEndpoint], by simp [ShareLink.Library.wireguardToEndpoint, hw]⟩
  · unfold ShareLink.Library.protocolToOutbound at h
    split at h
    · cases h
      cases hp : profile.protocol <;> simp_all [ShareLink.ProtocolType.value]
    · cases h

variable {host : Host}

theorem Made.facts {spec : TargetSpec} {target : Outbound} (h : Made host spec target) :
    target.tag = spec.finalTag ∧ target.detour = spec.detour ∧ target.type ≠ "direct" ∧
      (target.type = "wireguard" ↔ spec.isEndpoint = true) ∧ target.domainResolver = none := by
  obtain ⟨made, hmade, h⟩ := except_bind_ok h
  cases h
  obtain ⟨hdir, hwire⟩ := profileToRouteTarget_type hmade
  exact ⟨rfl, rfl, hdir, by simpa [TargetSpec.isEndpoint] using hwire, rfl⟩

/-- Puts targets in, each where it belongs. -/
def SingBoxConfig.addAll (config : SingBoxConfig) (targets : List Outbound) : SingBoxConfig :=
  { config with
    outbounds := config.outbounds ++ targets.filter (·.type ≠ "wireguard")
    endpoints := config.endpoints ++ targets.filter (·.type = "wireguard") }

theorem addAll_append (config : SingBoxConfig) (ts us : List Outbound) :
    (config.addAll ts).addAll us = config.addAll (ts ++ us) := by
  simp [SingBoxConfig.addAll]

theorem addAll_nil (config : SingBoxConfig) : config.addAll [] = config := by simp [SingBoxConfig.addAll]

theorem addTarget_eq {spec : TargetSpec} {target : Outbound} (h : Made host spec target)
    (config : SingBoxConfig) : addTarget config spec.profile target = config.addAll [target] := by
  obtain ⟨-, -, -, hwire, -⟩ := h.facts
  unfold addTarget SingBoxConfig.addAll
  by_cases hp : spec.profile.protocol = .wireguard
  · have ht : target.type = "wireguard" := hwire.mpr (by simpa [TargetSpec.isEndpoint] using hp)
    simp [hp, ht]
  · have ht : target.type ≠ "wireguard" := fun heq => hp (by simpa [TargetSpec.isEndpoint] using hwire.mp heq)
    simp [hp, ht]

theorem appendHops_ok : ∀ (hops : List (Profile × String)) previous
    {config config' : SingBoxConfig}, host.appendHops previous hops config = .ok config' →
    ∃ targets, List.Forall₂ (Made host) (hopSpecs previous hops) targets ∧ config' = config.addAll targets
  | [], _, config, config', h => by
    cases h
    exact ⟨[], .nil, (addAll_nil config).symm⟩
  | (profile, tag) :: hops, previous, config, config', h => by
    obtain ⟨target, htgt, h⟩ := except_bind_ok h
    have hmade : Made host ⟨profile, some tag, previous⟩ target := htgt
    obtain ⟨targets, htgts, heq⟩ := appendHops_ok hops (some tag) h
    refine ⟨target :: targets, .cons hmade htgts, ?_⟩
    rw [heq, addTarget_eq hmade, addAll_append]
    rfl

theorem appendChainOutbounds_ok :
    ∀ (plans : PyDict String Chains.ChainRuntimePlan) {config config' : SingBoxConfig},
    host.appendChainOutbounds plans config = .ok config' →
    ∃ targets, List.Forall₂ (Made host)
      (plans.flatMap fun entry => hopSpecs none (usableHops entry.2)) targets ∧
      config' = config.addAll targets
  | [], config, config', h => by
    cases h
    exact ⟨[], .nil, (addAll_nil config).symm⟩
  | entry :: plans, config, config', h => by
    obtain ⟨config1, h1, h⟩ := except_bind_ok h
    obtain ⟨targets, htgts, heq⟩ := appendHops_ok _ _ h1
    obtain ⟨targets', htgts', heq'⟩ := appendChainOutbounds_ok plans h
    refine ⟨targets ++ targets', ?_, ?_⟩
    · rw [flatMap_cons]
      exact rel_append htgts htgts'
    · rw [heq', heq, addAll_append]

/-- The configuration before any target. -/
def Request.bareConfig (req : Request) : SingBoxConfig :=
  { inbounds := buildInbounds req.lanProxy,
    outbounds := if req.nativeTransport then
      [{ type := "direct", tag := "direct", bindInterface := some req.nativeBindInterface }] else [] }

theorem startConfig_ok {req : Request} {config : SingBoxConfig} (h : req.startConfig host = .ok config) :
    ∃ targets, List.Forall₂ (Made host)
      (if req.nativeTransport then [] else [⟨req.profile, none, none⟩]) targets ∧
      config = req.bareConfig.addAll targets := by
  unfold startConfig at h
  unfold bareConfig
  cases hn : req.nativeTransport with
  | true =>
    rw [hn] at h
    simp only [if_true] at h ⊢
    split at h
    · cases h
    cases h
    exact ⟨[], .nil, (addAll_nil _).symm⟩
  | false =>
    rw [hn] at h
    obtain ⟨target, htgt, h⟩ := except_bind_ok h
    cases h
    have hmade : Made host ⟨req.profile, none, none⟩ target := htgt
    exact ⟨[target], .cons hmade .nil, addTarget_eq hmade _⟩

/-! ## Configurations that are returned -/

namespace Request

variable (host : Host) (req : Request)

def addTun (config : SingBoxConfig) : SingBoxConfig :=
  if req.tunActive then
    { config with inbounds := config.inbounds ++
      [{ type := "tun", tag := tunInboundTag, routeExcludeAddress := req.nativeBypassCidrs }] }
  else config

/-- The configuration with the DNS part, if there is one. -/
def addDnsPart (dns : Option SingBoxDNSConfig) (config : SingBoxConfig) : SingBoxConfig :=
  match req.dnsPolicy, dns with
  | some policy, some dns => req.addDns host policy dns config
  | _, _ => config

end Request

/-- A configuration that is generated from the targets and the DNS part. -/
structure Generated (host : Host) (req : Request) (targets : List Outbound) (dns : Option SingBoxDNSConfig)
    (config : SingBoxConfig) : Prop where
  made : List.Forall₂ (Made host) req.targetSpecs targets
  dnsPart : req.dnsConfig host = .ok dns
  finalPolicy : ∀ text, req.finalPolicy ≠ .group text
  built : config = req.addManagement
    (req.addMode host (req.addDnsPart host dns (req.addTun (req.bareConfig.addAll targets))))

theorem generate_ok {req : Request} {config : SingBoxConfig} (h : req.generate host = .ok config) :
    ∃ targets dns, Generated host req targets dns config := by
  unfold generate at h
  have hpol : ∀ text, req.finalPolicy ≠ .group text := by
    intro text heq
    rw [heq] at h
    cases h
  have h : (do
      let config ← req.startConfig host
      let config ← host.appendChainOutbounds req.chainRuntimePlans config
      let dns ← req.dnsConfig host
      return req.addManagement (req.addMode host (req.addDnsPart host dns (req.addTun config)))) =
      Except.ok config := by
    rw [← h]
    cases hp : req.finalPolicy with
    | group text => exact absurd hp (hpol text)
    | simple action => rfl
    | chain text id => rfl
  obtain ⟨config0, h0, h⟩ := except_bind_ok h
  obtain ⟨config1, h1, h⟩ := except_bind_ok h
  obtain ⟨dns, hdns, h⟩ := except_bind_ok h
  obtain ⟨targets, htgts, rfl⟩ := startConfig_ok h0
  obtain ⟨targets', htgts', rfl⟩ := appendChainOutbounds_ok _ h1
  cases h
  refine ⟨targets ++ targets', dns, rel_append htgts htgts', hdns, hpol, ?_⟩
  rw [addAll_append]

/-! ## Cores -/

/-- What does not change any more once an outbound is made: everything but its resolver and its
interface. -/
def Outbound.core (o : Outbound) : Outbound := { o with domainResolver := none, bindInterface := none }

theorem core_tag (outbounds : List Outbound) :
    (outbounds.map Outbound.core).map (·.tag) = outbounds.map (·.tag) := by
  rw [map_map]
  rfl

/-- Adds a direct target under a tag that is not there. -/
def ensureCore (cores : List Outbound) (tag : String) : List Outbound :=
  if tag ∈ cores.map (·.tag) then cores else cores ++ [{ type := "direct", tag }]

theorem modifyFirst_some {α β : Type} {p : α → Bool} {f : α → α} (g : α → β) (hg : ∀ a, g (f a) = g a) :
    ∀ {l l' : List α}, modifyFirst p f l = some l' → l'.map g = l.map g ∧ ∃ a ∈ l, p a = true
  | a :: l, l', h => by
    unfold modifyFirst at h
    split at h
    · rename_i hp
      cases h
      exact ⟨by rw [map_cons, map_cons, hg], a, mem_cons_self, hp⟩
    · obtain ⟨l1, h1, rfl⟩ := Option.map_eq_some_iff.mp h
      obtain ⟨hmap, b, hb, hp⟩ := modifyFirst_some g hg h1
      exact ⟨by rw [map_cons, map_cons, hmap], b, mem_cons_of_mem _ hb, hp⟩

theorem modifyFirst_none {α : Type} {p : α → Bool} {f : α → α} : ∀ {l : List α}, modifyFirst p f l = none →
    ∀ a ∈ l, p a = false
  | a :: l, h => by
    unfold modifyFirst at h
    split at h
    · cases h
    rename_i hp
    rw [Option.map_eq_none_iff] at h
    exact forall_mem_cons.mpr ⟨by simpa using hp, modifyFirst_none h⟩
  | [], _ => by simp

theorem ensureDirectOutbound_core (resolver : Option DomainResolver) (bind : Option String)
    (outbounds : List Outbound) : (ensureDirectOutbound resolver bind outbounds).map Outbound.core =
      ensureCore (outbounds.map Outbound.core) "direct" := by
  have hcore : ∀ o, (updateDirect resolver bind o).core = o.core := fun _ => rfl
  unfold ensureDirectOutbound ensureCore
  rw [core_tag]
  cases h : modifyFirst (·.tag == "direct") (updateDirect resolver bind) outbounds with
  | some outbounds' =>
    obtain ⟨hmap, o, ho, htag⟩ := modifyFirst_some Outbound.core hcore h
    rw [if_pos (mem_map.mpr ⟨o, ho, by simpa using htag⟩)]
    exact hmap
  | none =>
    have hnone := modifyFirst_none h
    have hnot : "direct" ∉ outbounds.map (·.tag) := by
      intro hmem
      obtain ⟨o, ho, htag⟩ := mem_map.mp hmem
      simpa [htag] using hnone o ho
    rw [if_neg hnot, map_append]
    rfl

theorem ensureManagementOutbound_core (outbounds : List Outbound) (tag bind : String) :
    (ensureManagementOutbound outbounds tag bind).map Outbound.core =
      ensureCore (outbounds.map Outbound.core) tag := by
  unfold ensureManagementOutbound ensureCore
  rw [core_tag]
  by_cases h : tag ∈ outbounds.map (·.tag)
  · have hany : (outbounds.any fun o => o.tag == tag) = true := by
      obtain ⟨o, ho, htag⟩ := mem_map.mp h
      exact any_eq_true.mpr ⟨o, ho, by simpa using htag⟩
    rw [if_pos hany, if_pos h]
  · have hany : ¬(outbounds.any fun o => o.tag == tag) = true := by
      intro hany
      obtain ⟨o, ho, htag⟩ := any_eq_true.mp hany
      exact h (mem_map.mpr ⟨o, ho, by simpa using htag⟩)
    rw [if_neg hany, if_neg h, map_append]
    rfl

theorem foldl_ensureManagement_core (entries : List (String × String × String)) : ∀ outbounds : List Outbound,
    (entries.foldl (fun outbounds e => ensureManagementOutbound outbounds e.2.1 e.2.2)
      outbounds).map Outbound.core =
      (entries.map (·.2.1)).foldl ensureCore (outbounds.map Outbound.core) := by
  induction entries with
  | nil => exact fun _ => rfl
  | cons e entries ih =>
    intro outbounds
    rw [foldl_cons, ih, ensureManagementOutbound_core, map_cons, foldl_cons]

section Ensure

variable {cores : List Outbound} {tag t : String}

theorem ensureCore_idem (cores : List Outbound) (tag : String) :
    ensureCore (ensureCore cores tag) tag = ensureCore cores tag := by
  have hmem : tag ∈ (ensureCore cores tag).map (·.tag) := by
    unfold ensureCore
    split
    · assumption
    · simp
  exact if_pos hmem

theorem mem_ensureCore : t ∈ (ensureCore cores tag).map (·.tag) ↔ t ∈ cores.map (·.tag) ∨ t = tag := by
  unfold ensureCore
  split
  · rename_i h
    exact ⟨.inl, fun h' => h'.elim id fun heq => heq ▸ h⟩
  · simp [mem_append]

section

variable (tags : List String)
include tags

theorem mem_foldl_ensureCore : ∀ cores : List Outbound,
    t ∈ ((tags.foldl ensureCore cores).map (·.tag)) ↔ t ∈ cores.map (·.tag) ∨ t ∈ tags := by
  induction tags with
  | nil => simp
  | cons tag tags ih =>
    intro cores
    rw [foldl_cons, ih, mem_ensureCore, mem_cons, or_assoc]

theorem subset_foldl_ensureCore : ∀ cores : List Outbound, cores ⊆ tags.foldl ensureCore cores := by
  induction tags with
  | nil => exact fun _ => List.Subset.refl _
  | cons tag tags ih =>
    intro cores
    refine List.Subset.trans ?_ (ih _)
    unfold ensureCore
    split
    · exact List.Subset.refl _
    · exact subset_append_left _ _

theorem mem_foldl_ensureCore_cases {core : Outbound} : ∀ cores : List Outbound,
    core ∈ tags.foldl ensureCore cores → core ∈ cores ∨
    ∃ tag ∈ tags, core = { type := "direct", tag } := by
  induction tags with
  | nil => exact fun _ h => .inl h
  | cons tag tags ih =>
    intro cores h
    rcases ih _ h with h | ⟨tag', htag', heq⟩
    · unfold ensureCore at h
      split at h
      · exact .inl h
      rcases mem_append.mp h with hold | hnew
      · exact .inl hold
      · exact .inr ⟨tag, mem_cons_self, mem_singleton.mp hnew⟩
    · exact .inr ⟨tag', mem_cons_of_mem _ htag', heq⟩

end

end Ensure

/-! ## What is in a configuration -/

namespace Request

variable (host : Host) (req : Request) (dns : Option SingBoxDNSConfig)

/-- A `direct` outbound is asked for. -/
def directEnsured : Bool :=
  dns.any needsDirectOutbound || req.mode = .rules || req.mode = .direct || req.managementPeers ≠ []

def managementTags : List String := (managementEntries req.managementRoutes).map (·.2.1)

/-- The tags under which a direct outbound is added where none is there. -/
def addedTags : List String :=
  (if req.directEnsured dns then ["direct"] else []) ++ req.managementTags

/-- The rules for the management, behind those of the native bypass. -/
def managementRules : List RouteRule :=
  if req.managementRoutes ≠ [] then (managementEntries req.managementRoutes).map fun e =>
    managementRule e.1 e.2.1
  else req.managementPeers.map (managementRule · "direct")

def dnsRoutes : List RouteRule :=
  match req.dnsPolicy, dns with
  | some policy, some _ => tunDomainPreservationRoute policy req.allowFakeip ++ dnsHijackRoute policy
  | _, _ => []

end Request

section Parts

variable {host : Host} {req : Request} {targets : List Outbound} {dns : Option SingBoxDNSConfig}
  {config : SingBoxConfig}

/-- The cores of the outbounds before any is added. -/
def baseCores (req : Request) (targets : List Outbound) : List Outbound :=
  (if req.nativeTransport then [{ type := "direct", tag := "direct" }] else []) ++
    (targets.filter (·.type ≠ "wireguard")).map Outbound.core

/-- **What is in a generated configuration.** -/
structure Parts (req : Request) (targets : List Outbound) (dns : Option SingBoxDNSConfig)
    (config : SingBoxConfig) : Prop where
  outbounds : config.outbounds.map Outbound.core = (req.addedTags dns).foldl ensureCore (baseCores req targets)
  endpoints : config.endpoints.map Outbound.core = (targets.filter (·.type = "wireguard")).map Outbound.core
  rules : config.rules = req.nativeBypassCidrs.map nativeBypassRule ++ req.managementRules ++
    (req.dnsRoutes dns ++ req.modeRouteRules)
  dns : config.dns = dns.map fun d =>
    { d.config with rules := appPolicyDnsRules req.effectiveAppPolicy d ++ d.config.rules }
  ruleSet : config.ruleSet = if req.mode = .rules then req.ruleSetDeclarations else []

/-- What the results look at: the targets without what may still change, and all that is not an
inbound. -/
structure View where
  outbounds : List Outbound
  endpoints : List Outbound
  rules : List RouteRule := []
  dns : Option DnsConfig := none
  ruleSet : List Rules.RuleSetDeclaration := []
  storeFakeip : Bool := false

def SingBoxConfig.view (config : SingBoxConfig) : View where
  outbounds := config.outbounds.map Outbound.core
  endpoints := config.endpoints.map Outbound.core
  rules := config.rules
  dns := config.dns
  ruleSet := config.ruleSet
  storeFakeip := config.storeFakeip

theorem setMainResolver_view (resolver : Option String) :
    (req.setMainResolver resolver config).view = config.view := by
  have hhead : ∀ (server : String) (l : List Outbound),
      (l.modifyHead fun o => { o with domainResolver := some { server := server } }).map Outbound.core =
        l.map Outbound.core := by
    intro server l
    cases l <;> rfl
  unfold setMainResolver
  cases resolver with
  | none => rfl
  | some server =>
    simp only
    split
    · exact congrArg (fun cores => { config.view with endpoints := cores }) (hhead server _)
    · exact congrArg (fun cores => { config.view with outbounds := cores }) (hhead server _)

theorem addDns_view (policy : DNSPolicy) (d : SingBoxDNSConfig) : (req.addDns host policy d config).view =
    { config.view with
      outbounds := (if needsDirectOutbound d then ["direct"] else []).foldl ensureCore config.view.outbounds
      rules := config.view.rules ++ tunDomainPreservationRoute policy req.allowFakeip ++ dnsHijackRoute policy
      dns := some { d.config with rules := appPolicyDnsRules req.effectiveAppPolicy d ++ d.config.rules }
      storeFakeip := tunDomainPreservationRoute policy req.allowFakeip ≠ [] } := by
  unfold addDns
  extract_lets preservation written base main
  have hmain : main.view = base.view := setMainResolver_view _
  split
  · refine (congrArg (fun cores => { main.view with outbounds := cores })
      (ensureDirectOutbound_core _ _ _)).trans ?_
    exact congrArg (fun view => { view with outbounds := ensureCore view.outbounds "direct" }) hmain
  · exact hmain

theorem addMode_view : (req.addMode host config).view = { config.view with
      outbounds := (if req.mode = .rules ∨ req.mode = .direct ∨
        req.managementPeers ≠ [] then ["direct"] else []).foldl
        ensureCore config.view.outbounds
      rules := config.view.rules ++ req.modeRouteRules
      ruleSet := config.view.ruleSet ++ if req.mode = .rules then req.ruleSetDeclarations else [] } := by
  unfold addMode
  split
  · exact congrArg (fun cores => View.mk cores _ _ _ _ _) (ensureDirectOutbound_core _ _ _)
  · rfl

theorem addManagement_view : (req.addManagement config).view = { config.view with
      outbounds := req.managementTags.foldl ensureCore config.view.outbounds
      rules := req.nativeBypassCidrs.map nativeBypassRule ++ req.managementRules ++ config.view.rules } := by
  unfold addManagement managementTags managementRules SingBoxConfig.view
  by_cases h : req.managementRoutes = []
  · have hemp : managementEntries [] = [] := rfl
    simp [h, hemp]
  · simp [h, foldl_ensureManagement_core]

theorem foldl_direct_twice (a b : Prop) [Decidable a] [Decidable b] (cores : List Outbound) :
    (if b then ["direct"] else []).foldl ensureCore ((if a then ["direct"] else []).foldl ensureCore cores) =
      (if a ∨ b then ["direct"] else []).foldl ensureCore cores := by
  by_cases ha : a <;> by_cases hb : b <;> simp [ha, hb, ensureCore_idem]

/-- The cache file is for the rule that FakeIP needs. -/
theorem Generated.view (h : Generated host req targets dns config) : config.view =
    { outbounds := (req.addedTags dns).foldl ensureCore (baseCores req targets)
      endpoints := (targets.filter (·.type = "wireguard")).map Outbound.core
      rules := req.nativeBypassCidrs.map nativeBypassRule ++ req.managementRules ++
        (req.dnsRoutes dns ++ req.modeRouteRules)
      dns := dns.map fun d => { d.config with rules := appPolicyDnsRules req.effectiveAppPolicy d ++
        d.config.rules }
      ruleSet := if req.mode = .rules then req.ruleSetDeclarations else []
      storeFakeip := dns.isSome && req.dnsPolicy.any fun policy =>
        tunDomainPreservationRoute policy req.allowFakeip ≠ [] } := by
  obtain ⟨-, hdns, -, rfl⟩ := h
  have hbare : (req.addTun (req.bareConfig.addAll targets)).view =
      { outbounds := baseCores req targets,
        endpoints := (targets.filter (·.type = "wireguard")).map Outbound.core } := by
    have hout : (req.bareConfig.addAll targets).outbounds.map Outbound.core = baseCores req targets := by
      unfold SingBoxConfig.addAll bareConfig baseCores
      cases req.nativeTransport <;> rfl
    unfold addTun
    split <;> exact congrArg (fun cores => View.mk cores _ [] none [] false) hout
  have hadded : (req.addedTags dns).foldl ensureCore (baseCores req targets) =
      req.managementTags.foldl ensureCore
      ((if req.mode = .rules ∨ req.mode = .direct ∨
        req.managementPeers ≠ [] then ["direct"] else []).foldl ensureCore
        ((if dns.any needsDirectOutbound then ["direct"] else []).foldl ensureCore
          (baseCores req targets))) := by
    rw [foldl_direct_twice, addedTags, directEnsured]
    simp [or_assoc]
  rw [addManagement_view, addMode_view, hadded]
  unfold addDnsPart dnsRoutes
  cases hp : req.dnsPolicy with
  | none =>
    unfold dnsConfig at hdns
    rw [hp] at hdns
    cases hdns
    simp [hbare]
  | some policy =>
    cases dns with
    | none => simp [hbare]
    | some d => simp [addDns_view, hbare]

theorem Generated.parts (h : Generated host req targets dns config) : Parts req targets dns config :=
  ⟨congrArg View.outbounds h.view, congrArg View.endpoints h.view, congrArg View.rules h.view,
    congrArg View.dns h.view, congrArg View.ruleSet h.view⟩

end Parts

/-! ## Tags -/

namespace Request

variable (host : Host) (req : Request)

def dnsPart : Option SingBoxDNSConfig :=
  match req.dnsConfig host with
  | .ok dns => dns
  | .error _ => none

/-- The tags of the outbounds that the profile and the hops become. -/
def outboundTags : List String :=
  (if req.nativeTransport then ["direct"] else []) ++
    (req.targetSpecs.filter fun spec => !spec.isEndpoint).map TargetSpec.finalTag

def hopTags : List String := req.chainRuntimePlans.flatMap fun entry => (usableHops entry.2).map (·.2)

end Request

section Tags

variable {host : Host} {req : Request} {targets : List Outbound} {dns : Option SingBoxDNSConfig}
  {config : SingBoxConfig} {specs : List TargetSpec}

theorem Generated.dnsPart_eq (h : Generated host req targets dns config) : req.dnsPart host = dns := by
  unfold Request.dnsPart
  rw [h.dnsPart]

theorem Made.isEndpoint {spec : TargetSpec} {target : Outbound} (h : Made host spec target) :
    decide (target.type = "wireguard") = spec.isEndpoint := by
  rw [Bool.eq_iff_iff, decide_eq_true_iff]
  exact h.facts.2.2.2.1

section

variable (h : List.Forall₂ (Made host) specs targets)
include h

theorem made_outboundTags : (targets.filter (·.type ≠ "wireguard")).map (·.tag) =
      (specs.filter fun spec => !spec.isEndpoint).map TargetSpec.finalTag := by
  refine Lists.map_filter_eq h fun spec target hmade => ⟨?_, hmade.facts.1⟩
  rw [decide_not, hmade.isEndpoint]

theorem made_endpointTags :
    (targets.filter (·.type = "wireguard")).map (·.tag) =
      (specs.filter TargetSpec.isEndpoint).map TargetSpec.finalTag :=
  Lists.map_filter_eq h fun _ _ hmade => ⟨hmade.isEndpoint, hmade.facts.1⟩

theorem made_plain {target : Outbound} (ht : target ∈ targets) :
    target.type ≠ "direct" ∧ target.domainResolver = none := by
  obtain ⟨spec, -, hmade⟩ := Lists.mem_right h ht
  exact ⟨hmade.facts.2.2.1, hmade.facts.2.2.2.2⟩

end

theorem baseCores_tags (h : List.Forall₂ (Made host) req.targetSpecs targets) :
    (baseCores req targets).map (·.tag) = req.outboundTags := by
  unfold baseCores Request.outboundTags
  rw [map_append, core_tag, made_outboundTags h]
  cases req.nativeTransport <;> rfl

theorem targetTag_hop {profile : Profile} {tag : String} (hne : tag ≠ "") :
    targetTag profile (some tag) = tag := by
  simp [targetTag, hne]

theorem hopSpecs_tags (hops : List (Profile × String)) (hne : ∀ hop ∈ hops, hop.2 ≠ "") :
    ∀ previous, (hopSpecs previous hops).map TargetSpec.finalTag = hops.map (·.2) := by
  induction hops with
  | nil => exact fun _ => rfl
  | cons hop hops ih =>
    intro previous
    rw [hopSpecs, map_cons, map_cons, ih fun h hh => hne h (mem_cons_of_mem _ hh), TargetSpec.finalTag,
      targetTag_hop (hne hop mem_cons_self)]

theorem targetSpecs_tags (hne : ∀ tag ∈ req.hopTags, tag ≠ "") :
    req.targetSpecs.map TargetSpec.finalTag =
      (if req.nativeTransport then [] else [req.profile.name]) ++ req.hopTags := by
  unfold Request.targetSpecs Request.hopTags at *
  rw [map_append, map_flatMap]
  congr 1
  · cases req.nativeTransport <;> rfl
  · refine flatMap_congr fun entry hent => hopSpecs_tags _ (fun hop hhop => ?_) none
    exact hne _ (mem_flatMap.mpr ⟨entry, hent, mem_map_of_mem hhop⟩)

theorem mem_hopSpecs {hops : List (Profile × String)} {spec : TargetSpec} : ∀ {previous},
    spec ∈ hopSpecs previous hops → ∃ hop ∈ hops, spec.profile = hop.1 ∧ spec.tag = some hop.2 := by
  induction hops with
  | nil => exact nofun
  | cons hop hops ih =>
    intro previous hmem
    rcases mem_cons.mp hmem with rfl | hmem
    · exact ⟨hop, mem_cons_self, rfl, rfl⟩
    · obtain ⟨hop', hhop', hrest⟩ := ih hmem
      exact ⟨hop', mem_cons_of_mem _ hhop', hrest⟩

section

variable (h : Generated host req targets dns config)
include h

theorem mem_cores {core : Outbound} (hmem : core ∈ (config.outbounds ++ config.endpoints).map Outbound.core) :
    (∃ tag, core = { type := "direct", tag }) ∨ core ∈ targets.map Outbound.core := by
  have htgt : ∀ p : Outbound → Bool, core ∈ (targets.filter p).map Outbound.core →
      core ∈ targets.map Outbound.core :=
    fun p hp => map_subset _ filter_sublist.subset hp
  rw [map_append, h.parts.outbounds, h.parts.endpoints] at hmem
  rcases mem_append.mp hmem with hout | hend
  · rcases mem_foldl_ensureCore_cases _ _ hout with hbase | ⟨tag, -, heq⟩
    · rcases mem_append.mp hbase with hnat | ht
      · split at hnat
        · exact .inl ⟨_, mem_singleton.mp hnat⟩
        · cases hnat
      · exact .inr (htgt _ ht)
    · exact .inl ⟨tag, heq⟩
  · exact .inr (htgt _ hend)

theorem target_mem {target : Outbound} (ht : target ∈ targets) :
    target.core ∈ (config.outbounds ++ config.endpoints).map Outbound.core := by
  rw [map_append, h.parts.outbounds, h.parts.endpoints, mem_append]
  by_cases hw : target.type = "wireguard"
  · exact .inr (mem_map_of_mem (mem_filter.mpr ⟨ht, by simpa using hw⟩))
  · exact .inl (subset_foldl_ensureCore _ _
      (mem_append_right _ (mem_map_of_mem (mem_filter.mpr ⟨ht, by simpa using hw⟩))))

theorem dns_servers : config.dns.toList.flatMap (·.servers) = dns.toList.flatMap (·.config.servers) := by
  rw [h.parts.dns]
  cases dns <;> rfl

end

end Tags

/-! ## A request for examples -/

/-- A host for examples, on which no outbound is bound to an interface. -/
def labHost : Host := { lib := ShareLink.Library.labPlain, lower := id, bindInterface := fun _ => none }

/-- A profile under a name that the user chose. -/
def labNode (name : String) : Profile := { ShareLink.Library.labProfile with id := name, name }

/-- Names under the direct route, and everything else through the proxy. -/
def labDns : DNSPolicy where
  channels := [(.direct, [{ parsed := .udp "1.1.1.1" none }]),
    (.proxy, [{ parsed := .https (.address "8.8.8.8") none "/dns-query" }])]

/-- Rules, a DNS policy and a management route, for a profile of the given name. -/
def labRequest (name : String) : Request where
  profile := labNode name
  dnsPolicy := some labDns
  mode := .rules
  finalPolicy := .simple .direct
  managementRoutes := [("192.0.2.1", "eth0")]

end WatchdogVpn.SingBox
