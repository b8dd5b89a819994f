import WatchdogVpn.Chains.Model
import WatchdogVpn.Dns.Model
import WatchdogVpn.ShareLink.Uri
import Mathlib.Data.List.Dedup
import Mathlib.Data.List.Sort

/-!
# What a chain comes to

`resolve_chain_action` looks up every hop of a chain and stops at the first that cannot be used. A
profile is used while its provider and itself are enabled and it has not just failed; a group gives
the best of its members. The contents of the stores, the clock and the order of a set are left open
(`Stores`).

* `Stores.HopResolves`: when a hop stands for a profile, in terms of the stores.
* **`resolveChain_of_resolves`**, **`resolveChain_resolved`**: what a resolved plan looks like, and
  when there is one.
* `chainHopOutboundTag_inj`: the tags of different hops differ.
-/

namespace WatchdogVpn.Chains

open List
open Rules (Error)
open ShareLink (Profile ProtocolType)
open Dns (DNSPolicy)
open Effect (except_bind_ok)

def singboxChainProtocols : List ProtocolType :=
  [.vless, .vmess, .trojan, .hysteria2, .tuic, .shadowsocks, .wireguard, .socks, .http]

inductive ChainHopRuntimeStatus
  | resolved
  | missing
  | disabled
  | unhealthy
  | unsupported
  | unresolved
  deriving DecidableEq

def ChainHopRuntimeStatus.value : ChainHopRuntimeStatus → String
  | resolved => "resolved"
  | missing => "missing"
  | disabled => "disabled"
  | unhealthy => "unhealthy"
  | unsupported => "unsupported"
  | unresolved => "unresolved"

inductive ChainDNSPathStatus
  | chainOwned
  | unavailable
  | unknown
  deriving DecidableEq

structure ChainRuntimeHopPlan where
  index : Nat
  hopType : ChainHopType
  target : String
  status : ChainHopRuntimeStatus
  outboundTag : Option String := none
  resolvedProfileId : Option String := none
  resolvedProfile : Option Profile := none
  failureReason : Option String := none

inductive ChainRuntimeStatus
  | resolved
  | blocked
  deriving DecidableEq

structure ChainRuntimePlan where
  routeAction : String
  chainId : String
  status : ChainRuntimeStatus
  dnsPathStatus : ChainDNSPathStatus
  routeOutboundTag : Option String := none
  hops : List ChainRuntimeHopPlan := []
  failureReason : Option String := none

def ChainRuntimePlan.resolved (plan : ChainRuntimePlan) : Bool := plan.status = .resolved

/-! ## The stores -/

inductive NodeGroupResiliencePolicy
  | resilientOnly
  | preferred
  | compatibilityAllowed
  deriving DecidableEq

structure NodeGroup where
  enabled : Bool
  memberProfileIds : List String
  memberProviderIds : List String
  excludeProfileIds : List String
  resiliencePolicy : NodeGroupResiliencePolicy
  /-- The profile of the manual mode. The other modes take the best candidate. -/
  manual : Option (Option String)

/-- What is stored of a profile besides its configuration. Seconds are counted from a check up to
now; there are none without a check, or if it lies in the future. -/
structure ProfileState where
  enabled : Bool := true
  subscription : Bool := false
  providerId : Option String := none
  healthStatus : String := "unknown"
  sinceHealthCheck : Option Rat := none
  latencyMs : Option Rat := none
  sinceLatencyCheck : Option Rat := none

structure Stores where
  profiles : List Profile
  state : Profile → ProfileState
  /-- `rotation_enabled` of a provider that is there. -/
  provider : String → Option Bool
  group : String → Option NodeGroup
  healthStatusCooldownSeconds : Rat
  latencyMaxStaleSeconds : Rat
  /-- The order in which a set of ids is gone through. -/
  order : List String → List String

namespace Stores

variable (stores : Stores) (group : NodeGroup) (p : Profile)

/-- `profile_store.get`. -/
def profile (id : String) : Option Profile := stores.profiles.find? fun p => p.id == id

def enabled : Bool := (stores.state p).enabled

def originEnabled : Bool :=
  !(stores.state p).subscription ||
    (((stores.state p).providerId.filter (· ≠ "")).bind stores.provider).getD false

def recentlyFailed : Bool :=
  (stores.state p).healthStatus == "down" &&
    (stores.state p).sinceHealthCheck.any (· < stores.healthStatusCooldownSeconds)

def filterEligibleProfiles (profiles : List Profile) : List Profile :=
  profiles.filter fun p => stores.originEnabled p && stores.enabled p && !stores.recentlyFailed p

/-- `resolve_profile_health`. -/
def healthy : Bool := !(stores.filterEligibleProfiles [p]).isEmpty

/-- `profile_resilience_category(profile) is ResilienceCategory.RESILIENT`. -/
def resilient : Bool := p.protocol ∈ [.vless, .trojan, .hysteria2, .amneziawg, .openvpnCloak]

def resolveMembership : List Profile :=
  let provided := stores.profiles.filter fun p => (stores.state p).providerId.any (· ∈ group.memberProviderIds)
  let included := (group.memberProfileIds ++ provided.map (·.id)).dedup.filter (· ∉ group.excludeProfileIds)
  (stores.order included).filterMap fun id => stores.profiles.reverse.find? fun p => p.id == id

/-- `resolve_candidates`. -/
def candidates : List Profile :=
  let eligible := stores.filterEligibleProfiles (stores.resolveMembership group)
  if group.resiliencePolicy = .resilientOnly then eligible.filter resilient else eligible

def resilienceScore : Nat := if group.resiliencePolicy = .preferred ∧ resilient p then 1 else 0

def freshLatencyMs : Option Rat :=
  if (stores.state p).sinceLatencyCheck.any
    (· < stores.latencyMaxStaleSeconds) then (stores.state p).latencyMs else none

/-- The order of `rank_candidates`: by score, then by latency, an unknown one last, then by id. -/
def ranksBefore (p q : Profile) : Bool :=
  let score := resilienceScore group
  match stores.freshLatencyMs p, stores.freshLatencyMs q with
  | some a, some b => score q < score p || score p == score q && (a < b || a == b && p.id ≤ q.id)
  | some _, none => score q ≤ score p
  | none, some _ => score q < score p
  | none, none => score q < score p || score p == score q && p.id ≤ q.id

def selectBest (candidates : List Profile) : Option Profile :=
  (candidates.insertionSort fun p q => stores.ranksBefore group p q = true).head?

end Stores

/-! ## The resolver -/

def chainHopOutboundTag (chainId : String) (index : Nat) : String :=
  "watchdogvpn-chain-" ++ chainId ++ "-hop-" ++ toString index

def chainDnsPathStatus : Option DNSPolicy → ChainDNSPathStatus
  | none => .unavailable
  | some policy =>
    if policy.mode = .off then .unavailable
    else
      match policy.channels.get .proxy with
      | none => .unavailable
      | some resolvers => if resolvers.any (·.enabled) then .chainOwned else .unavailable

def failedHop (index : Nat) (hopType : ChainHopType) (target : String) (status : ChainHopRuntimeStatus)
    (reason : String) : ChainRuntimeHopPlan :=
  { index, hopType, target, status, failureReason := some reason }

/-- The plan of a hop with the profile it stands for. -/
def resolvedHop (chainId : String) (index : Nat) (hopType : ChainHopType) (target : String)
    (profile : Profile) : ChainRuntimeHopPlan :=
  { index, hopType, target, status := .resolved,
    outboundTag := some (chainHopOutboundTag chainId index), resolvedProfileId := some profile.id,
    resolvedProfile := some profile }

namespace Stores

variable (stores : Stores)

def profileHopPlan (chainId : String) (index : Nat) (profileId : String) : ChainRuntimeHopPlan :=
  match stores.profile profileId with
  | none => failedHop index .profile profileId .missing "missing_profile"
  | some profile =>
    if stores.healthy profile = false then
      if stores.enabled profile = false then failedHop index .profile profileId .disabled "disabled_profile"
      else failedHop index .profile profileId .unhealthy "unhealthy_profile"
    else if profile.protocol ∉ singboxChainProtocols then
      failedHop index .profile profileId .unsupported "unsupported_profile_protocol"
    else resolvedHop chainId index .profile profileId profile

/-- The profile that a group gives. -/
def selected (group : NodeGroup) : Option Profile :=
  let candidates := stores.candidates group
  match group.manual with
  | some profileId => candidates.find? fun candidate => some candidate.id == profileId
  | none => stores.selectBest group candidates

def groupHopPlan (chainId : String) (index : Nat) (groupName : String) : ChainRuntimeHopPlan :=
  match stores.group groupName with
  | none => failedHop index .group groupName .missing "missing_group"
  | some group =>
    if group.enabled = false then failedHop index .group groupName .disabled "disabled_group"
    else if (stores.candidates group).isEmpty then
      failedHop index .group groupName .unresolved "empty_group_resolution"
    else
      match stores.selected group with
      | none => failedHop index .group groupName .unresolved "empty_group_resolution"
      | some profile =>
        if profile.protocol ∉ singboxChainProtocols then
          { failedHop index .group groupName .unsupported "unsupported_profile_protocol" with
            resolvedProfileId := some profile.id }
        else resolvedHop chainId index .group groupName profile

def hopPlan (chainId : String) (index : Nat) (hop : ChainHop) : ChainRuntimeHopPlan :=
  match hop.type with
  | .profile => stores.profileHopPlan chainId index hop.target
  | .group => stores.groupHopPlan chainId index hop.target

/-- The loop over the hops: the plans up to and with the first that failed, and that one. -/
def hopPlans (chainId : String) : Nat → List ChainHop → List ChainRuntimeHopPlan × Option ChainRuntimeHopPlan
  | _, [] => ([], none)
  | index, hop :: hops =>
    let plan := stores.hopPlan chainId index hop
    if plan.status ≠ .resolved then ([plan], some plan)
    else
      let rest := hopPlans chainId (index + 1) hops
      (plan :: rest.1, rest.2)

end Stores

def blocked (action chainId reason : String) (dnsStatus : ChainDNSPathStatus)
    (hops : List ChainRuntimeHopPlan) : ChainRuntimePlan :=
  { routeAction := action, chainId, status := .blocked, dnsPathStatus := dnsStatus, hops,
    failureReason := some reason }

/-- `resolve_chain_action`, for the chain that the action names. -/
def Stores.resolveChain (stores : Stores) (action chainId : String) (document : RouteChainDocument)
    (dnsPolicy : Option DNSPolicy) : ChainRuntimePlan :=
  match document.chains.find? fun chain => chain.id == chainId with
  | none => blocked action chainId "missing_chain" .unknown []
  | some chain =>
    if chain.enabled = false then blocked action chainId "disabled_chain" .unknown []
    else
      match stores.hopPlans chainId 1 chain.hops with
      | (plans, some failed) =>
        blocked action chainId ((failed.failureReason.filter (· ≠ "")).getD failed.status.value) .unknown plans
      | (plans, none) =>
        let dnsStatus := chainDnsPathStatus dnsPolicy
        if dnsStatus ≠ .chainOwned then blocked action chainId "dns_path_unavailable" dnsStatus plans
        else
          { routeAction := action, chainId, status := .resolved, dnsPathStatus := dnsStatus,
            routeOutboundTag := plans.getLast?.bind (·.outboundTag), hops := plans }

def Stores.resolveChainAction (stores : Stores) (action : String) (document : RouteChainDocument)
    (dnsPolicy : Option DNSPolicy) : Except Error ChainRuntimePlan := do
  match ← Rules.chainTarget action with
  | none => .error ⟨.valueError, "not a chain route action: " ++ Rules.quoted action⟩
  | some chainId => return stores.resolveChain action chainId document dnsPolicy

/-- `_chain_runtime_plans`: the actions in order, those that name a chain. -/
def Stores.chainRuntimePlans (stores : Stores) (actions : List String) (document : RouteChainDocument)
    (dnsPolicy : Option DNSPolicy) : Except Error (PyDict String ChainRuntimePlan) :=
  (actions.dedup.insertionSort (· ≤ ·)).foldlM (fun plans action => do
    match ← Rules.chainTarget action with
    | none => return plans
    | some chainId => return PyDict.set action (stores.resolveChain action chainId document dnsPolicy) plans) []

/-! ## What is resolved -/

/-- A hop stands for a profile: the one it names, or the one its group gives. -/
def Stores.HopResolves (stores : Stores) (hop : ChainHop) (profile : Profile) : Prop :=
  profile.protocol ∈ singboxChainProtocols ∧
    match hop.type with
    | .profile => stores.profile hop.target = some profile ∧ stores.healthy profile = true
    | .group => ∃ group, stores.group hop.target = some group ∧ group.enabled = true ∧
        (stores.candidates group).isEmpty = false ∧ stores.selected group = some profile

def resolvedHops (chainId : String) : Nat → List ChainHop → List Profile → List ChainRuntimeHopPlan
  | index, hop :: hops, profile :: profiles =>
    resolvedHop chainId index hop.type hop.target profile :: resolvedHops chainId (index + 1) hops profiles
  | _, _, _ => []

section Resolution

variable {stores : Stores} {action chainId : String} {document : RouteChainDocument}
  {dnsPolicy : Option DNSPolicy}

theorem hopPlan_of_resolves {hop : ChainHop} {profile : Profile} (h : stores.HopResolves hop profile)
    (chainId : String) (index : Nat) :
    stores.hopPlan chainId index hop = resolvedHop chainId index hop.type hop.target profile := by
  obtain ⟨hprot, h⟩ := h
  unfold Stores.hopPlan
  split at h
  · rename_i htype
    rw [htype]
    simp only [Stores.profileHopPlan, h.1, h.2, hprot]
    simp
  · rename_i htype
    obtain ⟨group, hgroup, hen, hcand, hsel⟩ := h
    rw [htype]
    simp only [Stores.groupHopPlan, hgroup, hen, hcand, hsel, hprot]
    simp

theorem hopPlan_resolved {hop : ChainHop} {index : Nat}
    (h : (stores.hopPlan chainId index hop).status = .resolved) :
    ∃ profile, stores.HopResolves hop profile := by
  unfold Stores.hopPlan at h
  split at h
  · rename_i htype
    unfold Stores.profileHopPlan at h
    split at h
    · cases h
    rename_i profile hprof
    split at h
    · split at h <;> cases h
    rename_i hheal
    split at h
    · cases h
    rename_i hprot
    refine ⟨profile, not_not.mp hprot, ?_⟩
    rw [htype]
    exact ⟨hprof, by simpa using hheal⟩
  · rename_i htype
    unfold Stores.groupHopPlan at h
    split at h
    · cases h
    rename_i group hgroup
    split at h
    · cases h
    rename_i hen
    split at h
    · cases h
    rename_i hcand
    split at h
    · cases h
    rename_i profile hsel
    split at h
    · cases h
    rename_i hprot
    refine ⟨profile, not_not.mp hprot, ?_⟩
    rw [htype]
    exact ⟨group, hgroup, by simpa using hen, by simpa using hcand, hsel⟩

theorem hopResolves_unique {hop : ChainHop} {p q : Profile} (hp : stores.HopResolves hop p)
    (hq : stores.HopResolves hop q) : p = q := by
  have heq : resolvedHop "" 0 hop.type hop.target p = resolvedHop "" 0 hop.type hop.target q :=
    (hopPlan_of_resolves hp "" 0).symm.trans (hopPlan_of_resolves hq "" 0)
  exact Option.some.inj (congrArg ChainRuntimeHopPlan.resolvedProfile heq)

theorem hopPlans_of_resolves {hops : List ChainHop} {profiles : List Profile}
    (h : List.Forall₂ stores.HopResolves hops profiles) :
    ∀ index, stores.hopPlans chainId index hops = (resolvedHops chainId index hops profiles, none) := by
  induction h with
  | nil => exact fun _ => rfl
  | cons hhop _ ih =>
    intro index
    rw [Stores.hopPlans, hopPlan_of_resolves hhop, ih]
    rfl

theorem resolves_of_hopPlans {hops : List ChainHop} : ∀ {index}, (stores.hopPlans chainId index hops).2 = none →
    ∃ profiles, List.Forall₂ stores.HopResolves hops profiles := by
  induction hops with
  | nil => exact fun _ => ⟨[], .nil⟩
  | cons hop hops ih =>
    intro index h
    rw [Stores.hopPlans] at h
    split at h
    · cases h
    rename_i hres
    obtain ⟨profile, hprof⟩ := hopPlan_resolved (not_not.mp hres)
    obtain ⟨profiles, hprofiles⟩ := ih h
    exact ⟨profile :: profiles, .cons hprof hprofiles⟩

/-- The plan of a chain all of whose hops stand for profiles. -/
def resolvedPlan (action chainId : String) (hops : List ChainHop) (profiles : List Profile) :
    ChainRuntimePlan :=
  { routeAction := action, chainId, status := .resolved, dnsPathStatus := .chainOwned,
    routeOutboundTag := (resolvedHops chainId 1 hops profiles).getLast?.bind (·.outboundTag),
    hops := resolvedHops chainId 1 hops profiles }

theorem find_chain {chain : RouteChain} (h : chain ∈ document.chains) :
    (document.chains.find? fun c => c.id == chain.id) = some chain := by
  have hids := document.ids
  generalize document.chains = chains at h hids
  induction chains with
  | nil => cases h
  | cons c chains ih =>
    rw [map_cons, nodup_cons] at hids
    rw [find?_cons]
    rcases mem_cons.mp h with rfl | h
    · simp
    have hne : (c.id == chain.id) = false := by
      rw [beq_eq_false_iff_ne]
      intro heq
      exact hids.1 (heq ▸ mem_map_of_mem h)
    rw [hne]
    exact ih h hids.2

theorem resolveChain_of_resolves {chain : RouteChain} (hch : chain ∈ document.chains)
    (hen : chain.enabled = true)
    {profiles : List Profile} (hhops : List.Forall₂ stores.HopResolves chain.hops profiles)
    (hdns : chainDnsPathStatus dnsPolicy = .chainOwned) :
    stores.resolveChain action chain.id document dnsPolicy =
      resolvedPlan action chain.id chain.hops profiles := by
  unfold Stores.resolveChain
  rw [find_chain hch]
  simp only [hen, hopPlans_of_resolves hhops, hdns]
  rfl

theorem resolveChain_resolved (h : (stores.resolveChain action chainId document dnsPolicy).resolved = true) :
    ∃ chain ∈ document.chains, chain.id = chainId ∧ chain.enabled = true ∧
      (∃ profiles, List.Forall₂ stores.HopResolves chain.hops profiles) ∧
      chainDnsPathStatus dnsPolicy = .chainOwned := by
  unfold Stores.resolveChain at h
  split at h
  · cases h
  rename_i chain hch
  have hid : chain.id = chainId := by simpa using find?_some hch
  split at h
  · cases h
  rename_i hen
  split at h
  · cases h
  rename_i plans hplans
  simp only at h
  split at h
  · cases h
  rename_i hdns
  exact ⟨chain, mem_of_find?_eq_some hch, hid, by simpa using hen,
    resolves_of_hopPlans (by rw [hplans]), not_not.mp hdns⟩

/-- The plans of a request come from the resolver. -/
def PlansFrom (stores : Stores) (document : RouteChainDocument) (dnsPolicy : Option DNSPolicy)
    (plans : PyDict String ChainRuntimePlan) : Prop :=
  ∀ entry ∈ plans, stores.resolveChainAction entry.1 document dnsPolicy = .ok entry.2

theorem chainRuntimePlans_from {actions : List String} {plans : PyDict String ChainRuntimePlan}
    (h : stores.chainRuntimePlans actions document dnsPolicy = .ok plans) :
    PlansFrom stores document dnsPolicy plans := by
  unfold Stores.chainRuntimePlans at h
  have hstart : PlansFrom stores document dnsPolicy [] := nofun
  generalize ([] : PyDict String ChainRuntimePlan) = start at h hstart
  generalize actions.dedup.insertionSort (· ≤ ·) = ordered at h
  induction ordered generalizing start with
  | nil =>
    cases h
    exact hstart
  | cons action ordered ih =>
    obtain ⟨next, hnext, h⟩ := except_bind_ok h
    refine ih next ?_ h
    obtain ⟨target, htgt, hnext⟩ := except_bind_ok hnext
    cases target with
    | none =>
      cases hnext
      exact hstart
    | some chainId =>
      cases hnext
      intro entry hent
      rcases PyDict.mem_set hent with rfl | hold
      · unfold Stores.resolveChainAction
        rw [htgt]
        rfl
      · exact hstart entry hold

theorem PlansFrom.resolved {plans : PyDict String ChainRuntimePlan}
    (h : PlansFrom stores document dnsPolicy plans)
    {entry : String × ChainRuntimePlan} (hent : entry ∈ plans) (hres : entry.2.resolved = true) :
    ∃ chain ∈ document.chains, ∃ profiles, List.Forall₂ stores.HopResolves chain.hops profiles ∧
      entry.2 = resolvedPlan entry.1 chain.id chain.hops profiles := by
  obtain ⟨target, -, hplan⟩ := except_bind_ok (h entry hent)
  cases target with
  | none => cases hplan
  | some chainId =>
    have hplan : stores.resolveChain entry.1 chainId document dnsPolicy = entry.2 := Except.ok.inj hplan
    rw [← hplan] at hres ⊢
    obtain ⟨chain, hch, rfl, hen, ⟨profiles, hprof⟩, hdns⟩ := resolveChain_resolved hres
    exact ⟨chain, hch, profiles, hprof, resolveChain_of_resolves hch hen hprof hdns⟩

/-! ## Tags of hops -/

/-- **The tags of different hops differ**, whatever the chains are. -/
theorem chainHopOutboundTag_inj {a b : String} {i j : Nat}
    (h : chainHopOutboundTag a i = chainHopOutboundTag b j) : a = b ∧ i = j := by
  have hdig : ∀ n : Nat, (toString n).toList = Nat.toDigits 10 n := by
    simp [Nat.repr]
  have hnot : ∀ n : Nat, '-' ∉ Nat.toDigits 10 n := by
    intro n hmem
    exact absurd (Nat.isDigit_of_mem_toDigits (by decide) (by decide) hmem) (by decide)
  have hhop : "-hop-".toList = "-hop".toList ++ ['-'] := by decide
  have hlist : ∀ (id : String) n, (chainHopOutboundTag id n).toList =
      ("watchdogvpn-chain-".toList ++ id.toList ++ "-hop".toList) ++ '-' :: Nat.toDigits 10 n := by
    intro id n
    unfold chainHopOutboundTag
    rw [String.toList_append, String.toList_append, String.toList_append, hhop, hdig]
    simp only [append_assoc, singleton_append]
  have heq := congrArg String.toList h
  rw [hlist, hlist] at heq
  -- the number stands behind the last dash
  obtain ⟨hid, hnum⟩ := PyText.append_cons_inj (hnot i) (hnot j) heq
  refine ⟨String.toList_injective (append_cancel_left (append_cancel_right hid)), ?_⟩
  have hback := congrArg (Nat.ofDigitChars 10 · 0) hnum
  simpa [Nat.ofDigitChars_ten_toDigits] using hback

end Resolution

end WatchdogVpn.Chains
