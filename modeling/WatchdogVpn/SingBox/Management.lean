import WatchdogVpn.Rules.Reading
import WatchdogVpn.SingBox.Shape

/-!
# The way to the management

A connection to a management address must not be caught by any rule for ordinary traffic: it is
bypassed, or it goes to an outbound that is direct. The rules for it name their outbounds by tags.

* `spared_iff`: a tag that the driver adds stands for direct outbounds only exactly if no profile
  and no hop has it.
* **`management_path_survives`**: which connections to a management address are kept apart.
-/

namespace WatchdogVpn.SingBox

open Rules (Native RouteAction RouteRule)
open List

variable {γ : Type}

/-- The action leaves a connection alone: it is a bypass, or a route to outbounds that are all
direct. -/
def Spared (config : SingBoxConfig) : RouteAction → Prop
  | .bypass => True
  | .route tag => (∃ o ∈ config.outbounds, o.tag = tag) ∧
      ∀ o ∈ config.outbounds ++ config.endpoints, o.tag = tag → o.type = "direct"
  | _ => False

namespace Request

variable (host : Host) (req : Request)

/-- The rules for ordinary traffic: FakeIP, DNS hijack, applications, the user's rules and the final
one. -/
def ordinaryRules : List RouteRule := req.dnsRoutes (req.dnsPart host) ++ req.modeRouteRules

def managementAddresses : List String := req.managementPeers ++ req.managementRoutes.map (·.1)

end Request

/-- The first rule that applies to a connection stands in front of the rules for ordinary traffic
and leaves the connection alone. -/
def KeptApart (host : Host) (req : Request) (config : SingBoxConfig) (native : Native γ) (conn : γ) : Prop :=
  ∃ front r, config.rules = front ++ req.ordinaryRules host ∧ front.find? (native.applies · conn) = some r ∧
    Spared config r.action

def GoesTo (native : Native γ) (conn : γ) (peer : String) : Prop :=
  native.field (.condition .ipCidr) (.texts [(hostRoute peer).toList]) conn = true

instance (native : Native γ) (conn : γ) (peer : String) : Decidable (GoesTo native conn peer) :=
  inferInstanceAs (Decidable (_ = true))

section Management

variable {host : Host} {req : Request} {targets : List Outbound} {dns : Option SingBoxDNSConfig}
  {config : SingBoxConfig} {native : Native γ} {conn : γ}

theorem made_tags {specs : List TargetSpec} (h : List.Forall₂ (Made host) specs targets) :
    targets.map (·.tag) = specs.map TargetSpec.finalTag := by
  induction h with
  | nil => rfl
  | cons hmade _ ih => rw [map_cons, map_cons, ih, hmade.facts.1]

section

variable (h : Generated host req targets dns config)
include h

theorem target_or_direct {o : Outbound} (ho : o ∈ config.outbounds ++ config.endpoints) :
    o.type = "direct" ∨ o.tag ∈ targets.map (·.tag) := by
  rcases mem_cores h (mem_map_of_mem ho) with ⟨tag, heq⟩ | hmem
  · exact .inl (congrArg (·.type) heq)
  obtain ⟨target, ht, heq⟩ := mem_map.mp hmem
  have htag : target.tag = o.tag := congrArg (·.tag) heq
  exact .inr (mem_map.mpr ⟨target, ht, htag⟩)

/-- A tag that the driver adds stands for direct outbounds only, unless a profile or a hop has it.
-/
theorem spared_iff {tag : String} (hadded : tag ∈ req.addedTags dns) :
    Spared config (.route tag) ↔ tag ∉ req.targetSpecs.map TargetSpec.finalTag := by
  rw [← made_tags h.made]
  constructor
  · rintro ⟨-, hdir⟩ hmem
    obtain ⟨target, ht, rfl⟩ := mem_map.mp hmem
    obtain ⟨o, ho, hcore⟩ := mem_map.mp (target_mem h ht)
    have htag : o.tag = target.tag := congrArg (·.tag) hcore
    have htype : o.type = target.type := congrArg (·.type) hcore
    exact (made_plain h.made ht).1 (htype ▸ hdir o ho htag)
  · intro hnot
    constructor
    · have hmem : tag ∈ config.outbounds.map (·.tag) := by
        rw [← core_tag, h.parts.outbounds, mem_foldl_ensureCore]
        exact .inr hadded
      obtain ⟨o, ho, htag⟩ := mem_map.mp hmem
      exact ⟨o, ho, htag⟩
    · intro o ho htag
      rcases target_or_direct h ho with hdir | hmem
      · exact hdir
      · exact absurd (htag ▸ hmem) hnot

end

/-- The tag under which the management rules send a connection. -/
def Request.managementRoute (req : Request) (native : Native γ) (conn : γ) : Option String :=
  if req.managementRoutes = [] then (req.managementPeers.find? fun peer =>
    GoesTo native conn peer).map fun _ => "direct"
  else ((managementEntries req.managementRoutes).find? fun e => GoesTo native conn e.1).map (·.2.1)

theorem find_managementRule {α : Type} (peer tag : α → String) (l : List α) :
    ((l.map fun a => managementRule (peer a) (tag a)).find? (native.applies · conn)).map (·.action) =
      ((l.find? fun a => GoesTo native conn (peer a)).map tag).map .route := by
  have htest : ((native.applies · conn) ∘ fun a => managementRule (peer a) (tag a)) =
      fun a => decide (GoesTo native conn (peer a)) := by
    funext a
    rw [Bool.eq_iff_iff, decide_eq_true_iff]
    unfold GoesTo Native.applies managementRule Rules.defaultLogic Rules.alternatives
    simp [Rules.RouteField.isAddress, Rules.RouteField.isPort]
  rw [find?_map, htest, Option.map_map, Option.map_map]
  rfl

theorem managementRules_find (req : Request) (native : Native γ) (conn : γ) :
    (req.managementRules.find? (native.applies · conn)).map (·.action) =
      (req.managementRoute native conn).map .route := by
  unfold Request.managementRules Request.managementRoute
  by_cases hroutes : req.managementRoutes = []
  · rw [if_neg (not_not_intro hroutes), if_pos hroutes]
    exact find_managementRule (fun peer => peer) (fun _ => "direct") req.managementPeers
  · rw [if_pos hroutes, if_neg hroutes]
    exact find_managementRule (fun e : String × String × String => e.1) (fun e => e.2.1) (managementEntries _)

theorem managementRoute_added {tag : String} (h : req.managementRoute native conn = some tag) :
    tag ∈ req.addedTags dns := by
  unfold Request.managementRoute at h
  split at h
  · obtain ⟨peer, hpeer, rfl⟩ := Option.map_eq_some_iff.mp h
    have hne : req.managementPeers ≠ [] := ne_nil_of_mem (mem_of_find?_eq_some hpeer)
    refine mem_append_left _ ?_
    simp [Request.directEnsured, hne]
  · obtain ⟨e, he, rfl⟩ := Option.map_eq_some_iff.mp h
    exact mem_append_right _ (mem_map_of_mem (mem_of_find?_eq_some he))

/-- The first rule in front of the ordinary ones. -/
theorem keptApart_iff (h : Generated host req targets dns config) : KeptApart host req config native conn ↔
    (∃ cidr ∈ req.nativeBypassCidrs, native.applies (nativeBypassRule cidr) conn = true) ∨
      ∃ tag, req.managementRoute native conn = some tag ∧ tag ∉ req.targetSpecs.map TargetSpec.finalTag := by
  have hrules : config.rules =
      (req.nativeBypassCidrs.map nativeBypassRule ++ req.managementRules) ++ req.ordinaryRules host := by
    rw [h.parts.rules, Request.ordinaryRules, h.dnsPart_eq]
  have hfr : KeptApart host req config native conn ↔
      ∃ r, (req.nativeBypassCidrs.map nativeBypassRule ++ req.managementRules).find?
      (native.applies · conn) = some r ∧
        Spared config r.action := by
    constructor
    · rintro ⟨front, r, heq, hr⟩
      rw [hrules] at heq
      exact ⟨r, append_cancel_right heq ▸ hr⟩
    · rintro ⟨r, hr⟩
      exact ⟨_, r, hrules, hr⟩
  -- a bypass rule comes first and always keeps the connection apart
  rw [hfr, find?_append]
  cases hby : (req.nativeBypassCidrs.map nativeBypassRule).find? (native.applies · conn) with
  | some r =>
    obtain ⟨cidr, hcidr, rfl⟩ := mem_map.mp (mem_of_find?_eq_some hby)
    have happ : native.applies (nativeBypassRule cidr) conn = true :=
      find?_some (p := fun r => native.applies r conn) hby
    exact ⟨fun _ => .inl ⟨cidr, hcidr, happ⟩, fun _ => ⟨_, rfl, trivial⟩⟩
  | none =>
    have hnone : ¬ ∃ cidr ∈ req.nativeBypassCidrs, native.applies (nativeBypassRule cidr) conn = true := by
      rintro ⟨cidr, hcidr, happ⟩
      exact find?_eq_none.mp hby _ (mem_map_of_mem hcidr) happ
    have hfind := managementRules_find req native conn
    rw [or_iff_right hnone]
    cases hman : req.managementRules.find? (native.applies · conn) with
    | none =>
      rw [hman] at hfind
      have hrt : req.managementRoute native conn = none := by simpa using hfind.symm
      simp [hrt]
    | some r =>
      rw [hman] at hfind
      obtain ⟨tag, htag, hact⟩ := Option.map_eq_some_iff.mp hfind.symm
      simp only at hact
      rw [htag]
      constructor
      · rintro ⟨_, ⟨⟩, hspared⟩
        rw [← hact] at hspared
        exact ⟨tag, rfl, (spared_iff h (managementRoute_added htag)).mp hspared⟩
      · rintro ⟨_, ⟨⟩, hnot⟩
        refine ⟨r, rfl, ?_⟩
        rw [← hact]
        exact (spared_iff h (managementRoute_added htag)).mpr hnot

theorem mem_managementEntries {peer : String} (h : peer ∈ req.managementRoutes.map (·.1)) :
    ∃ e ∈ managementEntries req.managementRoutes, e.1 = peer := by
  have hsort : peer ∈ (req.managementRoutes.insertionSort fun a b => a.1 ≤ b.1).map (·.1) :=
    ((perm_insertionSort _ _).map _).mem_iff.mpr h
  rw [← zipIdx_map_fst 1 (req.managementRoutes.insertionSort fun a b => a.1 ≤ b.1), map_map] at hsort
  obtain ⟨e, he, rfl⟩ := mem_map.mp hsort
  exact ⟨_, mem_map_of_mem he, rfl⟩

end Management

/-- No profile and no hop has the tag of a management rule, and no address is in the first argument
only if the second is there. -/
structure Request.ManagementReserved (req : Request) : Prop where
  direct : req.managementRoutes = [] → "direct" ∉ req.targetSpecs.map TargetSpec.finalTag
  tags : ∀ tag ∈ req.managementTags, tag ∉ req.targetSpecs.map TargetSpec.finalTag
  peers : req.managementRoutes ≠ [] → ∀ peer ∈ req.managementPeers, peer ∈ req.managementRoutes.map (·.1)

/-- **A connection to a management address is kept apart** exactly if it is bypassed or the rule for
it names a tag that no profile and no hop has. If there are management routes, only they have rules.
-/
theorem management_path_survives (host : Host) (req : Request) (config : SingBoxConfig)
    (h : req.generate host = .ok config) (native : Native γ) (conn : γ) (peer : String)
    (hlisted : peer ∈ req.managementAddresses) (hgoes : GoesTo native conn peer) :
    (KeptApart host req config native conn ↔
      (∃ cidr ∈ req.nativeBypassCidrs, native.applies (nativeBypassRule cidr) conn = true) ∨
      if req.managementRoutes = [] then "direct" ∉ req.targetSpecs.map TargetSpec.finalTag
      else ∃ e, (managementEntries req.managementRoutes).find? (fun e => GoesTo native conn e.1) = some e ∧
        e.2.1 ∉ req.targetSpecs.map TargetSpec.finalTag) ∧
    (req.ManagementReserved → KeptApart host req config native conn) := by
  obtain ⟨targets, dns, hgen⟩ := generate_ok h
  have hrt : (∃ tag, req.managementRoute native conn = some tag ∧
      tag ∉ req.targetSpecs.map TargetSpec.finalTag) ↔
      if req.managementRoutes = [] then "direct" ∉ req.targetSpecs.map TargetSpec.finalTag
      else ∃ e, (managementEntries req.managementRoutes).find? (fun e => GoesTo native conn e.1) = some e ∧
        e.2.1 ∉ req.targetSpecs.map TargetSpec.finalTag := by
    unfold Request.managementRoute
    by_cases hroutes : req.managementRoutes = []
    · have hpeer : peer ∈ req.managementPeers := by simpa [Request.managementAddresses, hroutes] using hlisted
      obtain ⟨first, hfst⟩ : ∃ first, req.managementPeers.find? (fun p => GoesTo native conn p) = some first :=
        Option.isSome_iff_exists.mp (find?_isSome.mpr ⟨peer, hpeer, by simpa using hgoes⟩)
      rw [if_pos hroutes, if_pos hroutes, hfst]
      simp
    · rw [if_neg hroutes, if_neg hroutes]
      constructor
      · rintro ⟨tag, htag, hnot⟩
        obtain ⟨e, he, rfl⟩ := Option.map_eq_some_iff.mp htag
        exact ⟨e, he, hnot⟩
      · rintro ⟨e, he, hnot⟩
        exact ⟨e.2.1, by rw [he]; rfl, hnot⟩
  refine ⟨by rw [keptApart_iff hgen, hrt], fun hres => (keptApart_iff hgen).mpr (.inr (hrt.mpr ?_))⟩
  by_cases hroutes : req.managementRoutes = []
  · rw [if_pos hroutes]
    exact hres.direct hroutes
  · rw [if_neg hroutes]
    have hkey : peer ∈ req.managementRoutes.map (·.1) := by
      rcases mem_append.mp hlisted with hpeer | hkey
      · exact hres.peers hroutes peer hpeer
      · exact hkey
    obtain ⟨entry, hent, rfl⟩ := mem_managementEntries hkey
    obtain ⟨e, he⟩ : ∃ e, (managementEntries req.managementRoutes).find?
        (fun e => GoesTo native conn e.1) = some e :=
      Option.isSome_iff_exists.mp (find?_isSome.mpr ⟨entry, hent, by simpa using hgoes⟩)
    exact ⟨e, he, hres.tags _ (mem_map_of_mem (mem_of_find?_eq_some he))⟩

/-- A connection is its address, and only TCP. -/
def labNative : Native String where
  field
    | .condition .ipCidr, .texts cidrs, address => cidrs.contains (hostRoute address).toList
    | _, _, _ => false
  ruleSet _ _ := false

theorem management_path_survives_node :
    ∃ config, (labRequest "node").generate labHost = .ok config ∧ GoesTo labNative "192.0.2.1" "192.0.2.1" ∧
      KeptApart labHost (labRequest "node") config labNative "192.0.2.1" := by
  have hres : (labRequest "node").ManagementReserved := by
    refine ⟨?_, ?_, ?_⟩ <;> decide +kernel
  have hgoes : GoesTo labNative "192.0.2.1" "192.0.2.1" := by decide +kernel
  exact ⟨_, rfl, hgoes,
    (management_path_survives labHost (labRequest "node") _ rfl labNative "192.0.2.1" "192.0.2.1"
    (by decide +kernel) hgoes).2 hres⟩

/-- A management peer and a management route. -/
def labManaged : Request where
  profile := labNode "node"
  managementPeers := ["198.51.100.7"]
  managementRoutes := [("192.0.2.1", "eth0")]

/-- **A peer beside the management routes.** If there are management routes, a peer that is not
among them has no rule: its connections go with the ordinary traffic, through the profile. -/
theorem management_peer_dropped : ∃ config, labManaged.generate labHost = .ok config ∧
    "198.51.100.7" ∈ labManaged.managementAddresses ∧ GoesTo labNative "198.51.100.7" "198.51.100.7" ∧
    labNative.decision config.rules "198.51.100.7" = some (.route "node") ∧
    ¬ KeptApart labHost labManaged config labNative "198.51.100.7" := by
  refine ⟨_, rfl, by decide +kernel, by decide +kernel, by decide +kernel, ?_⟩
  rintro ⟨front, r, hrules, hfind, -⟩
  have hfull : [managementRule "192.0.2.1" (managementTag 1)] ++ labManaged.ordinaryRules labHost =
      front ++ labManaged.ordinaryRules labHost := hrules
  have hnone : [managementRule "192.0.2.1" (managementTag 1)].find?
      (labNative.applies · "198.51.100.7") = none := by
    decide +kernel
  rw [← append_cancel_right hfull] at hfind
  cases hfind

end WatchdogVpn.SingBox
