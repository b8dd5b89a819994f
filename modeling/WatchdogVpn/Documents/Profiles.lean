import WatchdogVpn.Documents.Reading
import WatchdogVpn.ShareLink.Uri

/-!
# Profiles, providers and node groups

The documents of `profiles.json`, `providers.json` and `node_groups.json`. Each is read by its
`from_dict` and written by its `to_dict`.

* **`Profile.fromDict_toDict`**, **`Provider.fromDict_toDict`**, **`NodeGroup.fromDict_toDict`**:
  what is written from a value reads back as that value.
-/

namespace WatchdogVpn.Documents

open List
open Rules (Error refuse refuseValue ErrorKind strictBool strictInt rejectUnknownKeys required
  stripped GroupName)
open ShareLink (ProtocolType)

variable {D : Type} (lib : Library D)

/-! ## Profiles -/

inductive ProfileSource
  | manual
  | subscription
  deriving DecidableEq

def ProfileSource.value : ProfileSource → String
  | manual => "manual"
  | subscription => "subscription"

structure Profile (D : Type) where
  id : String
  name : String
  protocol : ProtocolType
  config : Object
  source : ProfileSource
  /-- Kept as it is in the document. -/
  providerId : Json := .null
  inRotationPool : Bool := false
  enabled : Bool := true
  createdAt : D
  lastUsed : Option D := none
  lastHealthCheck : Option D := none
  healthStatus : String := "unknown"
  /-- The text of the float. -/
  latencyMs : Option String := none
  lastLatencyCheck : Option D := none

def profileFields : List String :=
  ["id", "name", "protocol", "config", "source", "provider_id", "in_rotation_pool", "enabled", "created_at",
    "last_used", "last_health_check", "health_status", "latency_ms", "last_latency_check"]

def ProtocolType.all : List ProtocolType :=
  [.vless, .vmess, .trojan, .hysteria2, .tuic, .shadowsocks, .wireguard, .amneziawg, .socks, .http, .openvpn,
    .openvpnCloak]

def protocolType (data : Json) : Except Error ProtocolType :=
  enumMember ProtocolType.all ProtocolType.value "ProtocolType" data

def profileSource (data : Json) : Except Error ProfileSource :=
  enumMember [.manual, .subscription] ProfileSource.value "ProfileSource" data

@[simp] theorem protocolType_value (p : ProtocolType) : protocolType (.str p.value) = .ok p := by
  cases p <;> rfl

@[simp] theorem profileSource_value (s : ProfileSource) : profileSource (.str s.value) = .ok s := by
  cases s <;> rfl

def latencyToJson : Option String → Json
  | none => .null
  | some text => .float text

def latencyFromJson (value : Json) : Except Error (Option String) :=
  match value with
  | .null => .ok none
  | value => (strictFloat lib value "profile.latency_ms").map some

@[simp] theorem latencyFromJson_toJson (latency : Option String) :
    latencyFromJson lib (latencyToJson latency) = .ok latency := by
  cases latency <;> rfl

def Profile.toDict (p : Profile D) : Object :=
  [("id", .str p.id), ("name", .str p.name), ("protocol", .str p.protocol.value), ("config", .obj p.config),
    ("source", .str p.source.value), ("provider_id", p.providerId),
    ("in_rotation_pool", .bool p.inRotationPool),
    ("enabled", .bool p.enabled), ("created_at", dtToIso lib (some p.createdAt)),
    ("last_used", dtToIso lib p.lastUsed), ("last_health_check", dtToIso lib p.lastHealthCheck),
    ("health_status", .str p.healthStatus), ("latency_ms", latencyToJson p.latencyMs),
    ("last_latency_check", dtToIso lib p.lastLatencyCheck)]

def Profile.fromDict (data : Object) : Except Error (Profile D) := do
  rejectUnknownKeys data profileFields "profile"
  match data.getD "config" (.obj []) with
  | .obj config => do
    let id ← required data "id"
    let name ← required data "name"
    let protocol ← protocolType (← required data "protocol")
    let source ← profileSource (← required data "source")
    let inRotationPool ← strictBool (data.getD "in_rotation_pool" (.bool false)) "profile.in_rotation_pool"
    let enabled ← strictBool (data.getD "enabled" (.bool true)) "profile.enabled"
    let createdAt ← dtFromIso lib (data.getD "created_at" .null)
    let lastUsed ← dtFromIso lib (data.getD "last_used" .null)
    let lastHealthCheck ← dtFromIso lib (data.getD "last_health_check" .null)
    let latencyMs ← latencyFromJson lib (data.getD "latency_ms" .null)
    let lastLatencyCheck ← dtFromIso lib (data.getD "last_latency_check" .null)
    return {
      id := id.toStr, name := name.toStr, protocol := protocol, config := config, source := source
      providerId := data.getD "provider_id" .null, inRotationPool := inRotationPool, enabled := enabled
      createdAt := createdAt.getD lib.utcnow, lastUsed := lastUsed, lastHealthCheck := lastHealthCheck
      healthStatus := (data.getD "health_status" (.str "unknown")).toStr, latencyMs := latencyMs
      lastLatencyCheck := lastLatencyCheck }
  | _ => refuseValue "profile config must be an object"

theorem Profile.fromDict_toDict (p : Profile D) : Profile.fromDict lib (p.toDict lib) = .ok p := by
  have hkeys : rejectUnknownKeys (p.toDict lib) profileFields "profile" = .ok () :=
    rejectUnknownKeys_ok fun key h => h
  simp [Profile.fromDict, hkeys]
  simp [Profile.toDict, Object.getD, required, PyDict.get, strictBool, Json.toStr]

/-! ## Providers -/

structure Provider (D : Type) where
  id : String
  name : String
  url : String
  lastUpdated : Option D := none
  profiles : List String := []
  rotationEnabled : Bool := false
  autoUpdate : Bool := true
  updateIntervalHours : Int := 24
  metadata : Object := []

def providerFields : List String :=
  ["id", "name", "url", "last_updated", "profiles", "rotation_enabled", "auto_update", "update_interval_hours",
    "metadata"]

def normalizedProviderUrl (url : String) : String := stripped url

def Provider.toDict (p : Provider D) : Object :=
  [("id", .str p.id), ("name", .str p.name), ("url", .str p.url), ("last_updated", dtToIso lib p.lastUpdated),
    ("profiles", texts p.profiles), ("rotation_enabled", .bool p.rotationEnabled),
    ("auto_update", .bool p.autoUpdate), ("update_interval_hours", .int p.updateIntervalHours),
    ("metadata", .obj p.metadata)]

def Provider.fromDict (data : Object) : Except Error (Provider D) := do
  rejectUnknownKeys data providerFields "provider"
  match data.getD "profiles" (.arr []), data.getD "metadata" (.obj []) with
  | .arr profiles, .obj metadata => do
    let id ← required data "id"
    let name ← required data "name"
    let url ← required data "url"
    let lastUpdated ← dtFromIso lib (data.getD "last_updated" .null)
    let rotationEnabled ← strictBool (data.getD "rotation_enabled" (.bool false)) "provider.rotation_enabled"
    let autoUpdate ← strictBool (data.getD "auto_update" (.bool true)) "provider.auto_update"
    let updateIntervalHours ←
      strictInt (data.getD "update_interval_hours" (.int 24)) "provider.update_interval_hours"
    return {
      id := id.toStr, name := name.toStr, url := url.toStr, lastUpdated := lastUpdated
      profiles := profiles.map Json.toStr, rotationEnabled := rotationEnabled, autoUpdate := autoUpdate
      updateIntervalHours := updateIntervalHours, metadata := metadata }
  | .arr _, _ => refuseValue "provider metadata must be an object"
  | _, _ => refuseValue "provider profiles must be a list"

@[simp] theorem toStr_texts (items : List String) : items.map (Json.toStr ∘ Json.str) = items := map_id _

theorem Provider.fromDict_toDict (p : Provider D) : Provider.fromDict lib (p.toDict lib) = .ok p := by
  have hkeys : rejectUnknownKeys (p.toDict lib) providerFields "provider" = .ok () :=
    rejectUnknownKeys_ok fun key h => h
  simp [Provider.fromDict, hkeys]
  simp [Provider.toDict, Object.getD, required, PyDict.get, strictBool, strictInt, Json.toStr, texts]

/-! ## Node groups -/

inductive NodeGroupResiliencePolicy
  | resilientOnly
  | preferred
  | compatibilityAllowed
  deriving DecidableEq

def NodeGroupResiliencePolicy.value : NodeGroupResiliencePolicy → String
  | resilientOnly => "resilient_only"
  | preferred => "preferred"
  | compatibilityAllowed => "compatibility_allowed"

/-- Which profile a group resolves to: a pinned one, or the best candidate. -/
inductive NodeGroupSelection
  | manual (profileId : Trimmed)
  | auto

/-- The identifiers of a list, each once and without white space around it. -/
structure IdList where
  ids : List Trimmed
  distinct : ids.Nodup

/-- A node group. No profile is both a member and excluded. -/
structure NodeGroup where
  name : GroupName
  enabled : Bool := true
  memberProfileIds : IdList
  memberProviderIds : IdList
  excludeProfileIds : IdList
  resiliencePolicy : NodeGroupResiliencePolicy := .preferred
  selection : NodeGroupSelection := .auto
  apart : ∀ id ∈ memberProfileIds.ids, id ∉ excludeProfileIds.ids

/-- `_validate_name`: the pattern of rule group names. -/
def nodeGroupName (name : String) : Except Error GroupName :=
  if h : Rules.isSlug (stripped name) = true then .ok ⟨stripped name, h⟩
  else refuse "node_group.name must be a lowercase slug (letters, digits, '-', '_', max 64 chars)"

@[simp] theorem nodeGroupName_val (name : GroupName) : nodeGroupName name.1 = .ok name := by
  have hstrip : stripped name.1 = name.1 := stripped_of_slug name.2
  have h : Rules.isSlug (stripped name.1) = true := by
    rw [hstrip]
    exact name.2
  rw [nodeGroupName, dif_pos h]
  exact congrArg Except.ok (Subtype.ext hstrip)

def nodeGroupFields : List String :=
  ["name", "enabled", "member_profile_ids", "member_provider_ids", "exclude_profile_ids", "resilience_policy",
    "selection_mode", "manual_profile_id"]

/-- The loop of `_validate_id_list`: identifiers that are there already are passed. -/
def validateIds (field : String) : List Trimmed → List Json → Except Error (List Trimmed)
  | seen, [] => .ok seen
  | seen, item :: items =>
    match item with
    | .str text =>
      match trimmed? text with
      | none => refuse (field ++ " entries must be non-empty strings")
      | some id => validateIds field (if id ∈ seen then seen else seen ++ [id]) items
    | _ => refuse (field ++ " entries must be non-empty strings")

theorem validateIds_nodup {field : String} {items : List Json} {seen ids : List Trimmed} (hseen : seen.Nodup)
    (h : validateIds field seen items = .ok ids) : ids.Nodup := by
  induction items generalizing seen with
  | nil =>
    cases h
    exact hseen
  | cons item items ih =>
    cases item with
    | str text =>
      rw [validateIds] at h
      split at h
      · cases h
      refine ih ?_ h
      split
      · exact hseen
      rename_i hnew
      simpa using hseen.concat hnew
    | _ => cases h

def validateIdList (value : Json) (field : String) : Except Error IdList :=
  match value with
  | .arr items => do
    let ⟨ids, h⟩ ← attested (validateIds field [] items)
    return ⟨ids, validateIds_nodup nodup_nil h⟩
  | _ => refuse (field ++ " must be a list")

def IdList.toJson (list : IdList) : Json := texts (list.ids.map (·.1))

theorem validateIds_texts {field : String} {seen ids : List Trimmed} (h : (seen ++ ids).Nodup) :
    validateIds field seen ((ids.map (·.1)).map Json.str) = .ok (seen ++ ids) := by
  induction ids generalizing seen with
  | nil => simp [validateIds]
  | cons id ids ih =>
    have hnew : id ∉ seen := fun hmem => (nodup_append.mp h).2.2 id hmem id mem_cons_self rfl
    have hrest : (seen ++ [id] ++ ids).Nodup := by simpa using h
    rw [map_cons, map_cons, validateIds, trimmed?_val]
    simp only [if_neg hnew]
    rw [ih hrest, append_assoc, singleton_append]

@[simp] theorem validateIdList_toJson (list : IdList) (field : String) :
    validateIdList list.toJson field = .ok list := by
  have hread : validateIds field [] ((list.ids.map (·.1)).map Json.str) = .ok list.ids :=
    validateIds_texts (by simpa using list.distinct)
  unfold validateIdList IdList.toJson texts
  simp only [attested_of hread]
  rfl

/-- `NodeGroupResiliencePolicy(value)`, with the message of the store. -/
def readResiliencePolicy (value : String) : Except Error NodeGroupResiliencePolicy :=
  match enumMember [.resilientOnly, .preferred, .compatibilityAllowed] NodeGroupResiliencePolicy.value
    "NodeGroupResiliencePolicy" (.str value) with
  | .ok policy => .ok policy
  | .error _ =>
    refuse "node_group.resilience_policy must be one of: resilient_only, preferred, compatibility_allowed"

@[simp] theorem readResiliencePolicy_value (p : NodeGroupResiliencePolicy) :
    readResiliencePolicy p.value = .ok p := by
  cases p <;> rfl

/-- The mode of selection with its pinned profile: `manual` requires one, `auto` forbids one. -/
def nodeGroupSelection (mode : String) (manualProfileId : Json) : Except Error NodeGroupSelection :=
  if mode = "manual" then
    match manualProfileId with
    | .str text =>
      match trimmed? text with
      | some id => .ok (.manual id)
      | none => refuse "node_group.manual_profile_id is required when selection_mode is 'manual'"
    | _ => refuse "node_group.manual_profile_id is required when selection_mode is 'manual'"
  else if mode = "auto" then
    match manualProfileId with
    | .null => .ok .auto
    | _ => refuse "node_group.manual_profile_id must not be set when selection_mode is 'auto'"
  else refuse "node_group.selection_mode must be one of: manual, auto"

def NodeGroupSelection.mode : NodeGroupSelection → String
  | manual _ => "manual"
  | auto => "auto"

def NodeGroupSelection.pinned : NodeGroupSelection → Json
  | manual profileId => .str profileId.1
  | auto => .null

@[simp] theorem nodeGroupSelection_mode (s : NodeGroupSelection) :
    nodeGroupSelection s.mode s.pinned = .ok s := by
  cases s with
  | manual profileId => simp [nodeGroupSelection, NodeGroupSelection.mode, NodeGroupSelection.pinned]
  | auto => rfl

/-- The identifiers that are both members and excluded. -/
def overlap (members excluded : IdList) : List Trimmed := members.ids.filter (· ∈ excluded.ids)

theorem overlap_eq_nil {members excluded : IdList} :
    overlap members excluded = [] ↔ ∀ id ∈ members.ids, id ∉ excluded.ids := by
  simp [overlap]

def NodeGroup.toDict (g : NodeGroup) : Object :=
  [("name", .str g.name.1), ("enabled", .bool g.enabled), ("member_profile_ids", g.memberProfileIds.toJson),
    ("member_provider_ids", g.memberProviderIds.toJson), ("exclude_profile_ids", g.excludeProfileIds.toJson),
    ("resilience_policy", .str g.resiliencePolicy.value), ("selection_mode", .str g.selection.mode),
    ("manual_profile_id", g.selection.pinned)]

def NodeGroup.fromDict (data : Object) : Except Error NodeGroup := do
  rejectUnknownKeys data nodeGroupFields "node_group"
  let name ← required data "name"
  let enabled ← strictBool (data.getD "enabled" (.bool true)) "node_group.enabled"
  let name ← nodeGroupName name.toStr
  let memberProfileIds ← validateIdList
      (data.getD "member_profile_ids" (.arr [])) "node_group.member_profile_ids"
  let memberProviderIds ← validateIdList
      (data.getD "member_provider_ids" (.arr [])) "node_group.member_provider_ids"
  let excludeProfileIds ← validateIdList
      (data.getD "exclude_profile_ids" (.arr [])) "node_group.exclude_profile_ids"
  let resiliencePolicy ← readResiliencePolicy (data.getD "resilience_policy" (.str "preferred")).toStr
  let selection ←
    nodeGroupSelection (data.getD "selection_mode" (.str "auto")).toStr (data.getD "manual_profile_id" .null)
  if h : overlap memberProfileIds excludeProfileIds = [] then
    return {
      name := name, enabled := enabled, memberProfileIds := memberProfileIds
      memberProviderIds := memberProviderIds, excludeProfileIds := excludeProfileIds
      resiliencePolicy := resiliencePolicy, selection := selection
      apart := overlap_eq_nil.mp h }
  else
    refuse ("node_group.member_profile_ids and node_group.exclude_profile_ids must not overlap directly: " ++
      ", ".intercalate (((overlap memberProfileIds excludeProfileIds).map (·.1)).insertionSort (· ≤ ·)))

theorem NodeGroup.fromDict_toDict (g : NodeGroup) : NodeGroup.fromDict g.toDict = .ok g := by
  have hkeys : rejectUnknownKeys g.toDict nodeGroupFields "node_group" = .ok () :=
    rejectUnknownKeys_ok fun key h => h
  have hapart : overlap g.memberProfileIds g.excludeProfileIds = [] := overlap_eq_nil.mpr g.apart
  simp [NodeGroup.fromDict, hkeys]
  simp [NodeGroup.toDict, Object.getD, required, PyDict.get, strictBool, Json.toStr, hapart]

end WatchdogVpn.Documents
