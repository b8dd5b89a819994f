import WatchdogVpn.Documents.Reading

/-!
# The selection state and the configuration

The tables of `state.toml` and `config.toml`. Both are checked as a whole, and the check normalises:
the compatibility mode of a state is derived from its routing fields, the addresses of the
configuration lose the white space around them. A checked table passes the check unchanged.

* **`State.fromDict_toDict`**: the state reads back as it was written.
* **`AppConfig.fromDict_toDict`**: so does the configuration.
-/

namespace WatchdogVpn.Documents

open List
open Rules (Error refuseValue strictBool strictInt rejectUnknownKeys required stripped
  stripped_stripped chainTarget)
open PyText (Text strip isSpace)
open Effect (ok_bind except_bind_ok)

/-! ## The selection state -/

structure StateFields where
  appAutostartEnabled : Bool := false
  vpnAutoconnectEnabled : Bool := false
  vpnDesiredState : String := "off"
  activeProfileId : String := ""
  routingStateVersion : String := "1"
  routingPolicy : String := "rule"
  captureModes : String := "local_proxy,tun"
  defaultRouteAction : String := "current"
  activeMode : String := "rules"
  languageMode : String := "system"
  selectedLanguage : String := "en"
  lastFailureReason : String := ""
  lastFailureAt : String := ""
  deriving DecidableEq

def invalid (message : String) : Error := ⟨.persistentValidationError, message⟩

def stateText (key : String) (value : Json) : Except Error String :=
  match value with
  | .str text => .ok text
  | _ => .error (invalid (key ++ " must be a string"))

variable (s : StateFields)

/-- One turn of the loop of `_validate_state`. -/
def StateFields.set (key : String) (value : Json) : Except Error StateFields :=
  match key with
  | "app_autostart_enabled" => do return { s with appAutostartEnabled := ← strictBool value key }
  | "vpn_autoconnect_enabled" => do return { s with vpnAutoconnectEnabled := ← strictBool value key }
  | "vpn_desired_state" => do return { s with vpnDesiredState := ← stateText key value }
  | "active_profile_id" => do return { s with activeProfileId := ← stateText key value }
  | "routing_state_version" => do return { s with routingStateVersion := ← stateText key value }
  | "routing_policy" => do return { s with routingPolicy := ← stateText key value }
  | "capture_modes" => do return { s with captureModes := ← stateText key value }
  | "default_route_action" => do return { s with defaultRouteAction := ← stateText key value }
  | "active_mode" => do return { s with activeMode := ← stateText key value }
  | "language_mode" => do return { s with languageMode := ← stateText key value }
  | "selected_language" => do return { s with selectedLanguage := ← stateText key value }
  | "last_failure_reason" => do return { s with lastFailureReason := ← stateText key value }
  | "last_failure_at" => do return { s with lastFailureAt := ← stateText key value }
  | key => .error (invalid ("contains unsupported state field: " ++ key))

def activeModes : List String := ["rules", "global", "direct", "tun", "proxy"]

/-- The routing policy, the modes of capture and the default action. -/
abbrev Routing : Type := String × String × String

def StateFields.routing : Routing := (s.routingPolicy, s.captureModes, s.defaultRouteAction)

/-- `LEGACY_MODE_TO_ROUTING_STATE`. -/
def legacyRouting (mode : String) : Routing :=
  match mode with
  | "rules" => ("rule", "local_proxy,tun", "current")
  | "direct" => ("global", "local_proxy", "direct")
  | "proxy" => ("global", "local_proxy", "current")
  -- `global` and `tun`
  | _ => ("global", "local_proxy,tun", "current")

/-- `routing_state_from_legacy_mode` for the active mode. -/
def StateFields.withLegacyRouting : StateFields :=
  { s with
    routingStateVersion := "1", routingPolicy := (legacyRouting s.activeMode).1
    captureModes := (legacyRouting s.activeMode).2.1, defaultRouteAction := (legacyRouting s.activeMode).2.2 }

def captureModeOrder : List String := ["local_proxy", "tun", "system_proxy"]

def representableCaptureModes : List (List String) :=
  [["local_proxy"], ["local_proxy", "tun"], ["local_proxy", "system_proxy"],
    ["local_proxy", "tun", "system_proxy"]]

def joinModes (modes : List String) : String := ",".intercalate modes

/-- The entries of a list of modes, without the empty ones. -/
def rawModes (value : String) : List String :=
  ((value.toList.splitOn ',').map fun item => String.ofList (strip item)).filter (· ≠ "")

def parseCaptureModes (value : String) : Except Error (List String) :=
  let raw := rawModes value
  if raw = [] then .error (invalid "capture_modes must include at least one capture mode")
  else if ¬ raw.Nodup then .error (invalid "capture_modes must not contain duplicate entries")
  else if ∃ mode ∈ raw, mode ∉ captureModeOrder then
    .error (invalid ("capture_modes contains unsupported entries: " ++
      ", ".intercalate ((raw.filter (· ∉ captureModeOrder)).insertionSort (· ≤ ·))))
  else
    let modes := captureModeOrder.filter (· ∈ raw)
    if "system_proxy" ∈ modes ∧ "local_proxy" ∉ modes then
      .error (invalid "system_proxy capture requires local_proxy")
    else if modes ∉ representableCaptureModes then
      .error (invalid
        ("capture_modes must be one of: local_proxy; local_proxy,system_proxy; local_proxy,tun; " ++
        "local_proxy,tun,system_proxy"))
    else .ok modes

theorem parseCaptureModes_mem {value : String} {modes : List String} (h : parseCaptureModes value = .ok modes) :
    modes ∈ representableCaptureModes := by
  unfold parseCaptureModes at h
  simp only at h
  split at h
  · cases h
  split at h
  · cases h
  split at h
  · cases h
  split at h
  · cases h
  split at h
  · cases h
  rename_i hmem
  cases h
  exact not_not.mp hmem

theorem parseCaptureModes_join {modes : List String} (h : modes ∈ representableCaptureModes) :
    parseCaptureModes (joinModes modes) = .ok modes := by
  revert modes
  decide

def checkDefaultRouteAction (action : String) : Except Error Unit := do
  if action ∉ ["current", "direct", "block"] then
    match ← chainTarget action with
    | some _ => pure ()
    | none => .error (invalid "default_route_action must be one of: current, direct, block, or chain:<id>")

/-- `_validate_routing_fields`: the modes of capture are put in order. -/
def validateRoutingFields : Except Error StateFields := do
  ensure (s.routingStateVersion = "1")
    (invalid ("unsupported routing_state_version: " ++ s.routingStateVersion))
  ensure (s.routingPolicy ∈ ["rule", "global"]) (invalid "routing_policy must be one of: rule, global")
  checkDefaultRouteAction s.defaultRouteAction
  let modes ← parseCaptureModes s.captureModes
  return { s with captureModes := joinModes modes }

/-- `rollback_active_mode_for_routing_state`, and nothing where it raises. The modes of capture are
in the spelling of a checked state. -/
def rollbackActiveMode : Routing → Option String
  | (policy, modes, action) =>
    let tun := "tun" ∈ rawModes modes
    if policy = "rule" ∧ action = "current" ∧ ¬ tun then some "rules"
    else if policy = "global" ∧ modes = "local_proxy" ∧ action = "current" then some "global"
    else if policy = "global" ∧ modes = "local_proxy" ∧ action = "direct" then some "direct"
    else if policy = "global" ∧ tun ∧ action = "current" then some "tun"
    else none

/-- `compatibility_active_mode_for_routing_state`. -/
def compatibilityActiveMode (routing : Routing) (fallback : String) : String :=
  if legacyRouting fallback = routing then fallback else (rollbackActiveMode routing).getD fallback

/-- The routing fields from the active mode of an old file, or the active mode from them. -/
def deriveRouting (hasRoutingState : Bool) (s : StateFields) : Except Error StateFields :=
  if hasRoutingState then do
    let s ← validateRoutingFields s
    return { s with activeMode := compatibilityActiveMode s.routing s.activeMode }
  else .ok s.withLegacyRouting

/-- What `_validate_state` checks and derives once the fields are set. -/
def validateState (hasRoutingState : Bool) (s : StateFields) : Except Error StateFields := do
  ensure (s.vpnDesiredState ∈ ["on", "off"]) (invalid "vpn_desired_state must be 'on' or 'off'")
  ensure (s.activeMode ∈ activeModes) (invalid "active_mode must be one of: rules, global, direct, tun, proxy")
  let s ← deriveRouting hasRoutingState s
  ensure (s.languageMode ∈ ["system", "manual"]) (invalid "language_mode must be 'system' or 'manual'")
  ensure (s.selectedLanguage ≠ "") (invalid "selected_language must not be empty")
  return s

/-- What makes a state pass its check unchanged. -/
structure StateFields.Valid : Prop where
  desired : s.vpnDesiredState ∈ ["on", "off"]
  active : s.activeMode ∈ activeModes
  version : s.routingStateVersion = "1"
  policy : s.routingPolicy ∈ ["rule", "global"]
  action : checkDefaultRouteAction s.defaultRouteAction = .ok ()
  modes : ∃ modes ∈ representableCaptureModes, s.captureModes = joinModes modes
  mode : compatibilityActiveMode s.routing s.activeMode = s.activeMode
  language : s.languageMode ∈ ["system", "manual"]
  selected : s.selectedLanguage ≠ ""

theorem StateFields.Valid.passes {s : StateFields} (h : s.Valid) : validateState true s = .ok s := by
  obtain ⟨modes, hmodes, heq⟩ := h.modes
  have hrout : validateRoutingFields s = .ok s := by
    unfold validateRoutingFields
    rw [ensure_of h.version, ensure_of h.policy, h.action, heq, parseCaptureModes_join hmodes]
    exact congrArg (fun text => Except.ok { s with captureModes := text }) heq.symm
  have hderive : deriveRouting true s = .ok s := by
    rw [deriveRouting, if_pos rfl, hrout]
    exact congrArg (fun mode => Except.ok { s with activeMode := mode }) h.mode
  rw [validateState, ensure_of h.desired, ensure_of h.active, hderive, ok_bind, ok_bind,
    ok_bind, ensure_of h.language, ensure_of h.selected]
  rfl

theorem rollbackActiveMode_mem {routing : Routing} {mode : String}
    (h : rollbackActiveMode routing = some mode) : mode ∈ activeModes := by
  unfold rollbackActiveMode at h
  simp only at h
  split at h
  · cases h; decide
  split at h
  · cases h; decide
  split at h
  · cases h; decide
  split at h
  · cases h; decide
  · cases h

theorem compatibilityActiveMode_mem {routing : Routing} {mode : String} (h : mode ∈ activeModes) :
    compatibilityActiveMode routing mode ∈ activeModes := by
  unfold compatibilityActiveMode
  split
  · exact h
  cases hroll : rollbackActiveMode routing with
  | none => exact h
  | some other => exact rollbackActiveMode_mem hroll

theorem compatibilityActiveMode_idem (routing : Routing) (mode : String) :
    compatibilityActiveMode routing (compatibilityActiveMode routing mode) =
      compatibilityActiveMode routing mode := by
  have hroll : ∀ other, rollbackActiveMode routing = some other →
      compatibilityActiveMode routing other = other := by
    intro other h
    unfold compatibilityActiveMode
    rw [h]
    exact ite_self _
  cases h : rollbackActiveMode routing with
  | some other =>
    by_cases hlegacy : legacyRouting mode = routing
    · simp [compatibilityActiveMode, hlegacy]
    · have hmode : compatibilityActiveMode routing mode = other := by simp [compatibilityActiveMode, hlegacy, h]
      rw [hmode, hroll other h]
  | none =>
    have hmode : compatibilityActiveMode routing mode = mode := by simp [compatibilityActiveMode, h]
    rw [hmode, hmode]

theorem legacyRouting_valid (mode : String) : (legacyRouting mode).1 ∈ ["rule", "global"] ∧
    checkDefaultRouteAction (legacyRouting mode).2.2 = .ok () ∧
    ∃ modes ∈ representableCaptureModes, (legacyRouting mode).2.1 = joinModes modes := by
  unfold legacyRouting
  split
  · exact ⟨by decide, rfl, ["local_proxy", "tun"], by decide, rfl⟩
  · exact ⟨by decide, rfl, ["local_proxy"], by decide, rfl⟩
  · exact ⟨by decide, rfl, ["local_proxy"], by decide, rfl⟩
  · exact ⟨by decide, rfl, ["local_proxy", "tun"], by decide, rfl⟩

theorem validateRoutingFields_ok {s t : StateFields} (h : validateRoutingFields s = .ok t) :
    s.routingStateVersion = "1" ∧ s.routingPolicy ∈ ["rule", "global"] ∧
      checkDefaultRouteAction s.defaultRouteAction = .ok () ∧
      ∃ modes ∈ representableCaptureModes, t = { s with captureModes := joinModes modes } := by
  obtain ⟨_, hver, h⟩ := except_bind_ok h
  obtain ⟨_, hpol, h⟩ := except_bind_ok h
  obtain ⟨_, hact, h⟩ := except_bind_ok h
  obtain ⟨modes, hmodes, h⟩ := except_bind_ok h
  cases h
  exact ⟨ensure_eq_ok.mp hver, ensure_eq_ok.mp hpol, hact, modes, parseCaptureModes_mem hmodes, rfl⟩

theorem validateState_valid {hasRoutingState : Bool} {s t : StateFields}
    (h : validateState hasRoutingState s = .ok t) : t.Valid := by
  obtain ⟨_, hdes, h⟩ := except_bind_ok h
  obtain ⟨_, hact, h⟩ := except_bind_ok h
  obtain ⟨u, hu, h⟩ := except_bind_ok h
  obtain ⟨_, hlang, h⟩ := except_bind_ok h
  obtain ⟨_, hsel, h⟩ := except_bind_ok h
  cases h
  rw [ensure_eq_ok] at hdes hact hlang hsel
  cases hasRoutingState with
  | true =>
    obtain ⟨v, hv, hu⟩ := except_bind_ok hu
    cases hu
    obtain ⟨hver, hpol, haction, modes, hmodes, rfl⟩ := validateRoutingFields_ok hv
    exact {
      desired := hdes, active := compatibilityActiveMode_mem hact, version := hver
      policy := hpol, action := haction, modes := ⟨modes, hmodes, rfl⟩
      mode := compatibilityActiveMode_idem _ _, language := hlang, selected := hsel }
  | false =>
    cases hu
    obtain ⟨hpol, haction, hmodes⟩ := legacyRouting_valid s.activeMode
    exact {
      desired := hdes, active := hact, version := rfl, policy := hpol, action := haction
      modes := hmodes, mode := if_pos rfl, language := hlang, selected := hsel }

/-- A state that has passed its check. -/
abbrev State : Type := { s : StateFields // s.Valid }

def routingStateFields : List String :=
  ["routing_state_version", "routing_policy", "capture_modes", "default_route_action"]

/-- `_validate_state`. -/
def State.fromDict (data : Object) : Except Error State := do
  let s ← data.foldlM (fun s entry => StateFields.set s entry.1 entry.2) {}
  let ⟨s, h⟩ ← attested (validateState (data.any fun entry => entry.1 ∈ routingStateFields) s)
  return ⟨s, validateState_valid h⟩

def State.toDict (s : State) : Object :=
  [("app_autostart_enabled", .bool s.1.appAutostartEnabled),
    ("vpn_autoconnect_enabled", .bool s.1.vpnAutoconnectEnabled),
    ("vpn_desired_state", .str s.1.vpnDesiredState), ("active_profile_id", .str s.1.activeProfileId),
    ("routing_state_version", .str s.1.routingStateVersion), ("routing_policy", .str s.1.routingPolicy),
    ("capture_modes", .str s.1.captureModes), ("default_route_action", .str s.1.defaultRouteAction),
    ("active_mode", .str s.1.activeMode), ("language_mode", .str s.1.languageMode),
    ("selected_language", .str s.1.selectedLanguage), ("last_failure_reason", .str s.1.lastFailureReason),
    ("last_failure_at", .str s.1.lastFailureAt)]

theorem State.fromDict_toDict (s : State) : State.fromDict s.toDict = .ok s := by
  have hset : s.toDict.foldlM (fun s entry => StateFields.set s entry.1 entry.2) {} = .ok s.1 := by
    simp [State.toDict, StateFields.set, strictBool, stateText]
  have hrout : (s.toDict.any fun entry => entry.1 ∈ routingStateFields) = true := rfl
  unfold State.fromDict
  rw [hset, ok_bind, attested_of (hrout ▸ s.2.passes)]
  rfl

/-- `DEFAULT_STATE`, which is what a missing file stands for. -/
def State.default : State where
  val := {}
  property := by
    refine ⟨by decide, by decide, rfl, by decide, rfl, ⟨["local_proxy", "tun"], by decide, rfl⟩,
      ?_, by decide, by decide⟩
    exact if_pos rfl

/-! ## The configuration -/

section Config

variable {D : Type} (lib : Library D)

/-- The targets of the health probe, as `validate_targets` leaves them. -/
structure HealthTargets where
  targets : List String
  count : 2 ≤ targets.length ∧ targets.length ≤ 8
  distinct : targets.Nodup
  probed : ∀ t ∈ targets, stripped t = t ∧ lib.healthTarget t = true

/-- The loop of `validate_targets`. -/
def validateTargetItems (field : String) : List String → List Json → Except Error (List String)
  | seen, [] => .ok seen
  | seen, item :: items =>
    match item with
    | .str text => do
      let target := stripped text
      ensure (lib.healthTarget target = true)
        ⟨.valueError, field ++ " entries must be credential-free HTTPS URLs without fragments"⟩
      ensure (target ∉ seen) ⟨.valueError, field ++ " entries must be unique"⟩
      validateTargetItems field (seen ++ [target]) items
    | _ => refuseValue (field ++ " entries must be strings")

theorem validateTargetItems_ok {field : String} {items : List Json} {seen targets : List String}
    (hseen : seen.Nodup ∧ ∀ t ∈ seen, stripped t = t ∧ lib.healthTarget t = true)
    (h : validateTargetItems lib field seen items = .ok targets) :
    (targets.Nodup ∧ ∀ t ∈ targets, stripped t = t ∧ lib.healthTarget t = true) ∧
      targets.length = seen.length + items.length := by
  induction items generalizing seen with
  | nil =>
    cases h
    exact ⟨hseen, rfl⟩
  | cons item items ih =>
    cases item with
    | str text =>
      obtain ⟨_, htgt, h⟩ := except_bind_ok h
      obtain ⟨_, hnew, h⟩ := except_bind_ok h
      rw [ensure_eq_ok] at htgt hnew
      have hnext : (seen ++ [stripped text]).Nodup ∧
          ∀ t ∈ seen ++ [stripped text], stripped t = t ∧ lib.healthTarget t = true := by
        refine ⟨by simpa using hseen.1.concat hnew, forall_mem_append.mpr ⟨hseen.2, ?_⟩⟩
        exact forall_mem_singleton.mpr ⟨stripped_stripped text, htgt⟩
      obtain ⟨hall, hlen⟩ := ih hnext h
      refine ⟨hall, ?_⟩
      rw [hlen, length_append, length_singleton, length_cons]
      omega
    | _ => cases h

def validateTargets (field : String) (value : Json) : Except Error (HealthTargets lib) :=
  match value with
  | .arr items =>
    if hcount : 2 ≤ items.length ∧ items.length ≤ 8 then do
      let ⟨targets, h⟩ ← attested (validateTargetItems lib field [] items)
      have hok := validateTargetItems_ok lib ⟨nodup_nil, nofun⟩ h
      return ⟨targets, by rw [hok.2]; simpa using hcount, hok.1.1, hok.1.2⟩
    else refuseValue (field ++ " must contain between 2 and 8 targets")
  | _ => refuseValue (field ++ " must be a list of HTTPS URLs")

theorem validateTargetItems_texts {field : String} {seen targets : List String}
    (hdist : (seen ++ targets).Nodup)
    (h : ∀ t ∈ targets, stripped t = t ∧ lib.healthTarget t = true) :
    validateTargetItems lib field seen (targets.map .str) = .ok (seen ++ targets) := by
  induction targets generalizing seen with
  | nil => simp [validateTargetItems]
  | cons target targets ih =>
    obtain ⟨hstrip, htgt⟩ := h target mem_cons_self
    have hnew : target ∉ seen := fun hmem =>
      (nodup_append.mp hdist).2.2 target hmem target mem_cons_self rfl
    have hrest : (seen ++ [target] ++ targets).Nodup := by simpa using hdist
    rw [map_cons, validateTargetItems]
    simp only [hstrip, ensure_of htgt, ensure_of hnew, ok_bind]
    rw [ih hrest fun t ht => h t (mem_cons_of_mem _ ht), append_assoc, singleton_append]

@[simp] theorem validateTargets_texts (field : String) (targets : HealthTargets lib) :
    validateTargets lib field (texts targets.targets) = .ok targets := by
  have hread : validateTargetItems lib field [] (targets.targets.map .str) = .ok targets.targets :=
    validateTargetItems_texts lib (by simpa using targets.distinct) targets.probed
  have hcount : 2 ≤ (targets.targets.map Json.str).length ∧ (targets.targets.map Json.str).length ≤ 8 := by
    simpa using targets.count
  unfold validateTargets texts
  simp only
  rw [dif_pos hcount, attested_of hread]
  rfl

structure WatchdogSection where
  checkIntervalSeconds : Nat
  reconnectAttempts : Nat
  reconnectBackoffSeconds : Nat

structure KillSwitchSection where
  enabled : Bool
  blockIpv6 : Bool
  allowLan : Bool
  tunnelInterface : String
  onManualDisconnect : String

structure RotationSection where
  enabled : Bool
  healthStatusCooldownSeconds : Nat
  maxBackoffIntervalSeconds : Nat
  scheduledIntervalHours : Nat
  healthTargets : HealthTargets lib
  healthSuccessQuorum : Nat
  testTimeoutSeconds : Nat
  latencyMaxStaleSeconds : Nat

structure LanSharingSection where
  enabled : Bool
  mode : String
  bindAddress : String
  socksPort : Nat
  httpPort : Nat
  authenticationRequired : Bool
  firewallManaged : Bool
  gatewayInterface : String
  gatewayClientCidr : String
  gatewayDnsMode : String

/-- The fields of the configuration with the types that `_validate_config` checks. -/
structure ConfigFields where
  watchdog : WatchdogSection
  killSwitch : KillSwitchSection
  dnsMode : String
  rotation : RotationSection lib
  lanSharing : LanSharingSection

variable (lan : LanSharingSection)

/-- The texts of the section without white space around them. -/
def LanSharingSection.normal : LanSharingSection :=
  { lan with
    bindAddress := stripped lan.bindAddress, gatewayInterface := stripped lan.gatewayInterface
    gatewayClientCidr := stripped lan.gatewayClientCidr, gatewayDnsMode := stripped lan.gatewayDnsMode }

theorem LanSharingSection.normal_normal : lan.normal.normal = lan.normal := by
  simp [normal]

def validateLanBindAddress (value : String) : Except Error Unit :=
  match lib.ipAddress value with
  | none => .error (invalid "lan_sharing.bind_address must be an IP address")
  | some address =>
    if address.isUnspecified then
      ensure (lib.allowWildcardLanBind = true)
        (invalid "lan_sharing.bind_address must not be a wildcard address")
    else ensure (address.isMulticast = false) (invalid "lan_sharing.bind_address must not be multicast")

def validateGatewayInterface (value : String) : Except Error Unit := do
  ensure (value ∉ ["lo", "all", "*"])
    (invalid "lan_sharing.gateway_interface must be a concrete non-loopback interface")
  ensure (value.toList.any isSpace = false)
    (invalid "lan_sharing.gateway_interface must not contain whitespace")
  ensure ('/' ∉ value.toList ∧ '\x00' ∉ value.toList)
    (invalid "lan_sharing.gateway_interface contains invalid characters")

def validateGatewayClientCidr (value : String) : Except Error Unit :=
  match lib.ipNetwork false value with
  | none => .error (invalid "lan_sharing.gateway_client_cidr must be an IP network")
  | some network => do
    ensure (network.version = 4) (invalid "lan_sharing.gateway_client_cidr must be IPv4")
    ensure (network.prefixlen ≠ 0) (invalid "lan_sharing.gateway_client_cidr must not be 0.0.0.0/0")
    ensure (network.isLoopback = false) (invalid "lan_sharing.gateway_client_cidr must not be loopback")
    ensure (network.isMulticast = false) (invalid "lan_sharing.gateway_client_cidr must not be multicast")

/-- The checks that an enabled section has to pass besides. -/
def checkEnabledLan : Except Error Unit :=
  if lan.mode = "proxy" then do
    ensure (lan.bindAddress ≠ "") (invalid "lan_sharing.enabled requires an explicit bind_address")
    ensure ((lib.ipAddress lan.bindAddress).any (·.isLoopback) = false)
      (invalid "lan_sharing.bind_address must be a non-loopback LAN address when enabled")
    ensure (lan.authenticationRequired = true)
      (invalid "lan_sharing.enabled requires authentication_required = true")
  else if lan.mode = "gateway" then do
    ensure (lan.gatewayInterface ≠ "") (invalid "lan_sharing.gateway mode requires gateway_interface")
    ensure (lan.gatewayClientCidr ≠ "") (invalid "lan_sharing.gateway mode requires gateway_client_cidr")
    ensure (lan.firewallManaged = true) (invalid "lan_sharing.gateway mode requires firewall_managed = true")
  else .error (invalid "lan_sharing.enabled requires lan_sharing.mode = 'proxy' or 'gateway'")

/-- `_validate_lan_sharing` for texts without white space around them. -/
def checkLanSharing : Except Error Unit := do
  ensure (lan.mode ∈ ["disabled", "proxy", "gateway"])
    (invalid "lan_sharing.mode must be one of: disabled, proxy, gateway")
  ensure (1 ≤ lan.socksPort ∧ lan.socksPort ≤ 65535)
    (invalid "lan_sharing.socks_port must be between 1 and 65535")
  ensure (1 ≤ lan.httpPort ∧ lan.httpPort ≤ 65535) (invalid "lan_sharing.http_port must be between 1 and 65535")
  ensure (lan.socksPort ≠ lan.httpPort)
    (invalid "lan_sharing.socks_port and lan_sharing.http_port must differ")
  if lan.bindAddress = "" then pure () else validateLanBindAddress lib lan.bindAddress
  if lan.gatewayInterface = "" then pure () else validateGatewayInterface lan.gatewayInterface
  if lan.gatewayClientCidr = "" then pure () else validateGatewayClientCidr lib lan.gatewayClientCidr
  ensure (lan.gatewayDnsMode = "manual") (invalid "lan_sharing.gateway_dns_mode must be manual")
  if lan.enabled then checkEnabledLan lib lan

/-- The checks of `_validate_config` outside `lan_sharing`. -/
def checkConfig (f : ConfigFields lib) : Except Error Unit := do
  ensure (f.killSwitch.onManualDisconnect ∈ ["disable", "keep"])
    (invalid "kill_switch.on_manual_disconnect must be 'disable' or 'keep'")
  ensure (f.dnsMode ∈ ["auto", "off", "custom", "advanced"])
    (invalid "dns.mode must be one of: auto, off, custom, advanced")
  ensure (5 ≤ f.watchdog.checkIntervalSeconds) (invalid "watchdog.check_interval_seconds must be at least 5")
  ensure (1 ≤ f.watchdog.reconnectBackoffSeconds ∧ f.watchdog.reconnectBackoffSeconds ≤ 86400)
    (invalid "watchdog.reconnect_backoff_seconds must be between 1 and 86400")
  ensure (1 ≤ f.rotation.maxBackoffIntervalSeconds ∧ f.rotation.maxBackoffIntervalSeconds ≤ 86400)
    (invalid "rotation.max_backoff_interval_seconds must be between 1 and 86400")
  ensure (f.watchdog.reconnectBackoffSeconds ≤ f.rotation.maxBackoffIntervalSeconds)
    (invalid "rotation.max_backoff_interval_seconds must be at least watchdog.reconnect_backoff_seconds")
  ensure (1 ≤ f.rotation.healthSuccessQuorum ∧
      f.rotation.healthSuccessQuorum ≤ f.rotation.healthTargets.targets.length)
    (invalid ("rotation.health_success_quorum must be between 1 and " ++
      toString f.rotation.healthTargets.targets.length))
  ensure (1 ≤ f.rotation.testTimeoutSeconds) (invalid "rotation.test_timeout_seconds must be at least 1")

/-- `_validate_config` for fields of the right types. -/
def validateConfig (f : ConfigFields lib) : Except Error (ConfigFields lib) := do
  checkConfig lib f
  checkLanSharing lib f.lanSharing.normal
  return { f with lanSharing := f.lanSharing.normal }

/-- A configuration that passes its check unchanged. -/
structure AppConfig where
  fields : ConfigFields lib
  valid : validateConfig lib fields = .ok fields

theorem validateConfig_idem {f g : ConfigFields lib} (h : validateConfig lib f = .ok g) :
    validateConfig lib g = .ok g := by
  obtain ⟨_, hcfg, h⟩ := except_bind_ok h
  obtain ⟨_, hlan, h⟩ := except_bind_ok h
  cases h
  have hcfg' : checkConfig lib { f with lanSharing := f.lanSharing.normal } = .ok () := hcfg
  rw [validateConfig, hcfg']
  simp only [LanSharingSection.normal_normal, hlan]
  rfl

/-! ### Tables -/

def watchdogKeys : List String := ["check_interval_seconds", "reconnect_attempts", "reconnect_backoff_seconds"]

def killSwitchKeys : List String :=
  ["enabled", "block_ipv6", "allow_lan", "tunnel_interface", "on_manual_disconnect"]

def rotationKeys : List String :=
  ["enabled", "health_status_cooldown_seconds", "max_backoff_interval_seconds", "scheduled_interval_hours",
    "health_targets", "health_success_quorum", "test_timeout_seconds", "latency_max_stale_seconds"]

def lanSharingKeys : List String :=
  ["enabled", "mode", "bind_address", "socks_port", "http_port", "authentication_required", "firewall_managed",
    "gateway_interface", "gateway_client_cidr", "gateway_dns_mode"]

def WatchdogSection.toDict (s : WatchdogSection) : Object :=
  [("check_interval_seconds", .int s.checkIntervalSeconds), ("reconnect_attempts", .int s.reconnectAttempts),
    ("reconnect_backoff_seconds", .int s.reconnectBackoffSeconds)]

def KillSwitchSection.toDict (s : KillSwitchSection) : Object :=
  [("enabled", .bool s.enabled), ("block_ipv6", .bool s.blockIpv6), ("allow_lan", .bool s.allowLan),
    ("tunnel_interface", .str s.tunnelInterface), ("on_manual_disconnect", .str s.onManualDisconnect)]

/-- The rotation table with any targets. -/
def RotationSection.toDictWith (s : RotationSection lib) (targets : List String) : Object :=
  [("enabled", .bool s.enabled), ("health_status_cooldown_seconds", .int s.healthStatusCooldownSeconds),
    ("max_backoff_interval_seconds", .int s.maxBackoffIntervalSeconds),
    ("scheduled_interval_hours", .int s.scheduledIntervalHours), ("health_targets", texts targets),
    ("health_success_quorum", .int s.healthSuccessQuorum), ("test_timeout_seconds", .int s.testTimeoutSeconds),
    ("latency_max_stale_seconds", .int s.latencyMaxStaleSeconds)]

def LanSharingSection.toDict (s : LanSharingSection) : Object :=
  [("enabled", .bool s.enabled), ("mode", .str s.mode), ("bind_address", .str s.bindAddress),
    ("socks_port", .int s.socksPort), ("http_port", .int s.httpPort),
    ("authentication_required", .bool s.authenticationRequired), ("firewall_managed", .bool s.firewallManaged),
    ("gateway_interface", .str s.gatewayInterface), ("gateway_client_cidr", .str s.gatewayClientCidr),
    ("gateway_dns_mode", .str s.gatewayDnsMode)]

/-- The configuration's tables, with any targets in the rotation table. -/
def ConfigFields.toDictWith (f : ConfigFields lib) (targets : List String) : Object :=
  [("watchdog", .obj f.watchdog.toDict), ("kill_switch", .obj f.killSwitch.toDict),
    ("dns", .obj [("mode", .str f.dnsMode)]), ("rotation", .obj (f.rotation.toDictWith lib targets)),
    ("lan_sharing", .obj f.lanSharing.toDict)]

def AppConfig.toDict (config : AppConfig lib) : Object :=
  config.fields.toDictWith lib config.fields.rotation.healthTargets.targets

/-- A table of `_validate_config`: every key of the defaults, and no other. -/
def configTable (config : Object) (name : String) (allowed : List String) : Except Error Object := do
  match ← required config name with
  | .obj fields =>
    match fields.find? fun entry => entry.1 ∉ allowed with
    | some entry => .error (invalid ("contains unsupported config field: " ++ name ++ "." ++ entry.1))
    | none => .ok fields
  | _ => .error (invalid (name ++ " must be a table"))

def configBool (name : String) (fields : Object) (key : String) : Except Error Bool := do
  strictBool (← required fields key) (name ++ "." ++ key)

def configNat (name : String) (fields : Object) (key : String) : Except Error Nat := do
  let number ← strictInt (← required fields key) (name ++ "." ++ key)
  ensure (0 ≤ number) (invalid (name ++ "." ++ key ++ " must not be negative"))
  return number.toNat

def configText (name : String) (fields : Object) (key : String) : Except Error String := do
  stateText (name ++ "." ++ key) (← required fields key)

def configTargets (name : String) (fields : Object) (key : String) : Except Error (HealthTargets lib) := do
  match validateTargets lib (name ++ "." ++ key) (← required fields key) with
  | .ok targets => .ok targets
  | .error e => .error (invalid e.message)

def readWatchdog (fields : Object) : Except Error WatchdogSection := do
  let checkIntervalSeconds ← configNat "watchdog" fields "check_interval_seconds"
  let reconnectAttempts ← configNat "watchdog" fields "reconnect_attempts"
  let reconnectBackoffSeconds ← configNat "watchdog" fields "reconnect_backoff_seconds"
  return { checkIntervalSeconds, reconnectAttempts, reconnectBackoffSeconds }

def readKillSwitch (fields : Object) : Except Error KillSwitchSection := do
  let enabled ← configBool "kill_switch" fields "enabled"
  let blockIpv6 ← configBool "kill_switch" fields "block_ipv6"
  let allowLan ← configBool "kill_switch" fields "allow_lan"
  let tunnelInterface ← configText "kill_switch" fields "tunnel_interface"
  let onManualDisconnect ← configText "kill_switch" fields "on_manual_disconnect"
  return { enabled, blockIpv6, allowLan, tunnelInterface, onManualDisconnect }

def readRotation (fields : Object) : Except Error (RotationSection lib) := do
  let enabled ← configBool "rotation" fields "enabled"
  let healthStatusCooldownSeconds ← configNat "rotation" fields "health_status_cooldown_seconds"
  let maxBackoffIntervalSeconds ← configNat "rotation" fields "max_backoff_interval_seconds"
  let scheduledIntervalHours ← configNat "rotation" fields "scheduled_interval_hours"
  let healthTargets ← configTargets lib "rotation" fields "health_targets"
  let healthSuccessQuorum ← configNat "rotation" fields "health_success_quorum"
  let testTimeoutSeconds ← configNat "rotation" fields "test_timeout_seconds"
  let latencyMaxStaleSeconds ← configNat "rotation" fields "latency_max_stale_seconds"
  return {
    enabled, healthStatusCooldownSeconds, maxBackoffIntervalSeconds, scheduledIntervalHours, healthTargets,
    healthSuccessQuorum, testTimeoutSeconds, latencyMaxStaleSeconds }

def readLanSharing (fields : Object) : Except Error LanSharingSection := do
  let enabled ← configBool "lan_sharing" fields "enabled"
  let mode ← configText "lan_sharing" fields "mode"
  let bindAddress ← configText "lan_sharing" fields "bind_address"
  let socksPort ← configNat "lan_sharing" fields "socks_port"
  let httpPort ← configNat "lan_sharing" fields "http_port"
  let authenticationRequired ← configBool "lan_sharing" fields "authentication_required"
  let firewallManaged ← configBool "lan_sharing" fields "firewall_managed"
  let gatewayInterface ← configText "lan_sharing" fields "gateway_interface"
  let gatewayClientCidr ← configText "lan_sharing" fields "gateway_client_cidr"
  let gatewayDnsMode ← configText "lan_sharing" fields "gateway_dns_mode"
  return {
    enabled, mode, bindAddress, socksPort, httpPort, authenticationRequired, firewallManaged, gatewayInterface,
    gatewayClientCidr, gatewayDnsMode }

def configSections : List String := ["watchdog", "kill_switch", "dns", "rotation", "lan_sharing"]

/-- The loop of `_validate_config`, which checks the types of the fields. -/
def readConfig (config : Object) : Except Error (ConfigFields lib) := do
  match config.find? fun entry => entry.1 ∉ configSections with
  | some entry => .error (invalid ("contains unsupported config section: " ++ entry.1))
  | none =>
    let watchdog ← readWatchdog (← configTable config "watchdog" watchdogKeys)
    let killSwitch ← readKillSwitch (← configTable config "kill_switch" killSwitchKeys)
    let dnsMode ← configText "dns" (← configTable config "dns" ["mode"]) "mode"
    let rotation ← readRotation lib (← configTable config "rotation" rotationKeys)
    let lanSharing ← readLanSharing (← configTable config "lan_sharing" lanSharingKeys)
    return { watchdog, killSwitch, dnsMode, rotation, lanSharing }

/-- `_validate_config`. Of several errors, the one that is raised may be another than in the code.
-/
def AppConfig.fromDict (config : Object) : Except Error (AppConfig lib) := do
  let ⟨fields, h⟩ ← attested (validateConfig lib (← readConfig lib config))
  return ⟨fields, validateConfig_idem lib h⟩

section Fields

variable {name key : String} {fields : Object}

theorem configNat_of {n : Nat} (h : fields.get key = some (.int n)) : configNat name fields key = .ok n := by
  simp [configNat, required, h, strictInt, ensure]

theorem configBool_of {b : Bool} (h : fields.get key = some (.bool b)) :
    configBool name fields key = .ok b := by
  simp [configBool, required, h, strictBool]

theorem configText_of {text : String} (h : fields.get key = some (.str text)) :
    configText name fields key = .ok text := by
  simp [configText, required, h, stateText]

theorem configTargets_of {targets : HealthTargets lib} (h : fields.get key = some (texts targets.targets)) :
    configTargets lib name fields key = .ok targets := by
  simp [configTargets, required, h]

theorem configTable_of {config : Object} {allowed : List String} (h : config.get name = some (.obj fields))
    (hkeys : ∀ entry ∈ fields, entry.1 ∈ allowed) : configTable config name allowed = .ok fields := by
  have hnone : (fields.find? fun entry => entry.1 ∉ allowed) = none := by
    refine find?_eq_none.mpr fun entry hent => ?_
    simpa using hkeys entry hent
  simp only [configTable, required, h, ok_bind, hnone]

end Fields

theorem readWatchdog_toDict (s : WatchdogSection) : readWatchdog s.toDict = .ok s := by
  rfl

theorem readKillSwitch_toDict (s : KillSwitchSection) : readKillSwitch s.toDict = .ok s := by
  rfl

theorem readRotation_toDictWith (s : RotationSection lib) (targets : HealthTargets lib) :
    readRotation lib (s.toDictWith lib targets.targets) = .ok { s with healthTargets := targets } := by
  unfold readRotation
  rw [configBool_of rfl, ok_bind, configNat_of rfl, ok_bind, configNat_of rfl, ok_bind,
    configNat_of rfl, ok_bind, configTargets_of lib rfl, ok_bind, configNat_of rfl, ok_bind,
    configNat_of rfl, ok_bind, configNat_of rfl]
  rfl

theorem readLanSharing_toDict (s : LanSharingSection) : readLanSharing s.toDict = .ok s := by
  rfl

theorem readConfig_toDictWith (f : ConfigFields lib) (targets : HealthTargets lib) :
    readConfig lib (f.toDictWith lib targets.targets) =
      .ok { f with rotation := { f.rotation with healthTargets := targets } } := by
  have hnone : ((f.toDictWith lib targets.targets).find? fun entry => entry.1 ∉ configSections) = none := rfl
  have hwatc : ∀ entry ∈ f.watchdog.toDict, entry.1 ∈ watchdogKeys := by
    simp [WatchdogSection.toDict, watchdogKeys]
  have hkill : ∀ entry ∈ f.killSwitch.toDict, entry.1 ∈ killSwitchKeys := by
    simp [KillSwitchSection.toDict, killSwitchKeys]
  have hrot : ∀ entry ∈ f.rotation.toDictWith lib targets.targets, entry.1 ∈ rotationKeys := by
    simp [RotationSection.toDictWith, rotationKeys]
  have hlan : ∀ entry ∈ f.lanSharing.toDict, entry.1 ∈ lanSharingKeys := by
    simp [LanSharingSection.toDict, lanSharingKeys]
  unfold readConfig
  rw [configTable_of rfl hwatc, ok_bind, readWatchdog_toDict, ok_bind,
    configTable_of rfl hkill, ok_bind, readKillSwitch_toDict, ok_bind,
    configTable_of rfl (fun entry h => by simpa using congrArg Prod.fst (mem_singleton.mp h)), ok_bind,
    configText_of rfl, ok_bind,
    configTable_of rfl hrot, ok_bind, readRotation_toDictWith, ok_bind,
    configTable_of rfl hlan, ok_bind, readLanSharing_toDict]
  rfl

theorem AppConfig.fromDict_toDict (config : AppConfig lib) :
    AppConfig.fromDict lib config.toDict = .ok config := by
  unfold AppConfig.fromDict AppConfig.toDict
  rw [readConfig_toDictWith, ok_bind, attested_of config.valid]
  rfl

/-! ### Loading -/

def legacyUnreliableHealthTargets : List String :=
  ["https://www.cloudflare.com/cdn-cgi/trace", "https://www.ietf.org/", "https://www.wikipedia.org/"]

def areTexts : List Json → List String → Bool
  | [], [] => true
  | .str text :: values, item :: items => text == item && areTexts values items
  | _, _ => false

def isTexts (value : Json) (items : List String) : Bool :=
  match value with
  | .arr values => areTexts values items
  | _ => false

def defaultTargets : HealthTargets lib where
  targets := defaultHealthTargets
  count := by decide
  distinct := by decide
  probed := fun t ht => ⟨by revert t; decide, lib.healthTarget_default t ht⟩

/-- `DEFAULT_CONFIG`. -/
def ConfigFields.default : ConfigFields lib where
  watchdog := { checkIntervalSeconds := 30, reconnectAttempts := 3, reconnectBackoffSeconds := 10 }
  killSwitch := {
    enabled := false, blockIpv6 := true, allowLan := true, tunnelInterface := "wdvpn-tun0"
    onManualDisconnect := "disable" }
  dnsMode := "auto"
  rotation := {
    enabled := false, healthStatusCooldownSeconds := 300, maxBackoffIntervalSeconds := 300
    scheduledIntervalHours := 0, healthTargets := defaultTargets lib, healthSuccessQuorum := 2
    testTimeoutSeconds := 5, latencyMaxStaleSeconds := 300 }
  lanSharing := {
    enabled := false, mode := "disabled", bindAddress := "", socksPort := 2080, httpPort := 2081
    authenticationRequired := true, firewallManaged := false, gatewayInterface := "", gatewayClientCidr := ""
    gatewayDnsMode := "manual" }

theorem validateConfig_default : validateConfig lib (.default lib) = .ok (.default lib) := by
  have hlan : (ConfigFields.default lib).lanSharing.normal = (ConfigFields.default lib).lanSharing := by
    have hemp : stripped "" = "" := by decide
    have hmanual : stripped "manual" = "manual" := by decide
    simp [ConfigFields.default, LanSharingSection.normal, hemp, hmanual]
  have hcfg : checkConfig lib (.default lib) = .ok () := by
    simp [checkConfig, ConfigFields.default, defaultTargets, defaultHealthTargets, ensure]
  rw [validateConfig, hlan, hcfg]
  rfl

def AppConfig.default : AppConfig lib := ⟨.default lib, validateConfig_default lib⟩

def tableAt (config : Object) (name : String) : Object :=
  match config.get name with
  | some (.obj fields) => fields
  | _ => []

/-- The loop that puts the tables of a file over the defaults. -/
def mergeTables (merged : Object) : Object → Except Error Object
  | [] => .ok merged
  | (name, .obj values) :: rest =>
    mergeTables (merged.set name (.obj ((tableAt merged name).update values))) rest
  | (name, _) :: _ => .error (invalid (name ++ " must be a table"))

/-- The targets that a rotation table gets from its `test_url`. -/
def withTestUrl (rotation : Object) : Object :=
  match rotation.get "test_url" with
  | none => rotation
  | some url =>
    let rotation : Object := filter (fun entry => decide (entry.1 ≠ "test_url")) rotation
    match rotation.get "health_targets" with
    | some _ => rotation
    | none =>
      let others := (defaultHealthTargets.map Json.str).filter fun target =>
        match url, target with
        | .str url, .str target => url ≠ target
        | _, _ => true
      rotation.set "health_targets" (.arr (url :: others))

/-- The historical targets become the current ones. -/
def upgradeTargets (rotation : Object) : Object :=
  match rotation.get "health_targets" with
  | some targets =>
    if isTexts targets legacyUnreliableHealthTargets then
      rotation.set "health_targets" (texts defaultHealthTargets)
    else rotation
  | none => rotation

def upgradeRotation (data : Object) : Object :=
  match data.get "rotation" with
  | some (.obj rotation) => data.set "rotation" (.obj (upgradeTargets (withTestUrl rotation)))
  | _ => data

/-- `AppConfig.load`, with the tables of the file if there is one. -/
def AppConfig.load (file : Option Object) : Except Error (AppConfig lib) :=
  match file with
  | none => .ok (.default lib)
  | some data => do
    let merged ← mergeTables (AppConfig.default lib).toDict (upgradeRotation data)
    AppConfig.fromDict lib merged

end Config

end WatchdogVpn.Documents
