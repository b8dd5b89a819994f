import WatchdogVpn.Lib.Method
import WatchdogVpn.Firewall.KillSwitch
import WatchdogVpn.Rotation.Engine

/-!
# The runtime of the watchdog

`WatchdogRuntime` connects from four places: at startup, on request, when a tunnel is found dead,
and through the rotation engine, which reaches the driver by way of `_RuntimeDriverRouter`. Its
operations are methods over the driver in use, the settings of the kill switch and a few flags;
drivers, firewall, stores, health probes and the clock are asked, and all of them but the clock may
raise. The assignment of the driver is a request too, so that a history shows which driver was in
use when.

A profile is anything with an id, a protocol and an endpoint.
-/

namespace WatchdogVpn.Runtime

open Effect
open Firewall (KillSwitch IpAddress)
open Method (raise ofExcept)
open Rotation (RotationEngine RotationHistory RotationReq RotationAns RotationResult rotate)

/-! ## What is asked -/

/-- The exceptions, as far as they are told apart. -/
inductive PyError
  | persistentStore
  | persistentValidation
  | unsupportedDriverPolicy
  | managementPathSafety
  | endpointPolicyConnection
  | endpointPolicy
  | valueError
  | teardownBarrier
  | other
  deriving DecidableEq

def PyError.isPersistent : PyError → Bool
  | persistentStore | persistentValidation => true
  | _ => false

def PyError.isValueError : PyError → Bool
  | valueError | endpointPolicy => true
  | _ => false

inductive Protocol
  | amneziaWg
  | openVpn
  | openVpnCloak
  | other
  deriving DecidableEq

inductive Capability
  | dns
  | routing
  | appPolicy
  | chains
  | lanProxy
  | lanGateway
  | capture
  deriving DecidableEq

def driverPolicyCapabilities : List Capability :=
  [.dns, .routing, .appPolicy, .chains, .lanProxy, .lanGateway, .capture]

inductive NativeType
  | amneziaWg
  | openVpn
  | openVpnCloak
  deriving DecidableEq

/-- The class of a driver and, of a `NativePolicyDriver`, that of its native part; any other class
with what is read of it. -/
inductive DriverType
  | singBox
  | nativePolicy (native : NativeType)
  | other (name : Nat) (capabilities : List Capability)
  (requiresProfileEgressCheck preflightsManagementPath : Bool)
  deriving DecidableEq

namespace DriverType

def policyCapabilities : DriverType → List Capability
  | singBox | nativePolicy _ => driverPolicyCapabilities
  | other _ capabilities _ _ => capabilities

def requiresProfileEgressCheck : DriverType → Bool
  | singBox | nativePolicy _ => true
  | other _ _ required _ => required

/-- Whether `preflight_management_path` is there. -/
def preflightsManagementPath : DriverType → Bool
  | singBox => true
  | nativePolicy _ => false
  | other _ _ _ preflights => preflights

/-- `type(a) is type(b)`. -/
def isSameClass : DriverType → DriverType → Bool
  | singBox, singBox => true
  | nativePolicy _, nativePolicy _ => true
  | other a _ _ _, other b _ _ _ => a == b
  | _, _ => false

/-- Whether `_candidate_driver_for_profile` stays with a driver of the second type where
`select_driver` gives the first. -/
def keepsDriver : DriverType → DriverType → Bool
  | nativePolicy a, nativePolicy b => a == b
  | a, b => a.isSameClass b

end DriverType

structure Driver where
  id : Nat
  type : DriverType
  deriving DecidableEq

/-- The type of `select_driver(profile)`. -/
def selectDriver : Protocol → DriverType
  | .amneziaWg => .nativePolicy .amneziaWg
  | .openVpn => .nativePolicy .openVpn
  | .openVpnCloak => .nativePolicy .openVpnCloak
  | .other => .singBox

/-- What the runtime reads of a `ConnectionState`; `artifacts` is whether there are runtime
artifacts. -/
structure ConnectionState where
  mode : String := "standby"
  tunActive : Bool := false
  proxyActive : Bool := false
  artifacts : Bool := false
  status : String := "standby"
  deriving DecidableEq

/-- The keys of the persistent state that are read. -/
structure PersistentState where
  desiredState : String := "off"
  autoconnectEnabled : Bool := false
  activeProfileId : String := ""
  lastFailureReason : String := ""

inductive StateKey
  | desiredState
  | activeProfileId
  | lastFailureReason
  | lastFailureAt
  deriving DecidableEq

/-- The configuration, each entry as its strict reader gives it. -/
structure Config where
  killSwitchEnabled : Except PyError Bool := .ok false
  tunnelInterface : String := "wdvpn-tun0"
  blockIpv6 : Except PyError Bool := .ok true
  allowLan : Except PyError Bool := .ok true
  /-- `str(…).strip().lower()` of `on_manual_disconnect`. -/
  onManualDisconnect : String := "disable"
  rotationEnabled : Except PyError Bool := .ok false
  scheduledIntervalHours : Except PyError Int := .ok 0
  reconnectAttempts : Except PyError Int := .ok 3
  /-- The targets, the quorum and the timeout of `_configured_verify`, as far as they can be read.
  -/
  healthPolicy : Except PyError Unit := .ok ()

/-- The entries `active` and `consistent` of `kill_switch.status()`. -/
structure KillSwitchStatus where
  active : Option Bool
  consistent : Option Bool

/-- A call that may raise. -/
inductive Call (P : Type)
  | connect (d : Driver) (p : P)
  | disconnect (d : Driver)
  | status (d : Driver)
  | healthCheck (d : Driver)
  | preflightManagementPath (d : Driver) (p : P)
  | applyAtomic (k : KillSwitch)
  | disable
  | isActive
  | killSwitchStatus
  | newDriver (type : DriverType)
  | driverSelector (p : P)
  | loadState
  | setState (key : StateKey) (value : String)
  /-- `last_failure_at` is set to the current time. -/
  | stampFailure
  | getProfile (id : String)
  | updateProfile (p : P) (healthStatus : String)
  | loadConfig
  | loadDnsPolicy
  | requestedPolicyCapabilities
  | validateProfileEndpoint (p : P)
  | connectOptions
  /-- A probe of the health targets: whether they were reachable. -/
  | probe (viaProxy : Bool)
  /-- Whether there is a snapshot of the resolver settings. -/
  | loadSnapshot
  | restoreSnapshot
  | compatiblePool
  | configureRecovery
  | canRetryNow
  | recoverySuccess
  | recoveryFailure
  /-- What `status()` makes of the state of the driver with what it finds on the system. -/
  | observe (state : ConnectionState)

abbrev Value {P : Type} : Call P → Type
  | .connect _ _ | .disconnect _ | .applyAtomic
      _ | .disable | .isActive | .loadSnapshot | .canRetryNow | .probe _ => Bool
  | .status _ | .observe _ => ConnectionState
  | .healthCheck _ => String
  | .killSwitchStatus => KillSwitchStatus
  | .newDriver _ => Nat
  | .driverSelector _ => Driver
  | .loadState => PersistentState
  | .getProfile _ => Option P
  | .loadConfig => Config
  | .requestedPolicyCapabilities => List Capability
  | .compatiblePool => List P
  | .preflightManagementPath _ _ | .setState _ _ | .stampFailure | .updateProfile _ _ | .loadDnsPolicy
  | .validateProfileEndpoint _ | .connectOptions | .restoreSnapshot | .configureRecovery | .recoverySuccess
  | .recoveryFailure => Unit

inductive RuntimeReq (P : Type)
  | call (c : Call P)
  /-- `self.driver = d`. -/
  | activate (d : Driver)
  | clock
  | sleep (seconds : Rat)

abbrev RuntimeAns {P : Type} : RuntimeReq P → Type
  | .call c => Except PyError (Value c)
  | .clock => Rat
  | .activate _ | .sleep _ => Unit

/-! ## The object -/

/-- What does not change while the runtime lives. -/
structure Deployment (P : Type) where
  idOf : P → String
  protocol : P → Protocol
  /-- `profile_endpoint_host`. -/
  endpointHost : P → Except PyError (Option String)
  ipAddress : IpAddress
  /-- `os.getuid()`. -/
  uid : Int
  engine : RotationEngine
  /-- `driver_selector is ORIGINAL_SELECT_DRIVER`. -/
  originalSelector : Bool

structure Fields where
  driver : Driver
  killSwitch : KillSwitch
  reconnectFailures : Nat := 0
  desiredOnForced : Bool := false
  cleanupBarrierFailed : Bool := false
  history : RotationHistory := {}

abbrev RuntimeMethod (P : Type) (α : Type) : Type := Method (RuntimeAns (P := P)) PyError Fields α

variable {P : Type}

def perform (c : Call P) : RuntimeMethod P (Value c) := do
  let answer ← Method.ask (.call c)
  ofExcept answer

/-- What is not due counts as done. -/
def ifDue (due : Bool) (m : RuntimeMethod P Bool) : RuntimeMethod P Bool := if due then m else pure true

def standbyState : ConnectionState := {}

/-! ## Persistent state -/

/-- `load()` of the persistent state where its own exceptions end in a default. -/
def loadedState {α : Type} (read : PersistentState → α) (default : α) : RuntimeMethod P α := do
  let loaded ← (perform .loadState).attempt
  match loaded with
  | .ok state => pure (read state)
  | .error x => if x.isPersistent then pure default else raise x

def mayAct (requireAutoconnect : Bool) (state : PersistentState) : Bool :=
  state.desiredState == "on" && (!requireAutoconnect || state.autoconnectEnabled)

def automaticActionsEnabled (requireAutoconnect : Bool) : RuntimeMethod P Bool :=
  loadedState (mayAct requireAutoconnect) false

def automaticDisabledState : RuntimeMethod P ConnectionState :=
  loadedState (fun state =>
      if state.lastFailureReason = "dns_restore_failed" ∨
        state.lastFailureReason = "kill_switch_disable_failed" then
        { status := state.lastFailureReason }
      else standbyState)
    standbyState

def autoconnectEnabled : RuntimeMethod P Bool := loadedState (·.autoconnectEnabled) false

def recordLastFailure (reason : String) : RuntimeMethod P Unit := do
  perform (.setState .lastFailureReason reason)
  perform .stampFailure

def clearLastFailure : RuntimeMethod P Unit := do
  perform (.setState .lastFailureReason "")
  perform (.setState .lastFailureAt "")

/-- `profile_store.get(id) if id else None`. -/
def storedProfile (id : String) : RuntimeMethod P (Option P) :=
  if id = "" then pure none else perform (.getProfile id)

def activeProfile : RuntimeMethod P (Option P) := do
  let state ← perform .loadState
  storedProfile state.activeProfileId

def restoreDnsSnapshotIfPresent : RuntimeMethod P Bool := do
  let snapshot ← (perform .loadSnapshot).attempt
  match snapshot with
  | .error _ => pure false
  | .ok false => pure true
  | .ok true => do
    let restored ← (perform .restoreSnapshot).attempt
    match restored with
    | .error _ => pure false
    | .ok _ => pure true

section Methods

variable (D : Deployment P)

/-! ## The kill switch -/

def killSwitchAllowedEndpoints : Option P → Except PyError (List String)
  | none => .ok []
  | some p =>
    match D.endpointHost p with
    | .error x => if x.isValueError then .ok [] else .error x
    | .ok none => .ok []
    | .ok (some host) =>
      match D.ipAddress (String.ofList (PyText.strip host.toList)) with
      | none => .ok []
      | some address => .ok [address.2]

variable (config : Config)

def configureKillSwitch (profile : Option P) : RuntimeMethod P Unit := do
  Method.modify fun t => { t with killSwitch.tunnelInterface := config.tunnelInterface }
  let blockIpv6 ← ofExcept config.blockIpv6
  Method.modify fun t => { t with killSwitch.blockIpv6 := blockIpv6 }
  let allowLan ← ofExcept config.allowLan
  Method.modify fun t => { t with killSwitch.allowLan := allowLan }
  let endpoints ← ofExcept (killSwitchAllowedEndpoints D profile)
  Method.modify fun t => { t with killSwitch.allowedEndpoints := endpoints }
  Method.modify fun t => { t with killSwitch.directEgressUid := profile.map fun _ => D.uid }

/-- `apply_atomic()` with the settings as they are. -/
def applyAtomic : RuntimeMethod P Bool := do
  let t ← Method.get
  perform (.applyAtomic t.killSwitch)

def applyDesiredOnProtection (profile : Option P) : RuntimeMethod P Bool := do
  let config ← perform .loadConfig
  configureKillSwitch D config profile
  let applied ← applyAtomic
  if applied then do
    let configured ← ofExcept config.killSwitchEnabled
    Method.modify fun t => { t with desiredOnForced := !configured }
    pure true
  else pure false

variable (p : P)

def protectConnectionAttempt : RuntimeMethod P Bool := applyDesiredOnProtection D (some p)

/-- `kill_switch.status()` says that the policy is in place. -/
def killSwitchInPlace : RuntimeMethod P Bool := do
  let status ← perform .killSwitchStatus
  match status.active with
  | some active => pure (active && status.consistent.getD true)
  | none => do
    let active ← perform .isActive
    pure (active && status.consistent.getD true)

/-- Whether the policy is the user's wish or was forced. -/
def killSwitchWanted : RuntimeMethod P Bool := do
  let configured ← ofExcept config.killSwitchEnabled
  let t ← Method.get
  pure (configured || t.desiredOnForced)

def maintainKillSwitchForActiveRuntime : RuntimeMethod P Bool := do
  let config ← perform .loadConfig
  let wanted ← killSwitchWanted config
  if wanted then do
    let profile ← activeProfile
    configureKillSwitch D config profile
    let inPlace ← killSwitchInPlace
    if inPlace then pure true else applyAtomic
  else pure true

def applyAllFailedKillSwitch : RuntimeMethod P Bool := do
  let profile ← activeProfile
  configureKillSwitch D config profile
  let wanted ← killSwitchWanted config
  let active ← perform .isActive
  if active then pure true
  else if wanted then applyAtomic
  else pure false

def restoreKillSwitchAfterRecovery : RuntimeMethod P Bool := do
  let wanted ← killSwitchWanted config
  if wanted then maintainKillSwitchForActiveRuntime D else perform .isActive

def forgetForced : RuntimeMethod P Unit := Method.modify fun t => { t with desiredOnForced := false }

def handleManualDisconnectKillSwitch : RuntimeMethod P Unit := do
  let config ← perform .loadConfig
  let profile ← activeProfile
  configureKillSwitch D config profile
  let active ← perform .isActive
  if active then
    if config.onManualDisconnect = "keep" then forgetForced
    else do
      let disabled ← perform .disable
      if disabled then forgetForced else pure ()
  else forgetForced

/-! ## Status and health -/

def driverStatus : RuntimeMethod P ConnectionState := do
  let t ← Method.get
  perform (.status t.driver)

/-- The mode of the driver under another status. -/
def withDriverMode (status : String) : RuntimeMethod P ConnectionState := do
  let state ← driverStatus
  pure { status, mode := state.mode }

/-- The `try` of `_with_kill_switch_status`. -/
def configureForStatus : RuntimeMethod P Unit := do
  let config ← perform .loadConfig
  let profile ← activeProfile
  configureKillSwitch D config profile

def status : RuntimeMethod P ConnectionState := do
  let state ← driverStatus
  let configured ← (configureForStatus D).attempt
  match configured with
  | .ok _ => do
    let _ ← killSwitchInPlace
    perform (.observe state)
  | .error x =>
    if x.isPersistent || x.isValueError then do
      let _ ← killSwitchInPlace
      perform (.observe state)
    else raise x

def cleanupFailureState : RuntimeMethod P ConnectionState := do
  let state ← status D
  pure { state with status := "cleanup_failed" }

/-- The status that a probe of the targets gives. -/
def probed (driverHealth : String) (viaProxy : Bool) : RuntimeMethod P String := do
  let reachable ← perform (.probe viaProxy)
  pure (if !reachable || driverHealth == "degraded" then "degraded" else "ok")

/-- `_check_full` of the health checker. -/
def checkFull : RuntimeMethod P String := do
  let t ← Method.get
  let driverHealth ← perform (.healthCheck t.driver)
  if driverHealth = "down" then pure "down"
  else do
    let state ← driverStatus
    if state.tunActive then probed driverHealth false
    else if state.mode = "sing-box" ∧ state.proxyActive then probed driverHealth true
    else pure "down"

/-- The second check of a start. -/
def recheck (retryStartupFailure : Bool) (result : String) : RuntimeMethod P String := do
  let t ← Method.get
  if retryStartupFailure && t.driver.type.requiresProfileEgressCheck && result != "ok" then do
    Method.ask (RuntimeReq.sleep 1)
    checkFull
  else pure result

def checkedAndRecorded (retryStartupFailure : Bool) : RuntimeMethod P String := do
  let config ← perform .loadConfig
  ofExcept config.healthPolicy
  let first ← checkFull
  let result ← recheck retryStartupFailure first
  perform (.updateProfile p result)
  pure result

/-- The gate after a connection: drivers that ask for it are checked deeply. -/
def egressOk : RuntimeMethod P Bool := do
  let t ← Method.get
  if t.driver.type.requiresProfileEgressCheck then do
    let result ← checkedAndRecorded p true
    pure (result == "ok")
  else pure true

/-! ## The driver -/

def candidateDriverForProfile : RuntimeMethod P Driver := do
  let t ← Method.get
  if D.originalSelector then do
    let id ← perform (.newDriver (selectDriver (D.protocol p)))
    pure (if (selectDriver (D.protocol p)).keepsDriver t.driver.type then t.driver
      else ⟨id, selectDriver (D.protocol p)⟩)
  else do
    let selected ← perform (.driverSelector p)
    pure (if selected.type.isSameClass t.driver.type then t.driver else selected)

/-- `_driver_policy_contract_for_profile`. -/
def policyCapabilitiesForProfile : RuntimeMethod P (List Capability) :=
  if D.originalSelector then pure (selectDriver (D.protocol p)).policyCapabilities
  else do
    let driver ← candidateDriverForProfile D p
    pure driver.type.policyCapabilities

def requireCapabilities (requested supported : List Capability) : RuntimeMethod P Unit :=
  if requested.all fun c => c ∈ supported then pure () else raise .unsupportedDriverPolicy

def endpointPolicyFakeipAllowlist : RuntimeMethod P Unit := do
  let state ← driverStatus.attempt
  match state with
  | .error _ => pure ()
  | .ok state =>
    if state.tunActive || state.proxyActive || state.artifacts then do
      let _ ← (perform .loadDnsPolicy).attempt
      pure ()
    else pure ()

def validateEndpoint : RuntimeMethod P Unit := do
  let host ← ofExcept (D.endpointHost p)
  match host with
  | none => pure ()
  | some _ => do
    endpointPolicyFakeipAllowlist
    perform (.validateProfileEndpoint p)

/-- The exceptions of the endpoint policy are raised under another name. -/
def checkEndpoint : RuntimeMethod P Unit := do
  let outcome ← (validateEndpoint D p).attempt
  match outcome with
  | .ok _ => pure ()
  | .error x => raise (if x.isValueError then .endpointPolicyConnection else x)

def preflightManagementPath (driver : Driver) (p : P) : RuntimeMethod P Unit :=
  if driver.type.preflightsManagementPath then perform (.preflightManagementPath driver p) else pure ()

def prepareDriverForConnection : RuntimeMethod P Driver := do
  let supported ← policyCapabilitiesForProfile D p
  let requested ← perform .requestedPolicyCapabilities
  requireCapabilities requested supported
  checkEndpoint D p
  let driver ← candidateDriverForProfile D p
  perform .connectOptions
  preflightManagementPath driver p
  pure driver

def teardownActiveDriver : RuntimeMethod P Bool := do
  let t ← Method.get
  let outcome ← (perform (.disconnect t.driver)).attempt
  match outcome with
  | .ok true => do
    Method.modify fun t => { t with cleanupBarrierFailed := false }
    pure true
  | _ => do
    Method.modify fun t => { t with cleanupBarrierFailed := true }
    recordLastFailure "cleanup_failed"
    pure false

/-- `_activate_driver` without a teardown. -/
def useDriver (selected : Driver) : RuntimeMethod P Driver := do
  let t ← Method.get
  if selected = t.driver then pure t.driver
  else do
    Method.ask (RuntimeReq.activate selected)
    Method.modify fun t => { t with driver := selected }
    pure selected

def activateDriver (selected : Driver) : RuntimeMethod P Driver := do
  let torn ← teardownActiveDriver
  if torn then useDriver selected else raise .teardownBarrier

def driverConnect (driver : Driver) (p : P) : RuntimeMethod P Bool := do
  perform .loadDnsPolicy
  perform (.connect driver p)

def recordSuccessfulProfile : RuntimeMethod P Unit :=
  Method.modify fun t => { t with history := t.history.recordSuccessfulProfile D.engine (D.idOf p) }

/-! ## Startup -/

def startupAutoconnectDisabled : RuntimeMethod P ConnectionState := do
  let restored ← restoreDnsSnapshotIfPresent
  if restored then do
    let active ← perform .isActive
    let cleared ← ifDue active disableAndConfirm
    if cleared then do
      perform (.setState .desiredState "off")
      perform (.setState .activeProfileId "")
      forgetForced
      clearLastFailure
      pure standbyState
    else do
      recordLastFailure "kill_switch_disable_failed"
      pure { status := "kill_switch_disable_failed" }
  else do
    recordLastFailure "dns_restore_failed"
    pure { status := "dns_restore_failed" }
where
  /-- `disable()`, and the policy is gone. -/
  disableAndConfirm : RuntimeMethod P Bool := do
    let disabled ← perform .disable
    if disabled then do
      let active ← perform .isActive
      pure (!active)
    else pure false

/-- The connection is checked; a tunnel that fails the check is torn down. -/
def concludeStartup : RuntimeMethod P ConnectionState := do
  let healthy ← egressOk p
  if healthy then do
    clearLastFailure
    recordSuccessfulProfile D p
    driverStatus
  else do
    let torn ← teardownActiveDriver
    if torn then driverStatus else cleanupFailureState D

variable (requireRestartProtection : Bool)

/-- What `startup` does once its driver is the one in use. -/
def startupActive (driver : Driver) (p : P) : RuntimeMethod P ConnectionState := do
  let isProtected ← ifDue (!requireRestartProtection) (protectConnectionAttempt D p)
  if isProtected then do
    let connected ← driverConnect driver p
    if connected then concludeStartup D p else driverStatus
  else pure { status := "kill_switch_failed" }

/-- A failure that is recorded, and the state that is reported. -/
def failedWith (reason : String) (state : ConnectionState) : RuntimeMethod P ConnectionState := do
  recordLastFailure reason
  pure state

def startupProfile (p : P) : RuntimeMethod P ConnectionState := do
  let prepared ← (prepareDriverForConnection D p).attempt
  match prepared with
  | .error .unsupportedDriverPolicy => failedWith "unsupported_policy" { status := "unsupported_policy" }
  | .error .managementPathSafety => failedWith "management_path_unprotected" standbyState
  | .error .endpointPolicyConnection => failedWith "endpoint_resolution_failed" standbyState
  | .error x => raise x
  | .ok driver => do
    let activated ← (activateDriver driver).attempt
    match activated with
    | .error .teardownBarrier => cleanupFailureState D
    | .error x => raise x
    | .ok active => startupActive D requireRestartProtection active p

/-- `startup` where autoconnect is enabled. -/
def startupAutoconnect (profile : Option P) : RuntimeMethod P ConnectionState := do
  let isProtected ← ifDue requireRestartProtection (applyDesiredOnProtection D profile)
  if isProtected then
    match profile with
    | none => pure standbyState
    | some p => startupProfile D requireRestartProtection p
  else failedWith "kill_switch_failed" { status := "kill_switch_failed" }

def startupDesiredOn (state : PersistentState) : RuntimeMethod P ConnectionState := do
  let profile ← storedProfile state.activeProfileId
  if state.autoconnectEnabled then startupAutoconnect D requireRestartProtection profile
  else startupAutoconnectDisabled

def startup : RuntimeMethod P ConnectionState := do
  let loaded ← (perform .loadState).attempt
  match loaded with
  | .error x => if x.isPersistent then pure standbyState else raise x
  | .ok state =>
    if state.desiredState = "on" then startupDesiredOn D requireRestartProtection state else pure standbyState

/-! ## On request -/

/-- What `disconnect` and `_fail_manual_connect` do after a teardown. -/
def returnToStandby : RuntimeMethod P Unit := do
  handleManualDisconnectKillSwitch D
  let _ ← restoreDnsSnapshotIfPresent
  perform (.setState .desiredState "off")
  perform (.setState .activeProfileId "")

def failManualConnect : RuntimeMethod P Bool := do
  let torn ← teardownActiveDriver
  if torn then do
    returnToStandby D
    recordLastFailure "connect_failed"
    pure false
  else pure false

/-- `connect` once the policy of the candidate is in place. -/
def connectProtected (driver : Driver) (p : P) : RuntimeMethod P Bool := do
  perform (.setState .desiredState "on")
  perform (.setState .activeProfileId (D.idOf p))
  let connected ← driverConnect driver p
  if connected then do
    let healthy ← egressOk p
    if healthy then do
      clearLastFailure
      recordSuccessfulProfile D p
      pure true
    else failManualConnect D
  else failManualConnect D

def connect : RuntimeMethod P Bool := do
  let driver ← prepareDriverForConnection D p
  let active ← activateDriver driver
  let isProtected ← protectConnectionAttempt D p
  if isProtected then connectProtected D active p else pure false

def disconnect : RuntimeMethod P Bool := do
  let torn ← teardownActiveDriver
  if torn then do
    returnToStandby D
    clearLastFailure
    pure true
  else pure false

/-! ## Rotation through the router -/

/-- The fields of `_RuntimeDriverRouter`; of a prepared connection the id of the profile and the
driver. -/
structure Router where
  teardownVerified : Bool := false
  prepared : Option (String × Driver) := none

abbrev RouterMethod (P : Type) (α : Type) : Type := Method (RuntimeAns (P := P)) PyError (Fields × Router) α

/-- A method of the runtime, called by the router. -/
def onRuntime {α : Type} (m : RuntimeMethod P α) : RouterMethod P α :=
  fun t => m t.1 >>= fun a => .ret (a.1, (a.2, t.2))

namespace Router

def assign (f : Router → Router) : RouterMethod P Unit := Method.modify fun t => (t.1, f t.2)

/-- The exceptions of a preparation that count as a failed candidate. -/
def isRejection : PyError → Bool
  | .endpointPolicyConnection | .managementPathSafety | .unsupportedDriverPolicy => true
  | _ => false

def preflightProfile : RouterMethod P Bool := do
  assign fun r => { r with prepared := none }
  let prepared ← (onRuntime (prepareDriverForConnection D p)).attempt
  match prepared with
  | .ok driver => do
    assign fun r => { r with prepared := some (D.idOf p, driver) }
    pure true
  | .error x => if isRejection x then pure false else raise x

/-- The driver that was prepared for the profile, or one that is prepared now. -/
def preparedDriver : RouterMethod P (Option Driver) := do
  let t ← Method.get
  match t.2.prepared.filter fun c => c.1 = D.idOf p with
  | some c => pure (some c.2)
  | none => do
    let prepared ← (onRuntime (prepareDriverForConnection D p)).attempt
    match prepared with
    | .ok driver => pure (some driver)
    | .error x => if isRejection x then pure none else raise x

/-- `connect` with the driver it will use. -/
def connectWith (driver : Driver) (p : P) : RouterMethod P Bool := do
  assign fun r => { r with prepared := none }
  let active ← onRuntime (useDriver driver)
  let isProtected ← onRuntime (protectConnectionAttempt D p)
  if isProtected then do
    assign fun r => { r with teardownVerified := false }
    onRuntime (perform (.connect active p))
  else pure false

def connect : RouterMethod P Bool := do
  let t ← Method.get
  if t.2.teardownVerified then do
    let driver ← preparedDriver D p
    match driver with
    | some driver => connectWith D driver p
    | none => pure false
  else do
    onRuntime (Method.modify fun t => { t with cleanupBarrierFailed := true })
    onRuntime (recordLastFailure "cleanup_failed")
    pure false

def disconnect : RouterMethod P Bool := do
  let torn ← onRuntime teardownActiveDriver
  assign fun r => { r with teardownVerified := torn }
  pure torn

/-- What the engine asks, answered by the router, the health check and the clock. -/
def answer : (e : RotationReq P) → Fields × Router →
    Prog (RuntimeAns (P := P)) PyError (RotationAns PyError e × (Fields × Router))
  | .preflight p => preflightProfile D p
  | .disconnect => disconnect
  | .connect p => connect D p
  | .healthCheck p => onRuntime (checkedAndRecorded p true)
  | .clock => fun t => .call .clock fun now => .ret (now, t)
  | .sleep seconds => fun t => .call (.sleep seconds) fun u => .ret (u, t)
  | .rollbackStart _ => fun t => .ret ((), t)

end Router

/-- `rotation_engine.rotate` through a new router; an exception leaves the history as it was but for
the barrier. -/
def rotation (pool : List P) (force : Bool) : RuntimeMethod P (RotationResult P) := fun t =>
  handle (Router.answer D) (rotate D.idOf D.engine true pool force t.history) (t, {}) >>= fun a =>
    match a.1 with
    | .ok (result, history) => .ret (.ok result, { a.2.1 with history })
    | .error x => .ret (.error x, { a.2.1 with history := { t.history with cleanupBarrierFailed := false } })

def recoveredStateAfterStableConnection : RuntimeMethod P ConnectionState := do
  let _ ← restoreKillSwitchAfterRecovery D config
  let state ← driverStatus
  pure { state with status := "recovered" }

/-- The end of an attempt without a tunnel: the policy stays or is applied, and the failure is
recorded. -/
def concludeUnprotected (word : String) : RuntimeMethod P ConnectionState := do
  let killSwitchActive ← applyAllFailedKillSwitch D config
  perform .recoveryFailure
  let t ← Method.get
  let status := if t.desiredOnForced then word else if killSwitchActive then "kill_switch_active" else word
  recordLastFailure status
  withDriverMode status

def handleRotationUnavailable : RuntimeMethod P ConnectionState :=
  concludeUnprotected D config "rotation_unavailable"

/-- The loop of `_attempt_rotation` that compares the capabilities. -/
def requirePoolCapabilities (requested : List Capability) : List P → RuntimeMethod P Unit
  | [] => pure ()
  | p :: rest => do
    let supported ← policyCapabilitiesForProfile D p
    requireCapabilities requested supported
    requirePoolCapabilities requested rest

def checkPool (pool : List P) : RuntimeMethod P Unit := do
  let requested ← perform .requestedPolicyCapabilities
  requirePoolCapabilities D requested pool

/-- What `_attempt_rotation` makes of the result. -/
def concludeRotation (result : RotationResult P) : RuntimeMethod P ConnectionState := do
  let t ← Method.get
  if result.cleanupFailed || t.cleanupBarrierFailed then cleanupFailureState D
  else match result.profile.filter fun _ => result.success with
    | some p => do
      Method.modify fun t => { t with reconnectFailures := 0 }
      perform .recoverySuccess
      perform (.setState .activeProfileId (D.idOf p))
      clearLastFailure
      recoveredStateAfterStableConnection D config
    | none =>
      if result.category = .unavailable ∨ result.attempts = 0 then handleRotationUnavailable D config
      else concludeUnprotected D config "all_failed"

def rotatePool (pool : List P) (force : Bool) : RuntimeMethod P ConnectionState := do
  let checked ← (checkPool D pool).attempt
  match checked with
  | .error .unsupportedDriverPolicy => do
    recordLastFailure "unsupported_policy"
    withDriverMode "unsupported_policy"
  | .error x => raise x
  | .ok _ => do
    perform .loadDnsPolicy
    let result ← rotation D pool force
    concludeRotation D config result

/-- `force`, or rotation is enabled. -/
def mayRotate (force : Bool) : RuntimeMethod P Bool :=
  if force then pure true else ofExcept config.rotationEnabled

def attemptRotation (force : Bool) (exclude : String) : RuntimeMethod P ConnectionState := do
  Method.modify fun t => { t with cleanupBarrierFailed := false }
  perform .configureRecovery
  let may ← mayRotate config force
  if may then do
    let pool ← perform .compatiblePool
    rotatePool D config (if exclude = "" then pool else pool.filter fun p => D.idOf p ≠ exclude) force
  else handleRotationUnavailable D config

def rotateNow (force : Bool) : RuntimeMethod P ConnectionState := do
  let enabled ← automaticActionsEnabled false
  if enabled then do
    let config ← perform .loadConfig
    attemptRotation D config force ""
  else pure standbyState

def scheduledRotate : RuntimeMethod P ConnectionState := do
  let enabled ← automaticActionsEnabled true
  if enabled then do
    let config ← perform .loadConfig
    let hours ← ofExcept config.scheduledIntervalHours
    if 0 < hours then do
      let pool ← perform .compatiblePool
      if pool.isEmpty then status D else attemptRotation D config true ""
    else status D
  else automaticDisabledState

/-! ## One iteration -/

/-- The end of `_try_reconnect`. -/
def confirmReconnect : RuntimeMethod P Bool := do
  let result ← checkedAndRecorded p true
  if result = "ok" then do
    recordSuccessfulProfile D p
    pure true
  else do
    let _ ← teardownActiveDriver
    pure false

/-- `_try_reconnect` once its driver is the one in use. -/
def reconnectActive (driver : Driver) (p : P) : RuntimeMethod P Bool := do
  let isProtected ← protectConnectionAttempt D p
  if isProtected then do
    let connected ← driverConnect driver p
    if connected then confirmReconnect D p else pure false
  else pure false

def rejectedReconnect (reason : String) : RuntimeMethod P Bool := do
  recordLastFailure reason
  pure false

def tryReconnect : RuntimeMethod P Bool := do
  let prepared ← (prepareDriverForConnection D p).attempt
  match prepared with
  | .error .unsupportedDriverPolicy => rejectedReconnect "unsupported_policy"
  | .error .managementPathSafety => rejectedReconnect "management_path_unprotected"
  | .error .endpointPolicyConnection => rejectedReconnect "endpoint_policy_rejected"
  | .error x => raise x
  | .ok driver => do
    let activated ← (activateDriver driver).attempt
    match activated with
    | .error .teardownBarrier => pure false
    | .error x => raise x
    | .ok active => reconnectActive D active p

def tryReconnectCurrent : Option P → RuntimeMethod P Bool
  | none => pure false
  | some p => tryReconnect D p

/-- `_recover_from_failure` where the tunnel did not come back. -/
def escalate (current : Option P) : RuntimeMethod P ConnectionState := do
  let t ← Method.get
  if t.cleanupBarrierFailed then cleanupFailureState D
  else do
    Method.modify fun t => { t with reconnectFailures := t.reconnectFailures + 1 }
    let attempts ← ofExcept config.reconnectAttempts
    if (t.reconnectFailures + 1 : Nat) < attempts then do
      recordLastFailure "reconnecting"
      withDriverMode "reconnecting"
    else do
      Method.modify fun t => { t with reconnectFailures := 0 }
      attemptRotation D config false ((current.map D.idOf).getD "")

def recoverFromFailure : RuntimeMethod P ConnectionState := do
  Method.modify fun t => { t with cleanupBarrierFailed := false }
  let config ← perform .loadConfig
  perform .configureRecovery
  let may ← perform .canRetryNow
  if may then do
    let current ← activeProfile
    let reconnected ← tryReconnectCurrent D current
    if reconnected then do
      Method.modify fun t => { t with reconnectFailures := 0 }
      perform .recoverySuccess
      clearLastFailure
      recoveredStateAfterStableConnection D config
    else escalate D config current
  else do
    recordLastFailure "waiting_retry"
    withDriverMode "waiting_retry"

/-- The health of the tunnel: checked deeply for a driver that asks for it. -/
def iterationHealth (profile : Option P) : RuntimeMethod P String := do
  let t ← Method.get
  match profile with
  | none => perform (.healthCheck t.driver)
  | some p =>
    if t.driver.type.requiresProfileEgressCheck then checkedAndRecorded p false
    else do
      let health ← perform (.healthCheck t.driver)
      perform (.updateProfile p health)
      pure health

def isRuntimeActive (state : ConnectionState) : Bool :=
  state.status == "connected" || state.tunActive || state.proxyActive || state.mode != "standby"

/-- `run_iteration` for a runtime that is supervised. -/
def supervise (autoconnect : Bool) (current : ConnectionState) : RuntimeMethod P ConnectionState := do
  let maintained ← maintainKillSwitchForActiveRuntime D
  if maintained then do
    let profile ← activeProfile
    let health ← iterationHealth profile
    if health = "ok" then do
      perform .recoverySuccess
      driverStatus
    else if autoconnect then recoverFromFailure D
    else do
      recordLastFailure "recovery_disabled"
      let state ← driverStatus
      pure { state with status := "recovery_disabled" }
  else failedWith "kill_switch_failed" { status := "kill_switch_failed", mode := current.mode }

def runIteration : RuntimeMethod P ConnectionState := do
  let enabled ← automaticActionsEnabled false
  if enabled then do
    let autoconnect ← autoconnectEnabled
    let current ← driverStatus
    if !autoconnect && !isRuntimeActive current then automaticDisabledState
    else supervise D autoconnect current
  else pure standbyState

/-! ## Shutdown -/

/-- The protection of a shutdown: an exception counts as a failure. -/
def shutdownProtection : RuntimeMethod P Bool := do
  let outcome ← (do let profile ← activeProfile; applyDesiredOnProtection D profile :
      RuntimeMethod P Bool).attempt
  match outcome with
  | .ok applied => pure applied
  | .error _ => pure false

/-- `self.driver.disconnect()`, an exception counting as `False`. -/
def shutdownDriver : RuntimeMethod P Bool := do
  let t ← Method.get
  let outcome ← (perform (.disconnect t.driver)).attempt
  match outcome with
  | .ok disconnected => pure disconnected
  | .error _ => pure false

def shutdownDesiredOn : RuntimeMethod P Bool := do
  let protectionOk ← shutdownProtection D
  let _ ← shutdownDriver
  let _ ← restoreDnsSnapshotIfPresent
  pure protectionOk

def shutdownDesiredOff : RuntimeMethod P Bool := do
  let disconnected ← shutdownDriver
  let _ ← restoreDnsSnapshotIfPresent
  handleManualDisconnectKillSwitch D
  pure disconnected

/-- A desired state that cannot be read counts as `on`. -/
def shutdown : RuntimeMethod P Bool := do
  let desiredOn ← loadedState (fun state => state.desiredState == "on") true
  if desiredOn then shutdownDesiredOn D else shutdownDesiredOff D

def healthCheck : RuntimeMethod P String := do
  let enabled ← automaticActionsEnabled false
  if enabled then do
    let t ← Method.get
    perform (.healthCheck t.driver)
  else pure "standby"

/-! ## Operations -/

inductive Operation (P : Type)
  | startup (requireRestartProtection : Bool)
  | connect (p : P)
  | disconnect
  | runIteration
  | rotateNow (force : Bool)
  | scheduledRotate
  | shutdown
  | healthCheck
  | status

def Operation.run : Operation P → RuntimeMethod P Unit
  | startup requireRestartProtection => do let _ ← Runtime.startup D requireRestartProtection; pure ()
  | connect p => do let _ ← Runtime.connect D p; pure ()
  | disconnect => do let _ ← Runtime.disconnect D; pure ()
  | runIteration => do let _ ← Runtime.runIteration D; pure ()
  | rotateNow force => do let _ ← Runtime.rotateNow D force; pure ()
  | scheduledRotate => do let _ ← Runtime.scheduledRotate D; pure ()
  | shutdown => do let _ ← Runtime.shutdown D; pure ()
  | healthCheck => do let _ ← Runtime.healthCheck; pure ()
  | status => do let _ ← Runtime.status D; pure ()

end Methods

end WatchdogVpn.Runtime
