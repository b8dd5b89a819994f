import WatchdogVpn.Lib.Method

/-!
# The drivers that run a child process

`SingBoxDriver`, `OpenVPNDriver` and `AmneziaWGDriver` start a child in `connect` and stop it in
`disconnect`. `disconnect` takes the handle of the child out of its field first and then tries to
stop it: by a signal, a wait, a stronger signal and a second wait. Everything else the methods do
(files, routes, interfaces, health checks) is a chore that succeeds, fails or raises.

The world is the set of children that are alive. A child may exit at any time; it need not obey.
-/

namespace WatchdogVpn.Drivers

open Effect

/-! ## What the methods ask -/

/-- The exceptions, as far as they are told apart. -/
inductive PyError
  | managementPathSafety
  | osError
  | runtimeError
  | valueError
  | other
  deriving DecidableEq

/-- `terminate()` or `kill()`. -/
inductive Signal
  | terminate
  | kill
  deriving DecidableEq

inductive Chore
  | applyLanGateway
  | captureTunCleanupState
  | cleanupEndpointRoute
  | cleanupLanGateway
  | cleanupRoutes
  | cleanupRuntime
  | cleanupTunResidue
  | clearTunCleanupState
  | configureInterface
  | configureReadiness
  | deleteInterface
  | dnsCacheFlusher
  | ensureRuntimePaths
  | findBinary
  | findIpTool
  | findUserspaceTool
  | findWgTool
  | generateConfig
  | healthCheck
  | interfaceExists
  | ipRuleLines
  | linkAdd
  | log
  | openLog
  | preflightManagementPath
  | protectRemoteEndpointRoute
  | recordChildProcess
  | recordNetworkmanagerTunConnection
  | resetLog
  | runtimePathsAvailable
  | unlinkStatus
  | validateProfile
  | waitForInterface
  | waitForReady
  | waitForUapiSocket
  | writeConfig
  deriving DecidableEq

inductive ProcReq
  | spawn
  | poll (child : Nat)
  | send (signal : Signal) (child : Nat)
  /-- `wait(timeout=5)` after the signal. -/
  | wait (signal : Signal) (child : Nat)
  | killAllRecordedChildren
  | chore (c : Chore)
  deriving DecidableEq

/-- What is answered: whether the child has exited (for `wait`, false is a `TimeoutExpired`),
whether a chore succeeded. -/
abbrev ProcAns : ProcReq → Type
  | .spawn => Except PyError Nat
  | .poll _ | .wait _ _ => Bool
  | .send _ _ | .killAllRecordedChildren => Except PyError Unit
  | .chore _ => Except PyError Bool

/-! ## The children -/

structure Host where
  /-- The number of the next child. -/
  next : Nat
  alive : List Nat

/-- What an answer says about the children, besides that none comes back to life. -/
def Tells : (e : ProcReq) → ProcAns e → Host → Host → Prop
  | .spawn, .ok child, s, s' => child = s.next ∧ s'.next = s.next + 1
  | .poll child, exited, _, s' => exited = true ↔ child ∉ s'.alive
  | .wait _ child, exited, _, s' => exited = true → child ∉ s'.alive
  | _, _, _, _ => True

/-- The children that may be alive after the request. -/
def mayLive : (e : ProcReq) → ProcAns e → Host → List Nat
  | .spawn, .ok child, s => child :: s.alive
  | _, _, s => s.alive

/-- Children exit when they do, whether they were told to or not. -/
def world : Handler ProcAns Host where
  step s e a s' := s'.alive ⊆ mayLive e a s ∧ Tells e a s s'
  cut _ _ _ := False

/-! ## Methods -/

/-- The fields of the drivers that `connect` and `disconnect` go by; `process` is `_process` or
`_userspace_process`, the others are whether `_active_profile` and `_runtime_dir` are set,
`_tun_expected` and `_fakeip_cache_flush_required`. -/
structure DriverFields where
  process : Option Nat := none
  activeProfile : Bool := false
  runtimeDir : Bool := false
  tunExpected : Bool := false
  flushRequired : Bool := false

abbrev DriverMethod (α : Type) : Type := Method ProcAns PyError DriverFields α

def chore (c : Chore) : DriverMethod Bool := do
  let answer ← Method.ask (.chore c)
  Method.ofExcept answer

/-- A chore for its effect, if it is due. -/
def choreIf (due : Bool) (c : Chore) : DriverMethod Bool := if due then chore c else pure true

/-- What comes second is done only if the first succeeded. -/
def andThen (first : Bool) (second : DriverMethod Bool) : DriverMethod Bool :=
  if first then second else pure false

def send (signal : Signal) (child : Nat) : DriverMethod Unit := do
  let answer ← Method.ask (.send signal child)
  Method.ofExcept answer

def killAllRecordedChildren : DriverMethod Unit := do
  let answer ← Method.ask .killAllRecordedChildren
  Method.ofExcept answer

/-- `Popen(…)` into the field. -/
def spawn : DriverMethod Nat := do
  let answer ← Method.ask .spawn
  let child ← Method.ofExcept answer
  Method.modify fun t => { t with process := some child }
  pure child

/-- Whether the child has exited after a signal or two. -/
def stopLiving (child : Nat) : DriverMethod Bool := do
  send .terminate child
  let exited ← Method.ask (.wait .terminate child)
  if exited then pure true
  else do
    send .kill child
    Method.ask (ProcReq.wait .kill child)

/-- The child that the field had, if any, is stopped. -/
def stopChild (process : Option Nat) : DriverMethod Bool :=
  match process with
  | none => pure true
  | some child => do
    let exited ← Method.ask (.poll child)
    if exited then pure true else stopLiving child

/-- `process is None or process.poll() is not None`. -/
def hasStopped (process : Option Nat) : DriverMethod Bool :=
  match process with
  | none => pure true
  | some child => Method.ask (ProcReq.poll child)

/-- `_ensure_disconnected_before_connect`. -/
def ensureDisconnected (existing : DriverFields → Bool) (disconnect : DriverMethod Bool) :
    DriverMethod Bool := do
  let t ← Method.get
  if existing t then disconnect else pure true

/-! ## sing-box -/

namespace SingBox

/-- The end of `disconnect` for a child that has stopped. -/
def flushFakeip (flush tunCleanupOk : Bool) : DriverMethod Bool :=
  if flush then do
    let flushed ← chore .dnsCacheFlusher
    Method.modify fun t => { t with flushRequired := !flushed }
    pure tunCleanupOk
  else pure tunCleanupOk

/-- The `finally` of `disconnect`: whether the interface was cleaned up. -/
def finallyCleanup (process : Option Nat) (cleanupTunResidue : Bool) : DriverMethod Bool := do
  let _ ← chore .cleanupLanGateway
  let stopped ← hasStopped process
  let tunCleanupOk ← choreIf (cleanupTunResidue && stopped) .cleanupTunResidue
  killAllRecordedChildren
  let _ ← chore .cleanupRuntime
  pure tunCleanupOk

def disconnect : DriverMethod Bool := do
  let t ← Method.get
  let _ ← choreIf t.tunExpected .captureTunCleanupState
  Method.modify fun t => { t with process := none, activeProfile := false, tunExpected := false }
  let stopped ← (stopChild t.process).attempt
  let tunCleanupOk ← finallyCleanup t.process t.tunExpected
  let stopped ← Method.ofExcept stopped
  if stopped then flushFakeip t.flushRequired tunCleanupOk else pure false

/-- The arguments of `connect` that decide what it does. -/
structure Options where
  tunExpected : Bool
  flushRequired : Bool
  managementPeersGiven : Bool
  lanGateway : Bool

/-- A failure after the start of the child. -/
def failed : DriverMethod Bool := do
  Method.modify fun t => { t with activeProfile := false }
  let _ ← disconnect
  pure false

/-- What is registered for a child that is healthy. -/
def register (c : Options) : DriverMethod Bool := do
  let _ ← choreIf c.tunExpected .captureTunCleanupState
  let recorded ← choreIf c.tunExpected .recordNetworkmanagerTunConnection
  if recorded then do
    let flushed ← choreIf c.flushRequired .dnsCacheFlusher
    if flushed then do
      let applied ← choreIf c.lanGateway .applyLanGateway
      if applied then pure true else failed
    else failed
  else failed

/-- The child is started and looked at. -/
def start (c : Options) : DriverMethod Bool := do
  let _ ← chore .clearTunCleanupState
  let _ ← choreIf c.tunExpected .ipRuleLines
  let _ ← chore .generateConfig
  let _ ← chore .ensureRuntimePaths
  let _ ← chore .openLog
  let child ← spawn
  let _ ← chore .recordChildProcess
  Method.modify fun t =>
    { t with activeProfile := true, tunExpected := c.tunExpected, flushRequired := c.flushRequired }
  let exited ← Method.ask (.poll child)
  let healthy ← andThen (!exited) (chore .healthCheck)
  if healthy then register c
  else do
    let _ ← choreIf c.tunExpected .captureTunCleanupState
    failed

def connectPrepared (c : Options) : DriverMethod Bool := do
  let disconnected ← ensureDisconnected (·.process.isSome) disconnect
  if disconnected then do
    let found ← chore .findBinary
    if found then start c else pure false
  else pure false

def connect (c : Options) : DriverMethod Bool :=
  if c.managementPeersGiven then connectPrepared c
  else do
    let preflight ← (chore .preflightManagementPath).attempt
    match preflight with
    | .error .managementPathSafety => pure false
    | .error x => Method.raise x
    | .ok _ => connectPrepared c

end SingBox

/-! ## OpenVPN -/

namespace OpenVpn

def finallyCleanup : DriverMethod Unit := do
  killAllRecordedChildren
  let _ ← chore .cleanupEndpointRoute
  let _ ← chore .cleanupRuntime
  pure ()

def disconnect : DriverMethod Bool := do
  let t ← Method.get
  Method.modify fun t => { t with process := none, activeProfile := false }
  let stopped ← (stopChild t.process).attempt
  finallyCleanup
  Method.ofExcept stopped

def rollbackStartup : DriverMethod Unit := do
  let _ ← disconnect.attempt
  Method.modify fun t => { t with process := none, activeProfile := false }
  let _ ← chore .cleanupEndpointRoute
  let _ ← chore .cleanupRuntime
  pure ()

def rolledBack : DriverMethod Bool := do
  rollbackStartup
  pure false

/-- `status_path.unlink(missing_ok=True)`; an `OSError` is ignored. -/
def unlinkStatus : DriverMethod Bool := do
  let outcome ← (chore .unlinkStatus).attempt
  match outcome with
  | .ok unlinked => pure unlinked
  | .error .osError => pure false
  | .error x => Method.raise x

/-- The child is started and waited for. -/
def launch : DriverMethod Bool := do
  let _ ← chore .configureReadiness
  let _ ← unlinkStatus
  let _ ← chore .openLog
  let _ ← spawn
  let _ ← chore .recordChildProcess
  Method.modify fun t => { t with activeProfile := true }
  let ready ← chore .waitForReady
  if ready then pure true else rolledBack

/-- The body of the `try`. -/
def startup : DriverMethod Bool := do
  let isProtected ← chore .protectRemoteEndpointRoute
  if isProtected then launch else rolledBack

def start : DriverMethod Bool := do
  let _ ← chore .generateConfig
  let _ ← chore .ensureRuntimePaths
  let available ← chore .runtimePathsAvailable
  if available then do
    let outcome ← startup.attempt
    match outcome with
    | .ok connected => pure connected
    | .error _ => rolledBack
  else do
    let _ ← chore .cleanupRuntime
    pure false

def connect : DriverMethod Bool := do
  let valid ← chore .validateProfile
  if valid then do
    let disconnected ← ensureDisconnected (·.process.isSome) disconnect
    if disconnected then do
      let found ← chore .findBinary
      if found then start else pure false
    else pure false
  else pure false

end OpenVpn

/-! ## AmneziaWG -/

namespace AmneziaWg

def stopUserspaceProcess : DriverMethod Bool := do
  let t ← Method.get
  Method.modify fun t => { t with process := none }
  stopChild t.process

/-- Whether the routes are to be cleaned up: the interface is looked at only without a runtime
directory. -/
def routesDue (t : DriverFields) : DriverMethod Bool :=
  if t.runtimeDir then pure true
  else do
    let interface ← chore .interfaceExists
    pure (interface || t.process.isSome)

/-- The body of the `try` of `disconnect`. -/
def takeDown : DriverMethod Bool := do
  let t ← Method.get
  let due ← routesDue t
  let _ ← choreIf due .cleanupRoutes
  let interface ← chore .interfaceExists
  let deleted ← choreIf interface .deleteInterface
  let stopped ← stopUserspaceProcess
  pure (stopped && deleted)

def finallyCleanup : DriverMethod Unit := do
  Method.modify fun t => { t with activeProfile := false }
  killAllRecordedChildren
  let _ ← chore .cleanupRuntime
  Method.modify fun t => { t with runtimeDir := false }

def disconnect : DriverMethod Bool := do
  let stopped ← takeDown.attempt
  finallyCleanup
  let stopped ← Method.ofExcept stopped
  if stopped then do
    let interface ← chore .interfaceExists
    pure (!interface)
  else pure false

def startUserspaceInterface : DriverMethod Bool := do
  let _ ← chore .ensureRuntimePaths
  let _ ← chore .openLog
  let _ ← spawn
  let _ ← chore .recordChildProcess
  let appeared ← chore .waitForInterface
  if appeared then chore .waitForUapiSocket else pure false

/-- `_create_interface`: by the kernel, or else by a child. -/
def createInterface : DriverMethod Unit := do
  let added ← chore .linkAdd
  if added then pure ()
  else do
    let found ← chore .findUserspaceTool
    let started ← andThen found startUserspaceInterface
    if started then pure () else Method.raise .runtimeError

/-- The body of the `try` of `connect`. -/
def bringUp : DriverMethod Unit := do
  let _ ← chore .ensureRuntimePaths
  Method.modify fun t => { t with runtimeDir := true }
  let _ ← chore .writeConfig
  let _ ← chore .resetLog
  let _ ← chore .cleanupRoutes
  createInterface
  let _ ← chore .configureInterface
  pure ()

/-- What `connect` catches. -/
def isCaught : PyError → Bool
  | .osError | .runtimeError | .valueError => true
  | _ => false

def bringUpFailed : DriverMethod Bool := do
  let _ ← chore .log
  let _ ← disconnect
  let _ ← chore .cleanupRuntime
  Method.modify fun t => { t with runtimeDir := false }
  pure false

/-- The interface must be there in the end. -/
def confirm : DriverMethod Bool := do
  Method.modify fun t => { t with activeProfile := true }
  let interface ← chore .interfaceExists
  if interface then pure true
  else do
    Method.modify fun t => { t with activeProfile := false }
    let _ ← disconnect
    pure false

def start : DriverMethod Bool := do
  let outcome ← bringUp.attempt
  match outcome with
  | .ok _ => confirm
  | .error x => if isCaught x then bringUpFailed else Method.raise x

/-- Whether no interface is in the way. -/
def clearInterface : DriverMethod Bool := do
  let interface ← chore .interfaceExists
  choreIf interface .deleteInterface

def connectPrepared : DriverMethod Bool := do
  let ipTool ← chore .findIpTool
  let wgTool ← andThen ipTool (chore .findWgTool)
  let clear ← andThen wgTool clearInterface
  if clear then start else pure false

def connect : DriverMethod Bool := do
  let disconnected ← ensureDisconnected (fun t => t.activeProfile || t.process.isSome) disconnect
  if disconnected then connectPrepared else pure false

end AmneziaWg

/-! ## The three drivers -/

inductive Driver
  | singBox
  | openVpn
  | amneziaWg
  deriving DecidableEq

/-- A call of `connect`; only sing-box has options that matter here. -/
def Driver.connect (options : SingBox.Options) : Driver → DriverMethod Bool
  | singBox => SingBox.connect options
  | openVpn => OpenVpn.connect
  | amneziaWg => AmneziaWg.connect

def Driver.disconnect : Driver → DriverMethod Bool
  | singBox => SingBox.disconnect
  | openVpn => OpenVpn.disconnect
  | amneziaWg => AmneziaWg.disconnect

end WatchdogVpn.Drivers
