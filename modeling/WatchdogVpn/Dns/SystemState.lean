import WatchdogVpn.Lib.PyText
import Mathlib.Logic.Function.Basic

/-!
# The DNS settings of the system

Before the local resolver is put in front, the DNS settings of the host are saved; afterwards they
are put back. Who manages them is found out first: systemd-resolved, NetworkManager, or nobody but
`/etc/resolv.conf`.

* `Host` is the part of the machine that the commands work on, and `runner` is what they do. `nmcli`
  escapes the colons and backslashes of what it prints, and takes what it is given as it stands.
* `saveState`, `applyLocalDns` and `restoreState` are the methods of `SystemDNSStateManager`.
-/

namespace WatchdogVpn.SystemDns

open PyText

/-! ## The machine -/

/-- The DNS properties of a connection for one family of addresses. -/
structure FamilyDns where
  ignoreAutoDns : Bool := false
  dns : Text := []
  dnsSearch : Text := []
  deriving DecidableEq

structure Connection where
  name : Text
  connectionType : Text
  device : Text
  uuid : Text
  active : Bool
  ipv4 : FamilyDns := {}
  ipv6 : FamilyDns := {}
  deriving DecidableEq

inductive Property
  | uuid
  | ipv4IgnoreAutoDns
  | ipv4Dns
  | ipv4DnsSearch
  | ipv6IgnoreAutoDns
  | ipv6Dns
  | ipv6DnsSearch
  deriving DecidableEq

def yesNo (b : Bool) : Text := if b then "yes".toList else "no".toList

namespace Connection

def value (c : Connection) : Property → Text
  | .uuid => c.uuid
  | .ipv4IgnoreAutoDns => yesNo c.ipv4.ignoreAutoDns
  | .ipv4Dns => c.ipv4.dns
  | .ipv4DnsSearch => c.ipv4.dnsSearch
  | .ipv6IgnoreAutoDns => yesNo c.ipv6.ignoreAutoDns
  | .ipv6Dns => c.ipv6.dns
  | .ipv6DnsSearch => c.ipv6.dnsSearch

def set (c : Connection) (setting : Property × Text) : Connection :=
  match setting with
  | (.uuid, text) => { c with uuid := text }
  | (.ipv4IgnoreAutoDns, text) =>
    { c with ipv4 := { c.ipv4 with ignoreAutoDns := decide (text = "yes".toList) } }
  | (.ipv4Dns, text) => { c with ipv4 := { c.ipv4 with dns := text } }
  | (.ipv4DnsSearch, text) => { c with ipv4 := { c.ipv4 with dnsSearch := text } }
  | (.ipv6IgnoreAutoDns, text) =>
    { c with ipv6 := { c.ipv6 with ignoreAutoDns := decide (text = "yes".toList) } }
  | (.ipv6Dns, text) => { c with ipv6 := { c.ipv6 with dns := text } }
  | (.ipv6DnsSearch, text) => { c with ipv6 := { c.ipv6 with dnsSearch := text } }

def setAll (c : Connection) (settings : List (Property × Text)) : Connection := settings.foldl set c

end Connection

inductive ResolvConf
  | missing
  | file (content : Text)
  | link (target : Text)

structure Host where
  connections : List Connection
  systemdResolvedActive : Bool := false
  networkManagerActive : Bool := true
  resolvConf : ResolvConf
  /-- The files a link may point to. -/
  files : Text → Option Text := fun _ => none
  links : List Text := []
  /-- What `resolvectl` has set for a link: the server and the domain. -/
  linkDns : Text → Option Text × Option Text := fun _ => (none, none)
  /-- The connections `nmcli con mod` was used on. This only records. -/
  modified : List Text := []

inductive Service
  | systemdResolved
  | networkManager

inductive Command
  /-- `systemctl is-active` -/
  | isActive (service : Service)
  /-- `nmcli -t -f NAME,TYPE,DEVICE con show --active` -/
  | showActive
  /-- `nmcli -g <property> con show <name>` -/
  | getProperty (property : Property) (name : Text)
  /-- `nmcli con mod <name> <property> <value> …` -/
  | modify (name : Text) (settings : List (Property × Text))
  | resolvectlDns (link address : Text)
  | resolvectlDomain (link domain : Text)
  | resolvectlRevert (link : Text)
  | resolvectlFlushCaches
  /-- `ip -o link show <link>` -/
  | linkShow (link : Text)
  /-- `vpn_dns_rescue <mode> --no-reconnect` -/
  | rescue (mode : Text)

inductive Failure
  | commandFailed (command : Command)
  | noLinkName
  | unsupportedManager
  | applyFailed (cause : Failure)

/-- Methods that run commands. What has been done when one raises stays done. -/
abbrev Run (α : Type) : Type := EStateM Failure Host α

/-- How `nmcli -t` and `nmcli -g` print a value. -/
def escape (text : Text) : Text := text.flatMap fun c => if c = ':' ∨ c = '\\' then ['\\', c] else [c]

/-- The line of `nmcli -t` for a connection. -/
def Connection.line (c : Connection) : Text :=
  escape c.name ++ ':' :: escape c.connectionType ++ ':' :: escape c.device ++ ['\n']

variable (host : Host)

namespace Host

def find (name : Text) : Option Connection := host.connections.find? fun c => decide (c.name = name)

def modify (name : Text) (settings : List (Property × Text)) : Host :=
  { host with
    connections := host.connections.map fun c => if c.name = name then c.setAll settings else c
    modified := host.modified ++ [name] }

def serviceActive : Service → Bool
  | .systemdResolved => host.systemdResolvedActive
  | .networkManager => host.networkManagerActive

/-- The output of `nmcli -t -f NAME,TYPE,DEVICE con show --active`. -/
def listing : Text := (host.connections.filter Connection.active).flatMap Connection.line

/-- `_read_text(resolv_conf_path)`. -/
def readResolvConf : Option Text :=
  match host.resolvConf with
  | .missing => none
  | .file content => some content
  | .link target => host.files target

/-- `resolv_conf_path.write_text(content)`, which follows a link. -/
def writeResolvConf (content : Text) : Host :=
  match host.resolvConf with
  | .link target => { host with files := Function.update host.files target (some content) }
  | _ => { host with resolvConf := .file content }

def resolvConfTarget : Option Text :=
  match host.resolvConf with
  | .link target => some target
  | _ => none

end Host

variable (rescued : Host → Host)

/-- What a command does, and what is left of its output when the white space around it is gone. -/
def runner (command : Command) : Run Text := fun host =>
  match command with
  | .isActive service => .ok (if host.serviceActive service then "active" else "inactive").toList host
  | .showActive => if host.networkManagerActive then .ok (strip host.listing) host
      else .error (.commandFailed command) host
  | .getProperty property name =>
    match host.find name with
    | some c => .ok (strip (escape (c.value property) ++ ['\n'])) host
    | none => .error (.commandFailed command) host
  | .modify name settings =>
    match host.find name with
    | some _ => .ok [] (host.modify name settings)
    | none => .error (.commandFailed command) host
  | .resolvectlDns link address =>
    if link ∈ host.links then
      .ok [] { host with linkDns := Function.update host.linkDns link (some address, (host.linkDns link).2) }
    else .error (.commandFailed command) host
  | .resolvectlDomain link domain =>
    if link ∈ host.links then
      .ok [] { host with linkDns := Function.update host.linkDns link ((host.linkDns link).1, some domain) }
    else .error (.commandFailed command) host
  | .resolvectlRevert link =>
    if link ∈ host.links then .ok [] { host with linkDns := Function.update host.linkDns link (none, none) }
    else .error (.commandFailed command) host
  | .resolvectlFlushCaches => .ok [] host
  | .linkShow link => if link ∈ host.links then .ok [] host else .error (.commandFailed command) host
  | .rescue _ => .ok [] (rescued host)

/-! ## Who manages DNS -/

inductive ResolverManager
  | systemdResolved
  | networkManager
  | resolvConf
  | unknown
  deriving DecidableEq

structure ResolverInventory where
  manager : ResolverManager
  resolvConfTarget : Option Text
  systemdResolvedActive : Bool
  networkManagerActive : Bool

def serviceActive (service : Service) : Run Bool := do
  let output ← runner rescued (.isActive service)
  pure (decide (strip output = "active".toList))

/-- The first three fields of a line, if it has as many. -/
def lineFields (line : Text) : Option (Text × Text × Text) :=
  match (strip line).splitOn ':' with
  | name :: connectionType :: device :: _ => some (name, connectionType, device)
  | _ => none

/-- Lines of the loopback, and of connections without a device. -/
def ofLoopback (connectionType device : Text) : Bool :=
  connectionType = "loopback".toList || device = [] || device = "lo".toList

def networkManagerHasManagedNonLoopbackConnection : Run Bool := do
  let output ← runner rescued .showActive
  pure ((splitlines output).any fun line =>
    match lineFields line with
    | some (_, connectionType, device) => !ofLoopback connectionType device
    | none => false)

def resolvConfGeneratedByNetworkManager : Bool :=
  (match host.resolvConfTarget with
    | some target => isIn "/NetworkManager/".toList target
    | none => false) ||
  (match host.readResolvConf with
    | some content => isIn "NetworkManager".toList (content.take 512)
    | none => false)

def detectResolverManager : Run ResolverInventory := do
  let host ← get
  let target := host.resolvConfTarget
  let resolvedActive ← serviceActive rescued .systemdResolved
  let nmActive ← serviceActive rescued .networkManager
  let nmManaged ← if nmActive then networkManagerHasManagedNonLoopbackConnection rescued else pure false
  let manager :=
    if resolvedActive || (target.map (isIn "/run/systemd/resolve/".toList)).getD false then .systemdResolved
    else if nmManaged && resolvConfGeneratedByNetworkManager host then .networkManager
    else if host.readResolvConf.isSome then .resolvConf
    else .unknown
  pure { manager, resolvConfTarget := target, systemdResolvedActive := resolvedActive
         networkManagerActive := nmActive }

/-! ## Save, apply, restore -/

structure NetworkManagerConnectionState where
  name : Text
  uuid : Text
  ipv4Dns : Text
  ipv4IgnoreAutoDns : Text
  ipv4DnsSearch : Text
  ipv6Dns : Text
  ipv6IgnoreAutoDns : Text
  ipv6DnsSearch : Text

structure DNSStateSnapshot where
  inventory : ResolverInventory
  resolvConfContent : Option Text
  networkManagerConnections : List NetworkManagerConnectionState
  systemdLink : Option Text

structure LocalDNSEntryPoint where
  address : Text := "127.0.0.1".toList
  port : Nat := 53
  systemdLink : Option Text := none

def nmcliConnectionProperty (name : Text) (property : Property) : Run Text := do
  let output ← runner rescued (.getProperty property name)
  pure (strip output)

/-- `value or "no"`. -/
def orNo (value : Text) : Text := if value = [] then "no".toList else value

/-- The names of the connections that belong to the product, and their devices. -/
def productOwned : List Text := ["wdvpn-tun0".toList, "watchdogvpn_awg".toList]

/-- The name in a line of the listing, if the connection of the line is to be saved. -/
def savedName (line : Text) : Option Text :=
  match lineFields line with
  | none => none
  | some (name, connectionType, device) =>
    if ofLoopback connectionType device || name ∈ productOwned || device ∈ productOwned then none else some name

def saveConnection (name : Text) : Run NetworkManagerConnectionState := do
  let uuid ← nmcliConnectionProperty rescued name .uuid
  let ipv4Dns ← nmcliConnectionProperty rescued name .ipv4Dns
  let ipv4IgnoreAutoDns ← nmcliConnectionProperty rescued name .ipv4IgnoreAutoDns
  let ipv4DnsSearch ← nmcliConnectionProperty rescued name .ipv4DnsSearch
  let ipv6Dns ← nmcliConnectionProperty rescued name .ipv6Dns
  let ipv6IgnoreAutoDns ← nmcliConnectionProperty rescued name .ipv6IgnoreAutoDns
  let ipv6DnsSearch ← nmcliConnectionProperty rescued name .ipv6DnsSearch
  pure { name, uuid, ipv4Dns, ipv4IgnoreAutoDns := orNo ipv4IgnoreAutoDns, ipv4DnsSearch,
         ipv6Dns, ipv6IgnoreAutoDns := orNo ipv6IgnoreAutoDns, ipv6DnsSearch }

/-- The loop of `_save_network_manager_connections` over the lines of the listing. -/
def saveLines : List Text → Run (List NetworkManagerConnectionState)
  | [] => pure []
  | line :: lines =>
    match savedName line with
    | none => saveLines lines
    | some name => do
      let state ← saveConnection rescued name
      let states ← saveLines lines
      pure (state :: states)

def saveNetworkManagerConnections (inventory : ResolverInventory) :
    Run (List NetworkManagerConnectionState) := do
  if inventory.networkManagerActive = false then pure []
  else
    let output ← runner rescued .showActive
    saveLines rescued ((splitlines output).filter fun line => strip line ≠ [])

def saveState (systemdLink : Option Text) : Run DNSStateSnapshot := do
  let inventory ← detectResolverManager rescued
  let host ← get
  let connections ← saveNetworkManagerConnections rescued inventory
  pure ⟨inventory, host.readResolvConf, connections, systemdLink⟩

def linkName (link : Option Text) : Option Text := link.filter fun name => decide (name ≠ [])

variable (entrypoint : LocalDNSEntryPoint) (snapshot : DNSStateSnapshot)

def applySystemdResolved : Run Unit := do
  match (linkName entrypoint.systemdLink).or (linkName snapshot.systemdLink) with
  | none => throw .noLinkName
  | some link =>
    let _ ← runner rescued (.resolvectlDns link entrypoint.address)
    let _ ← runner rescued (.resolvectlDomain link "~.".toList)

def linkExists (link : Text) : Run Bool :=
  try
    let _ ← runner rescued (.linkShow link)
    pure true
  catch _ => pure false

def restoreSystemdResolved : Run Unit := do
  match linkName snapshot.systemdLink with
  | none => pure ()
  | some link =>
    if ← linkExists rescued link then
      let _ ← runner rescued (.resolvectlRevert link)
    let _ ← runner rescued .resolvectlFlushCaches

/-- What `_apply_network_manager` sets. -/
def appliedSettings : List (Property × Text) :=
  [(.ipv4IgnoreAutoDns, "yes".toList), (.ipv4Dns, entrypoint.address),
    (.ipv6IgnoreAutoDns, "yes".toList), (.ipv6Dns, [])]

/-- What `_restore_network_manager` sets. -/
def NetworkManagerConnectionState.settings (state : NetworkManagerConnectionState) : List (Property × Text) :=
  [(.ipv4IgnoreAutoDns, state.ipv4IgnoreAutoDns), (.ipv4Dns, state.ipv4Dns),
    (.ipv4DnsSearch, state.ipv4DnsSearch),
    (.ipv6IgnoreAutoDns, state.ipv6IgnoreAutoDns), (.ipv6Dns, state.ipv6Dns),
    (.ipv6DnsSearch, state.ipv6DnsSearch)]

/-- A loop of `nmcli con mod` over the connections of a snapshot. -/
def modifyEach (settings : NetworkManagerConnectionState → List (Property × Text)) :
    List NetworkManagerConnectionState → Run Unit
  | [] => pure ()
  | state :: states => do
    let _ ← runner rescued (.modify state.name (settings state))
    modifyEach settings states

def applyNetworkManager : Run Unit :=
  modifyEach rescued (fun _ => appliedSettings entrypoint) snapshot.networkManagerConnections

def restoreResolvConf : Run Unit :=
  modify fun host =>
    let host := match linkName snapshot.inventory.resolvConfTarget with
      | some target => { host with resolvConf := .link target }
      | none => host
    match snapshot.resolvConfContent with
    | some content => host.writeResolvConf content
    | none => host

def restoreNetworkManager : Run Unit := do
  modifyEach rescued NetworkManagerConnectionState.settings snapshot.networkManagerConnections
  restoreResolvConf snapshot

def restoreState : Run Unit :=
  match snapshot.inventory.manager with
  | .systemdResolved => restoreSystemdResolved rescued snapshot
  | .networkManager => restoreNetworkManager rescued snapshot
  | .resolvConf => restoreResolvConf snapshot
  | .unknown => do
    let _ ← runner rescued (.rescue "auto".toList)

def applyForManager (manager : ResolverManager) (entrypoint : LocalDNSEntryPoint)
    (snapshot : DNSStateSnapshot) : Run Unit :=
  match manager with
  | .systemdResolved => applySystemdResolved rescued entrypoint snapshot
  | .networkManager => applyNetworkManager rescued entrypoint snapshot
  | .resolvConf => modify fun host =>
    host.writeResolvConf ("nameserver ".toList ++ entrypoint.address ++ ['\n'])
  | .unknown => throw .unsupportedManager

def applyLocalDns (snapshot : Option DNSStateSnapshot) : Run DNSStateSnapshot := do
  let saved ← match snapshot with
    | some snapshot => pure snapshot
    | none => saveState rescued entrypoint.systemdLink
  try
    applyForManager rescued saved.inventory.manager entrypoint saved
  catch cause =>
    restoreState rescued saved
    throw (.applyFailed cause)
  pure saved

end WatchdogVpn.SystemDns
