import WatchdogVpn.Dns.SystemState
import WatchdogVpn.Lib.PyDict

/-!
# The listings of NetworkManager

`nmcli -t` prints one record per line: the values joined by colons, with a backslash in front of
every colon and backslash inside a value. The monitor of the network context reads the active
connections from one such listing, and from a second one the Wi-Fi network each device is connected
to.

* `splitNmLine_terse`: a line comes apart into the values it was printed from.
* **`listings_parsed`**: what the two listings are read as.
* `stateless_connection_listed`: a connection without a state counts as an active one.
-/

namespace WatchdogVpn.NetworkContext

open PyText List
open SystemDns (escape)

/-! ## The readers -/

structure ActiveNetwork where
  source : String
  interfaceName : Text := []
  interfaceType : Text := []
  ssid : Text := []
  bssid : Text := []
  gatewayIdentifier : Text := []
  deriving DecidableEq

/-- What the loop of `_split_nm_line` carries. -/
structure Scan where
  parts : List Text := []
  current : Text := []
  escaped : Bool := false

def Scan.step (expected : Nat) (s : Scan) (char : Char) : Scan :=
  if s.escaped then { s with current := s.current ++ [char], escaped := false }
  else if char = '\\' then { s with escaped := true }
  else if char = ':' ∧ s.parts.length < expected - 1
    then { s with parts := s.parts ++ [s.current], current := [] }
  else { s with current := s.current ++ [char] }

def splitNmLine (line : Text) (expected : Nat) : List Text :=
  let s := line.foldl (Scan.step expected) {}
  let parts := s.parts ++ [if s.escaped then s.current ++ ['\\'] else s.current]
  (parts ++ replicate (expected - parts.length) []).map strip

variable (lower : Text → Text)

/-- `text.lower() in words`. -/
def isOneOf (words : List String) (text : Text) : Bool := (words.map String.toList).contains (lower text)

def normalizeInterfaceType (value : Text) : Text :=
  if isOneOf lower ["802-11-wireless", "wifi", "wireless"] (strip value) then "wifi".toList
  else if isOneOf lower ["802-3-ethernet", "ethernet", "wired"] (strip value) then "ethernet".toList
  else if isOneOf lower ["tun", "tunnel"] (strip value) then "tun".toList
  else if lower (strip value) = [] then "unknown".toList
  else lower (strip value)

/-- A state is not looked at if it is empty. -/
def isLive (state : Text) : Bool := state.isEmpty || isOneOf lower ["activated", "activating"] state

def connectionNetwork (name connType device : Text) : ActiveNetwork :=
  let interfaceType := normalizeInterfaceType lower connType
  { source := "networkmanager", interfaceName := device, interfaceType,
    ssid := if interfaceType = "wifi".toList then name else [] }

/-- One turn of the loop of `_parse_nm_active_connections`. A line always has four parts. -/
def readConnection (line : Text) : Option ActiveNetwork :=
  match splitNmLine line 4 with
  | [name, connType, device, state] =>
    if strip line ≠ [] ∧ isLive lower state then some (connectionNetwork lower name connType device) else none
  | _ => none

def parseNmActiveConnections (output : Text) : List ActiveNetwork :=
  (splitlines output).filterMap (readConnection lower)

def isActive (active device : Text) : Bool := isOneOf lower ["yes", "y", "true", "*"] active && !device.isEmpty

/-- One turn of the first loop of `_merge_wifi_identifiers`. -/
def readWifi (line : Text) : Option (Text × Text × Text) :=
  match splitNmLine line 4 with
  | [active, ssid, bssid, device] =>
    if strip line ≠ [] ∧ isActive lower active device then some (device, ssid, bssid) else none
  | _ => none

def wifiByDevice (output : Text) : PyDict Text (Text × Text) :=
  PyDict.update [] ((splitlines output).filterMap (readWifi lower))

/-- A network with what is known of its device. -/
def ActiveNetwork.identified (network : ActiveNetwork) (identifiers : Text × Text) : ActiveNetwork :=
  { network with ssid := if identifiers.1 = [] then network.ssid else identifiers.1, bssid := identifiers.2 }

def mergeWifiIdentifiers (networks : List ActiveNetwork) (output : Text) : List ActiveNetwork :=
  networks.map fun network =>
    network.identified (((wifiByDevice lower output).get network.interfaceName).getD ([], []))

/-! ## What is printed -/

/-- A value on one line, without white space at its ends. -/
abbrev Value : Type := { text : Text // strip text = text ∧ text.all fun c => !isLineBreak c }

def terse (a b c d : Value) : Text :=
  escape a.1 ++ ':' :: (escape b.1 ++ ':' :: (escape c.1 ++ ':' :: escape d.1))

def listing (lines : List Text) : Text := lines.flatMap fun line => line ++ ['\n']

structure Connection where
  (name connType device state : Value)

def Connection.line (c : Connection) : Text := terse c.name c.connType c.device c.state

structure WifiEntry where
  (active ssid bssid device : Value)

def WifiEntry.line (e : WifiEntry) : Text := terse e.active e.ssid e.bssid e.device

/-- The entry a device is connected to. -/
def activeEntry (entries : List WifiEntry) (device : Text) : Option WifiEntry :=
  entries.reverse.find? fun e => isActive lower e.active.1 e.device.1 && e.device.1 = device

/-- The network of a connection, with the identifiers of the entry its device is connected to. -/
def Connection.network (entries : List WifiEntry) (c : Connection) : ActiveNetwork :=
  (connectionNetwork lower c.name.1 c.connType.1 c.device.1).identified
    (((activeEntry lower entries c.device.1).map fun e => (e.ssid.1, e.bssid.1)).getD ([], []))

/-! ## Lines -/

variable {a b c d : Value}

/-- A printed value is read as it was. -/
theorem foldl_escape {n : Nat} {s : Scan} (hs : s.escaped = false) (text : Text) :
    (escape text).foldl (Scan.step n) s = { s with current := s.current ++ text } := by
  induction text generalizing s with
  | nil => simp [escape]
  | cons c text ih =>
    have hstep : (if c = ':' ∨ c = '\\' then ['\\', c] else [c]).foldl (Scan.step n) s =
        { s with current := s.current ++ [c] } := by
      by_cases hc : c = ':' ∨ c = '\\'
      · simp [hc, Scan.step, hs]
      · simp [Scan.step, hs, not_or.mp hc]
    rw [escape, flatMap_cons, foldl_append, hstep]
    refine (ih (s := { s with current := s.current ++ [c] }) hs).trans ?_
    rw [append_assoc, singleton_append]

theorem splitNmLine_terse : splitNmLine (terse a b c d) 4 = [a.1, b.1, c.1, d.1] := by
  have hscan : (terse a b c d).foldl (Scan.step 4) {} = { parts := [a.1, b.1, c.1], current := d.1 } := by
    simp [terse, foldl_append, foldl_escape, Scan.step]
  simp [splitNmLine, hscan, a.2.1, b.2.1, c.2.1, d.2.1]

theorem escape_oneLine {v : Value} : ∀ char ∈ escape v.1, isLineBreak char = false := by
  intro char hchar
  obtain ⟨c, hc, hmem⟩ := mem_flatMap.mp hchar
  have hcases : char = '\\' ∨ char = c := by
    split at hmem <;> simp at hmem <;> simp [hmem]
  rcases hcases with rfl | rfl
  · decide
  · simpa using all_eq_true.mp v.2.2 char hc

theorem terse_oneLine : ∀ char ∈ terse a b c d, isLineBreak char = false := by
  have hcolon : isLineBreak ':' = false := by decide
  simp only [terse, forall_mem_append, forall_mem_cons]
  exact ⟨escape_oneLine, hcolon, escape_oneLine, hcolon, escape_oneLine, hcolon, escape_oneLine⟩

theorem strip_terse_ne_nil : strip (terse a b c d) ≠ [] := by
  intro h
  rw [strip_eq, rdropWhile_eq_nil_iff] at h
  have hcolon : ':' ∈ takeWhile isSpace (terse a b c d) ++ dropWhile isSpace (terse a b c d) := by
    rw [takeWhile_append_dropWhile]
    simp [terse]
  rcases mem_append.mp hcolon with hmem | hmem
  · exact absurd (mem_takeWhile_imp hmem) (by decide)
  · exact absurd (h _ hmem) (by decide)

theorem splitlines_listing {α : Type} (line : α → Text)
    (h : ∀ a, ∀ c ∈ line a, isLineBreak c = false) (items : List α) :
    splitlines (listing (items.map line)) = items.map line := by
  refine splitlines_terminated fun text htext => ?_
  obtain ⟨a, -, rfl⟩ := mem_map.mp htext
  exact h a

/-! ## The listings -/

variable {lower}

theorem readConnection_line (c : Connection) : readConnection lower c.line =
    if isLive lower c.state.1 then some (connectionNetwork lower c.name.1 c.connType.1 c.device.1)
      else none := by
  simp [readConnection, Connection.line, splitNmLine_terse, strip_terse_ne_nil]

theorem readWifi_line (e : WifiEntry) : readWifi lower e.line =
    if isActive lower e.active.1 e.device.1 then some (e.device.1, e.ssid.1, e.bssid.1) else none := by
  simp [readWifi, WifiEntry.line, splitNmLine_terse, strip_terse_ne_nil]

/-- What is known of a device is what its entry says. -/
theorem get_wifiByDevice (entries : List WifiEntry) (device : Text) :
    (wifiByDevice lower (listing (entries.map WifiEntry.line))).get device =
      (activeEntry lower entries device).map fun e => (e.ssid.1, e.bssid.1) := by
  have hkey : ∀ e : WifiEntry, ((readWifi lower e.line).any fun entry => entry.1 = device) =
      (isActive lower e.active.1 e.device.1 && e.device.1 = device) := by
    intro e
    rw [readWifi_line]
    cases isActive lower e.active.1 e.device.1 <;> rfl
  rw [wifiByDevice, splitlines_listing WifiEntry.line fun _ => terse_oneLine, filterMap_map,
    PyDict.get_update, PyDict.get,
    Option.or_none, ← filterMap_reverse, find?_filterMap, activeEntry]
  simp only [Function.comp_apply, hkey]
  cases hfind : entries.reverse.find? _ with
  | none => rfl
  | some e =>
    have hfound := find?_some hfind
    simp [readWifi_line, (Bool.and_eq_true_iff.mp hfound).1]

/-- **The listings are read as they were printed.** The connections that are activated or
activating, or say nothing, in their order, each with its device; and each with the identifiers of
the Wi-Fi entry its device is connected to. -/
theorem listings_parsed (lower : Text → Text) (connections : List Connection) (entries : List WifiEntry) :
    mergeWifiIdentifiers lower (parseNmActiveConnections lower (listing (connections.map Connection.line)))
        (listing (entries.map WifiEntry.line)) =
      (connections.filter fun c => isLive lower c.state.1).map (Connection.network lower entries) := by
  rw [mergeWifiIdentifiers, parseNmActiveConnections, splitlines_listing Connection.line fun _ => terse_oneLine]
  induction connections with
  | nil => rfl
  | cons c connections ih =>
    rw [map_cons, filterMap_cons, readConnection_line, filter_cons]
    cases isLive lower c.state.1 with
    | false => exact ih
    | true =>
      refine congrArg₂ cons ?_ ih
      rw [Connection.network, ← get_wifiByDevice]
      rfl

def bareConnection : Connection where
  name := ⟨"home".toList, by decide⟩
  connType := ⟨"tun".toList, by decide⟩
  device := ⟨"tun0".toList, by decide⟩
  state := ⟨[], by decide⟩

theorem stateless_connection_listed :
    isOneOf (map Char.toLower) ["activated", "activating"] bareConnection.state.1 = false ∧
    mergeWifiIdentifiers (map Char.toLower)
        (parseNmActiveConnections (map Char.toLower) (listing [bareConnection.line])) (listing []) =
      [{ source := "networkmanager", interfaceName := "tun0".toList, interfaceType := "tun".toList }] := by
  decide

end WatchdogVpn.NetworkContext
