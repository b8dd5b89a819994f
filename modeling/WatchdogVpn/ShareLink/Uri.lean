import WatchdogVpn.Lib.Prog
import WatchdogVpn.Lib.PyDict
import WatchdogVpn.Lib.PyText

/-!
# Share links

`parse_uri` turns a link into a profile. The whole query string becomes the configuration; what
the authority of the link says is then put in with `setdefault`, so it gives way to the query. How
the standard library takes a URI apart is left open (`Library`).

* `withAuthority_host`, `withAuthority_port`: what the profile has under the two keys.
-/

namespace WatchdogVpn.ShareLink

open PyText (Text strip isSpace)
open Effect (except_bind_ok)

inductive ProtocolType
  | vless
  | vmess
  | trojan
  | hysteria2
  | tuic
  | shadowsocks
  | wireguard
  | amneziawg
  | socks
  | http
  | openvpn
  | openvpnCloak
  deriving DecidableEq

def ProtocolType.value : ProtocolType → String
  | vless => "vless"
  | vmess => "vmess"
  | trojan => "trojan"
  | hysteria2 => "hysteria2"
  | tuic => "tuic"
  | shadowsocks => "shadowsocks"
  | wireguard => "wireguard"
  | amneziawg => "amneziawg"
  | socks => "socks"
  | http => "http"
  | openvpn => "openvpn"
  | openvpnCloak => "openvpn_cloak"

/-- The values that a configuration has here. -/
inductive ConfigValue
  | text (value : String)
  | int (value : Int)
  deriving DecidableEq

abbrev Config : Type := PyDict String ConfigValue

structure Profile where
  id : String
  name : String
  protocol : ProtocolType
  config : Config

structure Uri where
  scheme : String := ""
  netloc : String := ""
  path : String := ""
  query : String := ""
  fragment : String := ""
  username : Option String := none
  password : Option String := none
  hostname : Option String := none
  /-- None if `port` raises a `ValueError`. -/
  port : Option (Option Nat) := some none
  /-- `geturl()`. -/
  url : String := ""

/-- What is used of the standard library, and the two parsers of encoded links. -/
structure Library where
  urlparse : String → Uri
  parseQs : String → PyDict String (List String)
  unquote : String → String
  lower : String → String
  /-- `int(text)` of a text with `text.isdigit()`. -/
  digits : String → Option Nat
  /-- `ip_address(text).is_global` of an address. -/
  literal : String → Option Bool
  parseShadowsocks : String → Except String Profile
  parseVmess : String → Except String Profile

/-! ## Endpoints -/

def normaliseHost (value : String) : Option Text :=
  let host := strip value.toList
  let host := if host.head? = some '[' ∧ host.getLast? = some ']' then host.tail.dropLast else host
  let host := (host.reverse.dropWhile (· == '.')).reverse
  if host = [] ∨ host.any isSpace ∨ host.contains '\x00' then none else some host

namespace Library

variable (U : Library)

/-- `_is_loopback_host`: `canonicalize_remote_endpoint` without resolution raises. -/
def isLoopbackHost (host : String) : Bool :=
  match normaliseHost host with
  | none => true
  | some normalised =>
    ["localhost", "localhost.localdomain"].contains (U.lower (String.ofList normalised)) ||
      U.literal (String.ofList normalised) == some false

def rejectLoopbackHost (host label : String) : Except String Unit :=
  if U.isLoopbackHost host then .error (label ++ " URI endpoint is not a globally routable address") else .ok ()

/-! ## The parsers -/

variable (parsed : Uri)

def queryDict : Config :=
  (U.parseQs parsed.query).foldl (fun result entry => result.set entry.1 (.text (entry.2.getLast?.getD ""))) []

def safePort (label : String) : Except String (Option Nat) :=
  match parsed.port with
  | none => .error (label ++ " URI has invalid port")
  | some port => .ok port

/-- A part of the URI that is there and not empty. -/
def given : Option String → Option String
  | some "" => none
  | part => part

def portValue (port : Option Nat) : Option ConfigValue := port.map fun p => .int (Int.ofNat p)

/-- `config.setdefault(key, value)` where there is a value. -/
def setdefaultGiven (key : String) (value : Option ConfigValue) (config : Config) : Config :=
  match value with
  | none => config
  | some value => config.setdefault key value

/-- `config[key] = value` where there is a value. -/
def setGiven (key : String) (value : Option ConfigValue) (config : Config) : Config :=
  match value with
  | none => config
  | some value => config.set key value

/-- The configuration with what the URI says where the query does not. -/
def withAuthority (port : Option Nat) (fragment : Option String) (config : Config) : Config :=
  let config := setdefaultGiven "port" (portValue port) config
  let config := setdefaultGiven "host" ((given parsed.hostname).map .text) config
  let config := setdefaultGiven "username" ((given parsed.username).map .text) config
  let config := setdefaultGiven "password" ((given parsed.password).map .text) config
  let config := setdefaultGiven "fragment" (fragment.map .text) config
  config.setdefault "raw" (.text parsed.url)

def buildProfile (protocol : ProtocolType) (parsed : Uri) (config : Config) : Except String Profile := do
  let port ← safePort parsed protocol.value
  let fragment := given ((given (some parsed.fragment)).map U.unquote)
  let name := (fragment.or (given parsed.hostname)).getD protocol.value
  return { id := name, name, protocol, config := withAuthority parsed port fragment config }

/-- The parsers of links that need a host and a port; they differ in where the credentials go. -/
def parseNetwork (protocol : ProtocolType) (label : String) (credentials : Uri → Config → Config)
    (parsed : Uri) : Except String Profile := do
  let port ← safePort parsed label
  match given parsed.hostname, port with
  | some host, some _ =>
    U.rejectLoopbackHost host label
    U.buildProfile protocol parsed (credentials parsed (U.queryDict parsed))
  | _, _ => .error (label ++ " URI requires host and port")

def unquoted (part : Option String) : Option ConfigValue := (given part).map fun part => .text (U.unquote part)

def parseVless : Except String Profile :=
  U.parseNetwork .vless "VLESS"
    (fun parsed config => setGiven "password" (U.unquoted parsed.password)
      (setGiven "uuid" (U.unquoted parsed.username) config)) parsed

def parseTrojan : Except String Profile :=
  U.parseNetwork .trojan "Trojan"
    (fun parsed config => setGiven "password" (U.unquoted parsed.password)
      (setGiven "password" (U.unquoted parsed.username) config)) parsed

/-- The two parts of the authority, joined if there are both. -/
def hysteriaPassword : Option ConfigValue :=
  match given parsed.username, given parsed.password with
  | some username, some password => some (.text (U.unquote username ++ ":" ++ U.unquote password))
  | some username, none => some (.text (U.unquote username))
  | none, _ => none

def parseHysteria2 : Except String Profile :=
  U.parseNetwork .hysteria2 "Hysteria2"
    (fun parsed config => setGiven "password" (U.hysteriaPassword parsed) config) parsed

def parseTuic : Except String Profile :=
  U.parseNetwork .tuic "TUIC"
    (fun parsed config => setGiven "password" (U.unquoted parsed.password)
      (setGiven "uuid" (U.unquoted parsed.username) config)) parsed

/-- The keys of a WireGuard link; the port of the URI takes the place of the query's. -/
def wireguardConfig (port : Option Nat) (config : Config) : Config :=
  let config := setGiven "port" (portValue port) config
  let config := setGiven "public_key" (U.unquoted parsed.username) config
  let config := setGiven "private_key" (U.unquoted parsed.password) config
  if (config.get "public_key").isNone then setGiven "public_key"
    ((given (some parsed.fragment)).map .text) config
  else config

def parseWireguard : Except String Profile :=
  match given parsed.hostname with
  | none => .error "WireGuard URI requires host"
  | some host => do
    U.rejectLoopbackHost host "WireGuard"
    let port ← safePort parsed "WireGuard"
    U.buildProfile .wireguard parsed (U.wireguardConfig parsed port (U.queryDict parsed))

/-- The URI with another authority, parsed again. -/
def rebuilt (authority : String) : Uri :=
  U.urlparse (parsed.scheme ++ "://" ++ authority ++ (if parsed.query ≠ "" then "?" ++ parsed.query else "") ++
    if parsed.fragment ≠ "" then "#" ++ parsed.fragment else "")

def quoteSlashes (text : Text) : Text := text.flatMap fun c => if c = '/' then ['%', '2', 'F'] else [c]

/-- `_normalize_path_authority(parsed, preserve_leading_slash=True)`: a password with slashes has
cut the authority. -/
def normalizePathAuthority : Except String Uri :=
  let path := parsed.path.toList
  let slashed := path.head? = some '/' ∧ '@' ∈ path
  match given parsed.hostname with
  | some _ =>
    if slashed then do
      let port ← safePort parsed "URI"
      if port.isNone then
        let credential := quoteSlashes (parsed.netloc.toList ++ path.takeWhile (· ≠ '@'))
        return U.rebuilt parsed (String.ofList (credential ++ '@' :: (path.dropWhile (· ≠ '@')).tail))
      else return parsed
    else .ok parsed
  | none =>
    if slashed then .ok (U.rebuilt parsed ("%2F" ++ String.ofList (path.dropWhile (· == '/')))) else .ok parsed

/-! ## What a profile must have -/

def nonemptyString : Option ConfigValue → Bool
  | some (.text value) => strip value.toList ≠ []
  | _ => false

variable (profile : Profile)

def requireField (field : String) : Except String Unit :=
  if nonemptyString (profile.config.get field) then .ok ()
  else .error (profile.protocol.value ++ " profile requires a non-empty " ++ field)

def requireIdentifier : Except String Unit :=
  if nonemptyString (some (.text profile.id)) = false then .error "profile identifier is empty"
  else if nonemptyString (some (.text profile.name)) = false then .error "profile name is empty"
  else .ok ()

def validatePort (value : ConfigValue) (label : String) : Except String Unit :=
  let port : Option Int :=
    match value with
    | .int port => some port
    | .text text => (U.digits (String.ofList (strip text.toList))).map Int.ofNat
  match port with
  | none => .error (label ++ " must be an integer between 1 and 65535")
  | some port => if 1 ≤ port ∧ port ≤ 65535 then .ok () else .error (label ++ " must be between 1 and 65535")

/-- The keys with a value that is not empty. -/
def givenPorts (config : Config) : List (String × ConfigValue) :=
  ["port", "server_port"].filterMap fun key =>
    match config.get key with
    | none | some (.text "") => none
    | some value => some (key, value)

/-- `_validate_config_ports` for `port` and `server_port`. -/
def validateConfigPorts (required : Bool) : Except String Unit :=
  let values := givenPorts profile.config
  if required ∧ values = [] then .error (profile.protocol.value ++ " profile requires a port")
  else values.forM fun entry => U.validatePort entry.2 (profile.protocol.value ++ " " ++ entry.1)

/-- The text in front of the last colon and the text behind it. -/
def rsplitColon (text : Text) : Option (Text × Text) :=
  if ':' ∈ text then
    some ((text.reverse.dropWhile (· ≠ ':')).tail.reverse, (text.reverse.takeWhile (· ≠ ':')).reverse)
  else none

def wireguardEndpointPort (endpoint : ConfigValue) : Option ConfigValue :=
  match endpoint with
  | .int _ => none
  | .text text =>
    let value := strip text.toList
    if value = [] then none
    else if value.head? = some '[' then
      match value.dropWhile (· ≠ ']') with
      | ']' :: ':' :: port => some (.text (String.ofList port))
      | _ => none
    else (rsplitColon value).map fun split => .text (String.ofList split.2)

def requireRemoteHost : Except String Unit :=
  if nonemptyString (profile.config.get "host") || nonemptyString (profile.config.get "server") then .ok ()
  else .error (profile.protocol.value ++ " profile requires a remote host")

def validateWireguard : Except String Unit := do
  requireField profile "private_key"
  requireField profile "public_key"
  match profile.config.get "endpoint" with
  | none | some (.text "") =>
    requireRemoteHost profile
    U.validateConfigPorts profile true
  | some endpoint =>
    match wireguardEndpointPort endpoint with
    | none => .error (profile.protocol.value ++ " endpoint must include a port")
    | some port =>
      U.validatePort port (profile.protocol.value ++ " endpoint port")
      U.validateConfigPorts profile false

/-- The protocols whose outbound has a server and a port. -/
def ProtocolType.isNetwork : ProtocolType → Bool
  | .vless | .vmess | .trojan | .hysteria2 | .tuic | .shadowsocks | .socks | .http => true
  | _ => false

/-- The fields that the protocol needs. -/
def validateFields : Except String Unit :=
  match profile.protocol with
  | .vless | .vmess => requireField profile "uuid"
  | .trojan | .hysteria2 => requireField profile "password"
  | .tuic => do
    requireField profile "uuid"
    requireField profile "password"
  | .shadowsocks => do
    requireField profile "method"
    requireField profile "password"
  | .wireguard | .amneziawg => U.validateWireguard profile
  | .openvpn | .openvpnCloak => do
    requireField profile "raw_config"
    U.validateConfigPorts profile false
  | .socks | .http => .ok ()

/-- The address and the port that a network protocol needs. -/
def validateEndpoint : Except String Unit :=
  if ProtocolType.isNetwork profile.protocol then do
    requireRemoteHost profile
    U.validateConfigPorts profile true
  else .ok ()

def validateProfileSemantics : Except String Unit := do
  requireIdentifier profile
  U.validateEndpoint profile
  U.validateFields profile

/-! ## The links -/

inductive Scheme
  | vless
  | vmess
  | trojan
  | hysteria2
  | hy2
  | ss
  | tuic
  | wg
  deriving DecidableEq

def supportedSchemes : PyDict String Scheme :=
  [("vless", .vless), ("vmess", .vmess), ("trojan", .trojan), ("hysteria2", .hysteria2),
    ("hy2", .hy2), ("ss", .ss), ("tuic", .tuic), ("wg", .wg)]

def detectScheme (uri : String) : Except String Scheme :=
  let scheme := U.lower (U.urlparse uri).scheme
  match supportedSchemes.get scheme with
  | some scheme => .ok scheme
  | none => .error ("unsupported URI scheme: " ++ if scheme = "" then "missing" else scheme)

/-- The parsed URI whose authority the parser of the scheme looks at. -/
def parsedUri (scheme : Scheme) (uri : String) : Except String Uri :=
  match scheme with
  | .trojan => U.normalizePathAuthority (U.urlparse uri)
  | _ => .ok (U.urlparse uri)

def parseScheme (scheme : Scheme) (uri : String) : Except String Profile := do
  let parsed ← U.parsedUri scheme uri
  match scheme with
  | .vless => U.parseVless parsed
  | .vmess => U.parseVmess uri
  | .trojan => U.parseTrojan parsed
  | .hysteria2 | .hy2 => U.parseHysteria2 parsed
  | .ss => U.parseShadowsocks uri
  | .tuic => U.parseTuic parsed
  | .wg => U.parseWireguard parsed

def parseUri (uri : String) : Except String Profile := do
  let scheme ← U.detectScheme uri
  let profile ← U.parseScheme scheme uri
  U.validateProfileSemantics profile
  return profile

/-! ## What an accepted link has under the keys of its endpoint -/

/-- The keys from which a driver takes the endpoint. -/
def endpointKeys : List String := ["host", "server", "port", "server_port", "endpoint"]

section

variable {config : Config} {value : Option ConfigValue}

theorem get_setGiven_ne {key key' : String} (h : key' ≠ key) :
    (setGiven key value config).get key' = config.get key' := by
  cases value with
  | none => rfl
  | some value => exact PyDict.get_set_ne h

theorem get_setdefaultGiven_ne {key key' : String} (h : key' ≠ key) :
    (setdefaultGiven key value config).get key' = config.get key' := by
  cases value with
  | none => rfl
  | some value => exact PyDict.get_setdefault_ne h

theorem get_setdefaultGiven_self {key : String} :
    (setdefaultGiven key value config).get key = (config.get key).or value := by
  unfold setdefaultGiven
  cases value with
  | none => exact (Option.or_none).symm
  | some value =>
    simp only [PyDict.get_setdefault_self]
    cases config.get key <;> rfl

end

variable {U} {parsed : Uri} {port : Option Nat} {fragment : Option String} {config : Config}

theorem withAuthority_host : (withAuthority parsed port fragment config).get "host" =
    (config.get "host").or ((given parsed.hostname).map .text) := by
  unfold withAuthority
  rw [PyDict.get_setdefault_ne (by decide), get_setdefaultGiven_ne (by decide),
    get_setdefaultGiven_ne (by decide),
    get_setdefaultGiven_ne (by decide), get_setdefaultGiven_self, get_setdefaultGiven_ne (by decide)]

theorem withAuthority_port : (withAuthority parsed port fragment config).get "port" =
    (config.get "port").or (portValue port) := by
  unfold withAuthority
  rw [PyDict.get_setdefault_ne (by decide), get_setdefaultGiven_ne (by decide),
    get_setdefaultGiven_ne (by decide),
    get_setdefaultGiven_ne (by decide), get_setdefaultGiven_ne (by decide), get_setdefaultGiven_self]

theorem withAuthority_other {key : String} (hkey : key ∈ ["server", "server_port", "endpoint"]) :
    (withAuthority parsed port fragment config).get key = config.get key := by
  have hne : key ≠ "raw" ∧ key ≠ "fragment" ∧ key ≠ "password" ∧ key ≠ "username" ∧ key ≠ "host" ∧
      key ≠ "port" := by
    revert key
    decide
  obtain ⟨hraw, hfrag, hpw, huser, hhost, hport⟩ := hne
  unfold withAuthority
  rw [PyDict.get_setdefault_ne hraw, get_setdefaultGiven_ne hfrag, get_setdefaultGiven_ne hpw,
    get_setdefaultGiven_ne huser, get_setdefaultGiven_ne hhost, get_setdefaultGiven_ne hport]

end Library

end WatchdogVpn.ShareLink
