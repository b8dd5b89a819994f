import WatchdogVpn.ShareLink.Uri

/-!
# What a share link dials

The sing-box driver takes the address from `host`, and from `server` where that is empty; a
WireGuard endpoint falls back on `endpoint`. All of these may be keys of the query string.

* `parseNetwork_built`, `parseWireguard_built`: what an accepted link has under these keys.
* **`share_link_dials`**: the driver dials the authority of the link exactly if the query does not
  say otherwise (`Kept`).
-/

namespace WatchdogVpn.ShareLink

open PyText (Text strip isSpace)
open Effect (except_bind_ok)

/-! ## The driver -/

def ConfigValue.truthy : ConfigValue → Bool
  | text value => value != ""
  | int value => value != 0

/-- `a or b`. -/
def pyOr (a b : Option ConfigValue) : Option ConfigValue := if a.any ConfigValue.truthy then a else b

/-- Where sing-box connects to: the part of an outbound or of a peer that says so. -/
structure RouteTarget where
  type : String
  tag : String
  server : Option ConfigValue
  serverPort : Option Int

/-- The text up to the first `]:` and the text behind it. -/
def splitBracket : Text → Option (Text × Text)
  | [] => none
  | ']' :: ':' :: rest => some ([], rest)
  | c :: rest => (splitBracket rest).map fun split => (c :: split.1, split.2)

namespace Library

variable (U : Library)

def normalizePort : Option ConfigValue → Option Int
  | none => none
  | some (.int port) => some port
  | some (.text text) => (U.digits text).map Int.ofNat

def splitEndpoint (endpoint : Option ConfigValue) : Option ConfigValue × Option Int :=
  match endpoint with
  | some (.text text) =>
    let value := strip text.toList
    let parts : Text × Option Text :=
      match value.head? == some '[', splitBracket value.tail, Library.rsplitColon value with
      | true, some (host, port), _ => (host, some port)
      | _, _, some (host, port) => (host, some port)
      | _, _, none => (value, none)
    if value = [] then (none, none)
    else (some (.text (String.ofList parts.1)),
      U.normalizePort (parts.2.map fun port => .text (String.ofList port)))
  | _ => (none, none)

def protocolToOutbound (profile : Profile) : Except String RouteTarget :=
  let cfg := profile.config
  if ProtocolType.isNetwork profile.protocol then
    .ok {
      type := profile.protocol.value
      tag := profile.name
      server := pyOr (cfg.get "host") (cfg.get "server")
      serverPort := U.normalizePort (pyOr (cfg.get "port") (cfg.get "server_port")) }
  else .error ("unsupported protocol for sing-box: " ++ profile.protocol.value)

/-- `_wireguard_to_endpoint`, with its one peer. -/
def wireguardToEndpoint (profile : Profile) : RouteTarget :=
  let cfg := profile.config
  let endpoint := U.splitEndpoint (cfg.get "endpoint")
  let port := U.normalizePort (pyOr (cfg.get "port") (cfg.get "server_port"))
  { type := "wireguard"
    tag := profile.name
    server := pyOr (pyOr (cfg.get "host") (cfg.get "server")) endpoint.1
    serverPort := if port.any (· ≠ 0) then port else endpoint.2 }

def profileToRouteTarget (profile : Profile) : Except String RouteTarget := do
  U.validateProfileSemantics profile
  if profile.protocol = .wireguard then return U.wireguardToEndpoint profile else U.protocolToOutbound profile

/-! ## Accepted links -/

variable {U} {parsed : Uri} {profile : Profile} {protocol : ProtocolType} {label uri : String}

theorem safePort_ok {port : Option Nat} (h : safePort parsed label = .ok port) : parsed.port = some port := by
  unfold safePort at h
  cases hp : parsed.port with
  | none => rw [hp] at h; cases h
  | some p => rw [hp] at h; cases h; rfl

variable {host : String}

theorem rejectLoopbackHost_ok (h : U.rejectLoopbackHost host label = .ok ()) :
    U.isLoopbackHost host = false := by
  unfold rejectLoopbackHost at h
  split at h
  · cases h
  rename_i hloop
  simpa using hloop

theorem buildProfile_ok {config : Config} (h : U.buildProfile protocol parsed config = .ok profile) :
    ∃ port fragment, parsed.port = some port ∧ profile.protocol = protocol ∧
      profile.config = withAuthority parsed port fragment config := by
  obtain ⟨port, hport, h⟩ := except_bind_ok h
  cases h
  exact ⟨port, _, safePort_ok hport, rfl, rfl⟩

/-- Putting the credentials in leaves the keys of the endpoint alone. -/
def KeepsEndpoint (credentials : Config → Config) : Prop :=
  ∀ config key, key ∈ endpointKeys → (credentials config).get key = config.get key

theorem keepsEndpoint_setGiven {key : String} (hkey : key ∉ endpointKeys) (value : Option ConfigValue) :
    KeepsEndpoint (setGiven key value) := by
  intro config key' hkey'
  exact get_setGiven_ne fun h => hkey (h ▸ hkey')

theorem KeepsEndpoint.comp {f g : Config → Config} (hf : KeepsEndpoint f) (hg : KeepsEndpoint g) :
    KeepsEndpoint fun config => f (g config) := by
  intro config key hkey
  rw [hf _ key hkey, hg _ key hkey]

/-- An accepted link of a network protocol: its authority passed the check, and its configuration is
the query's with the authority where the query has nothing. -/
structure BuiltNetwork (U : Library) (parsed : Uri) (host : String) (port : Nat)
    (profile : Profile) : Prop where
  host_given : given parsed.hostname = some host
  port_given : parsed.port = some (some port)
  remote : U.isLoopbackHost host = false
  network : ProtocolType.isNetwork profile.protocol = true
  host_key : profile.config.get "host" = ((U.queryDict parsed).get "host").or (some (.text host))
  port_key : profile.config.get "port" = ((U.queryDict parsed).get "port").or (some (.int port))
  other_keys : ∀ key ∈ ["server", "server_port", "endpoint"], profile.config.get key =
    (U.queryDict parsed).get key

theorem parseNetwork_built {credentials : Uri → Config → Config} (hnet : ProtocolType.isNetwork protocol = true)
    (hkeep : KeepsEndpoint (credentials parsed))
    (h : U.parseNetwork protocol label credentials parsed = .ok profile) :
    ∃ host port, BuiltNetwork U parsed host port profile := by
  obtain ⟨port, hport, h⟩ := except_bind_ok h
  split at h
  · rename_i host p hhost
    obtain ⟨_, hreject, h⟩ := except_bind_ok h
    obtain ⟨port', fragment, hport', hprot, hcfg⟩ := buildProfile_ok h
    have hp := safePort_ok hport
    rw [hp] at hport'
    cases hport'
    refine ⟨host, p, hhost, hp, rejectLoopbackHost_ok hreject, by rw [hprot]; exact hnet, ?_, ?_, ?_⟩
    · rw [hcfg, withAuthority_host, hkeep _ _ (by decide), hhost]; rfl
    · rw [hcfg, withAuthority_port, hkeep _ _ (by decide)]; rfl
    · intro key hkey
      have hmem : key ∈ endpointKeys := by revert key; decide
      rw [hcfg, withAuthority_other hkey, hkeep _ _ hmem]
  · cases h

/-- An accepted WireGuard link: here the port of the authority comes before the query's. -/
structure BuiltWireguard (U : Library) (parsed : Uri) (host : String) (port : Option Nat)
    (profile : Profile) : Prop where
  host_given : given parsed.hostname = some host
  port_given : parsed.port = some port
  remote : U.isLoopbackHost host = false
  wireguard : profile.protocol = .wireguard
  host_key : profile.config.get "host" = ((U.queryDict parsed).get "host").or (some (.text host))
  port_key : ∀ p, port = some p → profile.config.get "port" = some (.int p)
  other_keys : ∀ key ∈ ["server", "server_port", "endpoint"], profile.config.get key =
    (U.queryDict parsed).get key

/-- A WireGuard link puts its port and its keys in, and touches nothing else of the endpoint. -/
theorem wireguardConfig_get {port : Option Nat} {config : Config} {key : String} (hkey : key ∈ endpointKeys) :
    (U.wireguardConfig parsed port config).get key = (setGiven "port" (portValue port) config).get key := by
  have hpub : key ≠ "public_key" := by revert key; decide
  have hpriv : key ≠ "private_key" := by revert key; decide
  unfold wireguardConfig
  simp only
  split
  · rw [get_setGiven_ne hpub, get_setGiven_ne hpriv, get_setGiven_ne hpub]
  · rw [get_setGiven_ne hpriv, get_setGiven_ne hpub]

theorem parseWireguard_built (h : U.parseWireguard parsed = .ok profile) :
    ∃ host port, BuiltWireguard U parsed host port profile := by
  unfold parseWireguard at h
  split at h
  · cases h
  rename_i host hhost
  obtain ⟨_, hreject, h⟩ := except_bind_ok h
  obtain ⟨port, hport, h⟩ := except_bind_ok h
  obtain ⟨port', fragment, hport', hprot, hcfg⟩ := buildProfile_ok h
  have hp := safePort_ok hport
  rw [hp] at hport'
  refine ⟨host, port, hhost, hp, rejectLoopbackHost_ok hreject, hprot, ?_, ?_, ?_⟩
  · rw [hcfg, withAuthority_host, wireguardConfig_get (by decide), get_setGiven_ne (by decide), hhost]; rfl
  · rintro p rfl
    rw [hcfg, withAuthority_port, wireguardConfig_get (by decide)]
    change ((PyDict.set "port" (.int p) (U.queryDict parsed)).get "port").or _ = _
    rw [PyDict.get_set_self, Option.some_or]
  · intro key hkey
    have hmem : key ∈ endpointKeys := by revert key; decide
    have hne : key ≠ "port" := by revert key; decide
    rw [hcfg, withAuthority_other hkey, wireguardConfig_get hmem, get_setGiven_ne hne]

variable {scheme : Scheme}

theorem parseScheme_network (hs : scheme ∈ [.vless, .trojan, .hysteria2, .hy2, .tuic])
    (hpar : U.parsedUri scheme uri = .ok parsed) (h : U.parseScheme scheme uri = .ok profile) :
    ∃ host port, BuiltNetwork U parsed host port profile := by
  obtain ⟨parsed', hpar', h⟩ := except_bind_ok h
  rw [hpar] at hpar'
  cases hpar'
  have huuid : KeepsEndpoint (setGiven "uuid" (U.unquoted parsed.username)) :=
    keepsEndpoint_setGiven (by decide) _
  have hpw : ∀ value, KeepsEndpoint (setGiven "password" value) := keepsEndpoint_setGiven (by decide)
  simp only [List.mem_cons, List.not_mem_nil, or_false] at hs
  rcases hs with rfl | rfl | rfl | rfl | rfl
  · exact parseNetwork_built rfl ((hpw _).comp huuid) h
  · exact parseNetwork_built rfl ((hpw _).comp (hpw _)) h
  · exact parseNetwork_built rfl (hpw _) h
  · exact parseNetwork_built rfl (hpw _) h
  · exact parseNetwork_built rfl ((hpw _).comp huuid) h

theorem parseUri_ok (hsch : U.detectScheme uri = .ok scheme) (h : U.parseUri uri = .ok profile) :
    U.parseScheme scheme uri = .ok profile ∧ U.validateProfileSemantics profile = .ok () := by
  obtain ⟨scheme', hsch', h⟩ := except_bind_ok h
  rw [hsch] at hsch'
  cases hsch'
  obtain ⟨profile', hprof, h⟩ := except_bind_ok h
  obtain ⟨_, hval, h⟩ := except_bind_ok h
  cases h
  exact ⟨hprof, hval⟩

/-! ## Ports -/

theorem validateConfigPorts_int {required : Bool} {p : Nat}
    (h : U.validateConfigPorts profile required = .ok ())
    (hp : profile.config.get "port" = some (.int p)) : 1 ≤ p := by
  unfold validateConfigPorts at h
  have hports : ∃ rest, givenPorts profile.config = ("port", .int p) :: rest := by
    unfold givenPorts
    rw [List.filterMap_cons, hp]
    exact ⟨_, rfl⟩
  obtain ⟨rest, hports⟩ := hports
  rw [hports, if_neg (by simp)] at h
  obtain ⟨_, hport, -⟩ := except_bind_ok h
  unfold validatePort at hport
  simp only at hport
  split at hport
  · rename_i hrange
    exact Int.ofNat_le.mp hrange.1
  · cases hport

theorem validWireguard_port {p : Nat} (hval : U.validateProfileSemantics profile = .ok ())
    (hwg : profile.protocol = .wireguard) (hp : profile.config.get "port" = some (.int p)) : 1 ≤ p := by
  obtain ⟨_, -, h⟩ := except_bind_ok hval
  obtain ⟨_, -, h⟩ := except_bind_ok h
  unfold validateFields at h
  rw [hwg] at h
  obtain ⟨_, -, h⟩ := except_bind_ok h
  obtain ⟨_, -, h⟩ := except_bind_ok h
  repeat' split at h
  any_goals cases h
  all_goals
    obtain ⟨_, -, h⟩ := except_bind_ok h
    exact validateConfigPorts_int h hp

theorem validNetwork_port {p : Nat} (hval : U.validateProfileSemantics profile = .ok ())
    (hnet : ProtocolType.isNetwork profile.protocol = true)
    (hp : profile.config.get "port" = some (.int p)) : 1 ≤ p := by
  obtain ⟨_, -, h⟩ := except_bind_ok hval
  obtain ⟨_, hendp, -⟩ := except_bind_ok h
  unfold validateEndpoint at hendp
  rw [if_pos hnet] at hendp
  obtain ⟨_, -, hports⟩ := except_bind_ok hendp
  exact validateConfigPorts_int hports hp

/-! ## What is dialed -/

/-- The target is the host, and the port if there is one. -/
def Dials (target : RouteTarget) (host : String) (port : Option (Option Nat)) : Prop :=
  target.server = some (.text host) ∧ ∀ p : Nat, port = some (some p) → target.serverPort = some p

/-- What the query says about the endpoint does not contradict the authority: if it has a `host`,
then that one, or if it is empty the `server` (for WireGuard also the `endpoint`), is the host; and
likewise for the port, where WireGuard does not ask the query. -/
def Kept (U : Library) (scheme : Scheme) (parsed : Uri) (host : String) : Prop :=
  let query := U.queryDict parsed
  match scheme with
  | .wg => ∀ v, query.get "host" = some v →
      pyOr (pyOr (some v) (query.get "server")) (U.splitEndpoint (query.get "endpoint")).1 = some (.text host)
  | _ => (∀ v, query.get "host" = some v → pyOr (some v) (query.get "server") = some (.text host)) ∧
      ∀ p v, parsed.port = some (some p) → query.get "port" = some v →
        U.normalizePort (pyOr (some v) (query.get "server_port")) = some (p : Int)

theorem pyOr_text (hne : host ≠ "") (b : Option ConfigValue) :
    pyOr (some (.text host)) b = some (.text host) := by
  unfold pyOr
  rw [if_pos]
  simpa [ConfigValue.truthy] using hne

theorem given_ne {part : Option String} (h : given part = some host) : host ≠ "" := by
  unfold given at h
  split at h
  · cases h
  rename_i hne
  rintro rfl
  exact hne h

theorem host_kept {query : Option ConfigValue} (pick : Option ConfigValue → Option ConfigValue)
    (hpick : pick (some (.text host)) = some (.text host)) :
    pick (query.or (some (.text host))) = some (.text host) ↔ ∀ v, query = some v →
    pick (some v) = some (.text host) := by
  cases query with
  | none => simp [hpick]
  | some v => simp

theorem pyOr_port {p : Nat} (hp : 1 ≤ p) (b : Option ConfigValue) : pyOr (some (.int p)) b = some (.int p) := by
  unfold pyOr
  rw [if_pos]
  simp only [Option.any_some, ConfigValue.truthy, bne_iff_ne]
  omega

theorem BuiltNetwork.dials {port : Nat} (hb : BuiltNetwork U parsed host port profile)
    (hval : U.validateProfileSemantics profile = .ok ()) (hsch : scheme ≠ .wg) :
    ∃ target, U.profileToRouteTarget profile = .ok target ∧
    (Dials target host parsed.port ↔ Kept U scheme parsed host) := by
  have hwg : profile.protocol ≠ .wireguard := by
    intro h
    have hnet := hb.network
    rw [h] at hnet
    cases hnet
  have htgt : U.profileToRouteTarget profile = U.protocolToOutbound profile := by
    unfold profileToRouteTarget
    rw [hval]
    exact if_neg hwg
  rw [htgt]
  unfold protocolToOutbound
  rw [if_pos hb.network]
  refine ⟨_, rfl, ?_⟩
  have hkept : Kept U scheme parsed host ↔ (∀ v, (U.queryDict parsed).get "host" = some v →
        pyOr (some v) ((U.queryDict parsed).get "server") = some (.text host)) ∧
      ∀ p v, parsed.port = some (some p) → (U.queryDict parsed).get "port" = some v →
        U.normalizePort (pyOr (some v) ((U.queryDict parsed).get "server_port")) = some (p : Int) := by
    cases scheme <;> first | exact Iff.rfl | exact absurd rfl hsch
  rw [hkept]
  rw [hb.host_key, hb.port_key, hb.other_keys "server" (by decide),
    hb.other_keys "server_port" (by decide), hb.port_given]
  refine and_congr (host_kept (pyOr · _) (pyOr_text (given_ne hb.host_given) _)) ?_
  cases hquery : (U.queryDict parsed).get "port" with
  | none =>
    have hport : profile.config.get "port" = some (.int port) := by rw [hb.port_key, hquery]; rfl
    have hpos := validNetwork_port hval hb.network hport
    refine ⟨nofun, fun _ p hp => ?_⟩
    cases hp
    rw [Option.none_or, pyOr_port hpos]
    rfl
  | some v =>
    constructor
    · intro h p v' hp hv
      cases hv
      exact h p hp
    · intro h p hp
      exact h p v hp rfl

/-- A WireGuard endpoint dials its port; its address is what the keys say. -/
theorem BuiltWireguard.dials {port : Option Nat} (hb : BuiltWireguard U parsed host port profile)
    (hval : U.validateProfileSemantics profile = .ok ()) :
    ∃ target, U.profileToRouteTarget profile = .ok target ∧
    (Dials target host parsed.port ↔ Kept U .wg parsed host) := by
  have htgt : U.profileToRouteTarget profile = .ok (U.wireguardToEndpoint profile) := by
    unfold profileToRouteTarget
    rw [hval]
    exact if_pos hb.wireguard
  refine ⟨_, htgt, ?_⟩
  have hport : ∀ p : Nat, parsed.port = some (some p) →
      (U.wireguardToEndpoint profile).serverPort = some (p : Int) := by
    intro p hp
    have hgiven := hb.port_given
    rw [hp] at hgiven
    have hkey := hb.port_key p (Option.some.inj hgiven).symm
    have hpos := validWireguard_port hval hb.wireguard hkey
    unfold wireguardToEndpoint
    simp only
    rw [hkey, pyOr_port hpos]
    refine if_pos ?_
    simp only [normalizePort, Option.any_some, decide_eq_true_eq]
    omega
  have hne := given_ne hb.host_given
  have hserv : (U.wireguardToEndpoint profile).server = some (.text host) ↔ Kept U .wg parsed host := by
    unfold wireguardToEndpoint
    simp only
    rw [hb.host_key, hb.other_keys "server" (by decide), hb.other_keys "endpoint" (by decide)]
    exact host_kept (fun v => pyOr (pyOr v _) _) (by rw [pyOr_text hne, pyOr_text hne])
  exact ⟨fun h => hserv.mp h.1, fun h => ⟨hserv.mpr h, hport⟩⟩

/-- **What a share link dials.** The driver builds a target for every accepted link; it is the host
and the port that were checked, the ones of the link's authority, exactly if the query does not say
otherwise. -/
theorem share_link_dials (U : Library) {uri : String} {scheme : Scheme} {profile : Profile}
    (hs : scheme ∈ [.vless, .trojan, .hysteria2, .hy2, .tuic, .wg]) (hscheme : U.detectScheme uri = .ok scheme)
    (hok : U.parseUri uri = .ok profile) :
    ∃ parsed host target, U.parsedUri scheme uri = .ok parsed ∧ given parsed.hostname = some host ∧
      U.isLoopbackHost host = false ∧ U.profileToRouteTarget profile = .ok target ∧
      (Dials target host parsed.port ↔ Kept U scheme parsed host) := by
  obtain ⟨hparse, hval⟩ := parseUri_ok hscheme hok
  obtain ⟨parsed, hpar, hrest⟩ := except_bind_ok hparse
  by_cases hwg : scheme = .wg
  · subst hwg
    obtain ⟨host, port, hb⟩ := parseWireguard_built hrest
    obtain ⟨target, htgt, hdials⟩ := hb.dials hval
    exact ⟨parsed, host, target, hpar, hb.host_given, hb.remote, htgt, hdials⟩
  · have hnet : scheme ∈ [.vless, .trojan, .hysteria2, .hy2, .tuic] := by
      revert hs hwg
      cases scheme <;> decide
    obtain ⟨host, port, hb⟩ := parseScheme_network hnet hpar hparse
    obtain ⟨target, htgt, hdials⟩ := hb.dials hval hwg
    exact ⟨parsed, host, target, hpar, hb.host_given, hb.remote, htgt, hdials⟩

/-! ## Two links -/

/-- A standard library that knows one link with the given query, two addresses and the decimal
numerals. -/
def labLibrary (link : String) (query : String) (values : PyDict String (List String)) : Library where
  urlparse _ := {
    scheme := "vless", netloc := "u@8.8.8.8:443", query := query, username := some "u",
    hostname := some "8.8.8.8", port := some (some 443), url := link }
  parseQs _ := values
  unquote := id
  lower := id
  digits text := if text ≠ "" ∧ text.toList.all Char.isDigit then text.toNat? else none
  literal text := if text = "8.8.8.8" then some true else if text = "127.0.0.1" then some false else none
  parseShadowsocks _ := .error "invalid Shadowsocks payload"
  parseVmess _ := .error "VMess URI requires payload"

def labPlain : Library := labLibrary "vless://u@8.8.8.8:443?flow=x" "flow=x" [("flow", ["x"])]

def labProfile : Profile where
  id := "8.8.8.8"
  name := "8.8.8.8"
  protocol := .vless
  config := [("flow", .text "x"), ("uuid", .text "u"), ("port", .int 443), ("host", .text "8.8.8.8"),
    ("username", .text "u"), ("raw", .text "vless://u@8.8.8.8:443?flow=x")]

theorem share_link_dials_plain : labPlain.parseUri "vless://u@8.8.8.8:443?flow=x" = .ok labProfile ∧
    ∃ parsed host target, labPlain.parsedUri .vless "vless://u@8.8.8.8:443?flow=x" = .ok parsed ∧
      given parsed.hostname = some host ∧ labPlain.isLoopbackHost host = false ∧
      labPlain.profileToRouteTarget labProfile = .ok target ∧
      (Dials target host parsed.port ↔ Kept labPlain .vless parsed host) := by
  have hok : labPlain.parseUri "vless://u@8.8.8.8:443?flow=x" = .ok labProfile := by rfl
  exact ⟨hok, share_link_dials labPlain (by decide) (by rfl) hok⟩

def labDisplaced : Library :=
  labLibrary "vless://u@8.8.8.8:443?host=127.0.0.1" "host=127.0.0.1" [("host", ["127.0.0.1"])]

/-- **A host in the query.** The authority `8.8.8.8` passes the check, the link is accepted, and the
outbound connects to the loopback address that the query names. -/
theorem query_host_displaces : ∃ profile target,
    labDisplaced.parseUri "vless://u@8.8.8.8:443?host=127.0.0.1" = .ok profile ∧
    labDisplaced.parsedUri .vless "vless://u@8.8.8.8:443?host=127.0.0.1" =
      .ok (labDisplaced.urlparse "vless://u@8.8.8.8:443?host=127.0.0.1") ∧
    (labDisplaced.urlparse "vless://u@8.8.8.8:443?host=127.0.0.1").hostname = some "8.8.8.8" ∧
    labDisplaced.profileToRouteTarget profile = .ok target ∧ target.server = some (.text "127.0.0.1") ∧
    labDisplaced.isLoopbackHost "127.0.0.1" = true ∧ ¬ Dials target "8.8.8.8" (some (some 443)) := by
  refine ⟨_, _, rfl, rfl, rfl, rfl, rfl, by decide +kernel, fun h => ?_⟩
  have hserv := h.1
  revert hserv
  decide

end Library

end WatchdogVpn.ShareLink
