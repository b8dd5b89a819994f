import WatchdogVpn.Documents.Reading
import WatchdogVpn.Dns.Model

/-!
# The DNS policy and the metrics

The documents of `dns-policy.json` and `metrics.json`. A domain of the DNS policy is normalised when
it is read: white space around it goes, then it is lower-cased, then the dots at its end go. What is
left may have white space or dots at its end once more, so reading it again may give another domain
or none.

* **`DNSPolicy.accepted_again`**: a policy that was written is accepted exactly if its domains are
  domains once more.
* **`MetricsDocument.fromDict_toDict`**: the metrics read back as they were written.
-/

namespace WatchdogVpn.Documents

open List
open Rules (Error refuse refuseValue strictBool strictInt rejectUnknownKeys required stripped
  stripped_stripped rstripDots)
open Dns (DNSMode DNSChannelName ResolverHost ParsedResolver)
open PyText (Text strip)
open Effect (ok_bind except_bind_ok)

variable {D : Type} (lib : Library D)

/-! ## Addresses of resolvers -/

def validHostname (host : Text) : Bool :=
  host.length ≤ 253 && (host.splitOn '.').all fun label => 1 ≤ label.length && label.length ≤ 63 &&
    label.all (fun c => c.isAlphanum || c == '-') && label.head? != some '-' && label.getLast? != some '-'

def requireIp (host : String) : Except Error Unit :=
  ensure ((lib.ipAddress host).isSome = true) ⟨.valueError, "resolver host must be an IP address"⟩

def requireHostOrIp (host : String) : Except Error ResolverHost :=
  if (lib.ipAddress host).isSome then .ok (.address host)
  else if validHostname host.toList then .ok (.name host)
  else refuseValue "resolver host must be a valid hostname or IP address"

def parsePort : Option (Option Nat) → Except Error (Option Nat)
  | none => refuseValue "resolver uri port is invalid"
  | some none => .ok none
  | some (some port) => do
    ensure (1 ≤ port ∧ port ≤ 65535) ⟨.valueError, "resolver uri port is out of range"⟩
    return some port

/-- A `ResolverParseError` is a `ValueError`. -/
def parseResolverUri (uri : String) : Except Error ParsedResolver :=
  let raw := stripped uri
  if raw = "local" then .ok .localTransport
  else if raw = "dhcp://auto" then .ok .dhcp
  else do
    ensure (raw ≠ "") ⟨.valueError, "resolver uri must not be empty"⟩
    let parts ← lib.urlsplit raw
    ensure (parts.scheme ∈ ["udp", "tcp", "tls", "https"])
      ⟨.valueError, "unsupported resolver transport: " ++ if parts.scheme = "" then "<none>" else parts.scheme⟩
    ensure (parts.credentials = false) ⟨.valueError, "resolver uri must not contain credentials"⟩
    ensure (parts.hostname ≠ "") ⟨.valueError, "resolver uri must include a host"⟩
    ensure (parts.fragment = "") ⟨.valueError, "resolver uri must not include a fragment"⟩
    ensure (parts.query = "") ⟨.valueError, "resolver uri must not include a query string"⟩
    let host := String.ofList (lib.lower (strip parts.hostname.toList))
    let port ← parsePort parts.port
    match parts.scheme with
    | "https" =>
      let host ← requireHostOrIp lib host
      ensure (parts.path ∉ ["", "/"]) ⟨.valueError, "https resolver uri must include a path"⟩
      return .https host port parts.path
    | "tls" =>
      let host ← requireHostOrIp lib host
      ensure (parts.path ∈ ["", "/"]) ⟨.valueError, "tls resolver uri must not include a path"⟩
      return .tls host port
    | scheme =>
      requireIp lib host
      ensure (parts.path ∈ ["", "/"]) ⟨.valueError, scheme ++ " resolver uri must not include a path"⟩
      return if scheme = "udp" then .udp host port else .tcp host port

def validateResolverUri (uri : String) : Except Error Unit := do
  let _ ← parseResolverUri lib uri

theorem validateResolverUri_default {host : String} (h : host ∈ ["1.1.1.1", "9.9.9.9"]) {uri : String}
    (huri : uri = "udp://" ++ host) : validateResolverUri lib uri = .ok () := by
  subst huri
  obtain ⟨hsplit, hlow, hip⟩ := lib.resolver_default host h
  have hraw : ∀ host ∈ ["1.1.1.1", "9.9.9.9"], stripped ("udp://" ++ host) = "udp://" ++ host ∧
      strip host.toList = host.toList ∧ host ≠ "" ∧ "udp://" ++ host ∉ ["local", "dhcp://auto", ""] := by decide
  obtain ⟨hstrip, hstrip', hne, hnot⟩ := hraw host h
  simp only [List.mem_cons, List.not_mem_nil, or_false, not_or] at hnot
  simp [validateResolverUri, parseResolverUri, requireIp, ensure, parsePort, hstrip, hstrip', hlow,
    hip, hsplit, hne, hnot]

/-! ## Resolvers and channels -/

structure Resolver where
  uri : Trimmed
  label : Option Trimmed := none
  enabled : Bool := true
  metadata : Object := []
  valid : validateResolverUri lib uri.1 = .ok ()

/-- `str(value).strip() or None`, for a value that may be missing. -/
def optionalText (value : Json) : Option Trimmed :=
  match value with
  | .null => none
  | value => trimmed? value.toStr

def optionalTextToJson : Option Trimmed → Json
  | none => .null
  | some text => .str text.1

@[simp] theorem optionalText_toJson (text : Option Trimmed) :
    optionalText (optionalTextToJson text) = text := by
  cases text with
  | none => rfl
  | some text => exact trimmed?_val text

/-- `Resolver(...)`. -/
def Resolver.build (uri : String) (label : Json) (enabled : Bool) (metadata : Object) :
    Except Error (Resolver lib) :=
  match trimmed? uri with
  | none => refuseValue "resolver uri must not be empty"
  | some uri => do
    let ⟨_, h⟩ ← attested (validateResolverUri lib uri.1)
    return { uri, label := optionalText label, enabled, metadata, valid := h }

def Resolver.fromDict (data : Json) : Except Error (Resolver lib) :=
  match data with
  | .str uri => Resolver.build lib uri .null true []
  | .obj data => do
    rejectUnknownKeys data ["uri", "label", "enabled", "metadata"] "resolver"
    match Object.getD data "metadata" (.obj []) with
    | .obj metadata => do
      let uri ← required data "uri"
      let enabled ← strictBool (Object.getD data "enabled" (.bool true)) "resolver.enabled"
      Resolver.build lib uri.toStr (Object.getD data "label" .null) enabled metadata
    | _ => refuseValue "resolver metadata must be an object"
  | _ => .error ⟨.typeError, "resolver must be an object"⟩

def Resolver.toDict (resolver : Resolver lib) : Json :=
  .obj [("uri", .str resolver.uri.1), ("label", optionalTextToJson resolver.label),
    ("enabled", .bool resolver.enabled), ("metadata", .obj resolver.metadata)]

theorem Resolver.fromDict_toDict (resolver : Resolver lib) :
    Resolver.fromDict lib (resolver.toDict lib) = .ok resolver := by
  simp [Resolver.fromDict, Resolver.toDict, rejectUnknownKeys, Object.getD, required, PyDict.get, strictBool,
    Json.toStr, Resolver.build, attested_of resolver.valid]

/-- The resolvers of a channel, of which the strategy is always `auto`. -/
abbrev Channel : Type := { resolvers : List (Resolver lib) // resolvers.length ≤ 4 }

def dnsChannelName (name : Json) : Except Error DNSChannelName :=
  enumMember [.bootstrap, .dnsServer, .proxyServer, .direct, .proxy, .final] DNSChannelName.value
    "DNSChannelName" name

@[simp] theorem dnsChannelName_value (name : DNSChannelName) : dnsChannelName (.str name.value) = .ok name := by
  cases name <;> rfl

/-- `DNSChannel.from_dict({**dict(value), "name": name})` with its key. -/
def dnsChannel (entry : String × Json) : Except Error (DNSChannelName × Channel lib) := do
  let name ← dnsChannelName (.str entry.1)
  match entry.2 with
  | .obj fields => do
    rejectUnknownKeys (PyDict.set "name" (.str entry.1) fields) ["name", "resolvers", "strategy"] "dns channel"
    match Object.getD fields "resolvers" (.arr []) with
    | .arr items => do
      let resolvers ← items.mapM (Resolver.fromDict lib)
      if h : resolvers.length ≤ 4 then do
        ensure ((Object.getD fields "strategy" (.str "auto")).toStr = "auto")
          ⟨.valueError, "unsupported dns channel strategy; resolver racing is not supported"⟩
        return (name, ⟨resolvers, h⟩)
      else refuseValue "dns channel supports at most 4 resolvers"
    | _ => refuseValue "dns channel resolvers must be a list"
  | _ => .error ⟨.typeError, "dns channel must be an object"⟩

def dnsChannelToDict (entry : DNSChannelName × Channel lib) : String × Json :=
  (entry.1.value, .obj [("name", .str entry.1.value), ("resolvers", .arr (entry.2.1.map (Resolver.toDict lib))),
    ("strategy", .str "auto")])

theorem dnsChannel_toDict (entry : DNSChannelName × Channel lib) :
    dnsChannel lib (dnsChannelToDict lib entry) = .ok entry := by
  have hrslvs : (entry.2.1.map (Resolver.toDict lib)).mapM (Resolver.fromDict lib) = .ok entry.2.1 :=
    mapM_ok_of_forall fun resolver _ => Resolver.fromDict_toDict lib resolver
  have hkeys : rejectUnknownKeys
      [("name", .str entry.1.value), ("resolvers", .arr (entry.2.1.map (Resolver.toDict lib))),
      ("strategy", .str "auto")] ["name", "resolvers", "strategy"] "dns channel" = .ok () :=
    rejectUnknownKeys_ok fun key h => h
  simp [-mapM_map, dnsChannel, dnsChannelToDict, PyDict.set, hkeys, Object.getD, PyDict.get, hrslvs,
    entry.2.2, ensure, Json.toStr]

/-! ## Domains -/

/-- `text.strip().lower().rstrip(".")`. -/
def normalDomain (text : String) : String := String.ofList (rstripDots (lib.lower (strip text.toList)))

def isLabelChar (c : Char) : Bool := ('a' ≤ c && c ≤ 'z') || ('0' ≤ c && c ≤ '9')

/-- `DOMAIN_LABEL_RE.match(label)`, whose `$` also stands before a newline at the end. -/
def isDomainLabel (label : Text) : Bool :=
  let body := if label.getLast? = some '\n' then label.dropLast else label
  match body with
  | [] => false
  | first :: _ =>
    body.length ≤ 63 && isLabelChar first && (body.getLast?.any isLabelChar) &&
      body.all fun c => isLabelChar c || c == '-'

def validateDomainName (domain : Text) : Except Error Unit := do
  ensure (domain.length ≤ 253) ⟨.valueError, "domain name is too long"⟩
  ensure (2 ≤ (domain.splitOn '.').length) ⟨.valueError, "domain name must be fully qualified"⟩
  ensure ((domain.splitOn '.').all isDomainLabel = true) ⟨.valueError, "invalid domain name"⟩

structure StaticIPEntry where
  domain : String
  ip : Trimmed
  enabled : Bool := true
  valid : validateDomainName domain.toList = .ok ()
  address : (lib.ipAddress ip.1).isSome = true

/-- `StaticIPEntry(...)`, with a domain that is normalised already. -/
def StaticIPEntry.build (domain ip : String) (enabled : Bool) : Except Error (StaticIPEntry lib) := do
  ensure (domain ≠ "") ⟨.valueError, "static ip domain must not be empty"⟩
  match trimmed? ip with
  | none => refuseValue "static ip address must not be empty"
  | some ip => do
    let ⟨_, h⟩ ← attested (validateDomainName domain.toList)
    if ha : (lib.ipAddress ip.1).isSome = true then return { domain, ip, enabled, valid := h, address := ha }
    else refuseValue "static ip address must be a valid IP address"

def StaticIPEntry.fromDict (data : Json) : Except Error (StaticIPEntry lib) :=
  match data with
  | .obj data => do
    rejectUnknownKeys data ["domain", "ip", "enabled"] "static ip entry"
    let domain ← required data "domain"
    let ip ← required data "ip"
    let enabled ← strictBool (Object.getD data "enabled" (.bool true)) "static_ip.enabled"
    StaticIPEntry.build lib (normalDomain lib domain.toStr) ip.toStr enabled
  | _ => .error ⟨.typeError, "static ip entry must be an object"⟩

def StaticIPEntry.toDict (entry : StaticIPEntry lib) : Json :=
  .obj [("domain", .str entry.domain), ("ip", .str entry.ip.1), ("enabled", .bool entry.enabled)]

/-- The domain of an entry is one once more when it has been normalised again. -/
def StaticIPEntry.Again (entry : StaticIPEntry lib) : Prop :=
  validateDomainName (normalDomain lib entry.domain).toList = .ok ()

theorem StaticIPEntry.build_eq {domain : String} (entry : StaticIPEntry lib)
    (h : validateDomainName domain.toList = .ok ()) :
    StaticIPEntry.build lib domain entry.ip.1 entry.enabled =
      .ok { entry with domain, valid := h } := by
  unfold StaticIPEntry.build
  rw [ensure_of (by rintro rfl; cases h), trimmed?_val]
  simp only [attested_of h, ok_bind, dif_pos entry.address]
  rfl

theorem StaticIPEntry.fromDict_toDict_eq (entry : StaticIPEntry lib) :
    StaticIPEntry.fromDict lib (entry.toDict lib) =
      StaticIPEntry.build lib (normalDomain lib entry.domain) entry.ip.1 entry.enabled := by
  simp [StaticIPEntry.fromDict, StaticIPEntry.toDict, rejectUnknownKeys, required, PyDict.get, Object.getD,
    strictBool, Json.toStr]

theorem StaticIPEntry.accepted_again (entry : StaticIPEntry lib) :
    (∃ other, StaticIPEntry.fromDict lib (entry.toDict lib) = .ok other) ↔ entry.Again := by
  rw [StaticIPEntry.fromDict_toDict_eq]
  constructor
  · rintro ⟨other, h⟩
    obtain ⟨_, -, h⟩ := except_bind_ok h
    rw [trimmed?_val] at h
    obtain ⟨checked, -⟩ := except_bind_ok h
    exact checked.2
  · exact fun h => ⟨_, entry.build_eq lib h⟩

/-! ## Rules -/

def dnsRulePatternTypes : List String := ["domain", "suffix", "keyword", "regex", "geosite", "rule_set"]

def validateDnsRulePattern (pattern : Text) : Except Error Unit := do
  ensure (':' ∈ pattern) ⟨.valueError, "dns rule pattern must include a type prefix"⟩
  let patternType := String.ofList (strip (pattern.takeWhile (· ≠ ':')))
  let value := strip ((pattern.dropWhile (· ≠ ':')).drop 1)
  ensure (patternType ∈ dnsRulePatternTypes) ⟨.valueError, "unsupported dns rule pattern type"⟩
  ensure (value ≠ []) ⟨.valueError, "dns rule pattern value must not be empty"⟩
  if patternType = "domain" ∨ patternType = "suffix" then validateDomainName (rstripDots (lib.lower value))
  else if patternType = "regex" then
    ensure (lib.compiles (String.ofList value) = true) ⟨.valueError, "invalid dns rule regex pattern"⟩
  else .ok ()

/-- The action of a rule; one that rejects may name a channel all the same. -/
inductive DNSRuleTarget
  | useChannel (channel : DNSChannelName)
  | reject (channel : Option DNSChannelName)

structure DNSRule where
  id : Trimmed
  pattern : Trimmed
  target : DNSRuleTarget
  enabled : Bool := true
  priority : Int := 100
  valid : validateDnsRulePattern lib pattern.1.toList = .ok ()

def DNSRuleTarget.action : DNSRuleTarget → String
  | useChannel _ => "use_channel"
  | reject _ => "reject"

def DNSRuleTarget.channel : DNSRuleTarget → Option DNSChannelName
  | useChannel channel => some channel
  | reject channel => channel

def channelToJson : Option DNSChannelName → Json
  | none => .null
  | some channel => .str channel.value

def channelFromJson (value : Json) : Except Error (Option DNSChannelName) :=
  match value with
  | .null => .ok none
  | value => (dnsChannelName value).map some

@[simp] theorem channelFromJson_toJson (channel : Option DNSChannelName) :
    channelFromJson (channelToJson channel) = .ok channel := by
  cases channel with
  | none => rfl
  | some channel => cases channel <;> rfl

/-- Whether the action is the one that uses a channel. -/
def usesChannel (action : Json) : Except Error Bool :=
  enumMember [true, false] (fun uses => if uses then "use_channel" else "reject") "DNSRuleAction" action

/-- `DNSRule(...)`. -/
def DNSRule.build (id pattern : String) (uses : Bool) (channel : Json) (enabled : Bool) (priority : Int) :
    Except Error (DNSRule lib) := do
  let channel ← channelFromJson channel
  match trimmed? id, trimmed? pattern with
  | none, _ => refuseValue "dns rule id must not be empty"
  | _, none => refuseValue "dns rule pattern must not be empty"
  | some id, some pattern =>
    let target ←
      match uses, channel with
      | true, none => refuseValue "dns rule channel is required for use_channel action"
      | true, some channel => .ok (DNSRuleTarget.useChannel channel)
      | false, channel => .ok (DNSRuleTarget.reject channel)
    let ⟨_, h⟩ ← attested (validateDnsRulePattern lib pattern.1.toList)
    return { id, pattern, target, enabled, priority, valid := h }

def dnsRuleFields : List String := ["id", "pattern", "action", "channel", "enabled", "priority"]

def DNSRule.fromDict (data : Json) : Except Error (DNSRule lib) :=
  match data with
  | .obj data => do
    rejectUnknownKeys data dnsRuleFields "dns rule"
    let id ← required data "id"
    let pattern ← required data "pattern"
    let uses ← usesChannel (Object.getD data "action" (.str "use_channel"))
    let enabled ← strictBool (Object.getD data "enabled" (.bool true)) "dns_rule.enabled"
    let priority ← strictInt (Object.getD data "priority" (.int 100)) "dns_rule.priority"
    DNSRule.build lib id.toStr pattern.toStr uses (Object.getD data "channel" .null) enabled priority
  | _ => .error ⟨.typeError, "dns rule must be an object"⟩

def DNSRule.toDict (rule : DNSRule lib) : Json :=
  .obj [("id", .str rule.id.1), ("pattern", .str rule.pattern.1), ("action", .str rule.target.action),
    ("channel", channelToJson rule.target.channel), ("enabled", .bool rule.enabled),
    ("priority", .int rule.priority)]

theorem DNSRule.build_eq (rule : DNSRule lib) (uses : Bool)
    (h : usesChannel (.str rule.target.action) = .ok uses) :
    DNSRule.build lib rule.id.1 rule.pattern.1 uses
      (channelToJson rule.target.channel) rule.enabled rule.priority = .ok rule := by
  obtain ⟨id, pattern, target, enabled, priority, valid⟩ := rule
  cases target with
  | useChannel channel | reject channel =>
    cases h
    simp only [DNSRule.build, channelFromJson_toJson, trimmed?_val, ok_bind, attested_of valid]
    rfl

theorem DNSRule.fromDict_toDict (rule : DNSRule lib) : DNSRule.fromDict lib (rule.toDict lib) = .ok rule := by
  obtain ⟨uses, huses⟩ : ∃ uses, usesChannel (.str rule.target.action) = .ok uses := by
    cases rule.target with
    | useChannel _ => exact ⟨true, rfl⟩
    | reject _ => exact ⟨false, rfl⟩
  have hbuild := rule.build_eq lib uses huses
  simp [DNSRule.fromDict, DNSRule.toDict, rejectUnknownKeys, dnsRuleFields, required, PyDict.get, Object.getD,
    strictBool, strictInt, Json.toStr, huses, hbuild]

/-! ## The DNS policy -/

def proxyResolutionChannels : List String := ["fakeip", "proxy", "direct", "final"]

/-- A network of one version of the protocol, with no bits set after its mask. -/
abbrev FakeipRange (version : Nat) : Type :=
  { text : String // stripped text = text ∧ (lib.ipNetwork true text).map (·.version) = some version }

/-- The amounts of runs of characters that are amounts and units in turn. -/
def durationAmounts : List Text → Option (List Text)
  | [] => some []
  | amount :: unit :: rest =>
    let parts := amount.splitOn '.'
    if parts.length ≤ 2 ∧ (parts.all fun part => part ≠ [] && part.all lib.isDecimal) ∧
        String.ofList unit ∈ ["ns", "us", "ms", "s", "m", "h"] then
      (durationAmounts rest).map (amount :: ·)
    else none
  | [_] => none

/-- `_validate_dns_ttl`. The expression takes the text apart where digits and dots meet other
characters. -/
def validateDnsTtl (value : Text) : Except Error Unit :=
  let ofAmount c := lib.isDecimal c || c == '.'
  match durationAmounts lib (value.splitBy fun c d => ofAmount c == ofAmount d) with
  | none | some [] => refuseValue "dns ttl must be a positive duration such as 30m or 12h"
  | some amounts =>
    ensure (amounts.any lib.floatPositive = true) ⟨.valueError, "dns ttl must be greater than zero"⟩

theorem validateDnsTtl_default : validateDnsTtl lib "12h".toList = .ok () := by
  obtain ⟨hdec, hpos⟩ := lib.ttl_default
  simp at hdec hpos
  have hone : splitOn '.' ['1', '2'] = [['1', '2']] := by decide
  simp +decide [validateDnsTtl, splitBy, splitBy.loop, durationAmounts, hone, hdec, hpos, ensure]

structure DNSPolicy where
  mode : DNSMode := .auto
  channels : List (DNSChannelName × Channel lib)
  staticIps : List (StaticIPEntry lib) := []
  rules : List (DNSRule lib) := []
  testDomain : { text : String // text ≠ "" }
  ttl : { text : Trimmed // validateDnsTtl lib text.1.toList = .ok () }
  tunHijack : Bool := true
  resolveInboundDomains : Bool := false
  staticIpEnabled : Bool := false
  rulesEnabled : Bool := false
  ecsDirectEnabled : Bool := false
  ecsDirectSubnet : Option { text : Trimmed // (lib.ipNetwork false text.1).isSome = true } := none
  proxyResolutionChannel : { text : String // text ∈ proxyResolutionChannels }
  fakeipInet4Range : FakeipRange lib 4
  fakeipInet6Range : FakeipRange lib 6
  tunDomainPreservation : Bool := true
  ecs : ecsDirectEnabled = true → ecsDirectSubnet.isSome = true

def DNSMode.value : DNSMode → String
  | .auto => "auto"
  | .off => "off"
  | .custom => "custom"
  | .advanced => "advanced"

def dnsMode (value : Json) : Except Error DNSMode :=
  enumMember [.auto, .off, .custom, .advanced] DNSMode.value "DNSMode" value

@[simp] theorem dnsMode_value (mode : DNSMode) : dnsMode (.str (DNSMode.value mode)) = .ok mode := by
  cases mode <;> rfl

def dnsTestDomain (text : String) : Except Error { text : String // text ≠ "" } :=
  if h : normalDomain lib text ≠ "" then .ok ⟨normalDomain lib text, h⟩
  else refuseValue "dns test domain must not be empty"

def dnsTtl (text : String) : Except Error { text : Trimmed // validateDnsTtl lib text.1.toList = .ok () } :=
  match trimmed? text with
  | none => refuseValue "dns ttl must not be empty"
  | some text => do
    let ⟨_, h⟩ ← attested (validateDnsTtl lib text.1.toList)
    return ⟨text, h⟩

def readProxyResolutionChannel (text : String) :
    Except Error { text : String // text ∈ proxyResolutionChannels } :=
  if h : stripped text ∈ proxyResolutionChannels then .ok ⟨stripped text, h⟩
  else refuseValue "unsupported proxy resolution channel"

/-- The subnet, which has to be there if the option is on. -/
def ecsSubnet (enabled : Bool) (value : Json) :
    Except Error { subnet : Option { text : Trimmed // (lib.ipNetwork false text.1).isSome = true } //
      enabled = true → subnet.isSome = true } :=
  match optionalText value with
  | none =>
    if h : enabled = true then refuseValue "ecs direct subnet is required when ECS is enabled"
    else .ok ⟨none, fun he => absurd he h⟩
  | some text =>
    if h : (lib.ipNetwork false text.1).isSome = true then .ok ⟨some ⟨text, h⟩, fun _ => rfl⟩
    else refuseValue "invalid ECS direct subnet"

/-- `_validate_ip_network`. -/
def fakeipRange (version : Nat) (text : String) : Except Error (FakeipRange lib version) :=
  if h : (lib.ipNetwork true (stripped text)).map (·.version) =
    some version then .ok ⟨stripped text, stripped_stripped text, h⟩
  else if (lib.ipNetwork true (stripped text)).isSome then refuseValue "FakeIP range IP version mismatch"
  else refuseValue "invalid FakeIP range"

@[simp] theorem dnsTtl_val (ttl : { text : Trimmed // validateDnsTtl lib text.1.toList = .ok () }) :
    dnsTtl lib ttl.1.1 = .ok ttl := by
  simp [dnsTtl, attested_of ttl.2]

@[simp] theorem readProxyResolutionChannel_val (channel : { text : String // text ∈ proxyResolutionChannels }) :
    readProxyResolutionChannel channel.1 = .ok channel := by
  have hstrip : stripped channel.1 = channel.1 := by
    have hall : ∀ text ∈ proxyResolutionChannels, stripped text = text := by decide
    exact hall channel.1 channel.2
  have h : stripped channel.1 ∈ proxyResolutionChannels := by
    rw [hstrip]
    exact channel.2
  rw [readProxyResolutionChannel, dif_pos h]
  exact congrArg Except.ok (Subtype.ext hstrip)

@[simp] theorem fakeipRange_val {version : Nat} (range : FakeipRange lib version) :
    fakeipRange lib version range.1 = .ok range := by
  have h : (lib.ipNetwork true (stripped range.1)).map (·.version) = some version := by
    rw [range.2.1]
    exact range.2.2
  rw [fakeipRange, dif_pos h]
  exact congrArg Except.ok (Subtype.ext range.2.1)

def ecsSubnetToJson (subnet : Option { text : Trimmed // (lib.ipNetwork false text.1).isSome = true }) : Json :=
  optionalTextToJson (subnet.map Subtype.val)

theorem ecsSubnet_val {enabled : Bool}
    (subnet : Option { text : Trimmed // (lib.ipNetwork false text.1).isSome = true })
    (h : enabled = true → subnet.isSome = true) :
    ecsSubnet lib enabled (ecsSubnetToJson lib subnet) = .ok ⟨subnet, h⟩ := by
  unfold ecsSubnet ecsSubnetToJson
  rw [optionalText_toJson]
  cases subnet with
  | none =>
    have hoff : ¬ enabled = true := fun he => Bool.noConfusion (h he)
    exact dif_neg hoff
  | some subnet => exact dif_pos subnet.2

def dnsPolicyFields : List String :=
  ["mode", "channels", "static_ips", "rules", "test_domain", "ttl", "tun_hijack", "resolve_inbound_domains",
    "static_ip_enabled", "rules_enabled", "ecs_direct_enabled", "ecs_direct_subnet", "proxy_resolution_channel",
    "fakeip_inet4_range", "fakeip_inet6_range", "tun_domain_preservation"]

def DNSPolicy.toDict (p : DNSPolicy lib) : Object :=
  [("mode", .str (DNSMode.value p.mode)), ("channels", .obj (p.channels.map (dnsChannelToDict lib))),
    ("static_ips", .arr (p.staticIps.map (StaticIPEntry.toDict lib))),
    ("rules", .arr (p.rules.map (DNSRule.toDict lib))), ("test_domain", .str p.testDomain.1),
    ("ttl", .str p.ttl.1.1), ("tun_hijack", .bool p.tunHijack),
    ("resolve_inbound_domains", .bool p.resolveInboundDomains), ("static_ip_enabled", .bool p.staticIpEnabled),
    ("rules_enabled", .bool p.rulesEnabled), ("ecs_direct_enabled", .bool p.ecsDirectEnabled),
    ("ecs_direct_subnet", ecsSubnetToJson lib p.ecsDirectSubnet),
    ("proxy_resolution_channel", .str p.proxyResolutionChannel.1),
    ("fakeip_inet4_range", .str p.fakeipInet4Range.1), ("fakeip_inet6_range", .str p.fakeipInet6Range.1),
    ("tun_domain_preservation", .bool p.tunDomainPreservation)]

def DNSPolicy.fromDict (data : Object) : Except Error (DNSPolicy lib) := do
  rejectUnknownKeys data dnsPolicyFields "dns policy"
  match data.getD "channels" (.obj []), data.getD "static_ips" (.arr []), data.getD "rules" (.arr []) with
  | .obj rawChannels, .arr staticIps, .arr rules => do
    let channels ← rawChannels.mapM (dnsChannel lib)
    let mode ← dnsMode (data.getD "mode" (.str "auto"))
    let staticIps ← staticIps.mapM (StaticIPEntry.fromDict lib)
    let rules ← rules.mapM (DNSRule.fromDict lib)
    let tunHijack ← strictBool (data.getD "tun_hijack" (.bool true)) "dns_policy.tun_hijack"
    let resolveInboundDomains ←
      strictBool (data.getD "resolve_inbound_domains" (.bool false)) "dns_policy.resolve_inbound_domains"
    let staticIpEnabled ← strictBool
        (data.getD "static_ip_enabled" (.bool false)) "dns_policy.static_ip_enabled"
    let rulesEnabled ← strictBool (data.getD "rules_enabled" (.bool false)) "dns_policy.rules_enabled"
    let ecsDirectEnabled ← strictBool
        (data.getD "ecs_direct_enabled" (.bool false)) "dns_policy.ecs_direct_enabled"
    let tunDomainPreservation ←
      strictBool (data.getD "tun_domain_preservation" (.bool true)) "dns_policy.tun_domain_preservation"
    let testDomain ← dnsTestDomain lib (data.getD "test_domain" (.str "gstatic.com")).toStr
    let ttl ← dnsTtl lib (data.getD "ttl" (.str "12h")).toStr
    let proxyResolutionChannel ←
      readProxyResolutionChannel (data.getD "proxy_resolution_channel" (.str "fakeip")).toStr
    let subnet ← ecsSubnet lib ecsDirectEnabled (data.getD "ecs_direct_subnet" .null)
    let fakeipInet4Range ← fakeipRange lib 4 (data.getD "fakeip_inet4_range" (.str "198.18.0.0/15")).toStr
    let fakeipInet6Range ← fakeipRange lib 6 (data.getD "fakeip_inet6_range" (.str "fc00::/18")).toStr
    return {
      mode, channels, staticIps, rules, testDomain, ttl, tunHijack, resolveInboundDomains, staticIpEnabled,
      rulesEnabled, ecsDirectEnabled, ecsDirectSubnet := subnet.1, proxyResolutionChannel, fakeipInet4Range,
      fakeipInet6Range, tunDomainPreservation, ecs := subnet.2 }
  | .obj _, .arr _, _ => refuseValue "dns policy rules must be a list"
  | .obj _, _, _ => refuseValue "dns policy static_ips must be a list"
  | _, _, _ => refuseValue "dns policy channels must be an object"

/-- Reading a policy that was written: only its domains are normalised again. -/
theorem DNSPolicy.fromDict_toDict_eq (p : DNSPolicy lib) : DNSPolicy.fromDict lib (p.toDict lib) = do
      let staticIps ← (p.staticIps.map (StaticIPEntry.toDict lib)).mapM (StaticIPEntry.fromDict lib)
      let testDomain ← dnsTestDomain lib p.testDomain.1
      return { p with staticIps, testDomain } := by
  have hkeys : rejectUnknownKeys (p.toDict lib) dnsPolicyFields "dns policy" = .ok () :=
    rejectUnknownKeys_ok fun key h => h
  have hchan : (p.channels.map (dnsChannelToDict lib)).mapM (dnsChannel lib) = .ok p.channels :=
    mapM_ok_of_forall fun entry _ => dnsChannel_toDict lib entry
  have hrules : (p.rules.map (DNSRule.toDict lib)).mapM (DNSRule.fromDict lib) = .ok p.rules :=
    mapM_ok_of_forall fun rule _ => DNSRule.fromDict_toDict lib rule
  have hsubnet := ecsSubnet_val lib p.ecsDirectSubnet p.ecs
  simp only [DNSPolicy.fromDict]
  simp [DNSPolicy.toDict, PyDict.get, Object.getD, strictBool, Json.toStr, hchan, hrules, hsubnet]
  rfl

/-- The domains of the policy are domains once more when they have been normalised again. -/
def DNSPolicy.Again (p : DNSPolicy lib) : Prop :=
  normalDomain lib p.testDomain.1 ≠ "" ∧ ∀ entry ∈ p.staticIps, entry.Again lib

theorem dnsTestDomain_ok_iff {text : String} {domain : { text : String // text ≠ "" }} :
    dnsTestDomain lib text = .ok domain ↔ normalDomain lib text = domain.1 := by
  unfold dnsTestDomain
  split
  · exact ⟨fun h => congrArg Subtype.val (Except.ok.inj h), fun h => congrArg Except.ok (Subtype.ext h)⟩
  rename_i hemp
  refine ⟨nofun, fun h => absurd ?_ hemp⟩
  exact fun hnormal => domain.2 (h.symm.trans hnormal)

/-- **A policy that was written is accepted exactly if its domains are domains once more.** -/
theorem DNSPolicy.accepted_again (p : DNSPolicy lib) :
    (∃ q, DNSPolicy.fromDict lib (p.toDict lib) = .ok q) ↔ p.Again := by
  have hstc : (∃ entries, (p.staticIps.map (StaticIPEntry.toDict lib)).mapM (StaticIPEntry.fromDict lib) =
      .ok entries) ↔ ∀ entry ∈ p.staticIps, entry.Again lib := by
    rw [mapM_accepted_iff, forall_mem_map]
    exact forall₂_congr fun entry _ => entry.accepted_again lib
  rw [DNSPolicy.fromDict_toDict_eq, DNSPolicy.Again, ← hstc]
  constructor
  · rintro ⟨q, h⟩
    obtain ⟨entries, hents, h⟩ := except_bind_ok h
    obtain ⟨domain, hdomain, -⟩ := except_bind_ok h
    rw [dnsTestDomain_ok_iff] at hdomain
    refine ⟨?_, entries, hents⟩
    rw [hdomain]
    exact domain.2
  · rintro ⟨hdomain, entries, hents⟩
    have hread : dnsTestDomain lib p.testDomain.1 = .ok ⟨normalDomain lib p.testDomain.1, hdomain⟩ :=
      (dnsTestDomain_ok_iff lib).mpr rfl
    rw [hents, hread]
    exact ⟨_, rfl⟩

def publicResolvers : Channel lib :=
  ⟨[{ uri := ⟨"udp://1.1.1.1", by decide, by decide⟩, label := some ⟨"Cloudflare", by decide, by decide⟩
      valid := validateResolverUri_default lib (.head _) (by decide) },
    { uri := ⟨"udp://9.9.9.9", by decide, by decide⟩, label := some ⟨"Quad9", by decide, by decide⟩
      valid := validateResolverUri_default lib (.tail _ (.head _)) (by decide) }], by simp⟩

/-- `DNSPolicy()`. -/
def DNSPolicy.default : DNSPolicy lib where
  channels := [(.direct, publicResolvers lib), (.proxy, publicResolvers lib)]
  testDomain := ⟨"gstatic.com", by decide⟩
  ttl := ⟨⟨"12h", by decide, by decide⟩, validateDnsTtl_default lib⟩
  proxyResolutionChannel := ⟨"fakeip", by decide⟩
  fakeipInet4Range := ⟨"198.18.0.0/15", by decide, lib.ipNetwork_default.1⟩
  fakeipInet6Range := ⟨"fc00::/18", by decide, lib.ipNetwork_default.2⟩
  ecs := fun h => Bool.noConfusion h

/-- `DNSPolicyStore.load`, with the object of the file: an empty one stands for the default. -/
def DNSPolicy.load (data : Object) : Except Error (DNSPolicy lib) :=
  match data with
  | [] => .ok (.default lib)
  | data => DNSPolicy.fromDict lib data

/-! ## Metrics -/

inductive MetricsRedactionMode
  | off
  | aggregate
  | detailed
  deriving DecidableEq

def MetricsRedactionMode.value : MetricsRedactionMode → String
  | off => "off"
  | aggregate => "aggregate"
  | detailed => "detailed"

/-- The text of a date, without white space around it. -/
abbrev IsoText : Type := { text : Trimmed // (lib.fromIso text.1).isSome = true }

structure MetricsBucket where
  bucketStart : IsoText lib
  bucketEnd : IsoText lib
  counters : List (String × Nat) := []
  named : ∀ counter ∈ counters, stripped counter.1 ≠ ""

theorem retentionDays_default : 1 ≤ 7 ∧ 7 ≤ 30 := by decide

theorem maxBytes_default : 1024 ≤ 1048576 ∧ 1048576 ≤ 10485760 := by decide

structure MetricsDocument where
  enabled : Bool := false
  retentionDays : { n : Nat // 1 ≤ n ∧ n ≤ 30 } := ⟨7, retentionDays_default⟩
  redactionMode : MetricsRedactionMode := .aggregate
  maxBytes : { n : Nat // 1024 ≤ n ∧ n ≤ 10485760 } := ⟨1048576, maxBytes_default⟩
  buckets : List (MetricsBucket lib) := []
  updatedAt : Option (IsoText lib) := none

/-- `_require_string`. -/
def metricsText (field : String) (value : Json) : Except Error Trimmed :=
  match value with
  | .str text =>
    match trimmed? text with
    | some text => .ok text
    | none => refuse (field ++ " must be a non-empty string")
  | _ => refuse (field ++ " must be a non-empty string")

/-- `_require_iso_datetime`. -/
def isoText (field : String) (text : Trimmed) : Except Error (IsoText lib) :=
  if h : (lib.fromIso text.1).isSome = true then .ok ⟨text, h⟩
  else refuse (field ++ " must be an ISO datetime")

@[simp] theorem metricsText_val (field : String) (text : Trimmed) :
    metricsText field (.str text.1) = .ok text := by
  simp [metricsText]

@[simp] theorem isoText_val (field : String) (text : IsoText lib) : isoText lib field text.1 = .ok text :=
  dif_pos text.2

/-- A counter with a name, of a number that is not negative (`_validate_counter_mapping`). -/
def metricsCounter (entry : String × Json) :
    Except Error { counter : String × Nat // stripped counter.1 ≠ "" } := do
  let number ← strictInt entry.2 ("metrics counter " ++ entry.1)
  if h : stripped entry.1 ≠ "" then
    if 0 ≤ number then return ⟨(entry.1, number.toNat), h⟩
    else refuse ("metrics.bucket.counters." ++ entry.1 ++ " must not be negative")
  else refuse "metrics.bucket.counters keys must be non-empty strings"

def MetricsBucket.fromDict (data : Json) : Except Error (MetricsBucket lib) :=
  match data with
  | .obj data => do
    rejectUnknownKeys data ["bucket_start", "bucket_end", "counters"] "metrics bucket"
    match Object.getD data "counters" (.obj []) with
    | .obj counters => do
      let bucketStart ← metricsText "metrics.bucket_start" (Object.getD data "bucket_start" .null)
      let bucketEnd ← metricsText "metrics.bucket_end" (Object.getD data "bucket_end" .null)
      let bucketStart ← isoText lib "metrics.bucket_start" bucketStart
      let bucketEnd ← isoText lib "metrics.bucket_end" bucketEnd
      let counters ← counters.mapM metricsCounter
      return {
        bucketStart, bucketEnd, counters := counters.map Subtype.val
        named := fun counter h => by
          obtain ⟨c, -, rfl⟩ := mem_map.mp h
          exact c.2 }
    | _ => refuse "metrics.bucket.counters must be an object"
  | _ => refuse "metrics.buckets entries must be objects"

def MetricsBucket.toDict (bucket : MetricsBucket lib) : Json :=
  .obj [("bucket_start", .str bucket.bucketStart.1.1), ("bucket_end", .str bucket.bucketEnd.1.1),
    ("counters", .obj (bucket.counters.map fun counter => (counter.1, .int counter.2)))]

theorem metricsCounter_int (counter : { counter : String × Nat // stripped counter.1 ≠ "" }) :
    metricsCounter (counter.1.1, .int counter.1.2) = .ok counter := by
  have hpos : 0 ≤ (counter.1.2 : Int) := Int.natCast_nonneg _
  simp only [metricsCounter, strictInt, ok_bind]
  rw [dif_pos counter.2]
  rfl

/-- A counter with the fact that it has a name. -/
def namedCounter (counter : String × Nat) (h : stripped counter.1 ≠ "") :
    { counter : String × Nat // stripped counter.1 ≠ "" } := ⟨counter, h⟩

theorem metricsCounters_toDict {counters : List (String × Nat)}
    (h : ∀ counter ∈ counters, stripped counter.1 ≠ "") :
    ∃ read, (counters.map fun counter => (counter.1, Json.int counter.2)).mapM metricsCounter = .ok read ∧
      read.map Subtype.val = counters := by
  have hvals : (counters.pmap namedCounter h).map Subtype.val = counters := by
    rw [map_pmap]
    exact pmap_eq_self.mpr fun _ _ => rfl
  have hmap : (counters.map fun counter => (counter.1, Json.int counter.2)) =
      (counters.pmap namedCounter h).map fun counter => (counter.1.1, Json.int counter.1.2) := by
    conv_lhs => rw [← hvals, map_map]
    rfl
  refine ⟨counters.pmap namedCounter h, ?_, hvals⟩
  rw [hmap]
  exact mapM_ok_of_forall fun counter _ => metricsCounter_int counter

theorem MetricsBucket.fromDict_toDict (bucket : MetricsBucket lib) :
    MetricsBucket.fromDict lib (bucket.toDict lib) = .ok bucket := by
  obtain ⟨counters, hcoun, hvals⟩ := metricsCounters_toDict bucket.named
  have hkeys : rejectUnknownKeys
      [("bucket_start", .str bucket.bucketStart.1.1), ("bucket_end", .str bucket.bucketEnd.1.1),
      ("counters", .obj (bucket.counters.map fun counter => (counter.1, .int counter.2)))]
      ["bucket_start", "bucket_end", "counters"] "metrics bucket" = .ok () := rejectUnknownKeys_ok
        fun key h => h
  simp [MetricsBucket.fromDict, MetricsBucket.toDict, hkeys, PyDict.get, Object.getD, hcoun, hvals]

def readRedactionMode (text : String) : Except Error MetricsRedactionMode :=
  match [MetricsRedactionMode.off, .aggregate, .detailed].find? fun mode => mode.value == text with
  | some mode => .ok mode
  | none => refuse "metrics.redaction_mode must be one of: off, aggregate, detailed"

def boundedInt (low high : Nat) (field : String) (value : Json) :
    Except Error { n : Nat // low ≤ n ∧ n ≤ high } := do
  let number ← strictInt value field
  if h : low ≤ number.toNat ∧ number.toNat ≤ high then return ⟨number.toNat, h⟩
  else refuse (field ++ " must be between " ++ toString low ++ " and " ++ toString high)

def isoTextToJson : Option (IsoText lib) → Json
  | none => .null
  | some text => .str text.1.1

def optionalIsoText (field : String) (value : Json) : Except Error (Option (IsoText lib)) :=
  match value with
  | .null => .ok none
  | value => do return some (← isoText lib field (← metricsText field value))

@[simp] theorem readRedactionMode_value (mode : MetricsRedactionMode) :
    readRedactionMode mode.value = .ok mode := by
  cases mode <;> rfl

@[simp] theorem boundedInt_val {low high : Nat} (field : String) (n : { n : Nat // low ≤ n ∧ n ≤ high }) :
    boundedInt low high field (.int n.1) = .ok n := by
  have h : low ≤ (n.1 : Int).toNat ∧ (n.1 : Int).toNat ≤ high := n.2
  simp only [boundedInt, strictInt, ok_bind]
  rw [dif_pos h]
  rfl

@[simp] theorem optionalIsoText_toJson (field : String) (text : Option (IsoText lib)) :
    optionalIsoText lib field (isoTextToJson lib text) = .ok text := by
  cases text with
  | none => rfl
  | some text => simp [isoTextToJson, optionalIsoText]

def metricsDocumentFields : List String :=
  ["schema_version", "enabled", "retention_days", "redaction_mode", "max_bytes", "buckets", "updated_at"]

def MetricsDocument.fromDict (data : Object) : Except Error (MetricsDocument lib) := do
  rejectUnknownKeys data metricsDocumentFields "metrics document"
  match data.getD "buckets" (.arr []) with
  | .arr items => do
    let mode ← metricsText "metrics.redaction_mode" (data.getD "redaction_mode" (.str "aggregate"))
    let redactionMode ← readRedactionMode mode.1
    let buckets ← items.mapM (MetricsBucket.fromDict lib)
    let version ← strictInt (data.getD "schema_version" (.int 1)) "metrics.schema_version"
    let enabled ← strictBool (data.getD "enabled" (.bool false)) "metrics.enabled"
    ensure (version = 1) ⟨.persistentValidationError, "metrics.schema_version must be 1"⟩
    let retentionDays ← boundedInt 1 30 "metrics.retention_days" (data.getD "retention_days" (.int 7))
    let maxBytes ← boundedInt 1024 10485760 "metrics.max_bytes" (data.getD "max_bytes" (.int 1048576))
    let updatedAt ← optionalIsoText lib "metrics.updated_at" (data.getD "updated_at" .null)
    return { enabled, retentionDays, redactionMode, maxBytes, buckets, updatedAt }
  | _ => refuse "metrics.buckets must be a list"

variable (document : MetricsDocument lib)

def MetricsDocument.toDict : Object :=
  [("schema_version", .int 1), ("enabled", .bool document.enabled),
    ("retention_days", .int document.retentionDays.1), ("redaction_mode", .str document.redactionMode.value),
    ("max_bytes", .int document.maxBytes.1),
    ("buckets", .arr (document.buckets.map (MetricsBucket.toDict lib))),
    ("updated_at", isoTextToJson lib document.updatedAt)]

theorem metricsText_mode (field : String) (mode : MetricsRedactionMode) :
    ∃ text : Trimmed, metricsText field (.str mode.value) = .ok text ∧ text.1 = mode.value := by
  have htrim : mode.value ≠ "" ∧ stripped mode.value = mode.value := by cases mode <;> decide
  exact ⟨⟨mode.value, htrim⟩, metricsText_val field ⟨mode.value, htrim⟩, rfl⟩

theorem MetricsDocument.fromDict_toDict :
    MetricsDocument.fromDict lib (document.toDict lib) = .ok document := by
  have hkeys : rejectUnknownKeys (document.toDict lib) metricsDocumentFields "metrics document" = .ok () :=
    rejectUnknownKeys_ok fun key h => h
  have hbuck : (document.buckets.map (MetricsBucket.toDict lib)).mapM (MetricsBucket.fromDict lib) =
      .ok document.buckets := mapM_ok_of_forall fun bucket _ => MetricsBucket.fromDict_toDict lib bucket
  obtain ⟨text, htext, hval⟩ := metricsText_mode "metrics.redaction_mode" document.redactionMode
  simp only [MetricsDocument.fromDict, hkeys]
  simp [-mapM_map, MetricsDocument.toDict, PyDict.get, Object.getD, strictBool, strictInt, ensure, hbuck, htext,
    hval]

def aggregateCounterKeys : List String :=
  ["command.connect.attempt", "command.connect.success", "command.connect.failure",
    "command.disconnect.attempt",
    "command.disconnect.success", "command.disconnect.failure", "rotation.manual.attempt",
    "rotation.scheduled.attempt", "node_group.auto_test.attempt", "node_group.auto_test.selected",
    "node_group.auto_test.unavailable", "node_group.auto_test.unknown", "error.runtime",
    "route_action.recorded", "rule_group.recorded", "profile.event"]

def aggregateStatusCounterPrefixes : List String :=
  ["rotation.manual.status.", "rotation.scheduled.status.", "health_check.status.", "recovery.status."]

def allowedStatuses : List String :=
  ["connected", "reconnecting", "all_failed", "normal_network_temp", "kill_switch_active", "kill_switch_failed",
    "kill_switch_disable_failed", "dns_restore_failed", "waiting_retry", "rotation_unavailable",
    "recovery_disabled",
    "recovered", "standby", "runtime_mismatch", "unsupported_policy", "cleanup_failed"]

def isAggregateCounterKey (key : String) : Bool :=
  aggregateCounterKeys.contains key ||
    aggregateStatusCounterPrefixes.any fun lead => allowedStatuses.any fun status => key == lead ++ status

/-- A bucket with its aggregate counters only. -/
def MetricsBucket.sanitized (bucket : MetricsBucket lib) : MetricsBucket lib where
  bucketStart := bucket.bucketStart
  bucketEnd := bucket.bucketEnd
  counters := bucket.counters.filter fun counter => isAggregateCounterKey counter.1
  named := fun counter h => bucket.named counter (mem_filter.mp h).1

/-- `_sanitize_document`. -/
def MetricsDocument.sanitized : MetricsDocument lib :=
  { document with buckets := document.buckets.map (MetricsBucket.sanitized lib) }

/-- Every counter is one of the aggregate ones, so that sanitizing changes nothing. -/
def MetricsDocument.clean : Bool :=
  document.buckets.all fun bucket => bucket.counters.all fun counter => isAggregateCounterKey counter.1

def MetricsDocument.withUpdatedAtNow : MetricsDocument lib :=
  { document with
    updatedAt := some ⟨⟨lib.isoformat lib.now, isoformat_ne_empty lib lib.now, lib.isoformat_trimmed lib.now⟩,
      Option.isSome_iff_exists.mpr ⟨lib.now, lib.fromIso_isoformat lib.now⟩⟩ }

end WatchdogVpn.Documents
