import WatchdogVpn.Lib.PyDict
import WatchdogVpn.Lib.PyText

/-!
# DNS policies

The part of a policy that the configuration of sing-box is made from. A resolver is kept as
`parse_resolver_uri` reads it.
-/

namespace WatchdogVpn.Dns

open PyText (Text)

inductive DNSMode
  | auto
  | off
  | custom
  | advanced
  deriving DecidableEq

inductive DNSChannelName
  | bootstrap
  | dnsServer
  | proxyServer
  | direct
  | proxy
  | final
  deriving DecidableEq

def DNSChannelName.value : DNSChannelName → String
  | bootstrap => "bootstrap_dns"
  | dnsServer => "dns_server"
  | proxyServer => "proxy_server"
  | direct => "direct"
  | proxy => "proxy"
  | final => "final"

/-- A host is an address, or a name that must be resolved first. -/
inductive ResolverHost
  | address (text : String)
  | name (text : String)
  deriving DecidableEq

def ResolverHost.text : ResolverHost → String
  | address text | name text => text

/-- What `parse_resolver_uri` returns: the plain transports take addresses only, and HTTPS has a
path. -/
inductive ParsedResolver
  | localTransport
  | dhcp
  | udp (address : String) (port : Option Nat)
  | tcp (address : String) (port : Option Nat)
  | tls (host : ResolverHost) (port : Option Nat)
  | https (host : ResolverHost) (port : Option Nat) (path : String)
  deriving DecidableEq

def ParsedResolver.isLocal : ParsedResolver → Bool
  | localTransport | dhcp => true
  | _ => false

structure Resolver where
  parsed : ParsedResolver
  enabled : Bool := true
  deriving DecidableEq

structure StaticIPEntry where
  domain : String
  ip : String
  enabled : Bool := true
  deriving DecidableEq

/-- What a rule does with a query. A rule that uses a channel has one. -/
inductive DNSRuleAction
  | useChannel (channel : DNSChannelName)
  | reject
  deriving DecidableEq

structure DNSRule where
  id : String
  pattern : Text
  action : DNSRuleAction
  enabled : Bool := true
  priority : Int := 100
  deriving DecidableEq

structure DNSPolicy where
  mode : DNSMode := .auto
  channels : PyDict DNSChannelName (List Resolver)
  staticIps : List StaticIPEntry := []
  rules : List DNSRule := []
  tunHijack : Bool := true
  staticIpEnabled : Bool := false
  rulesEnabled : Bool := false
  ecsDirectEnabled : Bool := false
  ecsDirectSubnet : Option String := none
  proxyResolutionChannel : String := "fakeip"
  fakeipInet4Range : String := "198.18.0.0/15"
  fakeipInet6Range : String := "fc00::/18"
  tunDomainPreservation : Bool := true
  /-- The channels are a dictionary. -/
  keys : (channels.map (·.1)).Nodup := by decide

end WatchdogVpn.Dns
