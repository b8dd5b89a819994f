import WatchdogVpn.Lib.FirstMatch
import WatchdogVpn.Lib.PyText

/-!
# The part of nftables that the kill switch speaks

Commands add chains to a table and rules to a chain; a chain belongs to a hook, and a packet
leaves the machine if every chain of the output hook and then every chain of the postrouting
hook accepts it. In a chain the first rule that matches decides, and the policy otherwise.

How nftables reads the text of an interface name, of an address range or of any other match is
left open (`NftReading`): everything that is proved holds for every reading.
-/

namespace WatchdogVpn.Firewall

inductive Family
  | ip
  | ip6
  deriving DecidableEq

inductive Protocol
  | tcp
  | udp
  | icmp
  | ipv6Icmp
  deriving DecidableEq

inductive Verdict
  | accept
  | drop
  | reject
  deriving DecidableEq

inductive Hook
  | output
  | postrouting
  deriving DecidableEq

/-! ## Packets -/

/-- What a packet carries: a port where it has one. -/
inductive Transport
  | tcp (dport : Nat)
  | udp (dport : Nat)
  | icmp
  | ipv6Icmp
  | other (protocol : Nat)
  deriving DecidableEq

/-- An outgoing packet. Its interface at the output hook and the one it finally leaves by may
differ. -/
structure Packet (A : Type) where
  outputInterface : String
  finalInterface : String
  family : Family
  destination : A
  transport : Transport
  uid : Option Int
  mark : Nat
  /-- The state of its connection is `established` or `related`. -/
  established : Bool

/-- How nftables reads the texts in a rule. -/
structure NftReading (A : Type) where
  /-- The text names the interface. -/
  names : String → String → Bool
  /-- The text names a range of addresses of the family that has the address. -/
  denotes : Family → String → A → Bool
  /-- The text of any other match holds of the packet at the interface. -/
  other : String → String → Packet A → Bool

/-! ## Rules -/

inductive NftMatch
  | oifname (name : String)
  | daddr (family : Family) (range : String)
  | skuid (uid : Int)
  | mark (value : Nat)
  | ctEstablishedRelated
  | dport (protocol : Protocol) (port : Nat)
  | l4proto (protocol : Protocol)
  /-- Any other match, by its text. -/
  | other (text : String)
  deriving DecidableEq

/-- A rule: it applies if all its matches do. -/
structure NftRule where
  matches' : List NftMatch
  verdict : Verdict
  deriving DecidableEq

def Transport.protocol? : Transport → Option Protocol
  | .tcp _ => some .tcp
  | .udp _ => some .udp
  | .icmp => some .icmp
  | .ipv6Icmp => some .ipv6Icmp
  | .other _ => none

def Transport.dport? : Transport → Option Nat
  | .tcp port | .udp port => some port
  | _ => none

section Semantics

variable {A : Type} (R : NftReading A)

/-- Whether the match holds of a packet that is about to leave by the interface. -/
def NftMatch.holds (interface : String) (p : Packet A) : NftMatch → Bool
  | oifname name => R.names name interface
  | daddr family range => p.family == family && R.denotes family range p.destination
  | skuid uid => p.uid == some uid
  | mark value => p.mark == value
  | ctEstablishedRelated => p.established
  | dport protocol port => p.transport.protocol? == some protocol && p.transport.dport? == some port
  | l4proto protocol => p.transport.protocol? == some protocol
  | other text => R.other text interface p

def Hook.interface : Hook → Packet A → String
  | .output, p => p.outputInterface
  | .postrouting, p => p.finalInterface

def NftRule.applies (hook : Hook) (r : NftRule) (p : Packet A) : Bool :=
  r.matches'.all fun m => m.holds R (hook.interface p) p

structure Chain where
  name : String
  hook : Hook
  policy : Verdict
  rules : List NftRule

def Chain.verdict (c : Chain) (p : Packet A) : Verdict :=
  FirstMatch.decide (NftRule.applies R c.hook) NftRule.verdict c.rules c.policy p

def passes (chains : List Chain) (hook : Hook) (p : Packet A) : Bool :=
  (chains.filter (·.hook = hook)).all fun c => c.verdict R p == .accept

def leaves (chains : List Chain) (p : Packet A) : Bool :=
  passes R chains .output p && passes R chains .postrouting p

end Semantics

/-! ## Commands -/

inductive NftCommand
  | addTable
  | addChain (name : String) (hook : Hook) (policy : Verdict)
  | addRule (chain : String) (rule : NftRule)
  deriving DecidableEq

/-- What a command does to the chains of the table. -/
def NftCommand.apply (chains : List Chain) : NftCommand → List Chain
  | addTable => chains
  | addChain name hook policy => chains ++ [⟨name, hook, policy, []⟩]
  | addRule chain rule => chains.map fun c => if c.name =
      chain then { c with rules := c.rules ++ [rule] } else c

/-- The table after the commands, from nothing. -/
def install (commands : List NftCommand) : List Chain := commands.foldl NftCommand.apply []

theorem foldl_addRule (chains : List Chain) (name : String) (rules : List NftRule) :
    (rules.map (NftCommand.addRule name)).foldl NftCommand.apply chains =
      chains.map fun c => if c.name = name then { c with rules := c.rules ++ rules } else c := by
  induction rules generalizing chains with
  | nil => simp
  | cons r rules ih =>
    rw [List.map_cons, List.foldl_cons, ih]
    simp only [NftCommand.apply, List.map_map]
    refine List.map_congr_left fun c _ => ?_
    by_cases hc : c.name = name <;> simp [hc]

end WatchdogVpn.Firewall
