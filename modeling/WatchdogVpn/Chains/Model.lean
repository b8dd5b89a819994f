import WatchdogVpn.Rules.Model

/-!
# Route chains

A chain is a list of hops, each a profile or a node group. Its identifier is a slug, and the
identifiers within a document differ.
-/

namespace WatchdogVpn.Chains

open Rules (isSlug)

inductive ChainHopType
  | profile
  | group
  deriving DecidableEq

def ChainHopType.value : ChainHopType → String
  | profile => "profile"
  | group => "group"

/-- A hop. It is always required, and the only policy for selecting within a group is the group's.
-/
structure ChainHop where
  type : ChainHopType
  target : String
  targetNonempty : target ≠ "" := by decide

structure RouteChain where
  id : String
  hops : List ChainHop
  enabled : Bool := false
  slug : isSlug id = true := by decide
  hopsNonempty : hops ≠ [] := by decide

structure RouteChainDocument where
  chains : List RouteChain := []
  ids : (chains.map (·.id)).Nodup := by decide

end WatchdogVpn.Chains
