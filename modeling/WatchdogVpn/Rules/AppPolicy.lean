import WatchdogVpn.Rules.Model

/-!
# Policies for applications

An application is told by its process or by its user. A policy has rules and a default action.
-/

namespace WatchdogVpn.Rules

open PyText (Text)

inductive AppPolicyMode
  | whitelist
  | blacklist
  deriving DecidableEq

/-- What `_validate_action` returns. -/
inductive AppPolicyAction
  | current
  | direct
  | block
  | group (text : String)
  | chain (text id : String)
  deriving DecidableEq

inductive AppMatcher
  | processName (values : List Text)
  | processPath (values : List Text)
  | processPathRegex (values : List Text)
  | user (values : List Text)
  | userId (values : List Nat)
  deriving DecidableEq

structure AppPolicyRule where
  id : String
  action : AppPolicyAction
  matchers : List AppMatcher
  enabled : Bool := true
  idNonempty : id ≠ "" := by decide
  matchersNonempty : matchers ≠ [] := by decide

structure AppPolicy where
  enabled : Bool := false
  mode : AppPolicyMode := .blacklist
  defaultAction : AppPolicyAction := .current
  rules : List AppPolicyRule := []

def appPolicyAction : AppPolicyAction → Action
  | .current => .simple .currentProfile
  | .direct => .simple .direct
  | .block => .simple .block
  | .group text => .group text
  | .chain text id => .chain text id

end WatchdogVpn.Rules
