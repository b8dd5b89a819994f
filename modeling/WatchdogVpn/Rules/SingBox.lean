import WatchdogVpn.Chains.Runtime
import WatchdogVpn.Rules.AppPolicy
import WatchdogVpn.Rules.Engine

/-!
# Rules for sing-box

`build_singbox_route_rules` translates rule groups into route rules, in the order of the tiers. The
rules of the policy for applications come first in the tier of the applications, and the final rule
comes last.

* `buildSingboxRouteRules`: the rules of the groups by tier, with those for applications and the
  final one.
-/

namespace WatchdogVpn.Rules

open PyText (Text)
open Chains (ChainRuntimePlan)

/-! ## Route rules -/

/-- The fields of a route rule. Those of a condition have the key of the condition. -/
inductive RouteField
  | condition (c : Condition)
  | processPathRegex
  | user
  | userId
  | inbound
  deriving DecidableEq

inductive FieldValues
  | texts (values : List Text)
  | numbers (values : List Nat)
  deriving DecidableEq

inductive RouteAction
  | reject
  | route (outbound : String)
  | bypass
  | sniff
  | hijackDns
  | resolve
  deriving DecidableEq

structure RouteRule where
  fields : List (RouteField × FieldValues) := []
  ruleSet : List String := []
  action : RouteAction
  deriving DecidableEq

/-! ## The generator -/

/-- What the generator is given besides the rules. -/
structure RouteContext where
  currentOutboundTag : String
  ruleSetTags : PyDict String String := []
  chainRuntimePlans : PyDict String ChainRuntimePlan := []

namespace RouteContext

variable (ctx : RouteContext)

/-- The tag under which a resolved chain can be reached. -/
def chainTag (action : String) : Option String :=
  match ctx.chainRuntimePlans.get action with
  | none => none
  | some plan => if plan.resolved then plan.routeOutboundTag else none

/-- The action of a route rule: `block` and `reject_action` reject, and `resolve_outbound` names the
outbound. -/
def routeAction : Action → RouteAction
  | .simple .block => .reject
  | .simple .direct => .route "direct"
  | .simple .currentProfile | .simple .autoSelect | .group _ => .route ctx.currentOutboundTag
  | .chain text _ =>
    match ctx.chainTag text with
    | none => .reject
    | some tag => .route tag

/-- The tags of the rule sets that the values name, if each has one. -/
def ruleSetsOf (values : List Text) : Option (List String) :=
  values.mapM fun value => ctx.ruleSetTags.get (String.ofList value)

/-- The loop over the conditions: the plain fields and the tags of the rule sets. -/
def conditionFields : Conditions → Option (List (RouteField × FieldValues) × List String)
  | [] => some ([], [])
  | (c, values) :: conditions =>
    if c.unevaluable then do
      let tags ← ctx.ruleSetsOf values
      let (fields, ruleSet) ← conditionFields conditions
      return (fields, tags ++ ruleSet)
    else do
      let (fields, ruleSet) ← conditionFields conditions
      return ((.condition c, .texts values) :: fields, ruleSet)

def ruleToSingboxRule (rule : Rule) : Option RouteRule :=
  if rule.enabled = false then none
  else do
    let (fields, ruleSet) ← ctx.conditionFields rule.conditions
    return { fields, ruleSet, action := ctx.routeAction rule.action }

def finalRule (finalPolicy : Action) : RouteRule := { action := ctx.routeAction finalPolicy }

def matcherField : AppMatcher → RouteField × FieldValues
  | .processName values => (.condition .processName, .texts values)
  | .processPath values => (.condition .processPath, .texts values)
  | .processPathRegex values => (.processPathRegex, .texts values)
  | .user values => (.user, .texts values)
  | .userId values => (.userId, .numbers values)

def appPolicyRuleToSingboxRule (rule : AppPolicyRule) : Option RouteRule :=
  if rule.enabled = false then none
  else some { fields := rule.matchers.map matcherField
              action := ctx.routeAction (appPolicyAction rule.action) }

def appPolicyRules : Option AppPolicy → List RouteRule
  | none => []
  | some policy =>
    if policy.enabled = false then []
    else
      let rules := policy.rules.filterMap ctx.appPolicyRuleToSingboxRule
      if policy.mode = .whitelist ∨ policy.defaultAction ≠ .current then
        rules ++ [ctx.finalRule (appPolicyAction policy.defaultAction)]
      else rules

def tierRules (groups : List RuleGroup) (tier : Tier) : List RouteRule :=
  (groupByTier groups tier).flatMap fun group =>
    if group.enabled = false then [] else group.rules.filterMap ctx.ruleToSingboxRule

def buildSingboxRouteRules (groups : List RuleGroup) (appPolicy : Option AppPolicy) (finalPolicy : Action) :
    List RouteRule :=
  (priorityTierOrder.flatMap fun tier =>
    (if tier = .app then ctx.appPolicyRules appPolicy else []) ++ ctx.tierRules groups tier) ++
    [ctx.finalRule finalPolicy]

end RouteContext

end WatchdogVpn.Rules
