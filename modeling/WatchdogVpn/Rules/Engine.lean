import WatchdogVpn.Lib.FirstMatch
import WatchdogVpn.Rules.Model
import Mathlib.Data.List.Sort

/-!
# The rule engine

`RuleEngine.evaluate` goes through the tiers in the order of their priority, through the groups of
a tier and through the rules of a group, and stops at the first rule that matches. What regular
expressions, networks and numbers are is left to the standard library (`Library`).

* `consulted`: the rules that an evaluation goes through, in their order.
* `evaluate_eq`: an evaluation is the verdict of the first of them that matches.
-/

namespace WatchdogVpn.Rules

open List
open PyText (Text strip isIn)

structure Library where
  /-- `text.lower()`. -/
  lower : Text → Text
  /-- `re.search(pattern, text) is not None`, and nothing where the pattern is an error. -/
  search : Text → Text → Option Bool
  /-- `ip_address(ip) in ip_network(value, strict=False)`, and nothing where one of them is an
  error. -/
  inNetwork : Text → Text → Option Bool
  /-- `int(text)`. -/
  int : Text → Option Int

structure TrafficInfo where
  domain : Option Text := none
  ip : Option Text := none
  port : Option Int := none
  protocol : Option Text := none
  network : Option Text := none
  processName : Option Text := none
  processPath : Option Text := none
  deriving DecidableEq

structure RuleMatch where
  action : Action
  groupName : Option String
  ruleId : Option String
  deriving DecidableEq

/-- `text.rstrip(".")`. -/
def rstripDots (text : Text) : Text := (text.reverse.dropWhile (· == '.')).reverse

namespace Library

variable (lib : Library)

/-! ## Matchers -/

def normalDomain (text : Text) : Text := rstripDots (lib.lower (strip text))

/-- `TrafficInfo.__post_init__`. -/
def traffic (t : TrafficInfo) : TrafficInfo :=
  { t with domain := (t.domain.map lib.normalDomain).filter (· ≠ []) }

def matchDomain (value domain : Text) : Bool := domain == lib.normalDomain value

def matchDomainSuffix (value domain : Text) : Bool :=
  let suffix := lib.normalDomain value
  let suffix := if suffix.head? = some '.' then suffix.tail else suffix
  !suffix.isEmpty && (domain == suffix || ('.' :: suffix).isSuffixOf domain)

def matchDomainKeyword (value domain : Text) : Bool := isIn (lib.lower (strip value)) domain

def matchDomainRegex (value domain : Text) : Bool := (lib.search value domain).getD false

def matchIpCidr (value ip : Text) : Bool := (lib.inNetwork value ip).getD false

def matchPort (value : Text) (port : Int) : Bool := lib.int value == some port

def matchPortRange (value : Text) (port : Int) : Bool :=
  let left := value.takeWhile (· ≠ ':')
  match value.drop left.length with
  | [] => lib.matchPort value port
  | _ :: right =>
    let lower := if left = [] then some 0 else lib.int left
    let upper := if right = [] then some 65535 else lib.int right
    match lower, upper with
    | some lower, some upper => lower ≤ port && port ≤ upper
    | _, _ => false

def matchExactCi (value candidate : Text) : Bool := lib.lower (strip value) == lib.lower (strip candidate)

def matchExact (value candidate : Text) : Bool := strip value == candidate

/-- A library for examples: texts are of ASCII, a pattern is a text to be found and a network is one
address. -/
def ascii : Library where
  lower := map Char.toLower
  search pattern text := some (isIn pattern text)
  inNetwork value ip := some (value == ip)
  int text :=
    if text.isEmpty || !text.all Char.isDigit then none
    else some (text.foldl (fun n c => 10 * n + (Int.ofNat c.toNat - 48)) 0)

end Library

/-- `UNEVALUABLE_CONDITIONS`. -/
def Condition.unevaluable : Condition → Bool
  | rulesetRemote | rulesetBuiltin => true
  | _ => false

/-- `_MATCHERS`: the test of a value, if the traffic has the field that the condition is about. -/
def Condition.matcher (lib : Library) (t : TrafficInfo) : Condition → Option (Text → Bool)
  | domain => t.domain.map fun field value => lib.matchDomain value field
  | domainSuffix => t.domain.map fun field value => lib.matchDomainSuffix value field
  | domainKeyword => t.domain.map fun field value => lib.matchDomainKeyword value field
  | domainRegex => t.domain.map fun field value => lib.matchDomainRegex value field
  | ipCidr => t.ip.map fun field value => lib.matchIpCidr value field
  | port => t.port.map fun field value => lib.matchPort value field
  | portRange => t.port.map fun field value => lib.matchPortRange value field
  | protocol => t.protocol.map fun field value => lib.matchExactCi value field
  | network => t.network.map fun field value => lib.matchExactCi value field
  | processName => t.processName.map fun field value => Library.matchExact value field
  | processPath => t.processPath.map fun field value => Library.matchExact value field
  | rulesetRemote | rulesetBuiltin => none

def conditionMatches (lib : Library) (t : TrafficInfo) (c : Condition) (values : List Text) : Bool :=
  if c.unevaluable then false
  else
    match c.matcher lib t with
    | none => false
    | some matcher => values.any matcher

def ruleMatches (lib : Library) (rule : Rule) (t : TrafficInfo) : Bool :=
  rule.conditions ≠ [] && rule.conditions.all fun c => conditionMatches lib t c.1 c.2

/-! ## Tiers -/

inductive Tier
  | block
  | custom
  | app
  | imported
  | recommended
  deriving DecidableEq

def Tier.name : Tier → String
  | block => "block"
  | custom => "custom"
  | app => "app"
  | imported => "imported"
  | recommended => "recommended"

def priorityTierOrder : List Tier := [.block, .custom, .app, .imported, .recommended]

/-- The tier that a name belongs to, if there is one. -/
def tierOf (name : String) : Option Tier :=
  if name = "imported" ∨ "imported-".toList.isPrefixOf name.toList then some .imported
  else priorityTierOrder.find? fun tier => tier.name == name

/-- The order of the imported groups: by priority, then by name. -/
def RuleGroup.before (a b : RuleGroup) : Prop :=
  a.priority < b.priority ∨ a.priority = b.priority ∧ a.name.1 ≤ b.name.1

instance : DecidableRel RuleGroup.before := fun a b => by unfold RuleGroup.before; infer_instance

def groupByTier (groups : List RuleGroup) (tier : Tier) : List RuleGroup :=
  let own := groups.filter fun g => tierOf g.name.1 = some tier
  if tier = .imported then own.insertionSort RuleGroup.before else own

/-! ## Evaluation -/

def evaluate (lib : Library) (finalPolicy : SimpleAction) (t : TrafficInfo)
    (groups : List RuleGroup) : RuleMatch :=
  let found := priorityTierOrder.findSome? fun tier =>
    (groupByTier groups tier).findSome? fun group =>
      if group.enabled = false then none
      else group.rules.findSome? fun rule =>
        if rule.enabled = false then none
        else if ruleMatches lib rule t then
          some { action := rule.action, groupName := some group.name.1, ruleId := some rule.id }
        else none
  found.getD { action := .simple finalPolicy, groupName := none, ruleId := none }

/-- The enabled rules of a group, if it is enabled. -/
def RuleGroup.consulted (group : RuleGroup) : List (RuleGroup × Rule) :=
  if group.enabled then (group.rules.filter (·.enabled)).map (group, ·) else []

/-- The rules that an evaluation goes through. -/
def consulted (groups : List RuleGroup) : List (RuleGroup × Rule) :=
  priorityTierOrder.flatMap fun tier => (groupByTier groups tier).flatMap RuleGroup.consulted

def matchOf (entry : RuleGroup × Rule) : RuleMatch :=
  { action := entry.2.action, groupName := some entry.1.name.1, ruleId := some entry.2.id }

section Lemmas

variable {lib : Library} {finalPolicy : SimpleAction} {t : TrafficInfo} {groups : List RuleGroup}

theorem findSome_flatMap {α β γ : Type} (f : α → List β) (g : β → Option γ) (l : List α) :
    (l.findSome? fun a => (f a).findSome? g) = (l.flatMap f).findSome? g := by
  induction l with
  | nil => rfl
  | cons a l ih =>
    rw [findSome?_cons, flatMap_cons, findSome?_append, ih]
    cases (f a).findSome? g <;> rfl

theorem decide_eq_findSome {ρ α υ : Type} (applies : ρ → α → Bool) (verdict : ρ → υ) (default : υ) (a : α)
    (rules : List ρ) : FirstMatch.decide applies verdict rules default a =
      (rules.findSome? fun r => if applies r a then some (verdict r) else none).getD default := by
  induction rules with
  | nil => rfl
  | cons r rules ih =>
    rw [FirstMatch.decide_cons, findSome?_cons]
    by_cases hr : applies r a = true
    · rw [if_pos hr, if_pos hr]
      rfl
    · rw [if_neg hr, if_neg hr, ih]

theorem consulted_findSome (group : RuleGroup) : (if group.enabled = false then none
      else group.rules.findSome? fun rule =>
        if rule.enabled = false then none
        else if ruleMatches lib rule t then
          some { action := rule.action, groupName := some group.name.1, ruleId := some rule.id : RuleMatch }
        else none) =
      group.consulted.findSome? fun entry => if ruleMatches lib entry.2 t then some (matchOf entry)
        else none := by
  unfold RuleGroup.consulted
  cases hg : group.enabled with
  | false => rfl
  | true =>
    simp only [Bool.true_eq_false, if_false, if_true]
    induction group.rules with
    | nil => rfl
    | cons rule rules ih =>
      rw [findSome?_cons, ih]
      cases hr : rule.enabled with
      | false => rw [filter_cons_of_neg (by simp [hr])]; rfl
      | true =>
        rw [filter_cons_of_pos hr, map_cons]
        rfl

/-- **An evaluation is the verdict of the first consulted rule that matches.** -/
theorem evaluate_eq : evaluate lib finalPolicy t groups =
    FirstMatch.decide (fun entry => ruleMatches lib entry.2) matchOf (consulted groups)
      { action := .simple finalPolicy, groupName := none, ruleId := none } t := by
  unfold evaluate consulted
  rw [decide_eq_findSome]
  simp only [← findSome_flatMap, consulted_findSome]

theorem evaluate_of_split {passed rest : List (RuleGroup × Rule)} {e : RuleGroup × Rule}
    (hsplit : consulted groups = passed ++ e :: rest) (hpass : ∀ p ∈ passed, ruleMatches lib p.2 t = false)
    (hmatch : ruleMatches lib e.2 t = true) : evaluate lib finalPolicy t groups = matchOf e := by
  rw [evaluate_eq, hsplit]
  exact FirstMatch.decide_of_split hpass hmatch

theorem evaluate_of_none (hnone : ∀ e ∈ consulted groups, ruleMatches lib e.2 t = false) :
    evaluate lib finalPolicy t groups =
      { action := .simple finalPolicy, groupName := none, ruleId := none } := by
  rw [evaluate_eq]
  exact FirstMatch.decide_of_none hnone

end Lemmas

end WatchdogVpn.Rules
