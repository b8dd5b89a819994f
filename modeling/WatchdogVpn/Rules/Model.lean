import WatchdogVpn.Lib.PyText
import Mathlib.Data.List.Nodup

/-!
# Routing rules

A rule has an action and conditions, a group has a name and rules. What the constructors of the
source check is carried by the types: a rule has a condition, every condition has a value, and
the identifiers within a group differ.
-/

namespace WatchdogVpn.Rules

open PyText (Text strip dropLeading)

/-! ## Errors -/

inductive ErrorKind
  | valueError
  | keyError
  | typeError
  | ruleImportError
  | runtimeError
  | persistentValidationError
  deriving DecidableEq

structure Error where
  kind : ErrorKind
  message : String
  deriving DecidableEq

/-- `raise PersistentValidationError(message)`. -/
abbrev refuse {α : Type} (message : String) : Except Error α := .error ⟨.persistentValidationError, message⟩

abbrev refuseValue {α : Type} (message : String) : Except Error α := .error ⟨.valueError, message⟩

/-- `RuleImportError` is a `ValueError`. -/
def Error.isValueError (e : Error) : Bool := e.kind = .valueError ∨ e.kind = .ruleImportError

/-- `repr(text)`, for texts without quotes or control characters. -/
def quoted (text : String) : String := "'" ++ text ++ "'"

/-! ## Names -/

def isSlugStart (c : Char) : Bool := c.isLower || c.isDigit

def isSlugChar (c : Char) : Bool := isSlugStart c || c == '_' || c == '-'

/-- `^[a-z0-9][a-z0-9_-]{0,63}$`, the pattern of group names and of chain identifiers. -/
def isSlug (name : String) : Bool :=
  match name.toList with
  | [] => false
  | c :: cs => isSlugStart c && cs.length ≤ 63 && cs.all isSlugChar

/-- A name that `validate_group_name` returns. -/
abbrev GroupName : Type := { name : String // isSlug name = true }

def stripped (text : String) : String := String.ofList (strip text.toList)

@[simp] theorem stripped_stripped (text : String) : stripped (stripped text) = stripped text := by
  simp only [stripped, String.toList_ofList, PyText.strip_strip]

def validateGroupName (name : String) : Except Error GroupName :=
  if h : isSlug (stripped name) = true then .ok ⟨stripped name, h⟩
  else refuseValue "rule group name must be a lowercase slug (letters, digits, '-', '_', max 64 chars)"

/-! ## Actions -/

inductive SimpleAction
  | direct
  | currentProfile
  | autoSelect
  | block
  deriving DecidableEq

def SimpleAction.value : SimpleAction → String
  | direct => "direct"
  | currentProfile => "current_profile"
  | autoSelect => "auto_select"
  | block => "block"

/-- What a rule does. The actions that name a node group or a chain are kept as they are written. -/
inductive Action
  | simple (action : SimpleAction)
  | group (text : String)
  | chain (text id : String)
  deriving DecidableEq

def Action.text : Action → String
  | simple action => action.value
  | group text => text
  | chain text _ => text

/-- The group of `^lead(.+)$` in a text without white space around it. -/
def targetAfter (lead : String) (action : Text) : Option Text :=
  match dropLeading lead.toList action with
  | none => none
  | some rest => if rest = [] ∨ '\n' ∈ rest then none else some (strip rest)

def groupTarget (action : String) : Option String :=
  (targetAfter "group:" (strip action.toList)).map String.ofList

def validateChainId (value fieldName : String) : Except Error String :=
  if isSlug (stripped value) then .ok (stripped value)
  else refuse (fieldName ++ " must be a lowercase slug (letters, digits, '-', '_', max 64 chars)")

def chainTarget (action : String) : Except Error (Option String) :=
  match targetAfter "chain:" (strip action.toList) with
  | none => .ok none
  | some id => (validateChainId (String.ofList id) "chain action").map some

def simpleAction? (action : String) : Option SimpleAction :=
  [.direct, .currentProfile, .autoSelect, .block].find? fun a => a.value == action

def validateRuleAction (action : String) : Except Error Action :=
  let action := stripped action
  match simpleAction? action with
  | some simple => .ok (.simple simple)
  | none =>
    if (groupTarget action).isSome then .ok (.group action)
    else
      match chainTarget action with
      | .error e => .error e
      | .ok (some id) => .ok (.chain action id)
      | .ok none => refuseValue ("unsupported rule action: " ++ quoted action)

/-! ## Rules -/

/-- `ALLOWED_RULE_CONDITIONS`. -/
inductive Condition
  | domain
  | domainSuffix
  | domainKeyword
  | domainRegex
  | ipCidr
  | port
  | portRange
  | protocol
  | network
  | rulesetRemote
  | rulesetBuiltin
  | processName
  | processPath
  deriving DecidableEq

def Condition.key : Condition → String
  | domain => "domain"
  | domainSuffix => "domain_suffix"
  | domainKeyword => "domain_keyword"
  | domainRegex => "domain_regex"
  | ipCidr => "ip_cidr"
  | port => "port"
  | portRange => "port_range"
  | protocol => "protocol"
  | network => "network"
  | rulesetRemote => "ruleset_remote"
  | rulesetBuiltin => "ruleset_builtin"
  | processName => "process_name"
  | processPath => "process_path"

def allConditions : List Condition :=
  [.domain, .domainSuffix, .domainKeyword, .domainRegex, .ipCidr, .port, .portRange, .protocol, .network,
    .rulesetRemote, .rulesetBuiltin, .processName, .processPath]

def condition? (key : String) : Option Condition := allConditions.find? fun c => c.key == key

/-- The conditions of a rule with their values, in the order of the dictionary. -/
abbrev Conditions : Type := List (Condition × List Text)

/-- What `_validate_rule_conditions` leaves. -/
structure ValidConditions (conditions : Conditions) : Prop where
  nonempty : conditions ≠ []
  keys : (conditions.map (·.1)).Nodup
  values : ∀ c ∈ conditions, c.2 ≠ [] ∧ ∀ value ∈ c.2, value ≠ []

instance (conditions : Conditions) : Decidable (ValidConditions conditions) :=
  decidable_of_iff (conditions ≠ [] ∧ (conditions.map (·.1)).Nodup ∧
      ∀ c ∈ conditions, c.2 ≠ [] ∧ ∀ value ∈ c.2, value ≠ [])
    ⟨fun ⟨h1, h2, h3⟩ => ⟨h1, h2, h3⟩, fun ⟨h1, h2, h3⟩ => ⟨h1, h2, h3⟩⟩

structure Rule where
  id : String
  action : Action
  conditions : Conditions
  enabled : Bool := true
  idNonempty : id ≠ ""
  valid : ValidConditions conditions

structure RuleGroup where
  name : GroupName
  enabled : Bool := true
  rules : List Rule
  priority : Int := 100
  ids : (rules.map (·.id)).Nodup

end WatchdogVpn.Rules
