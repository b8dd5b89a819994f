import Mathlib
import WatchdogVpn.Lib.Json
import WatchdogVpn.Lib.Prog
import WatchdogVpn.Rules.Engine

/-!
# Importing rules

`build_rule_import_plan` reads a rule group of its own format, sing-box route rules, a Clash rule
list or a plain list of domains and networks. Where the format has no name, the group gets its name
from the file.
-/

namespace WatchdogVpn.Rules

open PyText (Text strip lstrip stripOf hyphenate splitlines)

/-! ## Rules and groups from data -/

def strictBool (value : Json) (field : String) : Except Error Bool :=
  match value with
  | .bool b => .ok b
  | _ => refuse (field ++ " must be a boolean")

def strictInt (value : Json) (field : String) : Except Error Int :=
  match value with
  | .int n => .ok n
  | _ => refuse (field ++ " must be an integer")

/-- `reject_unknown_keys`; the message names the fields in their order. -/
def rejectUnknownKeys (data : PyDict String Json) (allowed : List String) (objectName : String) :
    Except Error Unit :=
  let unknown := (data.map (·.1)).filter (!allowed.contains ·)
  if unknown = [] then .ok ()
  else
    refuse (objectName ++ " contains unsupported fields: " ++ ", ".intercalate (unknown.insertionSort (· ≤ ·)))

/-- `data[key]`. -/
def required (data : PyDict String Json) (key : String) : Except Error Json :=
  match data.get key with
  | some value => .ok value
  | none => .error ⟨.keyError, "'" ++ key ++ "'"⟩

def conditionEntries (key : String) : Json → Except Error (List Text)
  | .arr [] => refuseValue ("rule condition " ++ quoted key ++ " must be a non-empty list")
  | .arr items =>
    let entries := items.map fun item => strip item.toStr.toList
    if [] ∈ entries then refuseValue ("rule condition " ++ quoted key ++ " must not contain empty values")
    else .ok entries
  | _ => refuseValue ("rule condition " ++ quoted key ++ " must be a non-empty list")

/-- The loop of `_validate_rule_conditions`. -/
def validateConditions : PyDict String Json → Except Error Conditions
  | [] => .ok []
  | (key, value) :: rest => do
    match condition? key with
    | none => refuseValue ("unsupported rule condition type: " ++ quoted key)
    | some c =>
      let entries ← conditionEntries key value
      let conditions ← validateConditions rest
      return (c, entries) :: conditions

/-- `Rule(...)` with the checks of `__post_init__`, for conditions whose keys and values have passed
theirs. -/
def Rule.build (id action : String) (conditions : Conditions) (enabled : Bool) : Except Error Rule :=
  if hid : stripped id = "" then refuseValue "rule id must not be empty"
  else
    match validateRuleAction action with
    | .error e => .error e
    | .ok action =>
      if hv : ValidConditions conditions then
        .ok { id := stripped id, action, conditions, enabled, idNonempty := hid,
              valid := hv }
      else refuseValue "rule must define at least one condition"

def Rule.fromDict (data : Json) : Except Error Rule :=
  match data with
  | .obj data => do
    rejectUnknownKeys data ["id", "action", "conditions", "enabled"] "rule"
    let id ← required data "id"
    let action ← required data "action"
    let enabled ← strictBool ((PyDict.get "enabled" data).getD (.bool true)) "rule.enabled"
    match (PyDict.get "conditions" data).getD (.obj []) with
    | .obj conditions => Rule.build id.toStr action.toStr (← validateConditions conditions) enabled
    | _ => refuseValue "rule conditions must be an object"
  | _ => .error ⟨.typeError, "rule is not an object"⟩

/-- `RuleGroup(...)` with the checks of `__post_init__`. -/
def RuleGroup.build (name : String) (enabled : Bool) (rules : List Rule) (priority : Int) :
    Except Error RuleGroup := do
  let name ← validateGroupName name
  if hids : (rules.map (·.id)).Nodup then
    return { name, enabled, rules, priority, ids := hids }
  else refuseValue "rule group must not contain duplicate rule ids"

def RuleGroup.fromDict (data : PyDict String Json) : Except Error RuleGroup := do
  rejectUnknownKeys data ["name", "enabled", "rules", "priority"] "rule group"
  match (PyDict.get "rules" data).getD (.arr []) with
  | .arr items =>
    let name ← required data "name"
    let enabled ← strictBool ((PyDict.get "enabled" data).getD (.bool true)) "rule_group.enabled"
    let rules ← items.mapM Rule.fromDict
    let priority ← strictInt ((PyDict.get "priority" data).getD (.int 100)) "rule_group.priority"
    RuleGroup.build name.toStr enabled rules priority
  | _ => refuseValue "rule group rules must be a list"

/-! ## Plans -/

/-- What more is used of the standard library. -/
structure ImportLibrary extends Library where
  /-- `text.upper()`. -/
  upper : Text → Text
  /-- `str(ip_network(text, strict=False))`, and nothing where that is an error. -/
  network : Text → Option Text
  /-- `json.loads(text)`, or the text of the error. -/
  loads : Text → Except String Json

structure RejectedRule where
  source : String
  reason : String
  item : Json

structure RuleImportPlan where
  group : RuleGroup
  sourceFormat : String
  rejected : List RejectedRule := []

/-- `f"{prefix}-{index:04d}"`. -/
def ruleId (lead : String) (index : Nat) : String :=
  let digits := (toString index).toList
  lead ++ "-" ++ String.ofList (List.replicate (4 - digits.length) '0' ++ digits)

/-- `_rule`. -/
def importRule (id action : String) (conditions : Conditions) : Except Error Rule :=
  match Rule.build id action (conditions.map fun c => (c.1, c.2.map strip)) true with
  | .ok rule => .ok rule
  | .error e => if e.isValueError then .error ⟨.ruleImportError, e.message⟩ else .error e

def isDomainLabel (label : Text) : Bool :=
  label.length ≤ 63 && label.head?.any Char.isAlphanum && label.getLast?.any Char.isAlphanum &&
    label.all fun c => c.isAlphanum || c == '-'

def validDomain (value : Text) : Bool :=
  !value.isEmpty && value.length ≤ 253 && value.contains '.' && (value.splitOn '.').all isDomainLabel

namespace ImportLibrary

variable (lib : ImportLibrary)

def importGroupName (name : Option String) (sourceName : String) : Except Error GroupName :=
  match name.filter (· ≠ "") with
  | some name => validateGroupName name
  | none =>
    let slug := stripOf (fun c => c == '-' || c == '_') (hyphenate isSlugChar (lib.lower sourceName.toList))
    let slug := if slug = [] then "imported".toList else slug
    validateGroupName (String.ofList (slug.take 64))

/-- A loop over items, numbered from `index`, that accepts or rejects each. -/
def sift {α : Type} (accept : Nat → α → Except Error (RejectedRule ⊕ Rule)) :
    Nat → List α → Except Error (List Rule × List RejectedRule)
  | _, [] => .ok ([], [])
  | index, item :: items => do
    let verdict ← accept index item
    let (rules, rejected) ← sift accept (index + 1) items
    match verdict with
    | .inl reject => return (rules, reject :: rejected)
    | .inr rule => return (rule :: rules, rejected)

/-- The plan of a group with the name of the file. -/
def planOf (sourceName : String) (name : Option String) (sourceFormat : String) (rejected : List RejectedRule)
    (rules : List Rule) : Except Error RuleImportPlan := do
  let groupName ← lib.importGroupName name sourceName
  let group ← RuleGroup.build groupName.1 true rules 100
  return { group := group, sourceFormat, rejected }

/-! ### Plain lists -/

def simpleEntryCondition (entry : Text) : Option Conditions :=
  let value := strip entry
  if value = [] then none
  else
    match lib.network value with
    | some network => some [(.ipCidr, [network])]
    | none =>
      if value.head? = some '.' then
        let domain := strip value.tail
        if validDomain domain then some [(.domainSuffix, ['.' :: lib.lower domain])] else none
      else if validDomain value then some [(.domain, [lib.lower value])]
      else none

def planFromSimpleEntries (entries : List Text) (sourceName : String) (name : Option String)
    (defaultAction : String) : Except Error RuleImportPlan := do
  let accept (index : Nat) (entry : Text) : Except Error (RejectedRule ⊕ Rule) :=
    match lib.simpleEntryCondition entry with
    | none => .ok (.inl ⟨"line:" ++ toString index, "not a supported domain or IP CIDR",
        .str (String.ofList entry)⟩)
    | some conditions => (importRule (ruleId "simple" index) defaultAction conditions).map .inr
  let (rules, rejected) ← sift accept 1 entries
  lib.planOf sourceName name "simple-domain-ip-list" rejected rules

def planFromSimpleList (text : Text) (sourceName : String) (name : Option String) (defaultAction : String) :
    Except Error RuleImportPlan :=
  let entries := ((splitlines text).map strip).filter fun line =>
    !line.isEmpty && !(['#'].isPrefixOf line) && !(['/', '/'].isPrefixOf line)
  lib.planFromSimpleEntries entries sourceName name defaultAction

/-! ### Clash rules -/

def clashParts (line : Text) : List Text := (line.splitOn ',').map strip

def clashAction (token : Text) : Option String :=
  [("DIRECT", "direct"), ("REJECT", "block"), ("REJECT-DROP", "block"), ("BLOCK", "block"),
    ("PROXY", "current_profile"), ("GLOBAL", "current_profile")].lookup (String.ofList token)

def clashCondition (type value : Text) : Option Conditions :=
  let value := strip value
  let bare := value.dropWhile (· == '.')
  match String.ofList type with
  | "DOMAIN" => if validDomain value then some [(.domain, [lib.lower value])] else none
  | "DOMAIN-SUFFIX" => if validDomain bare then some [(.domainSuffix, ['.' :: lib.lower bare])] else none
  | "DOMAIN-KEYWORD" => if value ≠ [] then some [(.domainKeyword, [lib.lower value])] else none
  | "IP-CIDR" | "IP-CIDR6" => (lib.network value).map fun network => [(.ipCidr, [network])]
  | "PROCESS-NAME" => if value ≠ [] then some [(.processName, [value])] else none
  | _ => none

def looksLikeClashLine (line : Text) : Bool :=
  match clashParts line with
  | type :: _ :: _ :: _ =>
    ["DOMAIN", "DOMAIN-SUFFIX", "DOMAIN-KEYWORD", "IP-CIDR", "IP-CIDR6", "PROCESS-NAME"].contains
      (String.ofList (lib.upper type))
  | _ => false

def planFromClashRules (lines : List Text) (rejected : List RejectedRule) (sourceName : String)
    (name : Option String) : Except Error RuleImportPlan := do
  let accept (index : Nat) (line : Text) : Except Error (RejectedRule ⊕ Rule) :=
    let reject (reason : String) : Except Error (RejectedRule ⊕ Rule) :=
      .ok (.inl ⟨"clash:" ++ toString index, reason, .str (String.ofList line)⟩)
    match clashParts line with
    | type :: value :: token :: _ =>
      let type := lib.upper type
      let token := lib.upper token
      match clashAction token with
      | none => reject ("unsupported action: " ++ String.ofList token)
      | some action =>
        match lib.clashCondition type value with
        | none => reject ("unsupported rule type or value: " ++ String.ofList type)
        | some conditions => (importRule (ruleId "clash" index) action conditions).map .inr
    | _ => reject "rule must have type,value,action"
  let (rules, more) ← sift accept 1 lines
  lib.planOf sourceName name "clash-rule-list" (rejected ++ more) rules

/-! ### sing-box rules -/

/-- `SINGBOX_UNSUPPORTED_STRUCTURAL_FIELDS`, in order. -/
def unsupportedStructuralFields : List String :=
  ["auth_user", "clash_mode", "mode", "rule_set", "rule_set_ip_cidr_match_source", "rules", "source_ip_cidr",
    "source_port", "source_port_range", "type", "user", "wifi_bssid", "wifi_ssid"]

/-- `SUPPORTED_SINGBOX_MATCH_FIELDS`; the set is gone through in some order. -/
def supportedMatchFields : List Condition :=
  [.domain, .domainSuffix, .domainKeyword, .domainRegex, .ipCidr, .processName, .processPath, .port, .portRange,
    .protocol, .network]

def stringList (value : Json) : List Text :=
  let items := match value with
    | .arr items => items
    | value => [value]
  (items.map fun item => strip item.toStr.toList).filter (· ≠ [])

def singboxConditions (item : PyDict String Json) : Conditions :=
  supportedMatchFields.filterMap fun c =>
    match item.get c.key with
    | none | some .null => none
    | some value =>
      let values := stringList value
      if values = [] then none else some (c, values)

def singboxAction (item : PyDict String Json) (defaultAction : String) : Option String :=
  let raw := if ((item.get "action").getD .null).truthy then (item.get "action").getD .null
    else if ((item.get "outbound").getD .null).truthy then (item.get "outbound").getD .null
    else .str defaultAction
  let action := stripped raw.toStr
  match [("direct", "direct"), ("block", "block"), ("reject", "block"), ("current", "current_profile"),
      ("current_profile", "current_profile"), ("proxy", "current_profile")].lookup action with
  | some action => some action
  | none => if action = "auto_select" ∨ "group:".toList.isPrefixOf action.toList then some action else none

def planFromSingboxRules (items : List Json) (sourceName : String) (name : Option String)
    (defaultAction : String) : Except Error RuleImportPlan := do
  let accept (index : Nat) (item : Json) : Except Error (RejectedRule ⊕ Rule) :=
    let reject (reason : String) : Except Error (RejectedRule ⊕ Rule) :=
      .ok (.inl ⟨"sing-box:" ++ toString index, reason, item⟩)
    match item with
    | .obj fields =>
      let structural := unsupportedStructuralFields.filter fun field => (PyDict.get field fields).isSome
      let conditions := singboxConditions fields
      if structural ≠ [] then reject ("unsupported structural fields: " ++ ", ".intercalate structural)
      else if conditions = [] then reject "no supported match fields"
      else
        match singboxAction fields defaultAction with
        | none => reject "unsupported action/outbound"
        | some action => (importRule (ruleId "singbox" index) action conditions).map .inr
    | _ => reject "rule is not an object"
  let (rules, rejected) ← sift accept 1 items
  lib.planOf sourceName name "sing-box-route-rules" rejected rules

/-! ### Any format -/

/-- The text of a list item that is a string. -/
def textItem : Json → Option Text
  | .str text => some text.toList
  | _ => none

/-- A rule group of the native format. -/
def planFromGroup (data : PyDict String Json) (name : Option String) : Except Error RuleImportPlan :=
  let data := match name with
    | some name => data.set "name" (.str name)
    | none => data
  match RuleGroup.fromDict data with
  | .ok group => .ok { group, sourceFormat := "watchdogvpn-rule-group" }
  | .error e => .error ⟨.ruleImportError, "invalid rule group schema: " ++ e.message⟩

def planFromJson (raw : Json) (sourceName : String) (name : Option String) (defaultAction : String) :
    Except Error RuleImportPlan :=
  match raw with
  | .obj data =>
    if (PyDict.get "name" data).isSome ∧ (PyDict.get "rules" data).isSome then planFromGroup data name
    else
      let route := match PyDict.get "route" data with
        | some (.obj route) => PyDict.get "rules" route
        | _ => none
      match route, PyDict.get "rules" data with
      | some (.arr items), _ => lib.planFromSingboxRules items sourceName name defaultAction
      | _, some (.arr items) => lib.planFromSingboxRules items sourceName name defaultAction
      | _, _ => .error ⟨.ruleImportError, "unsupported rule import format"⟩
  | .arr items =>
    let lines := items.filterMap textItem
    if items.all fun item => (textItem item).isSome then
      if lines.any lib.looksLikeClashLine then lib.planFromClashRules lines [] sourceName name
      else lib.planFromSimpleEntries lines sourceName name defaultAction
    else
      let rejected := (items.filter fun item => (textItem item).isNone).map fun item =>
        ⟨"json-list", "list item is not a string", item⟩
      lib.planFromClashRules lines rejected sourceName name
  | _ => .error ⟨.ruleImportError, "unsupported rule import format"⟩

/-- `build_rule_import_plan` of a file that reads as `text`, with its path and the stem of its name.
-/
def buildRuleImportPlan (path stem : String) (text : Text) (name : Option String) (defaultAction : String)
    (allowPartial : Bool) : Except Error RuleImportPlan := do
  let first := (lstrip text).head?
  let plan ←
    if first = some '\x7b' ∨ first = some '[' then
      match lib.loads text with
      | .error message => .error ⟨.ruleImportError, "invalid rule import JSON in " ++ path ++ ": " ++ message⟩
      | .ok raw => lib.planFromJson raw stem name defaultAction
    else lib.planFromSimpleList text stem name defaultAction
  if plan.rejected ≠ [] ∧ allowPartial = false then
    .error ⟨.ruleImportError,
      "rule import contains unsupported entries; rerun with --allow-partial to import accepted rules"⟩
  else if plan.group.rules = [] then .error ⟨.ruleImportError, "rule import produced no supported rules"⟩
  else return plan

/-! ## The name of the group -/

/-- The name that the data of a rule group of the native format gives. -/
def nativeName : Json → Option String
  | .obj data => if (PyDict.get "rules" data).isSome then (PyDict.get "name" data).map Json.toStr else none
  | _ => none

/-- The name that the stem of a file gives: its slug, at most 64 characters of it. -/
def stemName (stem : String) : String :=
  let slug := stripOf (fun c => c == '-' || c == '_') (hyphenate isSlugChar (lib.lower stem.toList))
  stripped (String.ofList ((if slug = [] then "imported".toList else slug).take 64))

/-- The name of the group of a file: that of its text, if it is a rule group of the native format,
or else that of its stem. -/
def fileGroupName (stem : String) (text : Text) : String :=
  let raw := if (lstrip text).head? = some '\x7b' ∨
    (lstrip text).head? = some '[' then (lib.loads text).toOption
    else none
  ((raw.bind nativeName).map stripped).getD (lib.stemName stem)

variable {lib} {stem : String} {plan : RuleImportPlan}

theorem validateGroupName_name {name : String} {valid : GroupName} (h : validateGroupName name = .ok valid) :
    valid.1 = stripped name := by
  unfold validateGroupName at h
  split at h <;> cases h
  rfl

theorem build_name {name : String} {enabled : Bool} {rules : List Rule} {priority : Int} {group : RuleGroup}
    (h : RuleGroup.build name enabled rules priority = .ok group) : group.name.1 = stripped name := by
  obtain ⟨valid, hvalid, h⟩ := Effect.except_bind_ok h
  split at h <;> cases h
  exact validateGroupName_name hvalid

theorem fromDict_name {data : PyDict String Json} {group : RuleGroup}
    (h : RuleGroup.fromDict data = .ok group) :
    (PyDict.get "name" data).map (stripped ·.toStr) = some group.name.1 := by
  obtain ⟨-, -, h⟩ := Effect.except_bind_ok h
  split at h
  · obtain ⟨name, hname, h⟩ := Effect.except_bind_ok h
    obtain ⟨enabled, -, h⟩ := Effect.except_bind_ok h
    obtain ⟨rules, -, h⟩ := Effect.except_bind_ok h
    obtain ⟨priority, -, h⟩ := Effect.except_bind_ok h
    unfold required at hname
    split at hname <;> cases hname
    rename_i hget
    rw [hget, build_name h]
    rfl
  · cases h

theorem planOf_name {format : String} {rejected : List RejectedRule} {rules : List Rule}
    (h : lib.planOf stem none format rejected rules = .ok plan) : plan.group.name.1 = lib.stemName stem := by
  obtain ⟨name, hname, h⟩ := Effect.except_bind_ok h
  obtain ⟨group, hgroup, h⟩ := Effect.except_bind_ok h
  cases h
  simp only [importGroupName, Option.filter_none] at hname
  rw [build_name hgroup, validateGroupName_name hname, stripped_stripped, stemName]

theorem planFromJson_name {raw : Json} {action : String}
    (h : lib.planFromJson raw stem none action = .ok plan) :
    plan.group.name.1 = ((nativeName raw).map stripped).getD (lib.stemName stem) := by
  simp only [planFromJson] at h
  split at h
  case h_1 data =>
    split at h
    case isTrue hboth =>
      simp only [planFromGroup] at h
      split at h <;> cases h
      rename_i hgroup
      rw [nativeName, if_pos hboth.2, Option.map_map, show Option.map (stripped ∘ Json.toStr) _ = _ from
        fromDict_name hgroup, Option.getD_some]
    case isFalse hboth =>
      have hnone : nativeName (.obj data) = none := by
        rw [nativeName, ite_eq_right_iff]
        exact fun hrules => by simpa using fun hname => hboth ⟨hname, hrules⟩
      rw [hnone]
      split at h
      case h_3 => cases h
      all_goals exact planOf_name (Effect.except_bind_ok h).choose_spec.2
  case h_2 =>
    split at h
    · split at h
      all_goals exact planOf_name (Effect.except_bind_ok h).choose_spec.2
    · exact planOf_name (Effect.except_bind_ok h).choose_spec.2
  case h_3 => cases h

theorem buildRuleImportPlan_name {path : String} {text : Text} {action : String} {allowPartial : Bool}
    (h : lib.buildRuleImportPlan path stem text none action allowPartial = .ok plan) :
    plan.group.name.1 = lib.fileGroupName stem text := by
  simp only [buildRuleImportPlan] at h
  unfold fileGroupName
  split at h
  case isTrue hfirst =>
    rw [if_pos hfirst]
    split at h
    · cases h
    · rename_i raw hraw
      obtain ⟨made, hmade, h⟩ := Effect.except_bind_ok h
      rw [hraw]
      split at h
      · cases h
      · split at h <;> cases h
        exact planFromJson_name hmade
  case isFalse hfirst =>
    rw [if_neg hfirst]
    obtain ⟨made, hmade, h⟩ := Effect.except_bind_ok h
    split at h
    · cases h
    · split at h <;> cases h
      exact planOf_name (Effect.except_bind_ok hmade).choose_spec.2

end ImportLibrary

end WatchdogVpn.Rules
