import WatchdogVpn.Documents.Reading
import WatchdogVpn.Lib.Lists
import WatchdogVpn.Rules.AppPolicy

/-!
# Rule groups, application policies and route chains

The documents of the `rules` directory, of `app-policy.json` and of `chains.json`.

* **`RuleGroup.fromDict_toDict`**: a rule group that has been read is written so that it reads back
  the same. Of a group built otherwise this need not hold: reading strips its texts.
* **`AppPolicy.fromDict_toDict`**, **`RouteChainDocument.fromDict_toDict`**: the same for the
  others, whose texts carry that they are stripped.
-/

namespace WatchdogVpn.Rules

open List
open PyText (Text strip strip_strip)
open Effect (except_bind_ok)

/-! ## Rule groups -/

def conditionsToJson (conditions : Conditions) : Json :=
  .obj (conditions.map fun c => (c.1.key, .arr (c.2.map fun value => .str (String.ofList value))))

def Rule.toDict (rule : Rule) : Json :=
  .obj [("id", .str rule.id), ("action", .str rule.action.text),
    ("conditions", conditionsToJson rule.conditions), ("enabled", .bool rule.enabled)]

def RuleGroup.toDict (group : RuleGroup) : PyDict String Json :=
  [("name", .str group.name.1), ("enabled", .bool group.enabled), ("rules", .arr (group.rules.map Rule.toDict)),
    ("priority", .int group.priority)]

/-- A rule as reading leaves it. -/
structure Rule.Normal (rule : Rule) : Prop where
  id : stripped rule.id = rule.id
  action : validateRuleAction rule.action.text = .ok rule.action
  values : ∀ c ∈ rule.conditions, ∀ value ∈ c.2, strip value = value

/-- An action is kept as the text it was read from, without the white space around it. -/
theorem validateRuleAction_text {text : String} {action : Action} (h : validateRuleAction text = .ok action) :
    validateRuleAction action.text = .ok action := by
  have htext : action.text = stripped text := by
    unfold validateRuleAction at h
    simp only at h
    split at h
    · rename_i simple hsimple
      cases h
      have hval := find?_some hsimple
      simpa [Action.text] using hval
    · split at h
      · cases h
        rfl
      · split at h
        · cases h
        · cases h
          rfl
        · cases h
  have hsame : validateRuleAction (stripped text) = validateRuleAction text := by
    unfold validateRuleAction
    rw [stripped_stripped]
  rw [htext, hsame, h]

theorem conditionEntries_strip {key : String} {value : Json} {entries : List Text}
    (h : conditionEntries key value = .ok entries) : ∀ entry ∈ entries, strip entry = entry := by
  unfold conditionEntries at h
  split at h
  · cases h
  · simp only at h
    split at h
    · cases h
    cases h
    intro entry hent
    obtain ⟨item, -, rfl⟩ := mem_map.mp hent
    exact strip_strip _
  · cases h

theorem validateConditions_strip {data : PyDict String Json} {conditions : Conditions}
    (h : validateConditions data = .ok conditions) : ∀ c ∈ conditions, ∀ value ∈ c.2, strip value = value := by
  induction data generalizing conditions with
  | nil =>
    cases h
    simp
  | cons entry data ih =>
    unfold validateConditions at h
    split at h
    · cases h
    obtain ⟨entries, hents, h⟩ := except_bind_ok h
    obtain ⟨rest, hrest, h⟩ := except_bind_ok h
    cases h
    exact forall_mem_cons.mpr ⟨conditionEntries_strip hents, ih hrest⟩

theorem Rule.build_normal {id action : String} {conditions : Conditions} {enabled : Bool} {rule : Rule}
    (hvals : ∀ c ∈ conditions, ∀ value ∈ c.2, strip value = value)
    (h : Rule.build id action conditions enabled = .ok rule) : rule.Normal := by
  unfold Rule.build at h
  split at h
  · cases h
  split at h
  · cases h
  rename_i hid read hread
  split at h
  · cases h
    exact ⟨stripped_stripped id, validateRuleAction_text hread, hvals⟩
  · cases h

theorem Rule.fromDict_normal {data : Json} {rule : Rule} (h : Rule.fromDict data = .ok rule) : rule.Normal := by
  unfold Rule.fromDict at h
  split at h
  · obtain ⟨-, -, h⟩ := except_bind_ok h
    obtain ⟨id, -, h⟩ := except_bind_ok h
    obtain ⟨action, -, h⟩ := except_bind_ok h
    obtain ⟨enabled, -, h⟩ := except_bind_ok h
    split at h
    · obtain ⟨conditions, hconds, h⟩ := except_bind_ok h
      exact Rule.build_normal (validateConditions_strip hconds) h
    · cases h
  · cases h

theorem condition?_key (c : Condition) : condition? c.key = some c := by cases c <;> rfl

theorem conditionEntries_texts {key : String} {values : List Text} (hne : values ≠ [])
    (hvals : ∀ value ∈ values, value ≠ [] ∧ strip value = value) :
    conditionEntries key (.arr (values.map fun value => .str (String.ofList value))) = .ok values := by
  have hstrip : (values.map fun value => Json.str (String.ofList value)).map
      (fun item => strip item.toStr.toList) = values := by
    rw [map_map]
    refine (map_congr_left fun value hmem => ?_).trans (map_id values)
    simpa [Json.toStr] using (hvals value hmem).2
  cases values with
  | nil => exact absurd rfl hne
  | cons value values =>
    rw [map_cons] at hstrip
    rw [map_cons, conditionEntries]
    · simp only [hstrip]
      rw [if_neg fun hmem => (hvals [] hmem).1 rfl]
    · simp

theorem validateConditions_toJson {conditions : Conditions}
    (h : ∀ c ∈ conditions, c.2 ≠ [] ∧ ∀ value ∈ c.2, value ≠ [] ∧ strip value = value) :
    validateConditions (conditions.map fun c =>
      (c.1.key, .arr (c.2.map fun value => .str (String.ofList value)))) = .ok conditions := by
  induction conditions with
  | nil => rfl
  | cons c conditions ih =>
    obtain ⟨hne, hvals⟩ := h c mem_cons_self
    rw [map_cons, validateConditions, condition?_key]
    simp only [conditionEntries_texts hne hvals, ih fun c' h' => h c' (mem_cons_of_mem _ h')]
    rfl

theorem Rule.fromDict_toDict {rule : Rule} (h : rule.Normal) : Rule.fromDict rule.toDict = .ok rule := by
  have hconds := @validateConditions_toJson rule.conditions fun c hc =>
    ⟨(rule.valid.values c hc).1, fun value hv => ⟨(rule.valid.values c hc).2 value hv, h.values c hc value hv⟩⟩
  have hid : stripped rule.id ≠ "" := by
    rw [h.id]
    exact rule.idNonempty
  have hbuild : Rule.build rule.id rule.action.text rule.conditions rule.enabled = .ok rule := by
    rw [Rule.build, dif_neg hid, h.action]
    simp only [dif_pos rule.valid, h.id]
  simp [Rule.fromDict, Rule.toDict, conditionsToJson, rejectUnknownKeys, required, PyDict.get,
    strictBool, Json.toStr, hconds, hbuild]

theorem RuleGroup.fromDict_normal {data : PyDict String Json} {group : RuleGroup}
    (h : RuleGroup.fromDict data = .ok group) : ∀ rule ∈ group.rules, rule.Normal := by
  obtain ⟨-, -, h⟩ := except_bind_ok h
  split at h
  · obtain ⟨name, -, h⟩ := except_bind_ok h
    obtain ⟨enabled, -, h⟩ := except_bind_ok h
    obtain ⟨rules, hrules, h⟩ := except_bind_ok h
    obtain ⟨priority, -, h⟩ := except_bind_ok h
    obtain ⟨name', -, h⟩ := except_bind_ok h
    split at h
    · cases h
      intro rule hrule
      obtain ⟨item, -, hitem⟩ := (Lists.mapM_ok_mem hrules).1 rule hrule
      exact Rule.fromDict_normal hitem
    · cases h
  · cases h

theorem validateGroupName_val (name : GroupName) : validateGroupName name.1 = .ok name := by
  have hstrip : stripped name.1 = name.1 := Documents.stripped_of_slug name.2
  have h : isSlug (stripped name.1) = true := by
    rw [hstrip]
    exact name.2
  rw [validateGroupName, dif_pos h]
  exact congrArg Except.ok (Subtype.ext hstrip)

theorem RuleGroup.fromDict_toDict {group : RuleGroup} (h : ∀ rule ∈ group.rules, rule.Normal) :
    RuleGroup.fromDict group.toDict = .ok group := by
  have hrules : (group.rules.map Rule.toDict).mapM Rule.fromDict = .ok group.rules :=
    Documents.mapM_ok_of_forall fun rule hrule => Rule.fromDict_toDict (h rule hrule)
  have hbuild : RuleGroup.build group.name.1 group.enabled group.rules group.priority = .ok group := by
    rw [RuleGroup.build, validateGroupName_val]
    change (if hids : (group.rules.map (·.id)).Nodup then _ else _) = _
    rw [dif_pos group.ids]
    rfl
  simp [-mapM_map, RuleGroup.fromDict, RuleGroup.toDict, rejectUnknownKeys, required, PyDict.get,
    strictBool, strictInt, Json.toStr, hrules, hbuild]

end WatchdogVpn.Rules

namespace WatchdogVpn.Documents

open Rules (Error refuse strictBool strictInt rejectUnknownKeys required stripped stripped_stripped
  groupTarget chainTarget isSlug
  GroupName)

variable {D : Type} (lib : Library D)

/-! ## Application policies -/

/-- `_validate_action` for a text without white space around it. -/
def checkAppAction (field action : String) : Except Error Unit :=
  if action = "auto" then
    refuse (field ++ " action 'auto' is scheduled for later multi-outbound support")
  else if (groupTarget action).isSome then .ok ()
  else
    match chainTarget action with
    | .error e => .error e
    | .ok (some _) => .ok ()
    | .ok none =>
      if action ∈ ["current", "direct", "block"] then .ok ()
      else
        refuse (field ++ " must be one of: current, direct, block, 'group:<name>', or 'chain:<id>'")

/-- An action that passes, which no field name decides. -/
abbrev AppAction : Type :=
  { text : String // stripped text = text ∧ ∀ field, checkAppAction field text = .ok () }

theorem checkAppAction_field {field action : String} (h : checkAppAction field action = .ok ())
    (field' : String) : checkAppAction field' action = .ok () := by
  unfold checkAppAction at h ⊢
  split at h
  · cases h
  rename_i hauto
  rw [if_neg hauto]
  split at h
  · rename_i hgroup
    rw [if_pos hgroup]
  · rename_i hgroup
    rw [if_neg hgroup]
    split at h
    · cases h
    · rfl
    · split at h
      · rename_i hsimple
        simp only [if_pos hsimple]
      · cases h

/-- `_validate_action`. -/
def appAction (field value : String) : Except Error AppAction := do
  let ⟨_, h⟩ ← attested (checkAppAction field (stripped value))
  return ⟨stripped value, stripped_stripped value, checkAppAction_field h⟩

@[simp] theorem appAction_val (field : String) (action : AppAction) :
    appAction field action.1 = .ok action := by
  unfold appAction
  have hchk := action.2.2 field
  rw [← action.2.1] at hchk
  rw [attested_of hchk]
  exact congrArg Except.ok (Subtype.ext action.2.1)

inductive AppTextField
  | processName
  | processPath
  | user
  deriving DecidableEq

def AppTextField.key : AppTextField → String
  | processName => "process_name"
  | processPath => "process_path"
  | user => "user"

variable (compiles : String → Bool)

/-- One matcher of a rule with its values, of which there is at least one. -/
inductive AppMatch
  | texts (field : AppTextField) (values : List Trimmed) (nonempty : values ≠ [])
  | pathRegex (values : List Trimmed) (nonempty : values ≠ []) (compiled : ∀ v ∈ values, compiles v.1 = true)
  | userId (values : List Nat) (nonempty : values ≠ [])

structure AppPolicyRule where
  id : Trimmed
  action : AppAction
  matchers : List (AppMatch compiles)
  enabled : Bool := true
  nonempty : matchers ≠ []

structure AppPolicy where
  enabled : Bool
  mode : Rules.AppPolicyMode
  defaultAction : AppAction
  rules : List (AppPolicyRule compiles)

/-- One entry of `_string_list`. -/
def trimmedEntry (field : String) (item : Json) : Except Error Trimmed :=
  match item with
  | .str text =>
    match trimmed? text with
    | some entry => .ok entry
    | none => refuse (field ++ " must not contain empty values")
  | _ => refuse (field ++ " entries must be strings")

/-- The entries of a list that is not empty, each read in one way: `_string_list` and
`_user_id_list`. -/
def entries {A : Type} (read : Json → Except Error A) (field : String) (value : Json) :
    Except Error { values : List A // values ≠ [] } :=
  match value with
  | .arr items => do
    let values ← items.mapM read
    if h : values ≠ [] then return ⟨values, h⟩
    else refuse (field ++ " must be a non-empty list")
  | _ => refuse (field ++ " must be a non-empty list")

theorem entries_map {A : Type} {read : Json → Except Error A} {write : A → Json}
    (h : ∀ a, read (write a) = .ok a) (field : String) {values : List A} (hne : values ≠ []) :
    entries read field (.arr (values.map write)) = .ok ⟨values, hne⟩ := by
  unfold entries
  simp only
  rw [mapM_ok_of_forall fun a _ => h a]
  change (if h : values ≠ [] then _ else _) = _
  rw [dif_pos hne]
  rfl

/-- One entry of `_user_id_list`. -/
def userIdEntry (field : String) (item : Json) : Except Error Nat := do
  let number ← strictInt item (field ++ " entry")
  if 0 ≤ number then return number.toNat
  else refuse (field ++ " entries must not be negative")

/-- One matcher of `_validate_match`, with the name of its field. -/
def appMatch (field key : String) (value : Json) : Except Error (AppMatch lib.compiles) := do
  if key = "user_id" then
    let values ← entries (userIdEntry field) field value
    return .userId values.1 values.2
  else
    let values ← entries (trimmedEntry field) field value
    if key = "process_path_regex" then
      if h : ∀ v ∈ values.1, lib.compiles v.1 = true then return .pathRegex values.1 values.2 h
      else refuse (field ++ " contains an invalid regex")
    else
      match [AppTextField.processName, .processPath, .user].find? fun f => f.key == key with
      | some textField => return .texts textField values.1 values.2
      | none => refuse ("app policy rule match contains unsupported fields: " ++ key)

variable {lib}

def AppMatch.key : AppMatch lib.compiles → String
  | texts field _ _ => field.key
  | pathRegex _ _ _ => "process_path_regex"
  | userId _ _ => "user_id"

def AppMatch.toJson : AppMatch lib.compiles → Json
  | texts _ values _ => .arr (values.map fun v => .str v.1)
  | pathRegex values _ _ => .arr (values.map fun v => .str v.1)
  | userId values _ => .arr (values.map fun n : Nat => .int n)

variable (lib)

@[simp] theorem trimmedEntry_str (field : String) (text : Trimmed) :
    trimmedEntry field (.str text.1) = .ok text := by
  simp [trimmedEntry]

@[simp] theorem userIdEntry_int (field : String) (n : Nat) : userIdEntry field (.int n) = .ok n := by
  rfl

theorem appMatch_toJson (field : String) (m : AppMatch lib.compiles) :
    appMatch lib field m.key m.toJson = .ok m := by
  cases m with
  | texts textField values nonempty =>
    have hread := entries_map (trimmedEntry_str field) field nonempty
    have hid : textField.key ≠ "user_id" := by cases textField <;> decide
    have hregex : textField.key ≠ "process_path_regex" := by cases textField <;> decide
    have hfind : [AppTextField.processName, .processPath, .user].find? (fun f => f.key == textField.key) =
        some textField := by
      cases textField <;> rfl
    rw [AppMatch.key, AppMatch.toJson, appMatch, if_neg hid, hread]
    change (if textField.key = "process_path_regex" then _ else _) = _
    rw [if_neg hregex, hfind]
    rfl
  | pathRegex values nonempty compiled =>
    rw [AppMatch.key, AppMatch.toJson, appMatch, entries_map (trimmedEntry_str field) field nonempty]
    change (if h : ∀ v ∈ values, lib.compiles v.1 = true then _ else _) = _
    rw [dif_pos compiled]
    rfl
  | userId values nonempty =>
    rw [AppMatch.key, AppMatch.toJson, appMatch, entries_map (userIdEntry_int field) field nonempty]
    rfl

def matchField (key : String) : String := "app_policy.rule.match." ++ key

/-- `_validate_match`; the constructor of the rule asks for a matcher. -/
def appMatches : Object → Except Error (List (AppMatch lib.compiles))
  | [] => .ok []
  | (key, value) :: rest => do
    let first ← appMatch lib (matchField key) key value
    return first :: (← appMatches rest)

def matchFields : List String := ["process_name", "process_path", "process_path_regex", "user", "user_id"]

def AppPolicyRule.toDict (rule : AppPolicyRule lib.compiles) : Json :=
  .obj [("id", .str rule.id.1), ("action", .str rule.action.1),
    ("match", .obj (rule.matchers.map fun m => (m.key, m.toJson))), ("enabled", .bool rule.enabled)]

def AppPolicyRule.fromDict (data : Json) : Except Error (AppPolicyRule lib.compiles) :=
  match data with
  | .obj data => do
    rejectUnknownKeys data ["id", "action", "match", "enabled"] "app policy rule"
    let id ← missingIn "app policy rule" data "id"
    let action ← missingIn "app policy rule" data "action"
    let matchers ← missingIn "app policy rule" data "match"
    let enabled ← strictBool (Object.getD data "enabled" (.bool true)) "app_policy.rule.enabled"
    match trimmed? id.toStr with
    | none => refuse "app policy rule id must not be empty"
    | some id =>
      let action ← appAction "app_policy.rule.action" action.toStr
      match matchers with
      | .obj matchers =>
        rejectUnknownKeys matchers matchFields "app policy rule match"
        let matchers ← appMatches lib matchers
        if h : matchers ≠ [] then
          return { id, action, matchers, enabled, nonempty := h }
        else refuse "app policy rule must define at least one matcher"
      | _ => refuse "app policy rule match must be an object"
  | _ => refuse "app policy rule must be an object"

theorem appMatches_toJson (matchers : List (AppMatch lib.compiles)) :
    appMatches lib (matchers.map fun m => (m.key, m.toJson)) = .ok matchers := by
  induction matchers with
  | nil => rfl
  | cons m matchers ih =>
    rw [List.map_cons, appMatches, appMatch_toJson, ih]
    rfl

theorem matchFields_key (m : AppMatch lib.compiles) : m.key ∈ matchFields := by
  cases m with
  | texts field _ _ => cases field <;> simp [AppMatch.key, AppTextField.key, matchFields]
  | pathRegex _ _ _ | userId _ _ => simp [AppMatch.key, matchFields]

theorem AppPolicyRule.fromDict_toDict (rule : AppPolicyRule lib.compiles) :
    AppPolicyRule.fromDict lib (rule.toDict lib) = .ok rule := by
  have hkeys : rejectUnknownKeys
      (rule.matchers.map fun m => (m.key, m.toJson)) matchFields "app policy rule match" =
      .ok () := by
    refine rejectUnknownKeys_ok fun key hkey => ?_
    obtain ⟨entry, hent, rfl⟩ := List.mem_map.mp hkey
    obtain ⟨m, -, rfl⟩ := List.mem_map.mp hent
    exact matchFields_key lib m
  have houter : rejectUnknownKeys [("id", .str rule.id.1), ("action", .str rule.action.1),
      ("match", .obj (rule.matchers.map fun m => (m.key, m.toJson))), ("enabled", .bool rule.enabled)]
      ["id", "action", "match", "enabled"] "app policy rule" = .ok () := rejectUnknownKeys_ok fun key h => h
  simp [AppPolicyRule.fromDict, AppPolicyRule.toDict, missingIn, houter, hkeys,
    PyDict.get, Object.getD, strictBool, Json.toStr, appMatches_toJson, rule.nonempty]

def appPolicyMode (value : String) : Except Error Rules.AppPolicyMode :=
  if value = "whitelist" then .ok .whitelist
  else if value = "blacklist" then .ok .blacklist
  else refuse "app_policy.mode must be one of: whitelist, blacklist"

def modeText : Rules.AppPolicyMode → String
  | .whitelist => "whitelist"
  | .blacklist => "blacklist"

@[simp] theorem appPolicyMode_text (mode : Rules.AppPolicyMode) : appPolicyMode (modeText mode) = .ok mode := by
  cases mode <;> rfl

def AppPolicy.toDict (policy : AppPolicy lib.compiles) : Object :=
  [("schema_version", .int 1), ("enabled", .bool policy.enabled), ("mode", .str (modeText policy.mode)),
    ("default_action", .str policy.defaultAction.1),
    ("rules", .arr (policy.rules.map (AppPolicyRule.toDict lib)))]

/-- A schema version of 1, as the constructors of the documents check it. -/
def schemaVersion (value : Json) (field message : String) : Except Error Unit := do
  let version ← strictInt value field
  if version = 1 then return ()
  else refuse (message ++ toString version)

@[simp] theorem schemaVersion_one (field message : String) :
    schemaVersion (.int 1) field message = .ok () := rfl

def AppPolicy.fromDict (data : Object) : Except Error (AppPolicy lib.compiles) := do
  rejectUnknownKeys data ["schema_version", "enabled", "mode", "default_action", "rules"] "app policy"
  match data.getD "rules" (.arr []) with
  | .arr items => do
    let enabled ← strictBool (data.getD "enabled" (.bool false)) "app_policy.enabled"
    let rules ← items.mapM (AppPolicyRule.fromDict lib)
    schemaVersion (data.getD "schema_version" (.int 1)) "app_policy.schema_version"
      "unsupported app policy schema_version: "
    let mode ← appPolicyMode (data.getD "mode" (.str "blacklist")).toStr
    let defaultAction ← appAction "app_policy.default_action"
        (data.getD "default_action" (.str "current")).toStr
    return { enabled := enabled, mode, defaultAction, rules }
  | _ => refuse "app_policy.rules must be a list"

/-- `AppPolicy()`. -/
def AppPolicy.default : AppPolicy compiles where
  enabled := false
  mode := .blacklist
  defaultAction := ⟨"current", by decide, by intro field; rfl⟩
  rules := []

theorem AppPolicy.fromDict_toDict (policy : AppPolicy lib.compiles) :
    AppPolicy.fromDict lib (policy.toDict lib) = .ok policy := by
  have hkeys : rejectUnknownKeys (policy.toDict lib)
      ["schema_version", "enabled", "mode", "default_action", "rules"]
      "app policy" = .ok () := rejectUnknownKeys_ok fun key h => h
  have hrules : (policy.rules.map (AppPolicyRule.toDict lib)).mapM (AppPolicyRule.fromDict lib) =
      .ok policy.rules :=
    mapM_ok_of_forall fun rule _ => AppPolicyRule.fromDict_toDict lib rule
  simp only [AppPolicy.fromDict, hkeys]
  simp [AppPolicy.toDict, PyDict.get, Object.getD, strictBool, Json.toStr, hrules]

/-! ## Route chains -/

/-- A hop of a chain. It is required; only a group can name its way of selecting, which is the
group's. -/
inductive ChainHop
  | profile (target : Trimmed)
  | group (target : GroupName) (selectionPolicy : Bool)

structure RouteChain where
  id : GroupName
  hops : List ChainHop
  enabled : Bool := false
  description : Option Trimmed := none
  createdAt : Option Trimmed := none
  updatedAt : Option Trimmed := none
  nonempty : hops ≠ []

structure RouteChainDocument where
  chains : List RouteChain := []
  distinct : (chains.map (·.id)).Nodup

def notASlug (field : String) : Error :=
  ⟨.persistentValidationError, field ++ " must be a lowercase slug (letters, digits, '-', '_', max 64 chars)"⟩

def validateChainId (field : String) (value : Json) : Except Error GroupName :=
  match value with
  | .str text => if h : isSlug (stripped text) = true then .ok ⟨stripped text, h⟩ else .error (notASlug field)
  | _ => refuse (field ++ " must be a string")

@[simp] theorem validateChainId_val (field : String) (id : GroupName) :
    validateChainId field (.str id.1) = .ok id := by
  have hstrip : stripped id.1 = id.1 := stripped_of_slug id.2
  have h : isSlug (stripped id.1) = true := by
    rw [hstrip]
    exact id.2
  simp only [validateChainId]
  rw [dif_pos h]
  exact congrArg Except.ok (Subtype.ext hstrip)

def requiredString (field : String) (value : Json) : Except Error Trimmed :=
  match value with
  | .str text =>
    match trimmed? text with
    | some entry => .ok entry
    | none => refuse (field ++ " must not be empty")
  | _ => refuse (field ++ " must be a string")

def optionalString (field : String) (value : Json) : Except Error (Option Trimmed) :=
  match value with
  | .null => .ok none
  | .str text => .ok (trimmed? text)
  | _ => refuse (field ++ " must be a string")

/-- An optional field is left out where there is nothing. -/
def optionalField (key : String) : Option Trimmed → Object
  | none => []
  | some text => [(key, .str text.1)]

def ChainHop.toDict : ChainHop → Json
  | profile target => .obj [("type", .str "profile"), ("target", .str target.1), ("required", .bool true)]
  | group target selectionPolicy =>
    .obj ([("type", .str "group"), ("target", .str target.1), ("required", .bool true)] ++
      if selectionPolicy then [("selection_policy", .str "group_policy")] else [])

/-- `ChainHop(...)` with the checks of `__post_init__`. -/
def ChainHop.build (type : String) (target : Json) (required : Bool) (selectionPolicy : Option Trimmed) :
    Except Error ChainHop := do
  if type ≠ "profile" ∧ type ≠ "group" then
    refuse "route_chain.hop.type must be one of: profile, group"
  let target ← requiredString "route_chain.hop.target" target
  let hop ←
    if type = "group" then do
      let target ← validateChainId "route_chain.hop.target" (.str target.1)
      match selectionPolicy with
      | none => pure (ChainHop.group target false)
      | some policy =>
        if policy.1 = "group_policy" then pure (ChainHop.group target true)
        else refuse "route_chain.hop.selection_policy must be 'group_policy' when set"
    else
      match selectionPolicy with
      | none => pure (ChainHop.profile target)
      | some _ => refuse "route_chain.hop.selection_policy is only supported for group hops"
  if required then return hop
  else refuse "route_chain.hop.required must be true until explicit alternate-hop failover exists"

def ChainHop.fromDict (data : Json) : Except Error ChainHop :=
  match data with
  | .obj data => do
    rejectUnknownKeys data ["type", "target", "required", "selection_policy"] "route_chain.hop"
    let type ← missingIn "route_chain.hop" data "type"
    let target ← missingIn "route_chain.hop" data "target"
    let required ← strictBool (Object.getD data "required" (.bool true)) "route_chain.hop.required"
    let selectionPolicy ←
      optionalString "route_chain.hop.selection_policy" (Object.getD data "selection_policy" .null)
    ChainHop.build type.toStr target required selectionPolicy
  | _ => refuse "route_chain.hop must be an object"

@[simp] theorem requiredString_val (field : String) (text : Trimmed) :
    requiredString field (.str text.1) = .ok text := by
  simp [requiredString]

@[simp] theorem requiredString_slug (field : String) (name : GroupName) :
    requiredString field (.str name.1) = .ok (slugText name) := requiredString_val field (slugText name)

theorem ChainHop.fromDict_toDict (hop : ChainHop) : ChainHop.fromDict hop.toDict = .ok hop := by
  have hpol : optionalString "route_chain.hop.selection_policy" (.str "group_policy") =
      .ok (some ⟨"group_policy", by decide, by decide⟩) :=
    congrArg Except.ok (trimmed?_val ⟨"group_policy", by decide, by decide⟩)
  cases hop with
  | profile target =>
    simp [ChainHop.fromDict, ChainHop.toDict, rejectUnknownKeys, missingIn, PyDict.get, Object.getD, strictBool,
      optionalString, ChainHop.build, Json.toStr]
  | group target selectionPolicy =>
    cases selectionPolicy with
    | false =>
      simp [ChainHop.fromDict, ChainHop.toDict, rejectUnknownKeys, missingIn, PyDict.get,
        Object.getD, strictBool, optionalString, ChainHop.build, Json.toStr, slugText]
    | true =>
      simp [ChainHop.fromDict, ChainHop.toDict, rejectUnknownKeys, missingIn, PyDict.get,
        Object.getD, strictBool, hpol, ChainHop.build, Json.toStr, slugText]

def RouteChain.toDict (chain : RouteChain) : Json :=
  .obj ([("id", .str chain.id.1), ("enabled", .bool chain.enabled),
    ("hops", .arr (chain.hops.map ChainHop.toDict)),
      ("dns_strategy", .str "chain"), ("failure_policy", .str "fail_closed"),
      ("health_policy", .str "all_required")] ++
    optionalField "description" chain.description ++ optionalField "created_at" chain.createdAt ++
    optionalField "updated_at" chain.updatedAt)

def routeChainFields : List String :=
  ["id", "enabled", "description", "hops", "dns_strategy", "failure_policy", "health_policy", "created_at",
    "updated_at"]

/-- A policy of a chain, which has one value. -/
def onlyValue (value : Json) (expected field : String) : Except Error Unit :=
  if value.toStr = expected then .ok () else refuse (field ++ " must be: " ++ expected)

def RouteChain.fromDict (data : Json) : Except Error RouteChain :=
  match data with
  | .obj data => do
    rejectUnknownKeys data routeChainFields "route_chain"
    let id ← missingIn "route_chain" data "id"
    let hops ← missingIn "route_chain" data "hops"
    let enabled ← strictBool (Object.getD data "enabled" (.bool false)) "route_chain.enabled"
    let id ← validateChainId "route_chain.id" id
    let description ← optionalString "route_chain.description" (Object.getD data "description" .null)
    onlyValue (Object.getD data "dns_strategy" (.str "chain")) "chain" "route_chain.dns_strategy"
    onlyValue (Object.getD data "failure_policy" (.str "fail_closed")) "fail_closed"
      "route_chain.failure_policy"
    onlyValue (Object.getD data "health_policy" (.str "all_required")) "all_required"
      "route_chain.health_policy"
    match hops with
    | .arr items => do
      let hops ← items.mapM ChainHop.fromDict
      if h : hops ≠ [] then do
        let createdAt ← optionalString "route_chain.created_at" (Object.getD data "created_at" .null)
        let updatedAt ← optionalString "route_chain.updated_at" (Object.getD data "updated_at" .null)
        return {
          id := id, hops := hops, enabled := enabled, description := description, createdAt := createdAt
          updatedAt := updatedAt, nonempty := h }
      else refuse "route_chain.hops must be a non-empty list"
    | _ => refuse "route_chain.hops must be a non-empty list"
  | _ => refuse "route_chain must be an object"

theorem RouteChain.fromDict_toDict (chain : RouteChain) : RouteChain.fromDict chain.toDict = .ok chain := by
  have hhops : (chain.hops.map ChainHop.toDict).mapM ChainHop.fromDict = .ok chain.hops :=
    mapM_ok_of_forall fun hop _ => ChainHop.fromDict_toDict hop
  obtain ⟨id, hops, enabled, description, createdAt, updatedAt, nonempty⟩ := chain
  cases description <;> cases createdAt <;> cases updatedAt <;>
    simp [-List.mapM_map, RouteChain.fromDict, RouteChain.toDict, rejectUnknownKeys,
      routeChainFields, missingIn,
      PyDict.get, Object.getD, strictBool, optionalField, onlyValue, Json.toStr, nonempty, hhops,
      optionalString]

def RouteChainDocument.toDict (document : RouteChainDocument) : Object :=
  [("schema_version", .int 1), ("chains", .arr (document.chains.map RouteChain.toDict))]

def RouteChainDocument.fromDict (data : Object) : Except Error RouteChainDocument := do
  rejectUnknownKeys data ["schema_version", "chains"] "route_chains document"
  schemaVersion (data.getD "schema_version" (.int 1)) "route_chains.schema_version"
    "unsupported route_chains schema_version: "
  match data.getD "chains" (.arr []) with
  | .arr items => do
    let chains ← items.mapM RouteChain.fromDict
    if h : (chains.map (·.id)).Nodup then return { chains, distinct := h }
    else refuse "route_chains.chains must not contain duplicate ids"
  | _ => refuse "route_chains.chains must be a list"

theorem RouteChainDocument.fromDict_toDict (document : RouteChainDocument) :
    RouteChainDocument.fromDict document.toDict = .ok document := by
  have hkeys : rejectUnknownKeys document.toDict
      ["schema_version", "chains"] "route_chains document" = .ok () :=
    rejectUnknownKeys_ok fun key h => h
  have hchains : (document.chains.map RouteChain.toDict).mapM RouteChain.fromDict = .ok document.chains :=
    mapM_ok_of_forall fun chain _ => RouteChain.fromDict_toDict chain
  simp only [RouteChainDocument.fromDict, hkeys]
  simp [RouteChainDocument.toDict, PyDict.get, Object.getD, hchains, document.distinct]

end WatchdogVpn.Documents
