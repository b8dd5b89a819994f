import WatchdogVpn.Backup.Disk
import WatchdogVpn.Documents.Profiles
import WatchdogVpn.Documents.Routing
import WatchdogVpn.Documents.Settings
import WatchdogVpn.Documents.Policies

/-!
# What the stores hold

The values that the ten stores load from the files of a configuration directory. The texts of the
files come in through `TextLibrary`: JSON and TOML texts read back as what they were written from,
where the order of a dictionary's keys is not part of its value.
-/

namespace WatchdogVpn.Backup

open Documents
open Rules (Error refuse RuleGroup)

structure TextLibrary (B : Type) {D : Type} (lib : Library D) where
  /-- `json.loads`, with the exception that a store raises for a text that is not JSON. -/
  loads : B → Except Error Json
  /-- `json.dumps(value, indent=2, sort_keys=True)` and a newline. -/
  dumps : Json → B
  loads_dumps : ∀ value, loads (dumps value) = .ok value
  tomlLoads : B → Except Error Object
  tomlDumps : Object → B
  tomlLoads_config : ∀ config : AppConfig lib, tomlLoads (tomlDumps (config.toDict lib)) =
    .ok (config.toDict lib)
  tomlLoads_state : ∀ state : State, tomlLoads (tomlDumps state.toDict) = .ok state.toDict
  size : B → Nat

variable {B D : Type} {lib : Library D} (text : TextLibrary B lib)

/-! ## Loading a file -/

def loadJson (default : Json) : Option B → Except Error Json
  | none => .ok default
  | some b => text.loads b

def requireMapping (value : Json) : Except Error Object :=
  match value with
  | .obj fields => .ok fields
  | _ => refuse "must contain a JSON object"

def requireList (value : Json) : Except Error (List Json) :=
  match value with
  | .arr items => .ok items
  | _ => refuse "must contain a JSON array"

/-- `dict(item)`. -/
def asDict (value : Json) : Except Error Object :=
  match value with
  | .obj fields => .ok fields
  | _ => .error ⟨.typeError, "cannot convert to a dictionary"⟩

variable (file : Option B)

/-- `_load_raw` of the stores that keep a list. -/
def loadRaw : Except Error (List Object) := do
  (← requireList (← loadJson text (.arr []) file)).mapM asDict

def loadConfig : Except Error (AppConfig lib) :=
  match file with
  | none => AppConfig.load lib none
  | some b => do AppConfig.load lib (some (← text.tomlLoads b))

def loadProfiles : Except Error (List (Profile D)) := do
  (← loadRaw text file).mapM (Profile.fromDict lib)

def loadProviders : Except Error (List (Provider D)) := do
  (← loadRaw text file).mapM (Provider.fromDict lib)

def loadNodeGroups : Except Error (List NodeGroup) := do
  (← loadRaw text file).mapM NodeGroup.fromDict

def loadAppPolicy : Except Error (AppPolicy lib.compiles) := do
  match ← requireMapping (← loadJson text (.obj []) file) with
  | [] => .ok (.default lib.compiles)
  | data => AppPolicy.fromDict lib data

def loadRouteChains : Except Error RouteChainDocument := do
  RouteChainDocument.fromDict (← requireMapping (← loadJson text
    (.obj [("schema_version", .int 1), ("chains", .arr [])]) file))

def loadState : Except Error State :=
  match file with
  | none => .ok .default
  | some b => do State.fromDict (← text.tomlLoads b)

def loadDnsPolicy : Except Error (DNSPolicy lib) := do
  DNSPolicy.load lib (← requireMapping (← loadJson text (.obj []) file))

def validateSize (document : MetricsDocument lib) : Except Error Unit :=
  -- the text that is measured is the one that is written, without the newline at its end
  ensure (text.size (text.dumps (.obj (document.toDict lib))) ≤ document.maxBytes.1 + 1)
    ⟨.persistentValidationError, "metrics document exceeds max_bytes"⟩

/-- What `MetricsStore.load` makes of a document: one with counters that are not kept is stamped and
checked before it is written back. -/
def sanitizeMetrics (document : MetricsDocument lib) : Except Error (MetricsDocument lib) :=
  if document.clean then .ok document
  else do
    let sanitized := (document.sanitized lib).withUpdatedAtNow lib
    validateSize text sanitized
    return sanitized

def loadMetricsDocument : Except Error (MetricsDocument lib) :=
  match file with
  | none => .ok {}
  | some b => do
    match ← requireMapping (← text.loads b) with
    | [] => .ok {}
    | data => sanitizeMetrics text (← MetricsDocument.fromDict lib data)

/-- A rule group as a file of it is read. -/
abbrev StoredGroup : Type := { group : RuleGroup // ∀ rule ∈ group.rules, rule.Normal }

def loadGroup (b : B) : Except Error StoredGroup := do
  let ⟨group, h⟩ ← attested (RuleGroup.fromDict (← requireMapping (← text.loads b)))
  return ⟨group, RuleGroup.fromDict_normal h⟩

/-! ## Loading a directory -/

structure Contents {D : Type} (lib : Library D) where
  config : AppConfig lib
  profiles : List (Profile D)
  providers : List (Provider D)
  groups : List StoredGroup
  appPolicy : AppPolicy lib.compiles
  nodeGroups : List NodeGroup
  routeChains : RouteChainDocument
  state : State
  dnsPolicy : DNSPolicy lib
  metrics : MetricsDocument lib

/-- The contents of the rule files, in the order of their names. -/
def Disk.ruleFiles (disk : Disk B) : List B := disk.ruleStems.filterMap fun stem => disk.files (.rule stem)

/-- Every store of a directory loads, and this is what they load. -/
structure Loads (disk : Disk B) (contents : Contents lib) : Prop where
  config : loadConfig text (disk.files (.config .config)) = .ok contents.config
  profiles : loadProfiles text (disk.files (.config .profiles)) = .ok contents.profiles
  providers : loadProviders text (disk.files (.config .providers)) = .ok contents.providers
  groups : disk.ruleFiles.mapM (loadGroup text) = .ok contents.groups
  appPolicy : loadAppPolicy text (disk.files (.config .appPolicy)) = .ok contents.appPolicy
  nodeGroups : loadNodeGroups text (disk.files (.config .nodeGroups)) = .ok contents.nodeGroups
  routeChains : loadRouteChains text (disk.files (.config .chains)) = .ok contents.routeChains
  state : loadState text (disk.files (.config .state)) = .ok contents.state
  dnsPolicy : loadDnsPolicy text (disk.files (.config .dnsPolicy)) = .ok contents.dnsPolicy
  metrics : loadMetricsDocument text (disk.files (.config .metrics)) = .ok contents.metrics

/-- **What is written is read back.** Every document of the stores that has passed its checks is
written as a dictionary that passes them as that document, with all its fields; a rule group, if it
has been read. -/
theorem documents_round_trip (lib : Library D) :
    (∀ config : AppConfig lib, AppConfig.fromDict lib config.toDict = .ok config) ∧
    (∀ state : State, State.fromDict state.toDict = .ok state) ∧
    (∀ profile : Profile D, Profile.fromDict lib (profile.toDict lib) = .ok profile) ∧
    (∀ provider : Provider D, Provider.fromDict lib (provider.toDict lib) = .ok provider) ∧
    (∀ group : NodeGroup, NodeGroup.fromDict group.toDict = .ok group) ∧
    (∀ policy : AppPolicy lib.compiles, AppPolicy.fromDict lib (policy.toDict lib) = .ok policy) ∧
    (∀ document : RouteChainDocument, RouteChainDocument.fromDict document.toDict = .ok document) ∧
    (∀ document : MetricsDocument lib, MetricsDocument.fromDict lib (document.toDict lib) = .ok document) ∧
    ∀ data group, RuleGroup.fromDict data = .ok group → RuleGroup.fromDict group.toDict = .ok group :=
  ⟨AppConfig.fromDict_toDict lib, State.fromDict_toDict, Profile.fromDict_toDict lib,
    Provider.fromDict_toDict lib,
    NodeGroup.fromDict_toDict, AppPolicy.fromDict_toDict lib, RouteChainDocument.fromDict_toDict,
    MetricsDocument.fromDict_toDict lib, fun _ _ h => RuleGroup.fromDict_toDict (RuleGroup.fromDict_normal h)⟩

end WatchdogVpn.Backup
