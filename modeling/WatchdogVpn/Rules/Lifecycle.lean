import WatchdogVpn.Rules.Engine
import WatchdogVpn.Rules.Trust
import Mathlib.Data.List.Dedup

/-!
# The lifecycle of rule sets

`refresh` loads rule sets into the cache and records a status for each, `runtime_plan` declares the
cached file of every rule set that the rules refer to. Policies and statuses are changed
independently: a policy that is added again does not touch the status, and a status says nothing of
the policy under which it came about. A file of the cache carries the source that its bytes were
fetched from, which the program does not know.

What is fetched, whether the cache could be written and what the clock says are answers from outside
(`RefreshAnswers`).
-/

namespace WatchdogVpn.Rules

abbrev Bytes : Type := List UInt8

/-- A file of the cache, with the source of its bytes. -/
structure CacheFile where
  bytes : Bytes
  source : String

abbrev Cache : Type := String → Option CacheFile

inductive CacheExtension
  | srs
  | json
  deriving DecidableEq

/-- What the lifecycle computes with. The names of the cache are digests of the identifiers, taken
to be without collisions. -/
structure RuleSetLibrary where
  sha256 : Bytes → String
  /-- `_cache_extension(source)`. -/
  extension : String → CacheExtension
  /-- The path of the cache for an identifier. -/
  path : String → CacheExtension → String
  /-- `rule_set_tag(id)`. -/
  tag : String → String
  /-- The error of a rule set in the source format that cannot be read. -/
  malformed : Bytes → Option String
  path_owner : ∀ id id' ext ext', path id ext = path id' ext' → id = id'

/-- What comes from outside while one rule set is refreshed. -/
structure RefreshAnswers where
  /-- The clock, when it is asked whether the refresh is due, when the check is stamped and when the
  age of the cache is taken. -/
  dueAt : Time := 0
  checkedAt : Time := 0
  freshAt : Time := 0
  payload : Except String Bytes
  write : Except String Unit := .ok ()

structure RuleSetRefreshResult where
  id : String
  state : RuleSetLoadState
  refreshed : Bool
  usedExistingCache : Bool
  cachePath : Option String
  loadedSha256 : Option String
  error : Option String
  critical : Bool
  failureBehavior : RuleSetFailureBehavior

/-- A declaration, with the rule set it is for. -/
structure RuleSetDeclaration where
  ruleSetId : String
  tag : String
  format : String
  path : String

structure RuleSetRuntimePlan where
  tags : PyDict String String
  declarations : List RuleSetDeclaration
  results : List RuleSetRefreshResult

structure RuleSetState where
  registry : RuleSetTrustRegistry := {}
  cache : Cache := fun _ => none

/-! ## One rule set -/

namespace RuleSetLibrary

variable (lib : RuleSetLibrary)

def cachePathFor (policy : RuleSetTrustPolicy) : String := lib.path policy.id (lib.extension policy.source)

def sourceFormat (source : String) : String := if lib.extension source = .srs then "binary" else "source"

def existingCachePath (cache : Cache) (policy : RuleSetTrustPolicy) (previous : RuleSetStatus) :
    Option String :=
  (previous.cachePath.toList ++ [lib.cachePathFor policy]).find? fun path => (cache path).isSome

end RuleSetLibrary

/-- The status says that there is a file to use. -/
def RuleSetStatus.usable (status : RuleSetStatus) : Bool := status.state = .loaded ∨ status.state = .stale

def seconds (n : Int) : Time := n * 1000000

def refreshDue (cache : Cache) (policy : RuleSetTrustPolicy) (status : RuleSetStatus) (now : Time) : Bool :=
  if status.usable = false then true
  else if (status.cachePath.any fun path => (cache path).isSome) = false then true
  else
    match status.lastCheckedAt with
    | none => true
    | some checked => seconds policy.updateIntervalSeconds ≤ now - checked

def cacheFresh (policy : RuleSetTrustPolicy) (status : RuleSetStatus) (now : Time) : Bool :=
  match status.lastLoadedAt with
  | none => false
  | some loaded => now - loaded ≤ seconds policy.maxStaleSeconds

def refreshResult (policy : RuleSetTrustPolicy) (status : RuleSetStatus) (refreshed usedExistingCache : Bool) :
    RuleSetRefreshResult :=
  { id := policy.id, state := status.state, refreshed, usedExistingCache,
    cachePath := status.cachePath, loadedSha256 := status.loadedSha256, error := status.error,
    critical := policy.critical, failureBehavior := policy.failureBehavior }

namespace RuleSetLibrary

variable (lib : RuleSetLibrary) (policy : RuleSetTrustPolicy)

/-- The part of `_refresh_one` under `try`: the payload, if it is the one that the policy pins and
can be read. -/
def accept (answers : RefreshAnswers) : Except String Bytes := do
  let payload ← answers.payload
  let actual := lib.sha256 payload
  match policy.expectedSha256 with
  | some expected =>
    if actual ≠ expected then .error ("sha256 mismatch: expected " ++ expected ++ ", got " ++ actual)
  | none => pure ()
  if lib.sourceFormat policy.source = "source" then
    match lib.malformed payload with
    | some message => .error message
    | none => pure ()
  answers.write
  return payload

def loadedStatus (payload : Bytes) (checkedAt : Time) : RuleSetStatus :=
  { id := policy.id, state := .loaded, loadedSha256 := some (lib.sha256 payload),
    lastLoadedAt := some checkedAt,
    lastCheckedAt := some checkedAt, cachePath := some (lib.cachePathFor policy) }

/-- `_fallback_status`. A status of this kind without an error text cannot be built. -/
def fallbackStatus (cache : Cache) (policy : RuleSetTrustPolicy) (previous : RuleSetStatus)
    (answers : RefreshAnswers) (error : String) : Except Error RuleSetStatus :=
  let existing := lib.existingCachePath cache policy previous
  let stale := existing.isSome && cacheFresh policy previous answers.freshAt
  let state : RuleSetLoadState := if stale then .stale else .failed
  if h : error = "" then refuseValue ("rule-set status " ++ state.value ++ " requires an error")
  else
    .ok { id := policy.id, state, loadedSha256 := previous.loadedSha256,
          lastLoadedAt := previous.lastLoadedAt, lastCheckedAt := some answers.checkedAt,
          cachePath := existing.or previous.cachePath, error := some error, errorGiven := fun _ => h }

/-- `_refresh_one`, with the cache it leaves. -/
def refreshOne (previous : RuleSetStatus) (force : Bool) (answers : RefreshAnswers)
    (cache : Cache) : Except Error (RuleSetStatus × RuleSetRefreshResult) × Cache :=
  if force = false ∧ refreshDue cache policy previous answers.dueAt = false ∧
      (lib.existingCachePath cache policy previous).isSome = true then
    (.ok (previous, refreshResult policy previous false true), cache)
  else
    match lib.accept policy answers with
    | .ok payload =>
      let status := lib.loadedStatus policy payload answers.checkedAt
      (.ok (status, refreshResult policy status true false),
        Function.update cache (lib.cachePathFor policy) (some ⟨payload, policy.source⟩))
    | .error error =>
      ((lib.fallbackStatus cache policy previous answers error).map fun status =>
        (status, refreshResult policy status false (status.state = .stale)), cache)

/-! ## All of them -/

/-- The loop of `refresh`. An error leaves the files that were written before it. -/
def refreshAll (registry : RuleSetTrustRegistry) (force : Bool) (answers : String → RefreshAnswers) :
    List RuleSetTrustPolicy → Cache → Except Error (List (RuleSetStatus × RuleSetRefreshResult)) × Cache
  | [], cache => (.ok [], cache)
  | policy :: policies, cache =>
    match lib.refreshOne policy (registry.statusFor policy.id) force (answers policy.id) cache with
    | (.error e, cache) => (.error e, cache)
    | (.ok out, cache) =>
      match refreshAll registry force answers policies cache with
      | (.error e, cache) => (.error e, cache)
      | (.ok outs, cache) => (.ok (out :: outs), cache)

/-- `evict_unowned_cache_files`. -/
def evict (registry : RuleSetTrustRegistry) (cache : Cache) : Cache := fun path =>
  if path ∈ registry.policies.map (fun entry => lib.cachePathFor entry.2) ∨
      path ∈ (registry.statuses.filter fun entry => (registry.policyFor entry.1).isSome).filterMap
      (·.2.cachePath) then
    cache path
  else none

end RuleSetLibrary

variable (registry : RuleSetTrustRegistry)

def RuleSetTrustRegistry.updateStatuses (statuses : List RuleSetStatus) :
    RuleSetTrustRegistry :=
  { registry with statuses := statuses.foldl (fun d status => d.set status.id status) registry.statuses }

namespace RuleSetLibrary

variable (lib : RuleSetLibrary)

def refresh (s : RuleSetState) (ids : Option (List String)) (force evict : Bool)
    (answers : String → RefreshAnswers) : Except Error (List RuleSetRefreshResult) × RuleSetState :=
  let selected := ((ids.getD (s.registry.policies.map (·.1))).dedup).insertionSort (· ≤ ·)
  let missing := selected.filter fun id => (s.registry.policyFor id).isNone
  if missing ≠ [] then
    (.error ⟨.runtimeError, "rule-set trust policy not found: " ++ ", ".intercalate missing⟩, s)
  else
    match lib.refreshAll s.registry force answers (selected.filterMap s.registry.policyFor) s.cache with
    | (.error e, cache) => (.error e, { s with cache })
    | (.ok outs, cache) =>
      let registry := s.registry.updateStatuses (outs.map (·.1))
      (.ok (outs.map (·.2)),
        { registry, cache := if evict then lib.evict registry cache else cache })

/-- `referenced_rule_set_ids`, in order. -/
def referencedRuleSetIds (groups : List RuleGroup) : List String :=
  let values := (groups.filter (·.enabled)).flatMap fun group =>
    (group.rules.filter (·.enabled)).flatMap fun rule =>
    rule.conditions.flatMap fun c => if c.1.unevaluable then c.2.map String.ofList else []
  values.dedup.insertionSort (· ≤ ·)

variable (registry : RuleSetTrustRegistry)

/-- The declaration of a rule set, if its status has a file. -/
def declare (id : String) : Option RuleSetDeclaration :=
  match registry.policyFor id, (registry.statusFor id).cachePath with
  | some policy, some path =>
    if (registry.statusFor id).usable then
      some { ruleSetId := id, tag := lib.tag id, format := lib.sourceFormat policy.source, path }
    else none
  | _, _ => none

/-- The rule sets without which the runtime does not start. -/
def planFailures (ids : List String) : List String :=
  ids.filterMap fun id =>
    match lib.declare registry id, registry.policyFor id with
    | none, some policy =>
      if policy.failureBehavior = .failClosed then
        let status := registry.statusFor id
        some (id ++ ": " ++ (status.error.filter (· ≠ "")).getD status.state.value)
      else none
    | _, _ => none

/-- The end of `runtime_plan`, after the refresh. -/
def planOf (ids : List String) (results : List RuleSetRefreshResult) :
    Except Error RuleSetRuntimePlan :=
  let declarations := ids.filterMap (lib.declare registry)
  let failures := lib.planFailures registry ids
  if failures ≠ [] then
    .error ⟨.runtimeError, "critical rule-set unavailable; refusing runtime start: " ++
      "; ".intercalate failures⟩
  else .ok { tags := declarations.map fun d => (d.ruleSetId, d.tag), declarations, results }

/-- `runtime_plan`. The clock is asked for each rule set whether it is due, before any is refreshed.
-/
def runtimePlan (s : RuleSetState) (groups : List RuleGroup) (refreshDue : Bool) (dueAt : String → Time)
    (answers : String → RefreshAnswers) : Except Error RuleSetRuntimePlan × RuleSetState :=
  let ids := referencedRuleSetIds groups
  let missing := ids.filter fun id => (s.registry.policyFor id).isNone
  let due := ids.filter fun id =>
    (s.registry.policyFor id).any fun policy =>
      Rules.refreshDue s.cache policy (s.registry.statusFor id) (dueAt id)
  if ids = [] then (.ok { tags := [], declarations := [], results := [] }, s)
  else if missing ≠ [] then
    (.error ⟨.runtimeError, "referenced rule-set has no trust policy: " ++ ", ".intercalate missing⟩, s)
  else if refreshDue = true ∧ due ≠ [] then
    match lib.refresh s (some due) false true answers with
    | (.error e, s) => (.error e, s)
    | (.ok results, s) => (lib.planOf s.registry ids results, s)
  else (lib.planOf s.registry ids [], s)

end RuleSetLibrary

/-! ## Runs -/

inductive RuleSetOp
  | add (policy : RuleSetTrustPolicy)
  | remove (id : String)
  | refresh (ids : Option (List String)) (force evict : Bool) (answers : String → RefreshAnswers)
  | runtimePlan (groups : List RuleGroup) (refreshDue : Bool) (dueAt : String → Time)
      (answers : String → RefreshAnswers)

/-- `RuleSetTrustStore.add`. The status of the rule set stays as it is. -/
def RuleSetTrustRegistry.add (policy : RuleSetTrustPolicy) : RuleSetTrustRegistry :=
  { registry with policies := registry.policies.set policy.id policy }

/-- `RuleSetTrustStore.remove`. Removing a policy that is not there is an error and changes nothing.
-/
def RuleSetTrustRegistry.remove (id : String) : RuleSetTrustRegistry :=
  { registry with policies := registry.policies.filter fun entry => entry.1 ≠ id }

namespace RuleSetLibrary

variable (lib : RuleSetLibrary)

/-- The state that a call leaves, whether it returns or raises. -/
def step (s : RuleSetState) : RuleSetOp → RuleSetState
  | .add policy => { s with registry := s.registry.add policy }
  | .remove id => { s with registry := s.registry.remove id }
  | .refresh ids force evict answers => (lib.refresh s ids force evict answers).2
  | .runtimePlan groups refreshDue dueAt answers => (lib.runtimePlan s groups refreshDue dueAt answers).2

def run (ops : List RuleSetOp) : RuleSetState := ops.foldl lib.step {}

end RuleSetLibrary

end WatchdogVpn.Rules
