import WatchdogVpn.Lib.PyDict
import WatchdogVpn.Rules.Model

/-!
# Trust in rule sets

A policy says where a rule set comes from and which digest it must have, a status what became of
the last attempt to load it. The registry holds both, each under the identifier of the rule set.
-/

namespace WatchdogVpn.Rules

inductive RuleSetKind
  | remote
  | builtIn
  deriving DecidableEq

def RuleSetKind.value : RuleSetKind → String
  | remote => "remote"
  | builtIn => "built-in"

inductive RuleSetFailureBehavior
  | failClosed
  | warnAndSkip
  deriving DecidableEq

def RuleSetFailureBehavior.value : RuleSetFailureBehavior → String
  | failClosed => "fail-closed"
  | warnAndSkip => "warn-and-skip"

inductive RuleSetLoadState
  | notEvaluated
  | loaded
  | stale
  | failed
  deriving DecidableEq

def RuleSetLoadState.value : RuleSetLoadState → String
  | notEvaluated => "not-evaluated"
  | loaded => "loaded"
  | stale => "stale"
  | failed => "failed"

/-- A point in time, in microseconds. -/
abbrev Time : Type := Int

structure RuleSetTrustPolicy where
  id : String
  kind : RuleSetKind
  source : String
  critical : Bool
  expectedSha256 : Option String
  updateIntervalSeconds : Int
  maxStaleSeconds : Int
  failureBehavior : RuleSetFailureBehavior
  idNonempty : id ≠ ""
  intervalPositive : 0 < updateIntervalSeconds
  staleAtLeastInterval : updateIntervalSeconds ≤ maxStaleSeconds
  remotePinned : kind = .remote → expectedSha256.isSome = true

structure RuleSetStatus where
  id : String
  state : RuleSetLoadState := .notEvaluated
  loadedSha256 : Option String := none
  lastLoadedAt : Option Time := none
  lastCheckedAt : Option Time := none
  cachePath : Option String := none
  error : Option String := none
  errorGiven : state = .failed ∨ state = .stale → error.getD "" ≠ "" := by decide

structure RuleSetTrustRegistry where
  policies : PyDict String RuleSetTrustPolicy := []
  statuses : PyDict String RuleSetStatus := []

namespace RuleSetTrustRegistry

def policyFor (registry : RuleSetTrustRegistry) (id : String) : Option RuleSetTrustPolicy :=
  registry.policies.get id

def statusFor (registry : RuleSetTrustRegistry) (id : String) : RuleSetStatus :=
  (registry.statuses.get id).getD { id := id }

end RuleSetTrustRegistry

end WatchdogVpn.Rules
