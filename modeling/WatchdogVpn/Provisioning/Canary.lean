import WatchdogVpn.Provisioning.World

/-!
# The canary executor

`CanaryExecutor` writes two small files under the first allowed root and nothing else. Its
plan, its undo records and the ownership it expects are functions of its code.
-/

namespace WatchdogVpn.Provisioning

open Effect

/-! ## What executors share -/

/-- `root / name`. -/
def joinPath (root name : String) : String := "/" ++ "/".intercalate (pathParts root ++ [name])

/-- `mapping[key]`. -/
def itemOf (d : Dict) (key : String) : Except Exc Value :=
  match Dict.get? d key with
  | some v => .ok v
  | none => .error ⟨.keyError, "'" ++ key ++ "'"⟩

/-! ## The canary -/

/-- A canary executor with what it takes from its process: its context, user and group, and SHA-256.
-/
structure CanaryExecutor where
  context : ExecutionContext
  uid : Nat
  gid : Nat
  sha256 : String → String
  requiresNetwork : Bool := false

namespace CanaryExecutor

variable (e : CanaryExecutor)

def markerContent (capabilityId : String) : String := "watchdogvpn-canary-marker:" ++ capabilityId

def companionContent (capabilityId markerContent : String) : String :=
  "watchdogvpn-canary-companion:" ++ capabilityId ++ ":" ++ e.sha256 markerContent

/-- One step of the plan: a file with this content. -/
def fileStep (sequence : Int) (stepId target content : String) : ProvisioningStep :=
  { sequence, stepId, actionType := "create_file",
    intent := [("content", .str content), ("content_sha256", .str (e.sha256 content)),
      ("expected_gid", .int e.gid), ("expected_mode", .int 0o600), ("expected_uid", .int e.uid)],
    target := some target }

def planSteps (capabilityId dependencyId : String) : Except Exc (List ProvisioningStep) := do
  validateIdentifier "capability_id" capabilityId
  validateIdentifier "dependency_id" dependencyId
  match e.context.allowedRoots with
  | [] => .error ⟨.other, "tuple index out of range"⟩
  | sandbox :: _ =>
    let marker := markerContent capabilityId
    return [e.fileStep 0 "create_marker" (joinPath sandbox (capabilityId ++ ".marker")) marker,
      e.fileStep 1 "create_companion" (joinPath sandbox (capabilityId ++ ".companion"))
        (e.companionContent capabilityId marker)]

def reconstructUndoRecord (r : StepRecord) : Except Exc Dict := do
  let content ← itemOf r.intent "content"
  let sha256 ← itemOf r.intent "content_sha256"
  return [("expected_content", content), ("expected_sha256", sha256), ("path", .ofOption r.target)]

def expectedOwnershipForStep (plan : ProvisioningPlan) (s : ProvisioningStep) : OwnershipCandidate :=
  let text key : Option String := match Dict.get s.intent key with | .str v => some v | _ => none
  let number key : Option Nat := match Dict.get s.intent key with | .int v => some v.toNat | _ => none
  { artifactType := "file", resourceIdentity := s.target.getD "", preExisting := false,
    methodId := some plan.selectedMethodId, source := text "source", version := text "version",
    integrity := text "content_sha256", uid := number "expected_uid", gid := number "expected_gid",
    mode := number "expected_mode", nlink := some 1, postInstallFingerprint := text "content_sha256" }

/-- What is registered. -/
def registered : RegisteredExecutor where
  executorId := "canary_lab_executor"
  executorVersion := "1"
  supportedMethodKind := "canary_lab"
  planSteps := e.planSteps
  postconditionDescription :=
    "canary marker and companion files present with expected content, permissions and no symlinks"
  reconstructUndoRecord := reconstructUndoRecord
  expectedOwnershipForStep := fun plan s => .ok (expectedOwnershipForStep plan s)
  declaresNetworkRequired := e.requiresNetwork

/-! ### What it does to the machine -/

def inspectedAbsent : Dict := [("content_matches", .null), ("exists", .bool false), ("is_symlink", .bool false)]

end CanaryExecutor

end WatchdogVpn.Provisioning
