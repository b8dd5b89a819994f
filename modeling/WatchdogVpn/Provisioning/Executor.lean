import WatchdogVpn.Provisioning.Journal

/-!
# Executors, their registry and the digests plans are signed with

An `Executor` holds what an executor computes from its own code: its plan, the undo record
it rebuilds for a step, the ownership it expects. What an executor does to the machine
(inspect, apply, verify, undo, postcondition) is asked of the host (`World`).
-/

namespace WatchdogVpn.Provisioning

/-- The deterministic part of an executor. -/
structure Executor where
  executorId : String
  executorVersion : String
  supportedMethodKind : String
  planSteps : (capabilityId dependencyId : String) → Except Exc (List ProvisioningStep)
  postconditionDescription : String
  reconstructUndoRecord : StepRecord → Except Exc Dict
  expectedOwnershipForStep : ProvisioningPlan → ProvisioningStep → Except Exc OwnershipCandidate
  stepIsReplaySafe : StepRecord → Bool := fun _ => true
  declaresNetworkRequired : Bool := false

/-- An executor as registered: recovery first binds it to the interrupted journal. -/
structure RegisteredExecutor extends Executor where
  recoveryBoundExecutor : TransactionJournal → Except Exc Executor := fun _ => .ok toExecutor

/-- `TrustedExecutorRegistry`: executors by method kind and method id. -/
structure TrustedExecutorRegistry where
  executors : List ((String × String) × RegisteredExecutor) := []

def TrustedExecutorRegistry.resolve (reg : TrustedExecutorRegistry) (methodKind methodId : String)
    (expectedExecutorVersion : String) : Except Exc RegisteredExecutor :=
  let missing : Except Exc RegisteredExecutor := .error ⟨.executorNotRegisteredError,
    "no trusted executor registered for method_kind='" ++ methodKind ++ "' method_id='" ++ methodId ++
      "' executor_version='" ++ expectedExecutorVersion ++ "'"⟩
  match reg.executors.lookup (methodKind, methodId) with
  | none => missing
  | some e => if e.executorVersion ≠ expectedExecutorVersion then missing else .ok e

/-- `CustodyIsolationPolicy`; the trusted uids are never consulted. -/
structure CustodyIsolationPolicy where
  requireUidSeparation : Bool := false
  adversaryUid : Option Nat := none

def strictCustodyIsolationPolicy : CustodyIsolationPolicy := { requireUidSeparation := true }
def labCustodyIsolationPolicy : CustodyIsolationPolicy := { requireUidSeparation := false }

/-- The roots executors may work under. `locked` says that one handle per allowed root has been
opened under the provisioner lock. -/
structure ExecutionContext where
  allowedRoots : List String
  forbiddenRoots : List String := []
  locked : Bool := false
  custodyIsolationPolicy : CustodyIsolationPolicy := strictCustodyIsolationPolicy

/-- What one invocation of the engine is given. `sha256Json` is SHA-256 over the canonical JSON
text of a value. -/
structure ProvisioningEnvironment where
  registry : TrustedExecutorRegistry
  expectedExecutorVersion : String
  context : ExecutionContext
  networkAvailable : Bool := true
  sha256Json : Value → String

/-- The resolver decision `prepare` starts from. -/
structure ResolutionDecision where
  resolutionStatus : String
  executionReady : Bool
  capabilityId : String
  dependencyId : String
  selectedMethodId : Option String
  selectedMethodKind : Option String
  resolvedRelease : Option String
  resolvedDistribution : Option String
  machineArchitecture : Option String
  supportClassification : String
  selectedAsset : Option Dict

/-! ## Digests -/

def canonicalStepMapping (s : ProvisioningStep) : Value :=
  .dict [("action_type", .str s.actionType), ("intent", .dict s.intent), ("sequence", .int s.sequence),
    ("step_id", .str s.stepId), ("target", .ofOption s.target)]

def canonicalPlanMapping (p : ProvisioningPlan) : Value :=
  .dict [("architecture", .str p.architecture), ("capability_id", .str p.capabilityId),
    ("dependency_id", .str p.dependencyId), ("executor_id", .str p.executorId),
    ("executor_version", .str p.executorVersion), ("postcondition", .str p.postcondition),
    ("resolved_target", .str p.resolvedTarget),
    ("selected_asset", (p.selectedAsset.map Value.dict).getD .null),
    ("selected_method_id", .str p.selectedMethodId), ("selected_method_kind", .str p.selectedMethodKind),
    ("steps", .list (p.steps.map canonicalStepMapping)),
    ("support_classification", .str p.supportClassification)]

def computePlanDigest (env : ProvisioningEnvironment) (p : ProvisioningPlan) : String :=
  env.sha256Json (canonicalPlanMapping p)

def canonicalIntermediateMapping (i : IntermediateIdentity) : Value :=
  .dict [("dev", .int i.dev), ("ino", .int i.ino), ("mode", .int i.mode),
    ("relative_name", .str i.relativeName), ("uid", .int i.uid)]

def canonicalPathAuthorityMapping (a : PathAuthority) : Value :=
  .dict [("component_count", .int a.componentCount),
    ("components", .list (a.components.map fun c =>
      .dict [("dev", .int c.dev), ("index", .int c.index), ("ino", .int c.ino), ("mode", .int c.mode),
        ("relative_name", .str c.relativeName), ("uid", .int c.uid)])),
    ("root_path", .str a.rootPath), ("target_relative_path", .str a.targetRelativePath)]

def canonicalPathAuthorityV2Mapping (a : PathAuthorityV2) : Value :=
  .dict [("authority_digest", .str a.authorityDigest), ("chain_digest", .str a.chainDigest),
    ("component_count", .int a.componentCount),
    ("components", .list (a.components.map fun c =>
      .dict [("dev", .int c.dev), ("gid", .int c.gid), ("index", .int c.index), ("ino", .int c.ino),
        ("integrity", .ofOption c.integrity), ("mode", .int c.mode), ("name", .str c.name),
        ("nlink", .int c.nlink), ("role", .str c.role), ("uid", .int c.uid)])),
    ("configured_root", .str a.configuredRoot), ("plan_digest", .str a.planDigest),
    ("resource_id", .str a.resourceId), ("root_path", .str a.rootPath), ("schema", .str a.schema),
    ("target_relative_path", .str a.targetRelativePath), ("transaction_id", .str a.transactionId)]

/-- A candidate as it is hashed, and as a journal holds it. -/
def canonicalCandidateMapping (c : OwnershipCandidate) : Value :=
  .dict [("artifact_type", .str c.artifactType), ("gid", .ofNat? c.gid),
      ("integrity", .ofOption c.integrity),
      ("intermediate_identities", .list (c.intermediateIdentities.map canonicalIntermediateMapping)),
      ("method_id", .ofOption c.methodId), ("mode", .ofNat? c.mode),
      ("nlink", .ofNat? c.nlink),
      ("path_authority", (c.pathAuthority.map canonicalPathAuthorityMapping).getD .null),
      ("path_authority_v2", (c.pathAuthorityV2.map canonicalPathAuthorityV2Mapping).getD .null),
      ("post_install_fingerprint", .ofOption c.postInstallFingerprint),
      ("pre_existing", .bool c.preExisting),
      ("resource_identity", .str c.resourceIdentity), ("source", .ofOption c.source),
      ("uid", .ofNat? c.uid), ("version", .ofOption c.version)]

def canonicalOwnershipRecordMapping (r : OwnershipRecord) : Value :=
  .dict [("candidate", canonicalCandidateMapping r.candidate), ("capability_id", .str r.capabilityId),
    ("created_by_transaction", .ofOption r.createdByTransaction), ("executor_id", .str r.executorId),
    ("executor_version", .str r.executorVersion), ("product_owned", .bool r.productOwned)]

def canonicalUninstallPlanMapping (p : UninstallPlan) : Value :=
  .dict [("capability_id", .str p.capabilityId),
    ("ownership_records", .list (p.ownershipRecords.map canonicalOwnershipRecordMapping)),
    ("steps", .list (p.steps.map canonicalStepMapping)),
    ("target_transaction_id", .str p.targetTransactionId)]

def computeUninstallPlanDigest (env : ProvisioningEnvironment) (p : UninstallPlan) : String :=
  env.sha256Json (canonicalUninstallPlanMapping p)

end WatchdogVpn.Provisioning
