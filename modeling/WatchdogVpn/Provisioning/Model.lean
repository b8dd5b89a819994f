import WatchdogVpn.Provisioning.Value

/-!
# The provisioning domain model

The states of a transaction and of its steps with the two transition tables, the plans,
the results executors give back, and the ownership, path-authority and custody records.
A plan carries the checks its constructor makes as fields, so a plan without steps or
with unordered sequences cannot be built.
-/

namespace WatchdogVpn.Provisioning

/-! ## Exceptions -/

/-- The exception classes the provisioning code raises or distinguishes; `symlinkLoopError` is an
`OSError` with `errno.ELOOP`, and `other` every class it only meets as `Exception`. -/
inductive ExcKind
  | provisioningError
  | invalidTransitionError
  | executorNotRegisteredError
  | executionNotReadyError
  | pathPolicyError
  | identifierError
  | durabilityError
  | provisionerLockHeldError
  | journalError
  | stateRootIdentityError
  | corruptStateError
  | fileNotFoundError
  | fileExistsError
  | symlinkLoopError
  | osError
  | valueError
  | keyError
  | typeError
  | other
  deriving DecidableEq

/-- An exception: its class and `str(exc)`. -/
structure Exc where
  kind : ExcKind
  message : String
  deriving DecidableEq

namespace Exc

/-- `isinstance(exc, ProvisioningError)`. -/
def isProvisioningError (x : Exc) : Bool :=
  match x.kind with
  | .provisioningError | .invalidTransitionError | .executorNotRegisteredError
  | .executionNotReadyError | .pathPolicyError | .identifierError | .durabilityError
  | .provisionerLockHeldError | .journalError | .stateRootIdentityError | .corruptStateError => true
  | _ => false

/-- `isinstance(exc, OSError)`. -/
def isOSError (x : Exc) : Bool :=
  match x.kind with
  | .fileNotFoundError | .fileExistsError | .symlinkLoopError | .osError => true
  | _ => false

/-- `except (OSError, PathPolicyError)`. -/
def isOSOrPathPolicy (x : Exc) : Bool := x.isOSError || x.kind == .pathPolicyError

/-- `except (StateRootIdentityError, PathPolicyError)`. -/
def isIdentityOrPathPolicy (x : Exc) : Bool := x.kind == .stateRootIdentityError || x.kind == .pathPolicyError

/-- `except (JournalError, IdentifierError)`. -/
def isJournalOrIdentifier (x : Exc) : Bool := x.kind == .journalError || x.kind == .identifierError

/-- `except (ValueError, KeyError)`. -/
def isValueOrKey (x : Exc) : Bool := x.kind == .valueError || x.kind == .keyError

end Exc

/-! ## State machines -/

inductive TransactionState
  | planned
  | authorized
  | applying
  | verifying
  | prepareTerminalPrepared
  | committed
  | preparationFailed
  | rollingBack
  | rolledBack
  | rollbackFailed
  | recoveryRequired
  | recovering
  | uninstallPlanned
  | uninstalling
  | revokingOwnership
  | uninstallTerminalPrepared
  | uninstalled
  | uninstallFailed
  deriving DecidableEq

inductive StepState
  | planned
  | applying
  | applied
  | applyFailed
  | verifying
  | verified
  | verifyFailed
  | undoing
  | undone
  | undoFailed
  deriving DecidableEq

def TransactionState.value : TransactionState → String
  | planned => "planned"
  | authorized => "authorized"
  | applying => "applying"
  | verifying => "verifying"
  | prepareTerminalPrepared => "prepare_terminal_prepared"
  | committed => "committed"
  | preparationFailed => "preparation_failed"
  | rollingBack => "rolling_back"
  | rolledBack => "rolled_back"
  | rollbackFailed => "rollback_failed"
  | recoveryRequired => "recovery_required"
  | recovering => "recovering"
  | uninstallPlanned => "uninstall_planned"
  | uninstalling => "uninstalling"
  | revokingOwnership => "revoking_ownership"
  | uninstallTerminalPrepared => "uninstall_terminal_prepared"
  | uninstalled => "uninstalled"
  | uninstallFailed => "uninstall_failed"

def StepState.value : StepState → String
  | planned => "planned"
  | applying => "applying"
  | applied => "applied"
  | applyFailed => "apply_failed"
  | verifying => "verifying"
  | verified => "verified"
  | verifyFailed => "verify_failed"
  | undoing => "undoing"
  | undone => "undone"
  | undoFailed => "undo_failed"

def transactionTransitions : TransactionState → List TransactionState
  | .planned => [.authorized]
  | .authorized => [.applying]
  | .applying => [.verifying, .rollingBack, .recoveryRequired]
  | .verifying => [.prepareTerminalPrepared, .committed, .rollingBack, .recoveryRequired]
  | .prepareTerminalPrepared => [.committed, .recoveryRequired]
  | .committed => [.uninstallPlanned]
  | .preparationFailed => []
  | .rollingBack => [.rolledBack, .rollbackFailed]
  | .rolledBack => [.preparationFailed]
  | .rollbackFailed => [.recoveryRequired]
  | .recoveryRequired => [.recovering]
  | .recovering => [.applying, .verifying, .rollingBack, .recoveryRequired, .uninstalling,
      .revokingOwnership, .uninstallTerminalPrepared]
  | .uninstallPlanned => [.uninstalling]
  | .uninstalling => [.revokingOwnership, .uninstallFailed, .recoveryRequired]
  | .revokingOwnership => [.uninstallTerminalPrepared, .uninstalled, .uninstallFailed,
      .recoveryRequired]
  | .uninstallTerminalPrepared => [.uninstalled, .recoveryRequired]
  | .uninstalled => []
  | .uninstallFailed => [.recoveryRequired]

def stepTransitions : StepState → List StepState
  | .planned => [.applying]
  | .applying => [.applied, .applyFailed]
  | .applied => [.verifying]
  | .applyFailed => [.undoing]
  | .verifying => [.verified, .verifyFailed]
  | .verified => [.undoing]
  | .verifyFailed => [.undoing]
  | .undoing => [.undone, .undoFailed]
  | .undone => []
  | .undoFailed => []

def transitionTransaction (current next : TransactionState) : Except Exc TransactionState :=
  if next ∈ transactionTransitions current then .ok next
  else .error ⟨.invalidTransitionError,
    "invalid transaction transition: " ++ current.value ++ " -> " ++ next.value⟩

def transitionStep (current next : StepState) : Except Exc StepState :=
  if next ∈ stepTransitions current then .ok next
  else .error ⟨.invalidTransitionError,
    "invalid step transition: " ++ current.value ++ " -> " ++ next.value⟩

/-! ## Plans and results -/

structure ProvisioningStep where
  sequence : Int
  stepId : String
  actionType : String
  intent : Dict
  target : Option String

/-- The fields of a plan other than its steps. -/
structure PlanHeader where
  capabilityId : String
  dependencyId : String
  resolvedTarget : String
  architecture : String
  supportClassification : String
  selectedMethodId : String
  selectedMethodKind : String
  postcondition : String
  executorId : String
  executorVersion : String
  selectedAsset : Option Dict

/-- A plan: at least one step, in strictly increasing sequence order. -/
structure ProvisioningPlan extends PlanHeader where
  steps : List ProvisioningStep
  nonempty : steps ≠ []
  increasing : steps.Pairwise fun a b => a.sequence < b.sequence

/-- `ProvisioningPlan(...)` with the checks of `__post_init__`. -/
def ProvisioningPlan.build (h : PlanHeader) (steps : List ProvisioningStep) : Except Exc ProvisioningPlan :=
  if hn : steps = [] then
    .error ⟨.valueError, "a provisioning plan must declare at least one step"⟩
  else if hi : steps.Pairwise fun a b => a.sequence < b.sequence then
    .ok { h with steps, nonempty := hn, increasing := hi }
  else .error ⟨.valueError,
    "provisioning plan steps must have strictly increasing unique sequences"⟩

theorem build_ok {header : PlanHeader} {steps : List ProvisioningStep} {plan : ProvisioningPlan}
    (hb : ProvisioningPlan.build header steps = .ok plan) : plan.toPlanHeader = header ∧
    plan.steps = steps := by
  unfold ProvisioningPlan.build at hb
  split at hb
  · cases hb
  split at hb
  · cases hb; exact ⟨rfl, rfl⟩
  · cases hb

theorem build_self (plan : ProvisioningPlan) :
    ProvisioningPlan.build plan.toPlanHeader plan.steps = .ok plan := by
  unfold ProvisioningPlan.build
  rw [dif_neg plan.nonempty, dif_pos plan.increasing]

inductive ExecutionStatus
  | applied
  | applyFailed
  deriving DecidableEq

structure ExecutionResult where
  status : ExecutionStatus
  observed : Dict := []
  undoRecord : Option Dict := none
  errorKind : Option String := none
  error : Option String := none

inductive VerificationStatus
  | verified
  | verificationFailed
  deriving DecidableEq

structure VerificationResult where
  status : VerificationStatus
  evidence : Dict := []
  errorKind : Option String := none
  error : Option String := none

inductive RollbackStatus
  | undone
  | undoFailed
  deriving DecidableEq

structure RollbackResult where
  status : RollbackStatus
  residual : Bool
  evidence : Dict := []
  errorKind : Option String := none
  error : Option String := none

inductive RecoveryAction
  | resume
  | rollback
  | requireManual
  deriving DecidableEq

structure RecoveryDecision where
  transactionId : String
  action : RecoveryAction
  reason : String
  deriving DecidableEq

/-! ## Ownership, path authority and custody -/

structure IntermediateIdentity where
  relativeName : String
  dev : Nat
  ino : Nat
  uid : Nat
  mode : Nat
  deriving DecidableEq

structure PathComponentIdentity where
  index : Nat
  relativeName : String
  dev : Nat
  ino : Nat
  uid : Nat
  mode : Nat
  deriving DecidableEq

structure PathAuthority where
  rootPath : String
  targetRelativePath : String
  componentCount : Nat
  components : List PathComponentIdentity
  deriving DecidableEq

structure PathAuthorityV2Component where
  index : Nat
  name : String
  role : String
  dev : Nat
  ino : Nat
  uid : Nat
  gid : Nat
  mode : Nat
  nlink : Nat
  integrity : Option String
  deriving DecidableEq

structure PathAuthorityV2 where
  schema : String
  transactionId : String
  planDigest : String
  resourceId : String
  configuredRoot : String
  rootPath : String
  targetRelativePath : String
  componentCount : Nat
  components : List PathAuthorityV2Component
  chainDigest : String
  authorityDigest : String
  deriving DecidableEq

inductive CustodyState
  | movePending
  | moved
  | deleted
  deriving DecidableEq

/-- What `os.stat` says about a file or a directory, as far as the provisioning code looks. -/
structure Stat where
  dev : Nat
  ino : Nat
  uid : Nat
  gid : Nat
  mode : Nat
  nlink : Nat
  isRegular : Bool := false
  isDirectory : Bool := false
  isSymlink : Bool := false
  deriving DecidableEq

/-- A removal in progress. The `original_*`, `custody_dir_*` and `moved_*` fields of the source
are the numbers of the three `Stat`s. -/
structure CustodyRecord where
  resourceId : String
  state : CustodyState
  originalPath : String
  originalParent : String
  originalName : String
  original : Stat
  authorizedHash : Option String
  custodyDir : String
  custodyDirStat : Stat
  custodyName : String
  moved : Option Stat := none
  movedHash : Option String := none
  deriving DecidableEq

structure OwnershipCandidate where
  artifactType : String
  resourceIdentity : String
  preExisting : Bool
  methodId : Option String := none
  source : Option String := none
  version : Option String := none
  integrity : Option String := none
  uid : Option Nat := none
  gid : Option Nat := none
  mode : Option Nat := none
  nlink : Option Nat := none
  postInstallFingerprint : Option String := none
  intermediateIdentities : List IntermediateIdentity := []
  pathAuthority : Option PathAuthority := none
  pathAuthorityV2 : Option PathAuthorityV2 := none
  deriving DecidableEq

structure OwnershipRecord where
  capabilityId : String
  candidate : OwnershipCandidate
  productOwned : Bool
  createdByTransaction : Option String
  executorId : String
  executorVersion : String
  deriving DecidableEq

/-- An uninstall plan: at least one record, all of them product-owned. -/
structure UninstallPlan where
  capabilityId : String
  transactionId : String
  targetTransactionId : String
  ownershipRecords : List OwnershipRecord
  steps : List ProvisioningStep
  nonempty : ownershipRecords ≠ []
  owned : ∀ r ∈ ownershipRecords, r.productOwned = true

end WatchdogVpn.Provisioning
