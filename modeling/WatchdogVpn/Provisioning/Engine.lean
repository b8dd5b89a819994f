import WatchdogVpn.Provisioning.Uninstall

/-!
# The provisioning engine

`prepare`, `recoverPending` and `uninstall`, the three commands that act on a state root.
Each one runs under the provisioner lock from `acquireProvisionerLock` on; before that it
only reads. Both `prepare` and `uninstall` first recover whatever an earlier process left,
and start a new transaction only if nothing needs manual recovery.
-/

namespace WatchdogVpn.Provisioning

open Effect

/-! ## Outcomes and plans -/

inductive PrepareStatus
  | dryRun
  | alreadyPresent
  | alreadyProvisioned
  | ownershipConflict
  | ownershipInvalid
  | committed
  | preparationFailed
  | rollbackFailed
  | recipeNotImplemented
  | outOfContract
  | offline
  | pendingRecovery
  | recoveryRequired
  | uninstalled
  | uninstallFailed
  deriving DecidableEq

structure PrepareOutcome where
  status : PrepareStatus
  plan : Option ProvisioningPlan := none
  transactionId : Option TxId := none
  reason : String
  residuals : List String := []
  errorKind : Option String := none

/-- The header of the plan for a decision, once its target and architecture are known. -/
def decisionHeader (d : ResolutionDecision) (executor : Executor)
    (methodId methodKind resolvedTarget architecture : String) : PlanHeader :=
  { capabilityId := d.capabilityId, dependencyId := d.dependencyId, resolvedTarget,
    architecture := architecture, supportClassification := d.supportClassification,
    selectedMethodId := methodId, selectedMethodKind := methodKind,
    postcondition := executor.postconditionDescription, executorId := executor.executorId,
    executorVersion := executor.executorVersion, selectedAsset := d.selectedAsset }

variable (env : ProvisioningEnvironment)

def buildPlan (d : ResolutionDecision) : Except Exc (ProvisioningPlan × RegisteredExecutor) := do
  let methodId := d.selectedMethodId.getD ""
  let methodKind := d.selectedMethodKind.getD ""
  if d.resolutionStatus ≠ "method_selected" ∨ d.executionReady = false then
    .error ⟨.executionNotReadyError, "decision is not execution-ready (resolution_status='" ++
      d.resolutionStatus ++ "' execution_ready=" ++ (Value.bool d.executionReady).repr ++ ")"⟩
  else if methodId = "" ∨ methodKind = "" then
    .error ⟨.executionNotReadyError, "decision has no selected method to execute"⟩
  else
    let executor ← env.registry.resolve methodKind methodId env.expectedExecutorVersion
    if executor.supportedMethodKind ≠ methodKind then
      .error ⟨.executorNotRegisteredError, "registered executor kind '" ++ executor.supportedMethodKind ++
        "' does not match decision method_kind '" ++ methodKind ++ "'"⟩
    else
      -- `decision.resolved_release or decision.resolved_distribution`
      let resolved := if (d.resolvedRelease.getD "") = "" then d.resolvedDistribution else d.resolvedRelease
      match resolved, d.machineArchitecture with
      | some resolvedTarget, some architecture =>
        let steps ← executor.planSteps d.capabilityId d.dependencyId
        let plan ← ProvisioningPlan.build
          (decisionHeader d executor.toExecutor methodId methodKind resolvedTarget architecture) steps
        return (plan, executor)
      | _, _ =>
        .error ⟨.executionNotReadyError, "decision is missing a concrete resolved target or architecture"⟩

def initialJournal (plan : ProvisioningPlan) (tid : TxId) : TransactionJournal :=
  { transactionId := tid, operation := .prepare, state := .planned,
    planDigest := computePlanDigest env plan, capabilityId := plan.capabilityId,
    dependencyId := plan.dependencyId, target := plan.resolvedTarget, architecture := plan.architecture,
    supportClassification := plan.supportClassification,
    selectedMethod := ⟨plan.selectedMethodId, plan.selectedMethodKind⟩,
    executor := ⟨plan.executorId, plan.executorVersion⟩,
    steps := plan.steps.map plannedRecord, selectedAsset := plan.selectedAsset }

/-! ## The ends of a prepare transaction -/

variable (c : ExecutionContext) (j : TransactionJournal)

/-- The terminal commit: the identity of roots and owned resources, then `COMMITTED`, then again. -/
def commitPrepared (capabilityId : String) : EngineProg TransactionJournal := do
  verifyTerminalIdentity c (← readOwnershipRecords capabilityId) true
  let j ← moveTo j .committed
  verifyTerminalIdentity c (← readOwnershipRecords capabilityId) true
  return j

variable (executor : Executor)

/-- Publication and commit, shared by `_finish_prepare` and `_recover_one`. `none` means that
ownership could not be finalized and recovery is required. -/
def publishAndCommit (plan : ProvisioningPlan) (j : TransactionJournal)
    (capabilityId : String) : EngineProg (Option TransactionJournal) := do
  verifyTerminalIdentity c [] true
  match ← (finalizeProvenance c executor plan j).attempt with
  | .error x =>
    if x.isProvisioningError then
      let _ ← requireRecovery j [("reason", .str ("cannot finalize provenance: " ++ x.message))]
      return none
    else .raise x
  | .ok provenance =>
    verifyTerminalIdentity c (← readOwnershipRecords capabilityId) true
    let j ← .ofExcept (j.withState .prepareTerminalPrepared)
    let j := { j with provenance := some provenance }
    writeJournal j
    return some (← commitPrepared c j capabilityId)

/-- The end of a clean rollback: `ROLLED_BACK`, then `PREPARATION_FAILED`. -/
def concludeRollback : EngineProg TransactionJournal := do
  verifyTerminalIdentity c [] true
  let j ← moveTo j .rolledBack
  verifyTerminalIdentity c [] true
  moveTo j .preparationFailed

def failRollback (residuals : List String) : EngineProg TransactionJournal := do
  let j ← .ofExcept (j.withState .rollbackFailed)
  let j := { j with failure := some (Dict.set (j.failure.getD []) "residuals" (.list (residuals.map .str))) }
  writeJournal j
  return j

def finishPrepare (plan : ProvisioningPlan) (applied : ApplyResult) (tid : TxId) :
    EngineProg PrepareOutcome := do
  let j := applied.journal
  if applied.durabilityUnknown then
    let stepId := Dict.get (j.recovery.getD []) "step_id"
    return { status := .recoveryRequired, plan := some plan, transactionId := some tid,
             reason := "an action's effect may have occurred but its directory durability could not be " ++
               "confirmed; recovery required",
             residuals := [if stepId.truthy then stepId.toStr else "unknown"],
             errorKind := some "durability_unknown" }
  else if applied.applyOk then
    match ← publishAndCommit c executor plan j plan.capabilityId with
    | none =>
      return { status := .recoveryRequired, plan := some plan, transactionId := some tid,
               reason := "postcondition verified but ownership could not be finalized; recovery required",
               residuals := ["provenance"], errorKind := some "provenance_finalization_failed" }
    | some _ =>
      return { status := .committed, plan := some plan, transactionId := some tid,
               reason := "provisioned and verified" }
  else
    let j ← moveIf (j.state ≠ .rollingBack) j .rollingBack
    let (j, residuals) ← runRollback executor j
    if residuals = [] then
      let _ ← concludeRollback c j
      return { status := .preparationFailed, plan := some plan, transactionId := some tid,
               reason := "provisioning failed; rollback completed cleanly" }
    else
      let _ ← failRollback j residuals
      return { status := .rollbackFailed, plan := some plan, transactionId := some tid,
               reason := "rollback did not complete cleanly", residuals := residuals,
               errorKind := some "rollback_failed" }

/-! ## Recovery -/

inductive Verdict
  | resumeApply
  | resumeRollback
  | ambiguous
  deriving DecidableEq

/-- What `_inspect_recovery_boundary` says about an `APPLYING` step from its observation. -/
def verdictOnApplying (step : StepRecord) (observed : Dict) : Verdict × String :=
  if (Dict.get observed "path_policy_error").truthy then
    (.ambiguous, "step " ++ step.stepId ++ " failed path policy during recovery inspection: " ++
      (Dict.get observed "path_policy_error").toStr)
  else if (Dict.get observed "inspect_error").truthy then
    (.ambiguous, "step " ++ step.stepId ++ " could not be inspected during recovery: " ++
      (Dict.get observed "inspect_error").toStr)
  else if (Dict.get observed "is_symlink").truthy then
    (.ambiguous, "step " ++ step.stepId ++ " shows an unexpected symlink")
  else if (Dict.get observed "exists").truthy = false then
    if executor.stepIsReplaySafe step = false then
      (.ambiguous, "step " ++ step.stepId ++ " did not complete and is not declared replay-safe")
    else (.resumeApply, "step " ++ step.stepId ++ " did not complete; safe to retry from scratch")
  else if Dict.get observed "content_matches" = .bool true then
    (.resumeApply, "step " ++ step.stepId ++ " already completed before the interruption; resuming forward")
  else (.ambiguous, "step " ++ step.stepId ++ " exists but its content does not match what was expected")

/-- The loop of `_inspect_recovery_boundary` over the steps. -/
def inspectBoundarySteps (executor : Executor) (tid : TxId) : List StepRecord → CheckProg (Verdict × String)
  | [] => return (.resumeApply, "no step in progress; resuming forward")
  | step :: steps => do
    match step.state with
    | .applyFailed | .verifyFailed =>
      return (.resumeRollback, "step " ++ step.stepId ++ " already failed; resuming by completing rollback")
    | .undoing => return (.resumeRollback, "step " ++ step.stepId ++ " was mid-undo; resuming rollback")
    | .applying => return verdictOnApplying executor step (← safeInspect tid step)
    | .verifying =>
      return (.resumeApply, "step " ++ step.stepId ++ " applied; only verification needs to be redone")
    | _ => inspectBoundarySteps executor tid steps

def inspectRecoveryBoundary (j : TransactionJournal) : CheckProg (Verdict × String) := do
  match j.state with
  | .rollingBack => return (.resumeRollback, "resuming rollback already in progress")
  | .applying | .recoveryRequired | .recovering => inspectBoundarySteps executor j.transactionId j.steps
  | .verifying => return (.resumeApply, "resuming transaction-level postcondition verification")
  | .prepareTerminalPrepared => return (.resumeApply, "resuming prepared terminal commit")
  | st => return (.ambiguous, "unrecognized transaction state for recovery: " ++ st.value)

/-- A bail-out of recovery: `RECOVERY_REQUIRED` unless the journal already is, and a manual
decision. -/
def bailOut (recorded reason : String) : EngineProg RecoveryDecision := do
  if j.state ≠ .recoveryRequired then
    let _ ← requireRecovery j [("reason", .str recorded)]
    return ⟨j.transactionId, .requireManual, reason⟩
  else return ⟨j.transactionId, .requireManual, reason⟩

def finalizeRecoveryRollback (residuals : List String) : EngineProg RecoveryDecision := do
  if residuals = [] then
    let j ← concludeRollback c j
    return ⟨j.transactionId, .rollback, "resumed rollback completed cleanly"⟩
  else
    let j ← failRollback j residuals
    return ⟨j.transactionId, .requireManual, "rollback did not complete cleanly during recovery; residuals: " ++
      (Value.list (residuals.map .str)).repr⟩

/-- The rollback of a recovery, from wherever the journal is. -/
def rollBackAndDecide (j : TransactionJournal) : EngineProg RecoveryDecision := do
  let (j, residuals) ← runRollback executor j
  finalizeRecoveryRollback c j residuals

/-- A resumed apply that failed enters its rollback, unless the postcondition already sent it there.
-/
def enterRecoveryRollback : EngineProg TransactionJournal := do
  if j.state ≠ .rollingBack then
    let j ← .ofExcept (j.withState .rollingBack)
    let j := { j with failure := some [("reason", .str "recovery_apply_failed")] }
    writeJournal j
    return j
  else return j

/-- The `RESUME_APPLY` branch of `_recover_one`. -/
def resumeForward (plan : ProvisioningPlan) (j : TransactionJournal) : EngineProg RecoveryDecision := do
  let j ← moveIf (j.state = .recovering) j .applying
  let applied ← applyAndVerify executor plan j
  let j := applied.journal
  if applied.applyOk then
    match ← publishAndCommit c executor plan j j.capabilityId with
    | none => return ⟨j.transactionId, .requireManual,
        "postcondition verified but ownership could not be finalized during recovery"⟩
    | some j => return ⟨j.transactionId, .resume, "resumed and committed"⟩
  else if applied.durabilityUnknown then
    return ⟨j.transactionId, .requireManual,
      "durability could not be confirmed during recovery; manual review required"⟩
  else
    rollBackAndDecide c executor (← enterRecoveryRollback j)

/-- The `RESUME_ROLLBACK` branch of `_recover_one`. -/
def resumeBackward (j : TransactionJournal) : EngineProg RecoveryDecision := do
  let j ← moveIf (j.state = .recovering ∨ j.state = .applying) j .rollingBack
  rollBackAndDecide c executor j

/-- `_recover_one` from the point where the journal and the rebuilt plan agree. -/
def resumePrepare (plan : ProvisioningPlan) (j : TransactionJournal) : EngineProg RecoveryDecision := do
  let (verdict, reason) ← inspectRecoveryBoundary executor j
  if verdict = .ambiguous then
    bailOut j reason reason
  else
    let j ← moveIf (j.state = .recoveryRequired) j .recovering
    if j.state = .prepareTerminalPrepared then
      verifyTerminalIdentity c [] true
      let j ← commitPrepared c j j.capabilityId
      return ⟨j.transactionId, .resume, "resumed and committed"⟩
    else if verdict = .resumeApply then resumeForward c executor plan j
    else resumeBackward c executor j

/-- `_recover_one` for prepare journals. -/
def recoverPrepare : EngineProg RecoveryDecision := do
  match env.registry.resolve j.selectedMethod.kind j.selectedMethod.id j.executor.version with
  | .error x => bailOut j x.message x.message
  | .ok registered =>
    match registered.recoveryBoundExecutor j with
    | .error x =>
      if x.isProvisioningError then
        bailOut j ("cannot bind recovery to the journal's recorded release state: " ++ x.message)
          ("cannot bind recovery to the journal's recorded release state: " ++ x.message)
      else .raise x
    | .ok executor =>
      match rebuildPlan executor j with
      | .error x =>
        if x.isValueOrKey then
          bailOut j ("cannot rebuild plan for recovery: " ++ x.message)
            ("cannot rebuild plan for recovery: " ++ x.message)
        else .raise x
      | .ok plan =>
        eagerCacheIntermediatesForTargets c (plan.steps.map (·.target))
        if computePlanDigest env plan ≠ j.planDigest then
          bailOut j "plan_digest_mismatch" "plan_digest no longer matches the journal"
        else if journalStepsMatchPlanExactly j plan = false then
          bailOut j "journal_steps_do_not_match_plan" "journal steps no longer match the reconstructed plan"
        else if stepsConsistentWithTransactionState j = false then
          bailOut j "steps_inconsistent_with_transaction_state"
            "step states are inconsistent with the transaction's own top-level state"
        else resumePrepare c executor plan j

/-- The end of an uninstall: `UNINSTALLED`, then the ownership file is revoked. -/
def concludeUninstall (records : List OwnershipRecord) : EngineProg TransactionJournal := do
  verifyTerminalIdentity c records false
  let j ← moveTo j .uninstalled
  let _ ← revokeOwnershipAndVerify j.capabilityId
  return j

/-- `REVOKING_OWNERSHIP` reached: reconfirm, then conclude. The reason is given if it is not safe.
-/
def revokeAndConclude (records : List OwnershipRecord) : EngineProg (Option String) := do
  match ← revocationBoundaryIsSafe env c j with
  | some reason =>
    let _ ← requireRecovery j [("reason", .str ("unsafe to revoke ownership: " ++ reason))]
    return some reason
  | none =>
    verifyTerminalIdentity c records false
    let j ← moveTo j .uninstallTerminalPrepared
    let _ ← concludeUninstall c j records
    return none

/-- A removal loop that left residuals: recovery is required for a refused path or a changed
identity, any other failure is final for this attempt. Says which. -/
def recordUninstallFailure (looped : UninstallLoopResult) : EngineProg (TransactionJournal × Bool) := do
  let residuals := Value.list (looped.residuals.map .str)
  if uninstallFailureRequiresRecovery looped.journal ∨ uninstallResidualsRequireRecovery looped.residuals then
    let j ← requireRecovery looped.journal
      [("reason", .str "uninstall path policy failure; manual recovery required"), ("residuals", residuals)]
    return (j, true)
  else
    let j ← .ofExcept (looped.journal.withState .uninstallFailed)
    let j := { j with failure := some [("residuals", residuals)] }
    writeJournal j
    return (j, false)

/-- From `RECOVERY_REQUIRED`, the boundary an uninstall resumes at. -/
def reenterUninstall : EngineProg TransactionJournal := do
  if j.state = .recoveryRequired then
    let j ← moveTo j .recovering
    if j.steps.all (fun s => s.state == .verified) then moveTo j .revokingOwnership
    else moveTo j .uninstalling
  else pure j

/-- `_recover_uninstall` from `UNINSTALL_TERMINAL_PREPARED` or, as the source takes every other
state to be, from `REVOKING_OWNERSHIP`. -/
def recoverRevocation : EngineProg RecoveryDecision := do
  if j.state = .uninstallTerminalPrepared then
    let j ← concludeUninstall c j j.ownedSnapshot
    return ⟨j.transactionId, .resume, "resumed uninstall terminal cleanup"⟩
  else
    match ← revokeAndConclude env c j j.ownedSnapshot with
    | some reason => return ⟨j.transactionId, .requireManual, "unsafe to revoke ownership: " ++ reason⟩
    | none => return ⟨j.transactionId, .resume, "resumed uninstall and completed"⟩

def recoverUninstall : EngineProg RecoveryDecision := do
  eagerCacheIntermediatesForTargets c (j.ownedSnapshot.map fun r => some r.candidate.resourceIdentity)
  if j.steps.any (fun s => s.state == .verifyFailed || s.state == .applyFailed) then
    bailOut j "an uninstall step already failed; manual review required" "an uninstall step already failed"
  else
    let j ← reenterUninstall j
    if j.state = .uninstalling then
      let looped ← runUninstallLoop env c j
      if looped.ok = false then
        let (j, recovery) ← recordUninstallFailure looped
        return ⟨j.transactionId, .requireManual,
          if recovery then "uninstall path policy failure; manual recovery required"
          else "uninstall did not complete for all resources during recovery"⟩
      else
        recoverRevocation env c (← moveTo looped.journal .revokingOwnership)
    else recoverRevocation env c j

def recoverOne : EngineProg RecoveryDecision := do
  if j.state = .rollbackFailed then
    let reason := "a previous rollback attempt already failed; manual review required"
    let j ← requireRecovery j [("reason", .str reason)]
    return ⟨j.transactionId, .requireManual, reason⟩
  else if j.state = .uninstallFailed then
    let reason := "a previous uninstall attempt already failed; manual review required"
    let j ← requireRecovery j [("reason", .str reason)]
    return ⟨j.transactionId, .requireManual, reason⟩
  else if j.operation = .uninstall then recoverUninstall env c j
  else recoverPrepare env c j

def recoverEach (env : ProvisioningEnvironment) (c : ExecutionContext) : List TxId →
    EngineProg (List RecoveryDecision)
  | [] => return []
  | tid :: tids => do
    match ← Req.ask (.readJournal tid) with
    | .error x =>
      let rest ← recoverEach env c tids
      return ⟨tid, .requireManual, "journal is unreadable/invalid: " ++ x.message⟩ :: rest
    | .ok j =>
      if j.state ∉ needsRecoveryAttention then
        recoverEach env c tids
      else
        let decision ← recoverOne env c j
        let rest ← recoverEach env c tids
        return decision :: rest

def recoverPendingLocked : EngineProg (List RecoveryDecision) := do
  match ← Req.ask .listTransactionIds with
  | .error x => return [⟨"<state-scan>", .requireManual,
      "cannot enumerate pending transactions: " ++ x.message⟩]
  | .ok tids => recoverEach env c tids

def recoverPending : EngineProg (List RecoveryDecision) := do
  let tid := "recovery-" ++ (← Req.ask .newTransactionId)
  let body : EngineProg (List RecoveryDecision) := do
    .ofExcept (← HostReq.ask .acquireProvisionerLock)
    let c ← openLockedContext env.context
    recoverPendingLocked env c
  match ← body.attempt with
  | .ok decisions => return decisions
  | .error x =>
    if x.isIdentityOrPathPolicy then
      return [⟨tid, .requireManual, "state root identity changed during recovery: " ++ x.message⟩]
    else .raise x

/-! ## Prepare -/

/-- The identifiers of the transactions that block a new one. -/
def blockingIds (reports : List RecoveryDecision) : List TxId :=
  (reports.filter fun r => r.action == .requireManual).map (·.transactionId)

def idList (ids : List TxId) : String := (Value.list (ids.map .str)).repr

/-- The new transaction of `prepare`: created, authorized, applied and finished. -/
def startTransaction (plan : ProvisioningPlan) (tid : TxId) : EngineProg PrepareOutcome := do
  let j := initialJournal env plan tid
  writeJournal j
  let j ← moveTo j .authorized
  let j ← moveTo j .applying
  let applied ← applyAndVerify executor plan j
  finishPrepare c executor plan applied tid

def prepareLocked (plan : ProvisioningPlan) (tid : TxId) : EngineProg PrepareOutcome := do
  .ofExcept (← HostReq.ask .acquireProvisionerLock)
  let c ← openLockedContext env.context
  eagerCacheIntermediatesForTargets c (plan.steps.map (·.target))
  let reports ← recoverPendingLocked env c
  if blockingIds reports ≠ [] then
    return { status := .pendingRecovery, plan := some plan,
             reason := "cannot start a new transaction while others require manual recovery: " ++
               idList (blockingIds reports),
             errorKind := some "recovery_required" }
  else
    let existing ← readOwnershipRecords plan.capabilityId
    let idempotency ← checkIdempotency env c tid plan executor existing
    match idempotency.outcome with
    | .alreadyPresent =>
      return { status := .alreadyPresent, plan := some plan,
               reason := "capability already present before WatchdogVPN; no write performed, no uninstall " ++
                 "right granted" }
    | .alreadyProvisioned =>
      return { status := .alreadyProvisioned, plan := some plan,
               reason := "identity/version/hash/executor/postcondition already match; no duplication" }
    | .ownershipConflict =>
      return { status := .ownershipConflict, plan := some plan,
               reason := "an existing but divergent component was found: " ++
                 (Value.list (idempotency.evidence.map .dict)).repr,
               errorKind := some "ownership_conflict" }
    | .notPresent => startTransaction env c executor plan tid

def prepare (decision : ResolutionDecision) (apply : Bool) : EngineProg PrepareOutcome := do
  match buildPlan env decision with
  | .error x =>
    if x.kind = .executorNotRegisteredError then
      return { status := .recipeNotImplemented, reason := x.message,
               errorKind := some "recipe_not_implemented" }
    else if x.kind = .executionNotReadyError then
      return { status := .outOfContract, reason := x.message, errorKind := some "execution_not_ready" }
    else .raise x
  | .ok (plan, executor) =>
    if apply = false then
      return { status := .dryRun, plan := some plan, reason := "dry-run: plan constructed, nothing mutated" }
    else if executor.declaresNetworkRequired = true ∧ env.networkAvailable = false then
      return { status := .offline, plan := some plan,
               reason := "capability requires network and none is available", errorKind := some "offline" }
    else
      let tid ← Req.ask .newTransactionId
      match ← (prepareLocked env executor.toExecutor plan tid).attempt with
      | .ok outcome => return outcome
      | .error x =>
        if x.isIdentityOrPathPolicy then
          return { status := .recoveryRequired, plan := some plan, transactionId := some tid,
                   reason := "state root identity changed during the transaction; refusing to report a " ++
                     "clean outcome: " ++ x.message,
                   errorKind := some "state_root_identity_mismatch" }
        else .raise x

/-! ## Uninstall -/

/-- The new transaction of `uninstall`. -/
def startUninstall (plan : UninstallPlan)
    (owned : List OwnershipRecord) (tid : TxId) : EngineProg PrepareOutcome := do
  let j := initialUninstallJournal env plan
  writeJournal j
  let j ← moveTo j .uninstalling
  let looped ← runUninstallLoop env c j
  if looped.ok = false then
    let (_, recovery) ← recordUninstallFailure looped
    return { status := if recovery then .recoveryRequired else .uninstallFailed, transactionId := some tid,
             reason := if recovery then "uninstall path policy failure; manual recovery required"
               else "uninstall did not complete for all resources",
             residuals := looped.residuals,
             errorKind := some (if recovery then "recovery_required" else "uninstall_failed") }
  else
    let j ← moveTo looped.journal .revokingOwnership
    match ← revokeAndConclude env c j owned with
    | some reason =>
      return { status := .recoveryRequired, transactionId := some tid,
               reason := "unsafe to revoke ownership: " ++ reason, errorKind := some "recovery_required" }
    | none =>
      return { status := .uninstalled, transactionId := some tid,
               reason := "uninstalled " ++ toString owned.length ++ " resource(s)" }

def ownershipInvalid (capabilityId : String) : PrepareOutcome :=
  { status := .ownershipInvalid,
    reason := "ownership records for capability " ++ capabilityId ++
      " do not correspond, in full, to any committed transaction; refusing to uninstall",
    errorKind := some "ownership_invalid" }

def uninstallLocked (capabilityId : String) (tid : TxId) : EngineProg PrepareOutcome := do
  .ofExcept (← HostReq.ask .acquireProvisionerLock)
  let c ← openLockedContext env.context
  let reports ← recoverPendingLocked env c
  if blockingIds reports ≠ [] then
    return { status := .pendingRecovery,
             reason := "cannot uninstall while others require manual recovery: " ++
             idList (blockingIds reports), errorKind := some "recovery_required" }
  else
    let owned := (← readOwnershipRecords capabilityId).filter (·.productOwned)
    if owned = [] then
      return { status := .outOfContract, reason := "nothing to uninstall",
               errorKind := some "nothing_to_uninstall" }
    else
      eagerCacheIntermediatesForTargets c (owned.map fun r => some r.candidate.resourceIdentity)
      if (← validateOwnershipAuthority env c capabilityId owned none true) = false then
        return ownershipInvalid capabilityId
      else
        let plan ← .ofExcept (buildUninstallPlan capabilityId owned tid)
        startUninstall env c plan owned tid

def uninstall (env : ProvisioningEnvironment) (capabilityId : String) (apply : Bool) :
    EngineProg PrepareOutcome := do
  let owned := (← readOwnershipRecords capabilityId).filter (·.productOwned)
  if owned = [] then
    return { status := .outOfContract,
             reason := "no product-owned resources recorded for capability " ++ capabilityId ++
               "; nothing to uninstall",
             errorKind := some "nothing_to_uninstall" }
  else if (← validateOwnershipAuthority env env.context capabilityId owned none true) = false then
    return ownershipInvalid capabilityId
  else if apply = false then
    return { status := .dryRun, reason := "uninstall dry-run: " ++ toString owned.length ++
      " resource(s) would be removed" }
  else
    let tid ← Req.ask .newTransactionId
    match ← (uninstallLocked env capabilityId tid).attempt with
    | .ok outcome => return outcome
    | .error x =>
      if x.isIdentityOrPathPolicy then
        return { status := .recoveryRequired, transactionId := some tid,
                 reason := "state root identity changed during the transaction; refusing to report a " ++
                   "clean outcome: " ++ x.message,
                 errorKind := some "state_root_identity_mismatch" }
      else .raise x

/-! ## Commands and runs -/

inductive Command
  | prepare (decision : ResolutionDecision) (apply : Bool)
  | recoverPending
  | uninstall (capabilityId : String) (apply : Bool)

inductive Report
  | outcome (o : PrepareOutcome)
  | decisions (ds : List RecoveryDecision)

def Command.run : Command → EngineProg Report
  | .prepare decision apply => do return .outcome (← Provisioning.prepare env decision apply)
  | .recoverPending => do return .decisions (← Provisioning.recoverPending env)
  | .uninstall capabilityId apply => do return .outcome (← Provisioning.uninstall env capabilityId apply)

/-- The invocations with an environment of `envs`; code and registry may change between passes. -/
def Pass (envs : ProvisioningEnvironment → Prop) (p : EngineProg Report) : Prop :=
  ∃ env cmd, envs env ∧ p = Command.run env cmd

/-- A history of engine invocations over one state root and one host, from `s0`. -/
def EngineRun {F : Type} (h : Host F) (envs : ProvisioningEnvironment → Prop) (s0 : Store F) :
    Store F → Trace F → Prop := Run (storeHandler h) (Pass envs) s0

end WatchdogVpn.Provisioning
