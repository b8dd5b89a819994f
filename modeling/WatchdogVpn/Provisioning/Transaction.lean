import WatchdogVpn.Provisioning.Authority
import Mathlib.Data.List.Sort

/-!
# Applying and rolling back one transaction

The apply loop serves a first execution and every resumption alike: each step continues from
the state its record is in. Rollback undoes the steps in reverse order. Both write the
journal before an action whose effect cannot be taken back, and after it.
-/

namespace WatchdogVpn.Provisioning

open Effect

/-! ## Executor calls that never raise -/

/-- What `_safe_inspect` makes of an executor's answer or exception. -/
def safeInspection : Except Exc Dict → Dict
  | .ok observed => observed
  | .error x => [("content_matches", .null), ("exists", .null), ("inspect_error", .str x.message),
      ("is_symlink", .null)]

/-- What `_safe_apply` makes of it: an unconfirmed durability is told apart from any other failure.
-/
def safeExecution : Except Exc ExecutionResult → ExecutionResult
  | .ok result => result
  | .error x =>
    { status := .applyFailed,
      errorKind := some (if x.kind = .durabilityError then "durability_unknown" else "executor_error"),
      error := some x.message }

/-- What `_safe_verify` and `_safe_postcondition` make of it. -/
def safeVerification : Except Exc VerificationResult → VerificationResult
  | .ok v => v
  | .error x => { status := .verificationFailed, errorKind := some "executor_error", error := some x.message }

/-- What `_safe_undo` makes of it. -/
def safeRollback : Except Exc RollbackResult → RollbackResult
  | .ok r => r
  | .error x =>
    { status := .undoFailed, residual := true,
      errorKind := some (if x.kind = .durabilityError then "durability_unknown" else "executor_error"),
      error := some x.message }

def safeInspect (tid : TxId) (record : StepRecord) : CheckProg Dict := do
  return safeInspection (← HostReq.look (.inspectStep tid record))

def safeApply (tid : TxId) (record : StepRecord) : EngineProg ExecutionResult := do
  return safeExecution (← HostReq.ask (.applyStep tid record))

def safeVerify (tid : TxId) (record : StepRecord) (result : ExecutionResult) :
    CheckProg VerificationResult := do
  return safeVerification (← HostReq.look (.verifyStep tid record result))

def safeUndo (tid : TxId) (record : StepRecord) (execution : ExecutionResult) : EngineProg RollbackResult := do
  return safeRollback (← HostReq.ask (.undoStep tid record execution))

def safePostcondition (tid : TxId) (plan : ProvisioningPlan) : CheckProg VerificationResult := do
  return safeVerification (← HostReq.look (.verifyPostcondition tid plan))

/-! ## Idempotency -/

inductive IdempotencyOutcome
  | notPresent
  | alreadyPresent
  | alreadyProvisioned
  | ownershipConflict
  deriving DecidableEq

structure IdempotencyCheck where
  outcome : IdempotencyOutcome
  evidence : List Dict

def plannedRecord (s : ProvisioningStep) : StepRecord :=
  { sequence := s.sequence, stepId := s.stepId, actionType := s.actionType, state := .planned,
    intent := s.intent, target := s.target }

/-- The inspections of `check_idempotency`, in plan order; here an executor may raise. -/
def inspectPlan (tid : TxId) : List ProvisioningStep → CheckProg (List Dict)
  | [] => return []
  | s :: ss => do
    let observed ← .ofExcept (← HostReq.look (.inspectStep tid (plannedRecord s)))
    let rest ← inspectPlan tid ss
    return ((if (Dict.get? observed "step_id").isSome then observed
      else Dict.set observed "step_id" (.str s.stepId)) :: rest)

/-- The comparison of each owned record with the live file at the end of `check_idempotency`. -/
def ownedFilesMatch (plan : ProvisioningPlan) (inspections : List Dict) (c : ExecutionContext) :
    List OwnershipRecord → CheckProg Bool
  | [] => return true
  | r :: rs => do
    let candidate := r.candidate
    let lastFor {α : Type} (xs : List (ProvisioningStep × α)) : Option (ProvisioningStep × α) :=
      xs.reverse.find? fun p => p.1.target == some candidate.resourceIdentity
    let intent := ((lastFor (plan.steps.map fun s => (s, ()))).map (·.1.intent)).getD []
    let inspection := ((lastFor (plan.steps.zip inspections)).map (·.2)).getD []
    let dynamic := decide (Dict.get intent "integrity_policy" = .str "record_verified_sha256")
    if dynamic = true ∧ Dict.get inspection "sha256" ≠ .ofOption candidate.integrity then
      return false
    if dynamic = false ∧ Dict.get intent "content_sha256" ≠ .ofOption candidate.integrity then
      return false
    let body : CheckProg Stat := do
      let validated ← validateTargetPath c candidate.resourceIdentity
      let _ ← .ofExcept (handleForAllowedRoot c validated)
      .ofExcept (← HostReq.look (.statIdentity validated))
    match ← body.attempt with
    | .error x => if x.isOSOrPathPolicy then return false else .raise x
    | .ok identity =>
      if candidate.uid.any (· ≠ identity.uid) ∨ candidate.gid.any (· ≠ identity.gid) ∨
          candidate.mode.any (· ≠ identity.mode) then
        return false
      ownedFilesMatch plan inspections c rs

def checkIdempotency (env : ProvisioningEnvironment) (c : ExecutionContext) (tid : TxId)
    (plan : ProvisioningPlan)
    (executor : Executor) (existingOwnership : List OwnershipRecord) : CheckProg IdempotencyCheck := do
  let inspections ← inspectPlan tid plan.steps
  let conflict : CheckProg IdempotencyCheck := return ⟨.ownershipConflict, inspections⟩
  if inspections.any fun i => (Dict.get i "path_policy_error").truthy then
    conflict
  else if inspections.all fun i => !(Dict.get i "exists").truthy then
    return ⟨.notPresent, inspections⟩
  else if (inspections.any fun i => (Dict.get i "is_symlink").truthy) ∨
      ¬ (inspections.all fun i => (Dict.get i "exists").truthy && Dict.get i "content_matches" =
        .bool true) then
    conflict
  else
    let owned := existingOwnership.filter fun r => r.productOwned && r.executorId == executor.executorId &&
      r.executorVersion == executor.executorVersion && r.candidate.methodId == some plan.selectedMethodId
    if owned = [] then
      return ⟨.alreadyPresent, inspections⟩
    if owned.length ≠ plan.steps.length then
      conflict
    else if (← validateOwnershipAuthority env c plan.capabilityId owned none true) = false then
      conflict
    else
      match ← Req.look (.readJournal ((owned.head?.bind (·.createdByTransaction)).getD "")) with
      | .error x => if x.isJournalOrIdentifier then conflict else .raise x
      | .ok source =>
        if source.planDigest ≠ computePlanDigest env plan then
          conflict
        else if sameSet (plan.steps.map (·.target))
          (owned.map fun r => some r.candidate.resourceIdentity) = false then
          conflict
        else if (← ownedFilesMatch plan inspections c owned) = false then
          conflict
        else if (← safePostcondition tid plan).status ≠ .verified then
          conflict
        else
          return ⟨.alreadyProvisioned, inspections⟩

/-! ## The apply loop -/

def authoritativeUndoRecord (executor : Executor) (record : StepRecord) : Except Exc Dict := do
  let reconstructed ← executor.reconstructUndoRecord record
  match record.undoRecord with
  | none => return reconstructed
  | some persisted =>
    if persisted ≠ reconstructed then
      .error ⟨.provisioningError, "step " ++ record.stepId ++
        " persisted undo_record diverges from what this executor would deterministically reconstruct; " ++
        "refusing to trust it"⟩
    else return reconstructed

/-- `(journal, apply_ok, durability_unknown)`. -/
structure ApplyResult where
  journal : TransactionJournal
  applyOk : Bool
  durabilityUnknown : Bool

variable (j : TransactionJournal)

/-- A journal moved to another state and written. -/
def moveTo (st : TransactionState) : EngineProg TransactionJournal := do
  let j ← .ofExcept (j.withState st)
  writeJournal j
  return j

/-- The same, where the source does it under a condition. -/
def moveIf (c : Prop) [Decidable c] (j : TransactionJournal) (st : TransactionState) :
    EngineProg TransactionJournal := if c then moveTo j st else return j

/-- A journal moved to `RECOVERY_REQUIRED` for a reason, and written. -/
def requireRecovery (recovery : Dict) : EngineProg TransactionJournal := do
  let j ← .ofExcept (j.withState .recoveryRequired)
  let j := { j with recovery := some recovery }
  writeJournal j
  return j

variable (record : StepRecord)

/-- A step's record put into its journal, and written. -/
def writeStep : EngineProg TransactionJournal := do
  let j := j.withStep record
  writeJournal j
  return j

/-- The signal came before a planned step began. -/
def interruptStep : EngineProg ApplyResult := do
  let record ← .ofExcept (record.withState .applying)
  let record ← .ofExcept (record.withState .applyFailed)
  let record := { record with
    errorKind := some "interrupted", error := some "interrupted before this step began" }
  let j ← writeStep j record
  return ⟨j, false, false⟩

/-- What a step continues with: the journal, its record and the result of its action. -/
structure Acted where
  journal : TransactionJournal
  record : StepRecord
  result : ExecutionResult

/-- A `PLANNED` step: the write-ahead entry, then the action. -/
def beginStep : EngineProg Acted := do
  let beforeState ← safeInspect j.transactionId record
  let record ← .ofExcept (record.withState .applying)
  let record := { record with beforeState := some beforeState }
  let j ← writeStep j record
  let result ← safeApply j.transactionId record
  return ⟨j, record, result⟩

/-- An `APPLYING` step found on resume: the target decides whether the action already happened. -/
def resumeApplying (executor : Executor) (j : TransactionJournal) (record : StepRecord) : EngineProg Acted := do
  let observed ← safeInspect j.transactionId record
  if (Dict.get observed "path_policy_error").truthy then
    .raise ⟨.provisioningError, "step " ++ record.stepId ++ " failed path policy during resume inspection: " ++
      (Dict.get observed "path_policy_error").toStr⟩
  else if (Dict.get observed "inspect_error").truthy then
    .raise ⟨.provisioningError, "step " ++ record.stepId ++ " could not be inspected during resume: " ++
      (Dict.get observed "inspect_error").toStr⟩
  else if (Dict.get observed "is_symlink").truthy then
    .raise ⟨.provisioningError, "step " ++ record.stepId ++ " is ambiguous for resume: unexpected symlink"⟩
  else if (Dict.get observed "exists").truthy = true ∧ Dict.get observed "content_matches" = .bool true then
    let undoRecord ← .ofExcept (executor.reconstructUndoRecord record)
    return ⟨j, record, { status := .applied, undoRecord := some undoRecord }⟩
  else if (Dict.get observed "exists").truthy = false then
    if executor.stepIsReplaySafe record = false then
      .raise ⟨.provisioningError, "step " ++ record.stepId ++
        " is not declared replay-safe; cannot resume automatically"⟩
    else
      let result ← safeApply j.transactionId record
      return ⟨j, record, result⟩
  else
    .raise ⟨.provisioningError, "step " ++ record.stepId ++
      " content diverged from what was recorded; ambiguous for resume"⟩

/-- An `APPLIED` or `VERIFYING` step found on resume: only its verification is redone. -/
def resumeApplied (executor : Executor) (j : TransactionJournal) (record : StepRecord) :
    EngineProg (ApplyResult ⊕ Acted) := do
  match authoritativeUndoRecord executor record with
  | .ok undoRecord => return .inr ⟨j, record, { status := .applied, undoRecord := some undoRecord }⟩
  | .error x =>
    if x.isProvisioningError then
      let j ← requireRecovery j [("error", .str x.message), ("reason", .str "undo_record_diverged"),
        ("step_id", .str record.stepId)]
      return .inl ⟨j, false, true⟩
    else .raise x

/-- The action of a step in whatever state its record is. -/
def actOnStep (executor : Executor) (j : TransactionJournal) (record : StepRecord) :
    EngineProg (ApplyResult ⊕ Acted) := do
  match record.state with
  | .planned => return .inr (← beginStep j record)
  | .applying => return .inr (← resumeApplying executor j record)
  | .applied | .verifying => resumeApplied executor j record
  | st => .raise ⟨.provisioningError, "step " ++ record.stepId ++
      " is in an unexpected state for apply resume: " ++ st.value⟩

/-- The action failed. Only a target confirmed absent makes that a clean failure; otherwise the step
stays `APPLYING` and recovery is required. -/
def recordApplyFailure (result : ExecutionResult) : EngineProg ApplyResult := do
  if result.errorKind = some "durability_unknown" then
    let j ← requireRecovery j [("error", .ofOption result.error), ("reason", .str "durability_unknown"),
      ("step_id", .str record.stepId)]
    return ⟨j, false, true⟩
  else
    let observed ← safeInspect j.transactionId record
    if Dict.get observed "exists" = .bool false ∧ (Dict.get observed "is_symlink").truthy = false then
      let record ← .ofExcept (record.withState .applyFailed)
      let j ← writeStep j { record with errorKind := result.errorKind, error := result.error }
      return ⟨j, false, false⟩
    else
      let j ← requireRecovery j [("error", .ofOption result.error), ("error_kind", .ofOption result.errorKind),
        ("reason", .str "possible_partial_effect"), ("step_id", .str record.stepId)]
      return ⟨j, false, true⟩

/-- `APPLYING` or `APPLIED` to `VERIFYING`, unless a signal came right after `APPLIED`. -/
def advanceToVerifying (result : ExecutionResult) :
    EngineProg (ApplyResult ⊕ (TransactionJournal × StepRecord)) := do
  if record.state = .applying then
    let record ← .ofExcept (record.withState .applied)
    let record := { record with undoRecord := result.undoRecord }
    let j ← writeStep j record
    if (← HostReq.ask .signaled) = true then
      return .inl ⟨j, false, false⟩
    else
      let record ← .ofExcept (record.withState .verifying)
      let j ← writeStep j record
      return .inr (j, record)
  else if record.state = .applied then
    let record ← .ofExcept (record.withState .verifying)
    let j ← writeStep j record
    return .inr (j, record)
  else
    return .inr (j, record)

/-- Verify a `VERIFYING` step; the loop goes on only if it is `VERIFIED`. -/
def verifyAppliedStep (result : ExecutionResult) : EngineProg (ApplyResult ⊕ TransactionJournal) := do
  let verification ← safeVerify j.transactionId record result
  if verification.status ≠ .verified then
    let record ← .ofExcept (record.withState .verifyFailed)
    let j ← writeStep j { record with
      verification := some verification.evidence, errorKind := verification.errorKind,
      error := verification.error }
    return .inl ⟨j, false, false⟩
  else
    let record ← .ofExcept (record.withState .verified)
    let j ← writeStep j { record with verification := some verification.evidence }
    return .inr j

/-- One iteration of `_run_apply_loop` on a step that is not yet `VERIFIED`. -/
def applyOneStep (executor : Executor) (j : TransactionJournal) (record : StepRecord) :
    EngineProg (ApplyResult ⊕ TransactionJournal) := do
  if (← HostReq.ask .signaled) = true ∧ record.state = .planned then
    return .inl (← interruptStep j record)
  else if (← HostReq.ask .signaled) = true then
    return .inl ⟨j, false, false⟩
  else
    match ← actOnStep executor j record with
    | .inl stopped => return .inl stopped
    | .inr acted =>
      if acted.result.status ≠ .applied then
        return .inl (← recordApplyFailure acted.journal acted.record acted.result)
      else
        match ← advanceToVerifying acted.journal acted.record acted.result with
        | .inl stopped => return .inl stopped
        | .inr (j, record) => verifyAppliedStep j record acted.result

def runApplyLoop (executor : Executor) : List ProvisioningStep → TransactionJournal → EngineProg ApplyResult
  | [], j => return ⟨j, true, false⟩
  | step :: steps, j => do
    let record ← .ofExcept (j.step step.sequence)
    if record.state = .verified then
      runApplyLoop executor steps j
    else
      match ← applyOneStep executor j record with
      | .inl stopped => return stopped
      | .inr j => runApplyLoop executor steps j

/-! ## Rollback -/

/-- A step whose undo did not succeed. -/
def markUndoFailed (errorKind error : Option String) : EngineProg (TransactionJournal × List String) := do
  let record ← .ofExcept (record.withState .undoFailed)
  let j ← writeStep j { record with errorKind, error }
  return (j, [record.stepId])

def markUndone : EngineProg (TransactionJournal × List String) := do
  let record ← .ofExcept (record.withState .undone)
  let j ← writeStep j record
  return (j, [])

/-- The undo of an `UNDOING` step, driven by the undo record rebuilt from code. -/
def performUndo (executor : Executor) (j : TransactionJournal) (record : StepRecord) :
    EngineProg (TransactionJournal × List String) := do
  match authoritativeUndoRecord executor record with
  | .error x =>
    if x.isProvisioningError then markUndoFailed j record (some "undo_record_diverged") (some x.message)
    else .raise x
  | .ok undoRecord =>
    let result ← safeUndo j.transactionId record { status := .applied, undoRecord := some undoRecord }
    if result.status = .undone then markUndone j record
    else markUndoFailed j record result.errorKind result.error

/-- A step found `UNDOING` on resume: the target decides whether the undo already happened. -/
def resumeUndoing (executor : Executor) (j : TransactionJournal) (record : StepRecord) :
    EngineProg (TransactionJournal × List String) := do
  let observed ← safeInspect j.transactionId record
  if (Dict.get observed "path_policy_error").truthy then
    markUndoFailed j record (some "path_policy_violation") (some (Dict.get observed "path_policy_error").toStr)
  else if (Dict.get observed "inspect_error").truthy then
    markUndoFailed j record (some "inspection_error") (some (Dict.get observed "inspect_error").toStr)
  else if (Dict.get observed "exists").truthy = false then
    markUndone j record
  else if (Dict.get observed "is_symlink").truthy then
    markUndoFailed j record (some "unexpected_symlink") (some "target is a symlink during rollback recovery")
  else if Dict.get observed "content_matches" = .bool false then
    markUndoFailed j record (some "content_diverged")
      (some "target content diverged from its recorded undo_record")
  else performUndo executor j record

/-- One iteration of `_run_rollback`, with the step ids it leaves as residuals. -/
def rollbackStep (executor : Executor) (j : TransactionJournal) (sequence : Int) :
    EngineProg (TransactionJournal × List String) := do
  let current ← .ofExcept (j.step sequence)
  if current.state = .undoing then
    resumeUndoing executor j current
  else if current.state ∉ undoableStepStates then
    return (j, [])
  else
    let record ← .ofExcept (current.withState .undoing)
    let j ← writeStep j record
    performUndo executor j record

def rollbackSteps (executor : Executor) : List Int → TransactionJournal → List String →
    EngineProg (TransactionJournal × List String)
  | [], j, residuals => return (j, residuals)
  | sequence :: sequences, j, residuals => do
    let (j, failed) ← rollbackStep executor j sequence
    rollbackSteps executor sequences j (residuals ++ failed)

def reversedSequences : List Int := (j.steps.map (·.sequence)).insertionSort (· ≥ ·)

/-- `_run_rollback`: the journal and the residuals; the rollback is clean if there are none. -/
def runRollback (executor : Executor) (j : TransactionJournal) :
    EngineProg (TransactionJournal × List String) :=
  rollbackSteps executor (reversedSequences j) j []

/-! ## Verification of the whole and publication -/

def applyAndVerify (executor : Executor) (plan : ProvisioningPlan) (j : TransactionJournal) :
    EngineProg ApplyResult := do
  let applied ← runApplyLoop executor plan.steps j
  if applied.durabilityUnknown then
    return ⟨applied.journal, false, true⟩
  else if applied.applyOk = false then
    return ⟨applied.journal, false, false⟩
  else
    let j ← moveIf (applied.journal.state ≠ .verifying) applied.journal .verifying
    let postcondition ← safePostcondition j.transactionId plan
    if postcondition.status ≠ .verified then
      let j ← .ofExcept (j.withState .rollingBack)
      let failure : Dict := postcondition.evidence.foldl (fun d e => Dict.set d e.1 e.2)
        [("error", .ofOption postcondition.error), ("error_kind", .ofOption postcondition.errorKind),
          ("reason", .str "postcondition_verification_failed")]
      let j := { j with failure := some failure }
      writeJournal j
      return ⟨j, false, false⟩
    else
      return ⟨j, true, false⟩

/-- The resource a step's ownership record will name: `undo_record.get("path", step.target or "")`.
-/
def stepResource (s : StepRecord) : Value :=
  (Dict.get? (s.undoRecord.getD []) "path").getD (.str (s.target.getD ""))

/-- The live identity of a resource and the authority captured for it at publication. -/
structure CapturedIdentity where
  validated : AbsPath
  identity : Stat
  intermediates : List IntermediateIdentity
  authority : PathAuthority
  authorityV2 : PathAuthorityV2

def captureIdentity (c : ExecutionContext) (j : TransactionJournal) (resource : Value)
    (integrity : Option String) : CheckProg CapturedIdentity := do
  match resource with
  | .str path =>
    let validated ← validateTargetPath c path
    let _ ← .ofExcept (handleForAllowedRoot c validated)
    let identity ← .ofExcept (← HostReq.look (.statIdentity validated))
    let intermediates ← .ofExcept (← HostReq.look (.captureIntermediateIdentities validated))
    let authority ← .ofExcept (← HostReq.look (.capturePathAuthority validated))
    let authorityV2 ← .ofExcept (← HostReq.look
      (.capturePathAuthorityV2 validated j.transactionId j.planDigest validated integrity))
    return ⟨validated, identity, intermediates, authority, authorityV2⟩
  | _ => .raise ⟨.typeError, "expected str, bytes or os.PathLike object"⟩

/-- The metadata checks of `_finalize_provenance` against the executor's expectation; the text of
the first one that fails. -/
def identityMismatch (identity : Stat) (expected : OwnershipCandidate) : Option String :=
  if identity.isSymlink || !identity.isRegular then some "not a regular, non-symlink file"
  else if expected.nlink.any (· ≠ identity.nlink) then
    some ("st_nlink is " ++ toString identity.nlink ++ ", expected " ++ toString (expected.nlink.getD 0))
  else if expected.mode.any (· ≠ identity.mode) then
    some ("mode is " ++ octal identity.mode ++ ", expected " ++ octal (expected.mode.getD 0))
  else if expected.uid.any (· ≠ identity.uid) then
    some ("uid is " ++ toString identity.uid ++ ", expected " ++ toString (expected.uid.getD 0))
  else if expected.gid.any (· ≠ identity.gid) then
    some ("gid is " ++ toString identity.gid ++ ", expected " ++ toString (expected.gid.getD 0))
  else none

def ownershipRecordForStep (c : ExecutionContext) (executor : Executor) (plan : ProvisioningPlan)
    (j : TransactionJournal) (step : StepRecord) : CheckProg OwnershipRecord := do
  let resource := stepResource step
  let refuse reason : Exc :=
    ⟨.provisioningError, "cannot finalize ownership for " ++ resource.toStr ++ ": " ++ reason⟩
  match stepWithSequence plan.steps step.sequence with
  | none => .raise (refuse ("no matching plan step for sequence " ++ toString step.sequence))
  | some planStep =>
    let expected ← .ofExcept (executor.expectedOwnershipForStep plan planStep)
    let dynamic ← .ofExcept (dynamicVerifiedSha256ForStep step planStep expected)
    let integrity := if dynamic.isSome then dynamic else expected.integrity
    match ← (captureIdentity c j resource integrity).attempt with
    | .error x => if x.isOSOrPathPolicy then .raise (refuse x.message) else .raise x
    | .ok captured =>
      match identityMismatch captured.identity expected with
      | some reason => .raise (refuse reason)
      | none =>
        return {
          capabilityId := plan.capabilityId
          candidate := {
            artifactType := expected.artifactType
            resourceIdentity := captured.validated
            preExisting := expected.preExisting
            methodId := expected.methodId
            source := expected.source
            version := expected.version
            integrity := integrity
            uid := expected.uid.map fun _ => captured.identity.uid
            gid := expected.gid.map fun _ => captured.identity.gid
            mode := expected.mode.map fun _ => captured.identity.mode
            nlink := expected.nlink.map fun _ => captured.identity.nlink
            postInstallFingerprint :=
              if dynamic.isSome ∧ expected.postInstallFingerprint = some dynamicVerifiedSha256 then dynamic
              else expected.postInstallFingerprint
            intermediateIdentities := captured.intermediates
            pathAuthority := some captured.authority
            pathAuthorityV2 := some captured.authorityV2 }
          productOwned := true
          createdByTransaction := some j.transactionId
          executorId := plan.executorId
          executorVersion := plan.executorVersion }

def ownershipRecordsForSteps (c : ExecutionContext) (executor : Executor) (plan : ProvisioningPlan)
    (j : TransactionJournal) : List StepRecord → CheckProg (List OwnershipRecord)
  | [] => return []
  | s :: ss => do
    let r ← ownershipRecordForStep c executor plan j s
    let rs ← ownershipRecordsForSteps c executor plan j ss
    return r :: rs

/-- What the journal's provenance repeats of an ownership record. -/
def provenanceOf (r : OwnershipRecord) : Value :=
  .dict [("artifact_type", .str r.candidate.artifactType), ("executor_id", .str r.executorId),
    ("executor_version", .str r.executorVersion), ("gid", .ofNat? r.candidate.gid),
    ("integrity", .ofOption r.candidate.integrity),
    ("intermediate_identities", .list (r.candidate.intermediateIdentities.map canonicalIntermediateMapping)),
    ("method_id", .ofOption r.candidate.methodId), ("mode", .ofNat? r.candidate.mode),
    ("path_authority", (r.candidate.pathAuthority.map fun a =>
      Value.dict [("component_count", .int a.componentCount), ("root_path", .str a.rootPath),
        ("target_relative_path", .str a.targetRelativePath)]).getD .null),
    ("path_authority_v2", (r.candidate.pathAuthorityV2.map fun a =>
      Value.dict [("authority_digest", .str a.authorityDigest), ("chain_digest", .str a.chainDigest),
        ("component_count", .int a.componentCount), ("schema", .str a.schema)]).getD .null),
    ("resource_identity", .str r.candidate.resourceIdentity), ("uid", .ofNat? r.candidate.uid)]

/-- `_finalize_provenance`: publish one ownership record per step, return the provenance. -/
def finalizeProvenance (c : ExecutionContext) (executor : Executor) (plan : ProvisioningPlan)
    (j : TransactionJournal) : EngineProg Dict := do
  let records ← ownershipRecordsForSteps c executor plan j j.steps
  .ofExcept (← Req.ask (.writeOwnershipRecords plan.capabilityId records))
  return [("ownership_records", .list (records.map provenanceOf)), ("transaction_id", .str j.transactionId)]

end WatchdogVpn.Provisioning
