import WatchdogVpn.Provisioning.World

/-!
# Checks the engine makes before it trusts anything

Path and root identity checks, the exact comparison of a journal with the plan rebuilt from
code, the authority of ownership records, and idempotency. All of these only read.
-/

namespace WatchdogVpn.Provisioning

open Effect

/-! ## Paths and roots -/

/-- `validate_target_path`: the structural checks, then the walk over the existing components. -/
def validateTargetPath (c : ExecutionContext) (path : String) : CheckProg AbsPath := do
  match targetPathRefusal c path with
  | some reason => .raise ⟨.pathPolicyError, reason⟩
  | none => .ofExcept (← HostReq.look (.resolveTargetPath path))

/-- `_open_locked_context`, one allowed root after the other. -/
def openAllowedRoots : List String → CheckProg Unit
  | [] => pure ()
  | root :: roots => do
    .ofExcept (← HostReq.look (.openAllowedRoot root))
    openAllowedRoots roots

def openLockedContext (c : ExecutionContext) : CheckProg ExecutionContext := do
  openAllowedRoots c.allowedRoots
  return { c with locked := true }

def eagerCacheIntermediatesForTargets (c : ExecutionContext) : List (Option String) → CheckProg Unit
  | [] => pure ()
  | none :: targets => eagerCacheIntermediatesForTargets c targets
  | some target :: targets => do
    if target = "" then
      eagerCacheIntermediatesForTargets c targets
    else
      let _ ← .ofExcept (validateOwnedResourcePathForAuthority c target)
      let root ← .ofExcept (handleForAllowedRoot c target)
      if (relativeParts target root).dropLast ≠ [] then
        .ofExcept (← HostReq.look (.openIntermediates target))
      eagerCacheIntermediatesForTargets c targets

/-- The checks of `_verify_terminal_identity` on one product-owned record. -/
def verifyRecordIdentity (c : ExecutionContext) (requireLeaf : Bool) (r : OwnershipRecord) :
    CheckProg Unit := do
  let validated ← validateTargetPath c r.candidate.resourceIdentity
  let _ ← .ofExcept (handleForAllowedRoot c validated)
  .ofExcept (← HostReq.look (.verifyPathAuthority r.candidate.pathAuthority validated))
  if requireLeaf then
    .ofExcept (← HostReq.look (.verifyPathAuthorityV2 r.candidate.pathAuthorityV2 validated
      r.createdByTransaction none (some r.candidate.resourceIdentity)))
  .ofExcept (← HostReq.look (.verifyIntermediateIdentities r.candidate.intermediateIdentities))

def verifyRecordIdentities (c : ExecutionContext) (requireLeaf : Bool) : List OwnershipRecord → CheckProg Unit
  | [] => pure ()
  | r :: rs => do
    if r.productOwned then
      verifyRecordIdentity c requireLeaf r
    verifyRecordIdentities c requireLeaf rs

def verifyAllowedRootsIdentity : CheckProg Unit := do
  .ofExcept (← HostReq.look .verifyAllowedRootsIdentity)

def verifyTerminalIdentity (c : ExecutionContext) (records : List OwnershipRecord) (requireLeaf : Bool) :
    CheckProg Unit := do
  verifyAllowedRootsIdentity
  verifyRecordIdentities c requireLeaf records

def readOwnershipRecords (capabilityId : String) : CheckProg (List OwnershipRecord) := do
  .ofExcept (← Req.look (.readOwnershipRecords capabilityId))

def ownershipIntermediatesAreCurrent (r : OwnershipRecord) (c : ExecutionContext) (requireLeaf : Bool) :
    CheckProg Bool := do
  if c.locked = false then
    return true
  let body : CheckProg Unit := do
    let _ ← .ofExcept (validateOwnedResourcePathForAuthority c r.candidate.resourceIdentity)
    let _ ← .ofExcept (handleForAllowedRoot c r.candidate.resourceIdentity)
    .ofExcept (← HostReq.look (.verifyPathAuthority r.candidate.pathAuthority r.candidate.resourceIdentity))
    if requireLeaf then
      .ofExcept (← HostReq.look (.verifyPathAuthorityV2 r.candidate.pathAuthorityV2
        r.candidate.resourceIdentity r.createdByTransaction none (some r.candidate.resourceIdentity)))
    .ofExcept (← HostReq.look (.verifyIntermediateIdentities r.candidate.intermediateIdentities))
  match ← body.attempt with
  | .ok _ => return true
  | .error x => if x.isOSOrPathPolicy then return false else .raise x

/-! ## Journal against plan -/

/-- `plan_by_sequence.get(sequence)`. -/
def stepWithSequence (steps : List ProvisioningStep) (sequence : Int) : Option ProvisioningStep :=
  steps.find? fun s => s.sequence == sequence

def sameSet {α : Type} [DecidableEq α] (a b : List α) : Bool := a.all (· ∈ b) && b.all (· ∈ a)

/-- The per-step part of `_journal_steps_match_plan_exactly`. -/
def stepMatches (plan : List ProvisioningStep) (s : StepRecord) : Bool :=
  match stepWithSequence plan s.sequence with
  | none => false
  | some p => s.stepId == p.stepId && s.actionType == p.actionType && s.target == p.target &&
      decide (s.intent = p.intent)

/-- `_journal_steps_match_plan_exactly` and `_uninstall_journal_steps_match_plan_exactly`: the two
functions of the source differ only in the type of the plan. -/
def stepsMatchExactly (steps : List StepRecord) (plan : List ProvisioningStep) : Bool :=
  steps.length == plan.length && decide (steps.map (·.sequence)).Nodup &&
    sameSet (steps.map (·.sequence)) (plan.map (·.sequence)) && steps.all (stepMatches plan)

def journalStepsMatchPlanExactly (j : TransactionJournal) (plan : ProvisioningPlan) : Bool :=
  stepsMatchExactly j.steps plan.steps

def uninstallJournalStepsMatchPlanExactly (j : TransactionJournal) (plan : UninstallPlan) : Bool :=
  stepsMatchExactly j.steps plan.steps

def stepsConsistentWithTransactionState (j : TransactionJournal) : Bool :=
  if j.operation ≠ .prepare then true
  else if j.state = .applying ∨ j.state = .verifying then
    j.steps.all fun s => s.state != .undoing && s.state != .undone && s.state != .undoFailed
  else true

/-- The plan a journal's own header and an executor's steps give back. -/
def rebuildPlan (executor : Executor) (j : TransactionJournal) : Except Exc ProvisioningPlan := do
  let steps ← executor.planSteps j.capabilityId j.dependencyId
  ProvisioningPlan.build
    { capabilityId := j.capabilityId, dependencyId := j.dependencyId, resolvedTarget := j.target,
      architecture := j.architecture, supportClassification := j.supportClassification,
      selectedMethodId := j.selectedMethod.id, selectedMethodKind := j.selectedMethod.kind,
      postcondition := executor.postconditionDescription, executorId := j.executor.id,
      executorVersion := j.executor.version, selectedAsset := j.selectedAsset } steps

def dynamicVerifiedSha256 : String := "__watchdogvpn_dynamic_verified_sha256__"

def isHexDigit (c : Char) : Bool := c.isDigit || ('a' ≤ c && c ≤ 'f') || ('A' ≤ c && c ≤ 'F')

def dynamicVerifiedSha256ForStep (journalStep : StepRecord) (planStep : ProvisioningStep)
    (expected : OwnershipCandidate) : Except Exc (Option String) :=
  if expected.integrity ≠ some dynamicVerifiedSha256 then .ok none
  else if Dict.get planStep.intent "integrity_policy" ≠ .str "record_verified_sha256" then
    .error ⟨.provisioningError, "dynamic integrity placeholder used without explicit step policy"⟩
  else
    match Dict.get (journalStep.verification.getD []) "sha256" with
    | .str sha =>
      if sha.toList.length = 64 ∧ sha.toList.all isHexDigit = true then
        .ok (some (String.ofList (sha.toList.map Char.toLower)))
      else .error ⟨.provisioningError,
        "dynamic integrity step " ++ journalStep.stepId ++ " has no verified sha256"⟩
    | _ => .error ⟨.provisioningError,
        "dynamic integrity step " ++ journalStep.stepId ++ " has no verified sha256"⟩

/-! ## Ownership authority -/

def loadCommittedSourceJournal (tid : TxId) (capabilityId : String) :
    CheckProg (Option TransactionJournal) := do
  match ← Req.look (.readJournal tid) with
  | .error x => if x.isJournalOrIdentifier then return none else .raise x
  | .ok j =>
    if j.state ≠ .committed ∨ j.operation ≠ .prepare ∨ j.capabilityId ≠ capabilityId then
      return none
    else if j.provenance.isNone then
      return none
    else return some j

inductive UninstallScanResult
  | noneFound
  | completedFound
  | unknown
  deriving DecidableEq

/-- The states in which an uninstall has already removed its resources. -/
def removalCompletedStates : List TransactionState :=
  [.revokingOwnership, .uninstallTerminalPrepared, .uninstalled]

def scanForCompletedUninstall (capabilityId : String) (target : TxId) (exclude : Option TxId) :
    List TxId → CheckProg UninstallScanResult
  | [] => return .noneFound
  | tid :: tids => do
    if some tid = exclude then
      scanForCompletedUninstall capabilityId target exclude tids
    else
      match ← Req.look (.readJournal tid) with
      | .error x => if x.isJournalOrIdentifier then return .unknown else .raise x
      | .ok j =>
        if j.operation ≠ .uninstall ∨ j.capabilityId ≠ capabilityId ∨ j.target ≠ target then
          scanForCompletedUninstall capabilityId target exclude tids
        else if j.state ∈ removalCompletedStates then
          return .completedFound
        else
          scanForCompletedUninstall capabilityId target exclude tids

def capabilityHasCompletedUninstall (capabilityId : String) (target : TxId) (exclude : Option TxId) :
    CheckProg UninstallScanResult := do
  match ← Req.look .listTransactionIds with
  | .error x => if x.isJournalOrIdentifier then return .unknown else .raise x
  | .ok tids => scanForCompletedUninstall capabilityId target exclude tids

/-- The plan step an ownership record names: the last one with that target. -/
def planStepForResource (plan : ProvisioningPlan) (resource : String) : Option ProvisioningStep :=
  if resource = "" then none else plan.steps.reverse.find? fun s => s.target == some resource

/-- The comparison of a record's fields with what the executor expects. -/
def ownershipFieldsMatch (r : OwnershipRecord) (j : TransactionJournal) (expected : OwnershipCandidate)
    (dynamic : Option String) : Bool :=
  r.capabilityId == j.capabilityId && r.candidate.artifactType == expected.artifactType &&
    r.candidate.resourceIdentity == expected.resourceIdentity &&
    r.candidate.preExisting == expected.preExisting && r.candidate.methodId == expected.methodId &&
    r.candidate.source == expected.source && r.candidate.version == expected.version &&
    r.candidate.integrity == (if dynamic.isSome then dynamic else expected.integrity) &&
    r.candidate.uid == expected.uid && r.candidate.gid == expected.gid &&
    r.candidate.mode == expected.mode && r.candidate.nlink == expected.nlink &&
    r.candidate.postInstallFingerprint ==
      (if dynamic.isSome ∧ expected.postInstallFingerprint = some dynamicVerifiedSha256 then dynamic
       else expected.postInstallFingerprint)

/-- The part of `validate_ownership_authority` that looks at one record's path. -/
def recordPathIsAuthorized (r : OwnershipRecord) (j : TransactionJournal) (c : ExecutionContext)
    (requireLiveResource : Bool) : CheckProg Bool := do
  match validateOwnedResourcePathForAuthority c r.candidate.resourceIdentity with
  | .error _ => return false
  | .ok root =>
    if r.candidate.pathAuthority.isNone ∨ r.candidate.pathAuthorityV2.isNone then
      return false
    let body : CheckProg Unit := do
      if c.locked then
        let _ ← .ofExcept (handleForAllowedRoot c r.candidate.resourceIdentity)
      else
        .ofExcept (← HostReq.look (.openAllowedRoot root))
      .ofExcept (← HostReq.look (.verifyPathAuthority r.candidate.pathAuthority r.candidate.resourceIdentity))
      if requireLiveResource then
        .ofExcept (← HostReq.look (.verifyPathAuthorityV2 r.candidate.pathAuthorityV2
          r.candidate.resourceIdentity r.createdByTransaction (some j.planDigest)
          (some r.candidate.resourceIdentity)))
    match ← body.attempt with
    | .error x => if x.isOSOrPathPolicy then return false else .raise x
    | .ok _ =>
      if (relativeParts r.candidate.resourceIdentity root).dropLast ≠ [] ∧
          r.candidate.intermediateIdentities = [] then
        return false
      ownershipIntermediatesAreCurrent r c requireLiveResource

/-- The loop of `validate_ownership_authority` over the owned records. -/
def recordsAreAuthorized (executor : Executor) (plan : ProvisioningPlan) (j : TransactionJournal)
    (c : ExecutionContext) (requireLiveResource : Bool) : List OwnershipRecord → CheckProg Bool
  | [] => return true
  | r :: rs => do
    match planStepForResource plan r.candidate.resourceIdentity with
    | none => return false
    | some planStep =>
      let expected ← .ofExcept (executor.expectedOwnershipForStep plan planStep)
      match j.steps.reverse.find? fun s => s.sequence == planStep.sequence with
      | none => return false
      | some journalStep =>
        match dynamicVerifiedSha256ForStep journalStep planStep expected with
        | .error _ => return false
        | .ok dynamic =>
          if ownershipFieldsMatch r j expected dynamic = false then
            return false
          if (← recordPathIsAuthorized r j c requireLiveResource) = false then
            return false
          if r.executorId ≠ j.executor.id ∨ r.executorVersion ≠ j.executor.version then
            return false
          if r.createdByTransaction ≠ some j.transactionId then
            return false
          recordsAreAuthorized executor plan j c requireLiveResource rs

/-- The transaction all owned records cite, if they cite exactly one. -/
def citedTransaction (owned : List OwnershipRecord) : Option TxId :=
  match owned with
  | [] => none
  | r :: rs => if rs.all (·.createdByTransaction == r.createdByTransaction)
      then r.createdByTransaction else none

/-- What `validate_ownership_authority` does once the source journal is found. -/
def validateAgainstSource (env : ProvisioningEnvironment) (c : ExecutionContext) (j : TransactionJournal)
    (owned : List OwnershipRecord) (requireLiveResource : Bool) : CheckProg Bool := do
  match env.registry.resolve j.selectedMethod.kind j.selectedMethod.id j.executor.version with
  | .error _ => return false
  | .ok executor =>
    match rebuildPlan executor.toExecutor j with
    | .error x => if x.isValueOrKey then return false else .raise x
    | .ok plan =>
      if computePlanDigest env plan ≠ j.planDigest then
        return false
      if journalStepsMatchPlanExactly j plan = false then
        return false
      if j.steps.any (fun s => s.state != .verified) then
        return false
      if j.steps.any (fun s => s.verification.isNone || (s.undoRecord.getD []).isEmpty) then
        return false
      if sameSet ((plan.steps.filterMap (·.target)).filter (· ≠ ""))
          (owned.map (·.candidate.resourceIdentity)) = false then
        return false
      recordsAreAuthorized executor.toExecutor plan j c requireLiveResource owned

def validateOwnershipAuthority (env : ProvisioningEnvironment) (c : ExecutionContext) (capabilityId : String)
    (records : List OwnershipRecord) (excludeUninstall : Option TxId) (requireLiveResource : Bool) :
    CheckProg Bool := do
  let owned := records.filter (·.productOwned)
  if owned = [] then
    return true
  else
    match citedTransaction owned with
    | none => return false
    | some tid =>
      match ← loadCommittedSourceJournal tid capabilityId with
      | none => return false
      | some j =>
        if (← capabilityHasCompletedUninstall capabilityId tid excludeUninstall) ≠ .noneFound then
          return false
        else validateAgainstSource env c j owned requireLiveResource

end WatchdogVpn.Provisioning
