import WatchdogVpn.Provisioning.Transaction

/-!
# Removing what a transaction owns

An uninstall journal has one step per owned resource. The removal loop keeps two copies of
its journal, as the source does: the one it works on, and the box that the custody recorder
writes and that is what the loop finally returns.
-/

namespace WatchdogVpn.Provisioning

open Effect

/-! ## Plan, journal and authority -/

def uninstallStepFor (index : Nat) (r : OwnershipRecord) : ProvisioningStep :=
  { sequence := index, stepId := "uninstall_" ++ toString index, actionType := "remove_file",
    intent := [("expected_sha256", .ofOption r.candidate.integrity),
      ("resource_identity", .str r.candidate.resourceIdentity)],
    target := some r.candidate.resourceIdentity }

/-- `_build_uninstall_plan`, with the checks of the plan's `__post_init__`. -/
def buildUninstallPlan (capabilityId : String) (owned : List OwnershipRecord) (tid : TxId) :
    Except Exc UninstallPlan :=
  if hn : owned = [] then .error ⟨.valueError, "an uninstall plan requires at least one owned resource"⟩
  else if ho : ∀ r ∈ owned, r.productOwned = true then
    .ok { capabilityId, transactionId := tid,
          targetTransactionId := (owned.head?.bind (·.createdByTransaction)).getD "",
          ownershipRecords := owned,
          steps := owned.reverse.zipIdx.map fun p => uninstallStepFor p.2 p.1,
          nonempty := hn, owned := ho }
  else .error ⟨.valueError, "uninstall plan may only include product-owned ownership records"⟩

variable (env : ProvisioningEnvironment)

def initialUninstallJournal (plan : UninstallPlan) : TransactionJournal :=
  { transactionId := plan.transactionId, operation := .uninstall, state := .uninstallPlanned,
    planDigest := computeUninstallPlanDigest env plan, capabilityId := plan.capabilityId,
    dependencyId := "unspecified",
    target := if plan.targetTransactionId = "" then "n/a" else plan.targetTransactionId,
    architecture := "n/a", supportClassification := "n/a",
    selectedMethod := ⟨"uninstall", "uninstall"⟩, executor := ⟨"uninstall", "1"⟩,
    steps := plan.steps.map plannedRecord, ownedSnapshot := plan.ownershipRecords }

def uninstallSourceMatches (c : ExecutionContext) (j : TransactionJournal) :
    CheckProg Bool := do
  let owned := j.ownedSnapshot.filter (·.productOwned)
  if owned = [] then
    return false
  if (← validateOwnershipAuthority env c j.capabilityId owned none false) = false then
    return false
  else
    match buildUninstallPlan j.capabilityId owned j.transactionId with
    | .error _ => return false
    | .ok plan =>
      if computeUninstallPlanDigest env plan ≠ j.planDigest then
        return false
      return uninstallJournalStepsMatchPlanExactly j plan

/-- The last part of `_revocation_boundary_is_safe`: no snapshotted resource is there any more. -/
def confirmAllAbsent : List OwnershipRecord → CheckProg (Option String)
  | [] => return none
  | r :: rs => do
    match ← .ofExcept (← HostReq.look (.confirmAbsent r.candidate.resourceIdentity)) with
    | some reason => return some reason
    | none => confirmAllAbsent rs

/-- `_revocation_boundary_is_safe`: `none` if it is safe to revoke ownership, else the reason. -/
def revocationBoundaryIsSafe (c : ExecutionContext) (j : TransactionJournal) :
    CheckProg (Option String) := do
  let owned := j.ownedSnapshot.filter (·.productOwned)
  if owned = [] then
    return some "empty ownership snapshot"
  if (← validateOwnershipAuthority env c j.capabilityId owned (some j.transactionId) false) = false then
    return some "ownership snapshot no longer traces to a valid committed transaction"
  else
    match buildUninstallPlan j.capabilityId owned j.transactionId with
    | .error x => return some ("cannot rebuild uninstall plan from snapshot: " ++ x.message)
    | .ok plan =>
      if computeUninstallPlanDigest env plan ≠ j.planDigest then
        return some "uninstall plan digest no longer matches the journal's own snapshot"
      if uninstallJournalStepsMatchPlanExactly j plan = false then
        return some ("uninstall journal steps no longer match the plan reconstructed from the ownership " ++
          "snapshot")
      if j.steps.any (fun s => s.state != .verified) then
        return some "not every uninstall step is VERIFIED"
      confirmAllAbsent owned

/-- `_revoke_ownership_and_verify`: `none` if the ownership file is confirmed gone, else the reason.
-/
def revokeOwnershipAndVerify (capabilityId : String) : EngineProg (Option String) := do
  match ← Req.ask (.deleteOwnershipRecords capabilityId) with
  | .error x =>
    if x.kind = .durabilityError then
      return some ("ownership revocation durability could not be confirmed: " ++ x.message)
    else if x.isOSError then
      return some ("failed to revoke ownership: " ++ x.message)
    else .raise x
  | .ok _ =>
    match ← Req.ask (.ownershipFilePresent capabilityId) with
    | .ok false => return none
    | .ok true => return some "ownership file still present after revocation attempt"
    | .error x =>
      if x.isOSError then return some ("cannot verify ownership revocation: " ++ x.message) else .raise x

/-! ## The removal loop -/

def markUninstallStepFailed (record : StepRecord) (errorKind error : String) : Except Exc StepRecord := do
  let record ← if record.state = .planned then record.withState .applying else .ok record
  let record ← record.withState .applyFailed
  return { record with errorKind := some errorKind, error := some error }

variable (j : TransactionJournal)

def uninstallFailureRequiresRecovery : Bool :=
  j.steps.any fun s => s.errorKind == some "path_policy_violation"

def uninstallResidualsRequireRecovery (residuals : List String) : Bool := residuals.contains "identity_mismatch"

def journalWithCustodyRecord (r : CustodyRecord) : TransactionJournal :=
  { j with custodyRecords := j.custodyRecords.filter (fun k => k.resourceId != r.resourceId) ++ [r] }

/-- `_make_custody_recorder`: system calls go to the host, custody records into the journal box. -/
def custodyRecorder : (e : RemovalReq) → TransactionJournal → EngineProg (RemovalAns e × TransactionJournal)
  | .fs q, box => do return (← HostReq.ask (.fs q), box)
  | .record r, box => do
    let j := journalWithCustodyRecord box r
    match ← Req.ask (.writeJournal j) with
    | .ok _ => return (Except.ok (), j)
    | .error x => return (Except.error x, box)

def unresolvedCustodyRecords : List CustodyRecord :=
  j.custodyRecords.filter fun r => r.state ≠ .deleted

/-- `_detect_ownership_drift`: what differs from the record, if anything. -/
def detectOwnershipDrift (r : OwnershipRecord) (validated : String) : CheckProg (Option String) := do
  if validated ≠ r.candidate.resourceIdentity then
    return some ("path drifted: expected " ++ r.candidate.resourceIdentity ++ ", resolved to " ++ validated)
  else
    match ← HostReq.look (.statIdentity validated) with
    | .error x =>
      if x.isOSOrPathPolicy then return some ("cannot inspect current identity: " ++ x.message) else .raise x
    | .ok identity =>
      let body : CheckProg Unit := do
        .ofExcept (← HostReq.look (.verifyPathAuthority r.candidate.pathAuthority validated))
        .ofExcept (← HostReq.look (.verifyIntermediateIdentities r.candidate.intermediateIdentities))
      match ← body.attempt with
      | .error x =>
        if x.isOSOrPathPolicy then return some ("path authority drifted: " ++ x.message) else .raise x
      | .ok _ =>
        let nlink := r.candidate.nlink.getD 1
        if identity.nlink ≠ nlink then
          return some ("hard link count drifted to " ++ toString identity.nlink ++ " (expected " ++
            toString nlink ++ ")")
        if r.candidate.uid.any (· ≠ identity.uid) then
          return some ("owner uid drifted: expected " ++ toString (r.candidate.uid.getD 0) ++ ", found " ++
            toString identity.uid)
        if r.candidate.gid.any (· ≠ identity.gid) then
          return some ("owner gid drifted: expected " ++ toString (r.candidate.gid.getD 0) ++ ", found " ++
            toString identity.gid)
        if r.candidate.mode.any (· ≠ identity.mode) then
          return some ("mode drifted: expected " ++ octal (r.candidate.mode.getD 0) ++ ", found " ++
            octal identity.mode)
        return none

/-- The drift of the resource from its record in the snapshot; no record, no drift. -/
def snapshotDrift (resource validated : String) : CheckProg (Option String) :=
  match j.ownedSnapshot.find? fun r => r.candidate.resourceIdentity == resource with
  | some owned => detectOwnershipDrift owned validated
  | none => return none

variable (box : TransactionJournal)

/-- A failed step, written; the box takes the failure over. -/
def failUninstallStep (record : StepRecord) (errorKind error : String) :
    EngineProg (TransactionJournal × List String) := do
  let failed ← .ofExcept (markUninstallStepFailed record errorKind error)
  let box ← writeStep box failed
  return (box, [record.stepId])

/-- A failed step, written but not taken over into the box: the branches for a refused path and for
a symlink leave `journal_box` as it was. -/
def failUninstallStepUnboxed (record : StepRecord) (errorKind error : String) :
    EngineProg (TransactionJournal × List String) := do
  let failed ← .ofExcept (markUninstallStepFailed record errorKind error)
  let _ ← writeStep box failed
  return (box, [record.stepId])

variable (c : ExecutionContext) (box : TransactionJournal)

section

variable (record : StepRecord)

/-- The file is there and no symlink: check it for drift and remove it through custody. -/
def removeOwnedFile (root validated : String)
    (resource : String) : EngineProg
      ((TransactionJournal × List String) ⊕ (TransactionJournal × StepRecord)) := do
  match ← snapshotDrift box resource validated with
  | some drift => return .inl (← failUninstallStep box record "ownership_drift" drift)
  | none =>
    let expected := match Dict.get record.intent "expected_sha256" with
      | .str sha => some sha
      | _ => none
    let removal := removeFileIfOwnedRelative root validated expected resource c.custodyIsolationPolicy
    let (outcome, box) ← handle custodyRecorder removal box
    match outcome with
    | .error x => return .inl (← failUninstallStep box record "ownership_drift" x.message)
    | .ok _ =>
      let record ← .ofExcept (record.withState .applied)
      let box ← writeStep box record
      return .inr (box, record)

/-- A step that reached `VERIFYING`, written; the box takes the failure over. -/
def failVerification (errorKind error : String) :
    EngineProg (TransactionJournal × List String) := do
  let failed ← .ofExcept (record.withState .verifyFailed)
  let box ← writeStep box { failed with errorKind := some errorKind, error := some error }
  return (box, [record.stepId])

/-- `APPLIED` to `VERIFYING`. -/
def advanceRemoval : EngineProg (TransactionJournal × StepRecord) := do
  if record.state = .applied then
    let record ← .ofExcept (record.withState .verifying)
    let box ← writeStep box record
    return (box, record)
  else return (box, record)

def verifyRemoved (validated : String) : EngineProg (TransactionJournal × List String) := do
  let (box, record) ← advanceRemoval box record
  match ← HostReq.ask (.statIdentity validated) with
  | .error x =>
    if x.kind = .fileNotFoundError then
      let record ← .ofExcept (record.withState .verified)
      let box ← writeStep box { record with verification := some [("removed", .bool true)] }
      return (box, [])
    else if x.isOSOrPathPolicy then
      failVerification box record "inspection_error" x.message
    else .raise x
  | .ok _ => failVerification box record "residual" "path still exists after removal"

/-- `record.intent["resource_identity"]` as a path. -/
def intentResource : Except Exc String :=
  match Dict.get? record.intent "resource_identity" with
  | some (.str path) => .ok path
  | some _ => .error ⟨.typeError, "expected str, bytes or os.PathLike object"⟩
  | none => .error ⟨.keyError, "'resource_identity'"⟩

/-- `validate_target_path` and `handle_for_allowed_root` of a removal step. -/
def validateResource (resource : String) : CheckProg (AbsPath × String) := do
  let validated ← validateTargetPath c resource
  let root ← .ofExcept (handleForAllowedRoot c validated)
  return (validated, root)

/-- The write-ahead entry of a `PLANNED` removal step. -/
def beginRemoval : EngineProg (TransactionJournal × StepRecord) := do
  if record.state = .planned then
    let record ← .ofExcept (record.withState .applying)
    let box ← writeStep box record
    return (box, record)
  else return (box, record)

end

/-- What the loop finds at a step, from the path check and from the first look at a file still to be
removed. `removed` is a step past `APPLYING`, of which only the verification is left. -/
inductive Approach
  | finished
  | refused (record : StepRecord) (reason : String)
  | removed (record : StepRecord) (validated : String)
  | absent (record : StepRecord) (validated resource : String)
  | unknown (record : StepRecord) (reason : String)
  | symlink (record : StepRecord)
  | present (record : StepRecord) (validated root resource : String)

/-- The first part of an iteration of `_run_uninstall_loop`, up to the first look at the file. -/
def approachStep (sequence : Int) : EngineProg (TransactionJournal × Approach) := do
  let record ← .ofExcept (box.step sequence)
  if record.state = .verified then
    return (box, .finished)
  else
    let resource ← .ofExcept (intentResource record)
    match ← (validateResource c resource).attempt with
    | .error x => if x.kind = .pathPolicyError then return (box, .refused record x.message) else .raise x
    | .ok (validated, root) =>
      let (box, record) ← beginRemoval box record
      if record.state = .applying then
        match ← HostReq.ask (.statIdentity validated) with
        | .error x =>
          if x.kind = .fileNotFoundError then return (box, .absent record validated resource)
          else if x.isOSOrPathPolicy then return (box, .unknown record x.message)
          else .raise x
        | .ok identity =>
          if identity.isSymlink then return (box, .symlink record)
          else return (box, .present record validated root resource)
      else return (box, .removed record validated)

/-- The rest of the iteration: the box and the residuals it adds. -/
def settleStep : Approach → EngineProg (TransactionJournal × List String)
  | .finished => return (box, [])
  | .refused record reason => failUninstallStepUnboxed box record "path_policy_violation" reason
  | .removed record validated => verifyRemoved box record validated
  | .absent record validated resource => do
    if box.custodyRecords.any fun r => r.resourceId == resource && r.state != .deleted then
      failUninstallStep box record "custody_recovery_required"
        "resource basename is absent while custody transaction is not deleted"
    else
      let record ← .ofExcept (record.withState .applied)
      let box ← writeStep box record
      verifyRemoved box record validated
  | .unknown record reason => failUninstallStep box record "inspection_error" reason
  | .symlink record =>
    failUninstallStepUnboxed box record "unexpected_symlink" "target is a symlink during uninstall recovery"
  | .present record validated root resource => do
    match ← removeOwnedFile c box record root validated resource with
    | .inl stopped => return stopped
    | .inr (box, record) => verifyRemoved box record validated

/-- One iteration of `_run_uninstall_loop`. -/
def uninstallStep (sequence : Int) : EngineProg (TransactionJournal × List String) := do
  let (box, approach) ← approachStep c box sequence
  settleStep c box approach

def uninstallSteps (c : ExecutionContext) : List Int → TransactionJournal → List String →
    EngineProg (TransactionJournal × List String)
  | [], box, residuals => return (box, residuals)
  | sequence :: sequences, box, residuals => do
    let (box, failed) ← uninstallStep c box sequence
    uninstallSteps c sequences box (residuals ++ failed)

/-- `(journal, ok, residuals)`. -/
structure UninstallLoopResult where
  journal : TransactionJournal
  ok : Bool
  residuals : List String

/-- The loop proper, once the source authority is intact and no custody record is unresolved. -/
def removeAll (j : TransactionJournal) : EngineProg UninstallLoopResult := do
  let (box, residuals) ← uninstallSteps c (j.steps.map (·.sequence)) j []
  return ⟨box, residuals.isEmpty, residuals⟩

def runUninstallLoop (c : ExecutionContext) (j : TransactionJournal) :
    EngineProg UninstallLoopResult := do
  if (← uninstallSourceMatches env c j) = false then
    match ← (verifyTerminalIdentity c j.ownedSnapshot true).attempt with
    | .error x => if x.isIdentityOrPathPolicy then return ⟨j, false, ["identity_mismatch"]⟩ else .raise x
    | .ok _ => return ⟨j, false, ["plan_digest_mismatch"]⟩
  else
    verifyAllowedRootsIdentity
    if unresolvedCustodyRecords j ≠ [] then
      return ⟨j, false, (unresolvedCustodyRecords j).map (·.resourceId)⟩
    else removeAll c j

end WatchdogVpn.Provisioning
