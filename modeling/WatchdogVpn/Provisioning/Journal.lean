import WatchdogVpn.Provisioning.Model

/-!
# Transaction journals

A journal is one transaction's durable record: its own state, the state of each step, and
what the steps observed. `withState` refuses every move the transition tables do not list.
What reaches disk is `onDisk`: the journal with every mapping and text redacted. Redaction
never touches a state, a sequence or a target, so everything recovery decides from these it
decides alike before and after a restart (`Synced`).
-/

namespace WatchdogVpn.Provisioning

/-- Transaction identifiers: the stem of the journal's file name. -/
abbrev TxId := String

/-- `journal.operation`: the two operations the engine writes, or any other text. -/
inductive Operation
  | prepare
  | uninstall
  | other (name : String)
  deriving DecidableEq

structure SelectedMethod where
  id : String
  kind : String
  deriving DecidableEq

/-- `journal.executor`. -/
structure ExecutorRef where
  id : String
  version : String
  deriving DecidableEq

structure StepRecord where
  sequence : Int
  stepId : String
  actionType : String
  state : StepState
  intent : Dict
  target : Option String
  beforeState : Option Dict := none
  verification : Option Dict := none
  undoRecord : Option Dict := none
  errorKind : Option String := none
  error : Option String := none

/-- `with_state`: the step in a new state, if the table allows the move. -/
def StepRecord.withState (r : StepRecord) (new : StepState) : Except Exc StepRecord := do
  let st ← transitionStep r.state new
  return { r with state := st }

structure TransactionJournal where
  transactionId : TxId
  operation : Operation
  state : TransactionState
  planDigest : String
  capabilityId : String
  dependencyId : String
  target : String
  architecture : String
  supportClassification : String
  selectedMethod : SelectedMethod
  executor : ExecutorRef
  steps : List StepRecord
  selectedAsset : Option Dict := none
  ownedSnapshot : List OwnershipRecord := []
  custodyRecords : List CustodyRecord := []
  provenance : Option Dict := none
  failure : Option Dict := none
  recovery : Option Dict := none

namespace TransactionJournal

/-- `with_state`: the journal in a new state, if the table allows the move. -/
def withState (j : TransactionJournal) (new : TransactionState) : Except Exc TransactionJournal := do
  let st ← transitionTransaction j.state new
  return { j with state := st }

def step (j : TransactionJournal) (sequence : Int) : Except Exc StepRecord :=
  match j.steps.find? fun s => s.sequence == sequence with
  | some s => .ok s
  | none => .error ⟨.journalError,
      "journal " ++ j.transactionId ++ " has no step with sequence " ++ toString sequence⟩

def withStep (j : TransactionJournal) (updated : StepRecord) : TransactionJournal :=
  { j with steps := j.steps.map fun s => if s.sequence == updated.sequence then updated else s }

end TransactionJournal

def needsRecoveryAttention : List TransactionState :=
  [.applying, .verifying, .prepareTerminalPrepared, .rollingBack, .recoveryRequired, .recovering,
    .uninstalling, .revokingOwnership, .uninstallTerminalPrepared, .rollbackFailed, .uninstallFailed]

def undoableStepStates : List StepState := [.applied, .verifying, .verified, .verifyFailed]

/-! ## What reaches disk -/

def IntermediateIdentity.onDisk (i : IntermediateIdentity) : IntermediateIdentity :=
  { i with relativeName := redactStr i.relativeName }

def PathAuthority.onDisk (a : PathAuthority) : PathAuthority :=
  { a with
    rootPath := redactStr a.rootPath
    targetRelativePath := redactStr a.targetRelativePath
    components := a.components.map fun c => { c with relativeName := redactStr c.relativeName } }

def PathAuthorityV2.onDisk (a : PathAuthorityV2) : PathAuthorityV2 :=
  { a with
    schema := redactStr a.schema
    transactionId := redactStr a.transactionId
    planDigest := redactStr a.planDigest
    resourceId := redactStr a.resourceId
    configuredRoot := redactStr a.configuredRoot
    rootPath := redactStr a.rootPath
    targetRelativePath := redactStr a.targetRelativePath
    components := a.components.map fun c =>
      { c with name := redactStr c.name, role := redactStr c.role, integrity := c.integrity.map redactStr }
    chainDigest := redactStr a.chainDigest
    authorityDigest := redactStr a.authorityDigest }

/-- `redact_for_journal(_ownership_to_jsonable(record))` read back. -/
def OwnershipRecord.onDisk (r : OwnershipRecord) : OwnershipRecord where
  capabilityId := redactStr r.capabilityId
  candidate :=
    { r.candidate with
      artifactType := redactStr r.candidate.artifactType
      resourceIdentity := redactStr r.candidate.resourceIdentity
      methodId := r.candidate.methodId.map redactStr
      source := r.candidate.source.map redactStr
      version := r.candidate.version.map redactStr
      integrity := r.candidate.integrity.map redactStr
      postInstallFingerprint := r.candidate.postInstallFingerprint.map redactStr
      intermediateIdentities := r.candidate.intermediateIdentities.map IntermediateIdentity.onDisk
      pathAuthority := r.candidate.pathAuthority.map PathAuthority.onDisk
      pathAuthorityV2 := r.candidate.pathAuthorityV2.map PathAuthorityV2.onDisk }
  productOwned := r.productOwned
  createdByTransaction := r.createdByTransaction.map redactStr
  executorId := redactStr r.executorId
  executorVersion := redactStr r.executorVersion

/-- `redact_for_journal(_custody_record_to_jsonable(record))` read back. -/
def CustodyRecord.onDisk (r : CustodyRecord) : CustodyRecord :=
  { r with
    resourceId := redactStr r.resourceId
    originalPath := redactStr r.originalPath
    originalParent := redactStr r.originalParent
    originalName := redactStr r.originalName
    authorizedHash := r.authorizedHash.map redactStr
    custodyDir := redactStr r.custodyDir
    custodyName := redactStr r.custodyName
    movedHash := r.movedHash.map redactStr }

/-- `_step_to_jsonable` read back: the target and the error texts are not redacted. -/
def StepRecord.onDisk (s : StepRecord) : StepRecord :=
  { s with
    intent := redactDict s.intent
    beforeState := s.beforeState.map redactDict
    verification := s.verification.map redactDict
    undoRecord := s.undoRecord.map redactDict }

/-- `to_jsonable` read back: what `read_journal` finds after `write_journal`. -/
def TransactionJournal.onDisk (j : TransactionJournal) : TransactionJournal :=
  { j with
    steps := j.steps.map StepRecord.onDisk
    selectedAsset := j.selectedAsset.map redactDict
    ownedSnapshot := j.ownedSnapshot.map OwnershipRecord.onDisk
    custodyRecords := j.custodyRecords.map CustodyRecord.onDisk
    provenance := j.provenance.map redactDict
    failure := j.failure.map redactDict
    recovery := j.recovery.map redactDict }

/-- The journal `d` on disk is the one held in memory, as read or as just written. -/
def Synced (d j : TransactionJournal) : Prop := d = j ∨ d = j.onDisk

/-! ## The lemmas the proofs use instead of the definitions -/

section Lemmas

variable {j j' d : TransactionJournal} {r r' : StepRecord}

theorem withState_eq_ok {st : TransactionState} :
    j.withState st = .ok j' ↔ st ∈ transactionTransitions j.state ∧ j' = { j with state := st } := by
  unfold TransactionJournal.withState transitionTransaction
  split
  · rename_i h
    simp only [h, true_and]
    exact ⟨fun e => by cases e; rfl, fun e => by subst e; rfl⟩
  · rename_i h
    exact ⟨nofun, fun e => absurd e.1 h⟩

theorem stepWithState_eq_ok {st : StepState} :
    r.withState st = .ok r' ↔ st ∈ stepTransitions r.state ∧ r' = { r with state := st } := by
  unfold StepRecord.withState transitionStep
  split
  · rename_i h
    simp only [h, true_and]
    exact ⟨fun e => by cases e; rfl, fun e => by subst e; rfl⟩
  · rename_i h
    exact ⟨nofun, fun e => absurd e.1 h⟩

theorem step_eq_ok {q : Int} : j.step q = .ok r ↔ j.steps.find? (fun s => s.sequence == q) = some r := by
  unfold TransactionJournal.step
  cases h : j.steps.find? fun s => s.sequence == q <;> simp

theorem mem_of_step {q : Int} (h : j.step q = .ok r) : r ∈ j.steps ∧ r.sequence = q := by
  have hf := step_eq_ok.mp h
  exact ⟨List.mem_of_find?_eq_some hf, by simpa using List.find?_some hf⟩

@[simp] theorem onDisk_transactionId : j.onDisk.transactionId = j.transactionId := rfl
@[simp] theorem onDisk_operation : j.onDisk.operation = j.operation := rfl
@[simp] theorem onDisk_state : j.onDisk.state = j.state := rfl
@[simp] theorem onDisk_steps : j.onDisk.steps = j.steps.map StepRecord.onDisk := rfl
@[simp] theorem withStep_state : (j.withStep r).state = j.state := rfl
@[simp] theorem withStep_steps : (j.withStep r).steps =
    j.steps.map fun s => if s.sequence == r.sequence then r else s := rfl

end Lemmas

end WatchdogVpn.Provisioning
