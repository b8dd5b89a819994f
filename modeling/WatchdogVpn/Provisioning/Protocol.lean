import WatchdogVpn.Provisioning.Engine

/-!
# The protocol the engine follows

What the engine may do to a state root, said once and without its control flow: when a
journal may be created, which writes may follow which journal on disk and on what evidence
in the log, when an executor may be called to apply or undo, when ownership is published or
revoked. Everything else the engine asks is quiet. `Permitted` is the guard of the abstract
system `Lawful`; that the engine meets it is proved elsewhere, and every result about whole
runs follows from `Permitted` alone.
-/

namespace WatchdogVpn.Provisioning

open Effect

variable {F : Type}

/-! ## What a transaction keeps for its whole life -/

/-- A step record with everything erased that changes while it runs. -/
def StepRecord.plain (r : StepRecord) : StepRecord :=
  { r with state := .planned, beforeState := none, verification := none, undoRecord := none,
           errorKind := none, error := none }

/-- A journal with everything erased that changes while it runs. -/
def TransactionJournal.plain (j : TransactionJournal) : TransactionJournal :=
  { j with state := .planned, steps := j.steps.map StepRecord.plain, custodyRecords := [],
           provenance := none, failure := none, recovery := none }

/-- The executor acting on a journal is the registered one, or what it bound itself to, and its
plan, rebuilt from code, is the journal's plan step by step. -/
structure Bound (envs : ProvisioningEnvironment → Prop) (executor : Executor) (plan : ProvisioningPlan)
    (j : TransactionJournal) : Prop where
  resolved : ∃ env registered, envs env ∧
    env.registry.resolve j.selectedMethod.kind j.selectedMethod.id j.executor.version = .ok registered ∧
    (executor = registered.toExecutor ∨ ∃ k, registered.recoveryBoundExecutor k = .ok executor)
  rebuilt : rebuildPlan executor j = .ok plan
  matched : journalStepsMatchPlanExactly j plan = true

/-- The journal the engine holds is the one on disk. -/
def Holds (s : Store F) (j : TransactionJournal) : Prop := ∃ d, s.journal? j.transactionId = some d ∧ Synced d j

def AllVerified (j : TransactionJournal) : Prop := ∀ r ∈ j.steps, r.state = .verified

def NoPending (s : Store F) : Prop := ∀ tid d, s.journal? tid = some d → d.state ∉ needsRecoveryAttention

/-! ## Evidence in the log -/

variable (l : Trace F)

/-- The last thing that happened is this request with this answer. -/
def LastWas (e : Req) (r : Ans e) : Prop := ∃ pre rest, l = ⟨pre, e, some r⟩ :: rest

/-- The last thing that happened is an inspection of this record, and this is what it came to. -/
def LastInspected (tid : TxId) (r : StepRecord) (observed : Dict) : Prop :=
  ∃ ans, LastWas l (.host (.inspectStep tid r)) ans ∧ observed = safeInspection ans

/-- The last thing that happened is the write-ahead entry of this record in `j`, over a record in a
state that satisfies `p`. -/
def WriteAhead (j : TransactionJournal) (r : StepRecord) (p : StepState → Prop) : Prop :=
  ∃ pre d rest, l = ⟨pre, .writeJournal j, some (.ok ())⟩ :: rest ∧ pre.journal? j.transactionId = some d ∧
    ∃ r₀ ∈ d.steps, r₀.sequence = r.sequence ∧ p r₀.state

/-- An inspection that met no error. -/
structure Unhindered (observed : Dict) : Prop where
  policy : (Dict.get observed "path_policy_error").truthy = false
  inspect : (Dict.get observed "inspect_error").truthy = false

/-- The engine takes the target to be absent and no symlink. -/
structure TakenAbsent (observed : Dict) : Prop extends Unhindered observed where
  symlink : (Dict.get observed "is_symlink").truthy = false
  absent : (Dict.get observed "exists").truthy = false

/-- The engine takes the target to be there with the planned content. -/
structure TakenComplete (observed : Dict) : Prop extends Unhindered observed where
  symlink : (Dict.get observed "is_symlink").truthy = false
  present : (Dict.get observed "exists").truthy = true
  content : Dict.get observed "content_matches" = .bool true

/-- Why a step may be recorded as applied with this undo record. -/
def AppliedEvidence (tid : TxId) (executor : Executor) (old : StepRecord) (undoRecord : Option Dict) : Prop :=
  (∃ ans, LastWas l (.host (.applyStep tid old)) ans ∧ (safeExecution ans).status = .applied ∧
    undoRecord = (safeExecution ans).undoRecord) ∨
  (∃ observed undo, LastInspected l tid old observed ∧ TakenComplete observed ∧
    executor.reconstructUndoRecord old = .ok undo ∧ undoRecord = some undo)

/-- Why a step may be recorded as undone. -/
def UndoneEvidence (tid : TxId) (old : StepRecord) : Prop :=
  (∃ execution ans, LastWas l (.host (.undoStep tid old execution)) ans ∧ (safeRollback ans).status = .undone) ∨
  (∃ observed, LastInspected l tid old observed ∧ Unhindered observed ∧
    (Dict.get observed "exists").truthy = false)

/-! ## Moves of one step -/

/-- The moves of a step while its transaction goes forward. -/
inductive ApplyMove (l : Trace F) (tid : TxId) (executor : Executor) (old : StepRecord) : StepRecord → Prop
  | begin (observed) (hs : old.state = .planned) (hl : LastInspected l tid old observed) :
      ApplyMove l tid executor old { old with state := .applying, beforeState := some observed }
  | interrupt (kind error) (hs : old.state = .planned) (hl : LastWas l (.host .signaled) true) :
      ApplyMove l tid executor old { old with state := .applyFailed, errorKind := kind, error }
  | applied (undo) (hs : old.state = .applying) (he : AppliedEvidence l tid executor old undo) :
      ApplyMove l tid executor old { old with state := .applied, undoRecord := undo }
  | applyFailed (observed kind error) (hs : old.state = .applying) (hl : LastInspected l tid old observed)
      (hx : Dict.get observed "exists" = .bool false) :
      ApplyMove l tid executor old { old with state := .applyFailed, errorKind := kind, error }
  | verifying (hs : old.state = .applied) : ApplyMove l tid executor old { old with state := .verifying }
  | verified (execution ans) (hs : old.state = .verifying)
      (hl : LastWas l (.host (.verifyStep tid old execution)) ans)
      (hv : (safeVerification ans).status = .verified) :
      ApplyMove l tid executor old
        { old with state := .verified, verification := some (safeVerification ans).evidence }
  | verifyFailed (evidence kind error) (hs : old.state = .verifying) :
      ApplyMove l tid executor old
        { old with state := .verifyFailed, verification := some evidence, errorKind := kind, error }

/-- The moves of a step while its transaction is rolled back. -/
inductive UndoMove (l : Trace F) (tid : TxId) (old : StepRecord) : StepRecord → Prop
  | undoing (hs : old.state = .verified ∨ old.state = .verifyFailed) :
      UndoMove l tid old { old with state := .undoing }
  | undone (hs : old.state = .undoing) (he : UndoneEvidence l tid old) :
      UndoMove l tid old { old with state := .undone }
  | undoFailed (kind error) (hs : old.state = .undoing) :
      UndoMove l tid old { old with state := .undoFailed, errorKind := kind, error }

/-! ## Moves of a prepare journal -/

/-- The states a clean rollback leaves its steps in. -/
def cleanStepStates : List StepState := [.planned, .applyFailed, .undone]

/-- The states of steps that rollback passes over without undoing them. -/
def skippedStepStates : List StepState := [.applying, .undoFailed]

/-- An event by which the engine enters a rollback of `j`: it writes `j` as `ROLLING_BACK` where the
journal on disk was not, or it reads `j` already `ROLLING_BACK`. -/
inductive EntersRollback (tid : TxId) (j : TransactionJournal) : Event Ans (Store F) → Prop
  | written (pre d) (hj : j.state = .rollingBack) (hid : j.transactionId = tid)
      (hd : pre.journal? tid = some d) (hn : d.state ≠ .rollingBack) :
      EntersRollback tid j ⟨pre, .writeJournal j, some (.ok ())⟩
  | read (pre) (hj : j.state = .rollingBack) :
      EntersRollback tid j ⟨pre, .readJournal tid, some (.ok j)⟩

/-- A step that a rollback entered as `jₑ` left in order: clean, or skipped as it was found. -/
def LeftInOrder (jₑ : TransactionJournal) (r : StepRecord) : Prop :=
  r.state ∈ cleanStepStates ∨
    r.state ∈ skippedStepStates ∧ ∃ rₑ ∈ jₑ.steps, rₑ.sequence = r.sequence ∧ rₑ.state = r.state

/-- A rollback of `j` without residuals. -/
def RolledBackEvidence (j : TransactionJournal) : Prop :=
  ∃ jₑ, (∃ ev ∈ l, EntersRollback j.transactionId jₑ ev) ∧ ∀ r ∈ j.steps, LeftInOrder jₑ r

/-- The postcondition of the transaction answered `verified` on the journal now on disk. -/
def PostconditionVerified (s : Store F) (l : Trace F) (tid : TxId) : Prop :=
  ∃ pre plan ans, ⟨pre, .host (.verifyPostcondition tid plan), some ans⟩ ∈ l ∧
    (safeVerification ans).status = .verified ∧ pre.journal? tid = s.journal? tid

/-- A record published for a step: it cites the transaction and names the step's resource, as the
path check resolved it. -/
def RecordFor (j : TransactionJournal) (step : StepRecord) (r : OwnershipRecord) : Prop :=
  r.productOwned = true ∧ r.createdByTransaction = some j.transactionId ∧ r.capabilityId = j.capabilityId ∧
    ∃ (path : String) (p : AbsPath), stepResource step = .str path ∧ isAbsolute path = true ∧
      (∃ pre, ⟨pre, .host (.resolveTargetPath path), some (.ok p)⟩ ∈ l) ∧
      r.candidate.resourceIdentity = p

/-- Exactly one record per step, in the order of the steps. -/
def RecordsFor (j : TransactionJournal) (records : List OwnershipRecord) : Prop :=
  List.Forall₂ (RecordFor l j) j.steps records

/-- What has to be the case for a prepare journal to enter a state. -/
def EntryEvidence (s : Store F) (l : Trace F) (j : TransactionJournal) : TransactionState → Prop
  | .authorized => LastWas l (.writeJournal j) (.ok ())
  | .applying => j.state = .recovering ∨ LastWas l (.writeJournal j) (.ok ())
  | .verifying => AllVerified j
  | .prepareTerminalPrepared => AllVerified j ∧ PostconditionVerified s l j.transactionId ∧
      ∃ records, s.ownership? j.capabilityId = some (records.map OwnershipRecord.onDisk) ∧
      RecordsFor l j records
  | .committed => j.state = .prepareTerminalPrepared
  | .rolledBack => RolledBackEvidence l j
  | .preparationFailed | .rollingBack | .rollbackFailed | .recoveryRequired | .recovering => True
  -- never entered by a prepare journal
  | .planned | .uninstallPlanned | .uninstalling | .revokingOwnership | .uninstallTerminalPrepared
  | .uninstalled | .uninstallFailed => False

/-- A write of a prepare journal that follows the one held in memory. -/
inductive PrepareMove (envs : ProvisioningEnvironment → Prop) (s : Store F) (l : Trace F)
    (j : TransactionJournal) : TransactionJournal → Prop
  | enter (st provenance failure recovery) (ht : st ∈ transactionTransitions j.state)
      (he : EntryEvidence s l j st) :
      PrepareMove envs s l j
        { j with state := st, provenance, failure, recovery }
  | apply (executor plan old new) (hb : Bound envs executor plan j)
      (hst : j.state = .applying ∨ j.state = .verifying) (ho : j.step old.sequence = .ok old)
      (hm : ApplyMove l j.transactionId executor old new) : PrepareMove envs s l j (j.withStep new)
  | undo (executor plan old new) (hb : Bound envs executor plan j) (hst : j.state = .rollingBack)
      (ho : j.step old.sequence = .ok old) (hm : UndoMove l j.transactionId old new) :
      PrepareMove envs s l j (j.withStep new)

/-! ## Moves of an uninstall journal -/

/-- The states an uninstall moves through once it is planned. -/
def removalStates : List TransactionState :=
  [.uninstalling, .revokingOwnership, .uninstallTerminalPrepared, .uninstalled, .uninstallFailed,
    .recoveryRequired, .recovering]

/-- A write of an uninstall journal over the one on disk. The removal loop may lose step records, so
only the header and the state are related. -/
structure UninstallMove (d j : TransactionJournal) : Prop where
  operation : d.operation = .uninstall ∧ j.operation = .uninstall
  capability : j.capabilityId = d.capabilityId
  target : j.target = d.target
  state : (d.state = .uninstalling ∧ j.state = .uninstalling) ∨ j.state ∈ transactionTransitions d.state
  removal : j.state ∈ removalStates
  failed : j.state = .uninstallFailed → d.state = .uninstalling

/-! ## The guard -/

inductive WritePermitted (envs : ProvisioningEnvironment → Prop) (s : Store F) (l : Trace F) :
    TransactionJournal → Prop
  | create (env executor plan tid) (he : envs env) (hid : isIdentifier tid = true)
      (hb : Bound envs executor plan (initialJournal env plan tid)) (hn : s.journal? tid = none)
      (hp : NoPending s) : WritePermitted envs s l (initialJournal env plan tid)
  | createUninstall (env plan) (he : envs env) (hn : s.journal? plan.transactionId = none)
      (hp : NoPending s) : WritePermitted envs s l (initialUninstallJournal env plan)
  | prepare (j j') (hh : Holds s j) (ho : j.operation ≠ .uninstall) (hm : PrepareMove envs s l j j') :
      WritePermitted envs s l j'
  | uninstall (d j) (hd : s.journal? j.transactionId = some d) (hm : UninstallMove d j)
      (hf : d.state = .uninstallPlanned → ∃ j₀, j₀.transactionId = j.transactionId ∧
        j₀.state = .uninstallPlanned ∧ LastWas l (.writeJournal j₀) (.ok ())) : WritePermitted envs s l j

/-- The engine works on a prepare transaction: the journal held is the one on disk, and the plan is
its plan. -/
structure Serving (envs : ProvisioningEnvironment → Prop) (s : Store F) (executor : Executor)
    (plan : ProvisioningPlan) (j : TransactionJournal) : Prop where
  holds : Holds s j
  operation : j.operation ≠ .uninstall
  bound : Bound envs executor plan j

/-- The engine works on one step of it. -/
structure Acting (envs : ProvisioningEnvironment → Prop) (s : Store F) (executor : Executor)
    (plan : ProvisioningPlan) (j : TransactionJournal) (r : StepRecord) : Prop
    extends Serving envs s executor plan j where
  record : j.step r.sequence = .ok r

variable (envs : ProvisioningEnvironment → Prop)

/-- A step may be applied: right after its write-ahead entry replaced a `PLANNED` record, or right
after an inspection that the engine took to report absence. -/
def ApplyPermitted (s : Store F) (l : Trace F) (tid : TxId) (r : StepRecord) : Prop :=
  ∃ executor plan j, j.transactionId = tid ∧ Acting envs s executor plan j r ∧ r.state = .applying ∧
    (j.state = .applying ∨ j.state = .verifying) ∧
    (WriteAhead l j r (· = .planned) ∨
     ∃ observed, LastInspected l tid r observed ∧ TakenAbsent observed ∧ executor.stepIsReplaySafe r = true)

/-- The undo of a step comes right after its write-ahead entry replaced a `VERIFIED` or
`VERIFY_FAILED` record, or right after an inspection that found the target with no sign of foreign
content. -/
def UndoReached (j : TransactionJournal) (r : StepRecord) : Prop :=
  WriteAhead l j r (fun st => st = .verified ∨ st = .verifyFailed) ∨
  ∃ observed, LastInspected l j.transactionId r observed ∧ Unhindered observed ∧
    (Dict.get observed "exists").truthy = true ∧ (Dict.get observed "is_symlink").truthy = false ∧
    Dict.get observed "content_matches" ≠ .bool false

/-- A step may be undone, with the undo record rebuilt from code. -/
def UndoPermitted (s : Store F) (l : Trace F) (tid : TxId) (r : StepRecord)
    (execution : ExecutionResult) : Prop :=
  ∃ executor plan j undo, j.transactionId = tid ∧ Acting envs s executor plan j r ∧ r.state = .undoing ∧
    j.state = .rollingBack ∧ authoritativeUndoRecord executor r = .ok undo ∧
    execution = { status := .applied, undoRecord := some undo } ∧
    UndoReached l j r

/-- Ownership may be published: for the verified steps of the journal on disk, after its
postcondition. -/
def PublishPermitted (s : Store F) (l : Trace F) (capabilityId : String)
    (records : List OwnershipRecord) : Prop :=
  ∃ executor plan j, Serving envs s executor plan j ∧ j.state = .verifying ∧ AllVerified j ∧
    PostconditionVerified s l j.transactionId ∧ capabilityId = j.capabilityId ∧ RecordsFor l j records

/-- **What the engine may ask**, given the state and what happened so far. -/
def Permitted (s : Store F) (l : Trace F) : Req → Prop
  | .writeJournal j => WritePermitted envs s l j
  | .writeOwnershipRecords cap records => PublishPermitted envs s l cap records
  | .deleteOwnershipRecords cap => ∃ j, j.operation = .uninstall ∧ j.capabilityId = cap ∧
      j.state = .uninstalled ∧ LastWas l (.writeJournal j) (.ok ())
  | .host (.applyStep tid r) => ApplyPermitted envs s l tid r
  | .host (.undoStep tid r execution) => UndoPermitted envs s l tid r execution
  | .host (.fs _) => ∃ tid d, s.journal? tid = some d ∧ d.operation = .uninstall ∧ d.state = .uninstalling
  | _ => True

end WatchdogVpn.Provisioning
