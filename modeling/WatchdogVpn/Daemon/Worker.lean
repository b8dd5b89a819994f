import WatchdogVpn.Lib.Json
import Mathlib.Logic.Relation
import Mathlib.Algebra.Order.Ring.Rat

/-!
# The worker of the daemon

Client threads hand requests to one worker thread through a queue. Commands that change the network
are entered in a table under their command id, where other threads look up their outcome or cancel
them; finished entries are dropped again, oldest first, when there are too many. The table has one
lock, the flags of the autonomous ticks another; the queue, the cancellation flag of a request and
the clock are used outside both.

* `Table` has the functions that run under the lock of the table.
* `Step` is one step of some thread: what a lock protects is one step, and what is not protected is
  split where another thread may come between. `made` and `executions` only count; they are not part
  of the program.
-/

namespace WatchdogVpn.Daemon

/-! ## Requests and responses -/

inductive Command
  | connect
  | disconnect
  | rotate
  | nodeGroupAutoTest
  | status
  | other (name : String)
  deriving DecidableEq

namespace Command

def name : Command → String
  | connect => "connect"
  | disconnect => "disconnect"
  | rotate => "rotate"
  | nodeGroupAutoTest => "node_group_auto_test"
  | status => "status"
  | other name => name

/-- `command in MUTATING_COMMANDS`. -/
def mutating : Command → Bool
  | connect | disconnect | rotate | nodeGroupAutoTest => true
  | status | other _ => false

end Command

/-- A request object. The number tells objects apart; the payload plays no part here. -/
structure WorkerRequest where
  serial : Nat
  command : Command
  commandId : String
  deadlineMonotonic : Option Rat
  deriving DecidableEq

structure Response where
  ok : Bool
  payload : PyDict String Json := []
  error : Option String := none

inductive CommandState
  | queued
  | running
  | cancelled
  | completed
  deriving DecidableEq

def CommandState.name : CommandState → String
  | queued => "queued"
  | running => "running"
  | cancelled => "cancelled"
  | completed => "completed"

variable (commandId : String)

def cancelledResponse (command : Command) : Response where
  ok := false
  payload := [("command_id", .str commandId), ("command", .str command.name), ("outcome", .str "cancelled"),
    ("error_kind", .str "command_cancelled")]
  error := some "command cancelled before execution"

def withCommandMetadata (response : Response) (commandId : String) (command : Command) : Response :=
  { response with
    payload := response.payload.update
      [("command_id", .str commandId), ("command", .str command.name), ("outcome", .str "completed")] }

def commandNotFound : Response where
  ok := false
  payload := [("command_id", .str commandId), ("error_kind", .str "command_not_found")]
  error := some "command outcome not found"

def commandInProgress (command : Command) (outcome : CommandState) (error : String) : Response where
  ok := false
  payload := [("command_id", .str commandId), ("command", .str command.name), ("outcome", .str outcome.name),
    ("error_kind", .str "command_in_progress")]
  error := some error

/-- The outcome of the response is `cancelled`. -/
def Response.IsCancelled (response : Response) : Prop :=
  response.payload.get "outcome" = some (.str "cancelled")

def deadlineExpired (request : WorkerRequest) (now : Rat) : Prop :=
  ∃ deadline ∈ request.deadlineMonotonic, deadline ≤ now

/-! ## The table of commands -/

structure CommandRecord where
  command : Command
  state : CommandState := .queued
  response : Option Response := none
  request : WorkerRequest

/-- `_command_records` and `_final_command_ids`. -/
structure Table where
  records : PyDict String CommandRecord
  finalCommandIds : List String

def maxRetainedFinalOutcomes : Nat := 512

variable (table : Table)

namespace Table

/-- An entry that has a response is dropped. -/
def dropFinal (records : PyDict String CommandRecord) : PyDict String CommandRecord :=
  match records.get commandId with
  | some record => if record.response.isSome then records.pop commandId else records
  | none => records

/-- The loop of `_retain_final_command_locked`. -/
def trim : List String → PyDict String CommandRecord → Table
  | [], records => ⟨records, []⟩
  | expired :: ids, records =>
    if ids.length + 1 > maxRetainedFinalOutcomes then trim ids (dropFinal expired records)
    else ⟨records, expired :: ids⟩

def retainFinalCommand (commandId : String) : Table :=
  trim (table.finalCommandIds ++ [commandId]) table.records

def finalize (commandId : String) (record : CommandRecord) (state : CommandState)
    (response : Response) : Table :=
  retainFinalCommand
    { table with
      records := table.records.set commandId { record with state, response := some response } } commandId

/-- What `submit_request` enters, and nothing for a command id that is there. -/
def register (request : WorkerRequest) : Option Table :=
  if request.command.mutating then
    match table.records.get request.commandId with
    | some _ => none
    | none => some { table with
        records := table.records.set request.commandId { command := request.command, request } }
  else some table

def commandOutcome (commandId : String) : Response :=
  match table.records.get commandId with
  | none => commandNotFound commandId
  | some record =>
    match record.response with
    | some response => response
    | none => commandInProgress commandId record.command record.state "command is still running"

/-- `cancel_command`: the answer, the table, and the request whose cancellation flag is set. -/
def cancelCommand (commandId : String) : Response × Table × Option WorkerRequest :=
  match table.records.get commandId with
  | none => (commandNotFound commandId, table, none)
  | some record =>
    match record.response with
    | some response => (response, table, none)
    | none =>
      if record.state = .queued then
        (cancelledResponse commandId record.command,
          table.finalize commandId record .cancelled (cancelledResponse commandId record.command),
          some record.request)
      else
        (commandInProgress commandId record.command .running
          "command is already running; query command outcome for its final result", table, none)

/-- The locked part of `_execute_request`: the entry runs, or nothing if the request is not to be
executed. -/
def claim (request : WorkerRequest) : Option Table :=
  match table.records.get request.commandId with
  | none => none
  | some record =>
    match record.response with
    | some _ => none
    | none => some { table with records := table.records.set request.commandId { record with state := .running } }

def recordFinalResponse (request : WorkerRequest) (response : Response) (state : CommandState) : Table :=
  match table.records.get request.commandId with
  | none => table
  | some record =>
    match record.response with
    | some _ => table
    | none => table.finalize request.commandId record state response

end Table

/-! ## The threads -/

inductive Item
  | request (r : WorkerRequest)
  | tick
  | scheduledRotate
  | stop

inductive Phase
  | idle
  /-- An item has been taken from the queue. -/
  | fetched (item : Item)
  /-- `_runtime_busy` is set. -/
  | starting (item : Item)
  /-- The request was neither cancelled nor late when the worker looked at it. -/
  | claiming (r : WorkerRequest)
  | executing (r : WorkerRequest)
  | recording (r : WorkerRequest) (response : Response) (state : CommandState)
  | responding (r : WorkerRequest) (response : Response)
  /-- In the `finally` of the loop. -/
  | finishing (item : Item)
  | stopped

structure State where
  /-- The request objects of the accepted requests so far. -/
  made : List WorkerRequest := []
  table : Table := ⟨[], []⟩
  /-- Requests that have been accepted and are about to be put on the queue by their threads. -/
  accepted : List WorkerRequest := []
  queue : List Item := []
  worker : Phase := .idle
  /-- `cancellation_requested` of each request. -/
  cancellationRequested : Nat → Bool := fun _ => false
  /-- `response_queue` of each request. -/
  responses : Nat → List Response := fun _ => []
  runtimeBusy : Bool := false
  tickPending : Bool := false
  /-- A thread is inside the lock of `submit_tick`, about to put the tick on the queue. -/
  ticking : Bool := false
  /-- How often the handling of each request has begun. This, and `made`, only counts. -/
  executions : Nat → Nat := fun _ => 0

namespace State

def respond (s : State) (r : WorkerRequest) (response : Response) : State :=
  { s with
    responses := Function.update s.responses r.serial (s.responses r.serial ++ [response])
    worker := .finishing (.request r) }

def execute (s : State) (r : WorkerRequest) : State :=
  { s with
    executions := Function.update s.executions r.serial (s.executions r.serial + 1)
    worker := .executing r }

def cancel (s : State) (commandId : String) : State :=
  { s with
    table := (s.table.cancelCommand commandId).2.1
    cancellationRequested := match (s.table.cancelCommand commandId).2.2 with
      | some r => Function.update s.cancellationRequested r.serial true
      | none => s.cancellationRequested }

end State

/-- What the handling of a request is followed by. -/
def handled (r : WorkerRequest) (response : Response) : Phase :=
  if r.command.mutating then .recording r (withCommandMetadata response r.commandId r.command) .completed
  else .responding r response

/-- One step of some thread. A request may be accepted only if `Admits` says so. -/
inductive Step (Admits : State → WorkerRequest → Prop) (s : State) : State → Prop
  /-- The first part of `submit_request`, for a request object that is new. -/
  | accept (r : WorkerRequest) (table : Table) (alive : s.worker ≠ .stopped)
  (new : ∀ r' ∈ s.made, r'.serial ≠ r.serial)
      (registered : s.table.register r = some table) (admitted : Admits s r) :
      Step Admits s { s with made := r :: s.made, table, accepted := s.accepted ++ [r] }
  | put (before : List WorkerRequest) (r : WorkerRequest) (after : List WorkerRequest)
      (mine : s.accepted = before ++ r :: after) :
      Step Admits s { s with accepted := before ++ after, queue := s.queue ++ [.request r] }
  | cancel (commandId : String) : Step Admits s (s.cancel commandId)
  /-- `submit_tick`: the checks are made and the flag is set, under the lock. -/
  | beginTick (alive : s.worker ≠ .stopped) (free : s.ticking = false) (rested : s.runtimeBusy = false)
      (none_pending : s.tickPending = false) (empty : s.queue = []) :
      Step Admits s { s with tickPending := true, ticking := true }
  | putTick (inside : s.ticking = true) : Step Admits s { s with ticking := false, queue := s.queue ++ [.tick] }
  | scheduledRotation (alive : s.worker ≠ .stopped) :
      Step Admits s { s with queue := s.queue ++ [.scheduledRotate] }
  | stop : Step Admits s { s with queue := s.queue ++ [.stop] }
  | fetch (item : Item) (rest : List Item) (idle : s.worker = .idle) (first : s.queue = item :: rest)
      (goOn : item ≠ .stop) : Step Admits s { s with queue := rest, worker := .fetched item }
  | fetchStop (rest : List Item) (idle : s.worker = .idle) (first : s.queue = .stop :: rest) :
      Step Admits s { s with queue := rest, worker := .stopped }
  | markBusy (item : Item) (has : s.worker = .fetched item) (free : s.ticking = false) :
      Step Admits s { s with runtimeBusy := true, worker := .starting item }
  /-- A tick or a scheduled rotation is handled. -/
  | autonomous (item : Item) (has : s.worker = .starting item) (noRequest : ∀ r, item ≠ .request r) :
      Step Admits s { s with worker := .finishing item }
  | read (r : WorkerRequest) (has : s.worker = .starting (.request r)) (reading : r.command.mutating = false) :
      Step Admits s (s.execute r)
  | refuse (r : WorkerRequest) (now : Rat) (has : s.worker = .starting (.request r))
  (changing : r.command.mutating = true)
      (late : s.cancellationRequested r.serial = true ∨ deadlineExpired r now) :
      Step Admits s { s with worker := .recording r (cancelledResponse r.commandId r.command) .cancelled }
  | letThrough (r : WorkerRequest) (now : Rat) (has : s.worker = .starting (.request r))
  (changing : r.command.mutating = true)
      (inTime : ¬ (s.cancellationRequested r.serial = true ∨ deadlineExpired r now)) :
      Step Admits s { s with worker := .claiming r }
  | claim (r : WorkerRequest) (table : Table) (has : s.worker = .claiming r)
  (claimed : s.table.claim r = some table) :
      Step Admits s (State.execute { s with table } r)
  /-- The entry is gone or has a response. -/
  | giveUp (r : WorkerRequest) (has : s.worker = .claiming r) (unclaimed : s.table.claim r = none) :
      Step Admits s (s.respond r (cancelledResponse r.commandId r.command))
  | handle (r : WorkerRequest) (response : Response) (has : s.worker = .executing r) :
      Step Admits s { s with worker := handled r response }
  | record (r : WorkerRequest) (response : Response) (state : CommandState)
  (has : s.worker = .recording r response state) :
      Step Admits s { s with
        table := s.table.recordFinalResponse r response state, worker := .responding r response }
  | respond (r : WorkerRequest) (response : Response) (has : s.worker = .responding r response) :
      Step Admits s (s.respond r response)
  | finish (item : Item) (has : s.worker = .finishing item) (noTick : item ≠ .tick) (free : s.ticking = false) :
      Step Admits s { s with runtimeBusy := false, worker := .idle }
  | finishTick (has : s.worker = .finishing .tick) (free : s.ticking = false) :
      Step Admits s { s with runtimeBusy := false, tickPending := false, worker := .idle }

def Reachable (Admits : State → WorkerRequest → Prop) : State → Prop := Relation.ReflTransGen (Step Admits) {}

/-- Every interleaving of the threads. -/
def anyRequest (_ : State) (_ : WorkerRequest) : Prop := True

/-! ## Where the requests are -/

def Item.request? : Item → Option WorkerRequest
  | request r => some r
  | _ => none

def Item.isTick : Item → Bool
  | tick => true
  | _ => false

namespace Phase

/-- The request the worker has not yet decided about. -/
def undecided : Phase → Option WorkerRequest
  | fetched item | starting item => item.request?
  | claiming r => some r
  | _ => none

/-- The request the worker has decided about and not yet answered. -/
def unanswered : Phase → Option WorkerRequest
  | executing r | recording r _ _ | responding r _ => some r
  | _ => none

def hasTick : Phase → Bool
  | fetched item | starting item | finishing item => item.isTick
  | _ => false

end Phase

namespace State

/-- The requests that have not reached the worker. -/
def queued (s : State) : List WorkerRequest := s.accepted ++ s.queue.filterMap Item.request?

/-- The requests that nothing has been decided about. -/
def waiting (s : State) : List WorkerRequest := s.queued ++ s.worker.undecided.toList

def inFlight (s : State) : List WorkerRequest := s.waiting ++ s.worker.unanswered.toList

def ticks (s : State) : Nat := s.queue.countP Item.isTick + (if s.worker.hasTick then 1 else 0)

end State

/-- No command is accepted under the id of one that has not been answered. -/
def freshCommandId (s : State) (r : WorkerRequest) : Prop :=
  r.command.mutating = true → ∀ r' ∈ s.inFlight, r'.command.mutating = true → r'.commandId ≠ r.commandId

end WatchdogVpn.Daemon
