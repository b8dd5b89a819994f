import WatchdogVpn.Lib.Prog
import Mathlib.Data.Rat.Defs
import Mathlib.Algebra.Order.Ring.Rat

/-!
# The rotation engine

`RotationEngine.rotate` moves the tunnel to another profile of a pool: it tries the
candidates one after the other, falls back to the last profile known to be good, and stops
for good when a tunnel cannot be torn down. The driver, the health check and the clock are
asked; the engine itself is a record of settings and a small history that is passed along.

Times are rationals. A profile is anything with an id.
-/

namespace WatchdogVpn.Rotation

open Effect

/-! ## What the engine asks -/

/-- A call of the driver, of the health check or of the clock. `rollbackStart` is the line that
`_rollback` logs once it has a target. -/
inductive RotationReq (P : Type) : Type
  | preflight (p : P)
  | disconnect
  | connect (p : P)
  | healthCheck (p : P)
  | clock
  | sleep (seconds : Rat)
  | rollbackStart (p : P)

/-- What a call answers; those of the driver and the health check may raise. -/
abbrev RotationAns {P : Type} (X : Type) : RotationReq P → Type
  | .preflight _ | .disconnect | .connect _ => Except X Bool
  | .healthCheck _ => Except X String
  | .clock => Rat
  | .sleep _ | .rollbackStart _ => Unit

abbrev RotationProg (P X : Type) (α : Type) : Type := Prog (RotationAns (P := P) X) X α

/-! ## Settings and history -/

structure RotationEngine where
  recentKeep : Int := 5
  minSecondsBetweenRotations : Rat := 120
  conservativeIntervalMultiplier : Rat := 2
  maxAttemptsPerCycle : Int := 8
  maxFailsBeforeRollback : Int := 4
  maxDegradedSecondsBeforeRollback : Rat := 60
  warmupSeconds : Rat := 3

/-- The private fields of an engine, as they are when it is made. -/
structure RotationHistory where
  lastProfileId : Option String := none
  recentProfileIds : List String := []
  lastGoodProfileId : Option String := none
  lastRotationAt : Option Rat := none
  cleanupBarrierFailed : Bool := false
  deriving DecidableEq

inductive PoolCategory
  | unavailable
  | single
  | conservative
  | full
  deriving DecidableEq

structure RotationResult (P : Type) where
  profile : Option P
  success : Bool
  attempts : Nat
  category : PoolCategory
  rolledBack : Bool := false
  cleanupFailed : Bool := false

def poolSizeCategory (poolSize : Nat) : PoolCategory :=
  if poolSize = 0 then .unavailable
  else if poolSize = 1 then .single
  else if poolSize ≤ 3 then .conservative
  else .full

/-- `items[:k]`, which counts from the end for a negative `k`. -/
def sliceTo {α : Type} (items : List α) (k : Int) : List α :=
  if 0 ≤ k then items.take k.toNat else items.take (items.length - (-k).toNat)

namespace RotationHistory

/-- `_blocked_ids`; an empty last id blocks nothing. -/
def blockedIds (t : RotationHistory) : List String :=
  t.recentProfileIds ++ (t.lastProfileId.filter (· ≠ "")).toList

def remember (c : RotationEngine) (t : RotationHistory) (id : String) : RotationHistory :=
  { t with lastProfileId := some id,
           recentProfileIds := sliceTo (id :: t.recentProfileIds.filter (· ≠ id)) c.recentKeep }

def recordSuccessfulProfile (c : RotationEngine) (t : RotationHistory) (id : String) : RotationHistory :=
  if id = "" then t else { t.remember c id with lastGoodProfileId := some id }

end RotationHistory

section Rotate

variable {P X : Type} (idOf : P → String) (t : RotationHistory)

def candidates (pool : List P) : List P :=
  let filtered := pool.filter fun p => idOf p ∉ t.blockedIds
  if filtered ≠ [] then filtered else pool

def ask (e : RotationReq P) : RotationProg P X (RotationAns X e) := Prog.ask e

def now : RotationProg P X Rat := ask .clock

def canRotateNow (c : RotationEngine) (t : RotationHistory) (category : PoolCategory) (force : Bool) :
    RotationProg P X Bool :=
  if force then return true
  else match t.lastRotationAt with
    | none => return true
    | some at' => do
      let interval := if category = .conservative then c.minSecondsBetweenRotations *
        c.conservativeIntervalMultiplier
        else c.minSecondsBetweenRotations
      let elapsed := (← now) - at'
      return decide (elapsed ≥ interval)

/-! ## One attempt -/

/-- `driver.disconnect()`, an exception counting as `False`. -/
def disconnected : RotationProg P X Bool := do
  match ← ask .disconnect with
  | .ok b => return b
  | .error _ => return false

/-- `bool(preflight(profile))`, an exception counting as `False`; a driver without
`preflight_profile` passes. -/
def preflightOk (preflights : Bool) (p : P) : RotationProg P X Bool :=
  if preflights then do
    match ← ask (.preflight p) with
    | .ok b => return b
    | .error _ => return false
  else return true

/-- `cleanup_failed_attempt`, then the status the attempt ends with. -/
def cleanupFailedAttempt (status : String) : RotationProg P X (String × RotationHistory) := do
  if ← disconnected then
    return (status, t)
  else
    return ("cleanup_failed", { t with cleanupBarrierFailed := true })

def warmUp (c : RotationEngine) : RotationProg P X Unit :=
  if c.warmupSeconds > 0 then ask (.sleep c.warmupSeconds) else return ()

/-- The attempt once the profile is connected: warm up, check, and clean up unless the check says
`ok`. -/
def checkConnected (c : RotationEngine) (p : P) (t : RotationHistory) :
    RotationProg P X (String × RotationHistory) := do
  warmUp c
  let status ← .ofExcept (← ask (.healthCheck p))
  if status ≠ "ok" then
    cleanupFailedAttempt t status
  else
    return (status, t)

def tryProfile (c : RotationEngine) (preflights : Bool) (p : P) (t : RotationHistory) :
    RotationProg P X (String × RotationHistory) := do
  if (← preflightOk preflights p) = false then
    return ("preflight_failed", t)
  else if (← disconnected) = false then
    return ("cleanup_failed", { t with cleanupBarrierFailed := true })
  else if (← .ofExcept (← ask (.connect p))) = false then
    cleanupFailedAttempt t "down"
  else
    checkConnected c p t

/-- The profile of the pool that `_rollback` goes back to. -/
def rollbackTarget (pool : List P) : Option P :=
  match t.lastGoodProfileId with
  | none => none
  | some good => if good = "" then none else pool.find? fun p => idOf p = good

def rollback (c : RotationEngine) (preflights : Bool) (pool : List P) (t : RotationHistory) :
    RotationProg P X (Option P × RotationHistory) :=
  match rollbackTarget idOf t pool with
  | none => return (none, t)
  | some target => do
    ask (.rollbackStart target)
    let (status, t) ← tryProfile c preflights target t
    if status = "ok" then
      return (some target, t.remember c (idOf target))
    else
      return (none, t)

/-! ## The rotation -/

/-- `self._last_rotation_at = self.clock()`, then the result. -/
def finish (result : RotationResult P) : RotationProg P X (RotationResult P × RotationHistory) := do
  let at' ← now
  return (result, { t with lastRotationAt := some at' })

def singleNodeCheck (c : RotationEngine) (preflights : Bool) (p : P) (t : RotationHistory) :
    RotationProg P X (RotationResult P × RotationHistory) := do
  let (status, t) ← tryProfile c preflights p t
  if status = "ok" then
    finish { t.remember c (idOf p) with lastGoodProfileId := some (idOf p) }
      { profile := some p, success := true, attempts := 1, category := .single }
  else
    finish t { profile := none, success := false, attempts := 1, category := .single,
               cleanupFailed := status = "cleanup_failed" }

/-- The rollback at the end, unless one was tried before. -/
def finalRollback (c : RotationEngine) (preflights : Bool) (pool : List P) (rollbackAttempted : Bool)
    (t : RotationHistory) : RotationProg P X (Option P × RotationHistory) :=
  if rollbackAttempted then return (none, t) else rollback idOf c preflights pool t

def concludeRotation (c : RotationEngine) (preflights : Bool) (pool : List P) (category : PoolCategory)
    (attempts : Nat) (rollbackAttempted : Bool) (t : RotationHistory) :
    RotationProg P X (RotationResult P × RotationHistory) := do
  let (target, t) ← finalRollback idOf c preflights pool rollbackAttempted t
  if t.cleanupBarrierFailed then
    finish t { profile := none, success := false, attempts, category, cleanupFailed := true }
  else match target with
    | some p =>
      finish t { profile := some p, success := true, attempts, category, rolledBack := true }
    | none => finish t { profile := none, success := false, attempts, category }

/-- The loop of `rotate` over the candidates that are left. -/
def tryCandidates (c : RotationEngine) (preflights : Bool) (pool : List P) (category : PoolCategory)
    (cycleStart : Rat) :
    List P → Nat → Nat → Bool → RotationHistory → RotationProg P X (RotationResult P × RotationHistory)
  | [], attempts, _, rollbackAttempted, t =>
    concludeRotation idOf c preflights pool category attempts rollbackAttempted t
  | p :: rest, attempts, failures, rollbackAttempted, t =>
    if attempts ≥ c.maxAttemptsPerCycle then
      concludeRotation idOf c preflights pool category attempts rollbackAttempted t
    else do
      let (status, t) ← tryProfile c preflights p t
      if status = "cleanup_failed" then
        finish t { profile := none, success := false, attempts := attempts + 1, category,
                   cleanupFailed := true }
      else if status = "ok" then
        finish { t.remember c (idOf p) with lastGoodProfileId := some (idOf p) }
          { profile := some p, success := true, attempts := attempts + 1, category }
      else
        let elapsed := (← now) - cycleStart
        if rollbackAttempted = false ∧ ((failures + 1) ≥ c.maxFailsBeforeRollback ∨
            elapsed ≥ c.maxDegradedSecondsBeforeRollback) then
          let (target, t) ← rollback idOf c preflights pool t
          if t.cleanupBarrierFailed then
            finish t { profile := none, success := false, attempts := attempts + 1, category,
                       cleanupFailed := true }
          else match target with
            | some q =>
              finish t { profile := some q, success := true, attempts := attempts + 1, category,
                         rolledBack := true }
            | none =>
              tryCandidates c preflights pool category cycleStart rest (attempts + 1) (failures + 1) true t
        else
          tryCandidates c preflights pool category cycleStart rest (attempts + 1)
            (failures + 1) rollbackAttempted t

def rotatePool (c : RotationEngine) (preflights : Bool) (pool : List P) (force : Bool) (t : RotationHistory) :
    RotationProg P X (RotationResult P × RotationHistory) := do
  let category := poolSizeCategory pool.length
  if (← canRotateNow c t category force) = false then
    return ({ profile := none, success := false, attempts := 0, category }, t)
  else
    let cycleStart ← now
    tryCandidates idOf c preflights pool category cycleStart (candidates idOf t pool) 0 0 false t

def rotate (c : RotationEngine) (preflights : Bool) (pool : List P) (force : Bool) (t : RotationHistory) :
    RotationProg P X (RotationResult P × RotationHistory) :=
  let t := { t with cleanupBarrierFailed := false }
  match pool with
  | [] => return ({ profile := none, success := false, attempts := 0, category := .unavailable }, t)
  | [p] => singleNodeCheck idOf c preflights p t
  | _ => rotatePool idOf c preflights pool force t

end Rotate

/-! ## A driver that always answers the same -/

/-- What the calls return; by default everything succeeds, and nothing raises. -/
structure DriverAnswers (P : Type) where
  disconnect : Bool := true
  connect : P → Bool := fun _ => true
  healthCheck : P → String := fun _ => "ok"
  clock : Rat := 0

namespace DriverAnswers

variable {P X : Type} (d : DriverAnswers P)

def answer : (e : RotationReq P) → RotationAns X e
  | .preflight _ => .ok true
  | .disconnect => .ok d.disconnect
  | .connect p => .ok (d.connect p)
  | .healthCheck p => .ok (d.healthCheck p)
  | .clock => d.clock
  | .sleep _ | .rollbackStart _ => ()

def world : Handler (RotationAns (P := P) X) Unit where
  step _ e a _ := a = d.answer e
  cut _ _ _ := False

def script (_ _ : Unit) (e : RotationReq P) : Reply (RotationAns X) Unit Unit e := .answer (d.answer e) () ()

theorem follows : Follows (d.script (X := X)) d.world where
  answer i s e a s' i' ha := by cases ha; rfl
  kill i s e s' ha := by cases ha

/-- What a program returns there. -/
def returns {α : Type} (p : RotationProg P X α) :
    Option (Except X α) × List (Event (RotationAns (P := P) X) Unit) :=
  ((drive d.script p () () []).1, (drive d.script p () () []).2.2.2)

/-- The program returns a value that passes the test. -/
def passes {α : Type} (p : RotationProg P X α)
    (test : α → List (Event (RotationAns (P := P) X) Unit) → Bool) : Bool :=
  match (d.returns p).1 with
  | some (.ok a) => test a (d.returns p).2
  | _ => false

theorem ends {α : Type} (p : RotationProg P X α) (test : α → List (Event (RotationAns (P := P) X) Unit) → Bool)
    (ht : d.passes p test = true) : ∃ a l, Ends d.world p () [] (.ok a) () l ∧ test a l = true := by
  unfold passes at ht
  split at ht
  · rename_i a ha
    exact ⟨a, _, drive_ends d.follows ha, ht⟩
  · cases ht

/-- Such a driver answers everything, so every program comes to its end. -/
theorem exists_ends {α : Type} (p : RotationProg P X α) : ∃ o l, Ends d.world p () [] o () l := by
  have hgo : ∀ (p : RotationProg P X α) l, ∃ o l', Ends d.world p () l o () l' := by
    intro p
    induction p with
    | ret a => exact fun l => ⟨_, _, .ret a () l⟩
    | raise x => exact fun l => ⟨_, _, .raise x () l⟩
    | call e k ih =>
      intro l
      obtain ⟨o, l', hk⟩ := ih (d.answer e) (⟨(), e, some (d.answer e)⟩ :: l)
      exact ⟨o, l', .step rfl hk⟩
  exact hgo p []

end DriverAnswers

end WatchdogVpn.Rotation
