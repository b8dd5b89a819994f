import WatchdogVpn.Provisioning.Paths

/-!
# The world the engine acts on

The engine asks two parties: the state root, which holds one journal file per transaction
and one ownership file per capability, and the host, on which the executors work. A host is
any relation between requests and answers, so a statement about every host is a statement
about arbitrary executor answers, path checks and signals.

* A journal write is atomic: it lands or it does not. A failed or killed write may have
  landed; a read may always fail, which covers files that are unreadable or corrupt.
* `Store` is the contents of the state root together with the state of the host.
* Executor calls carry the transaction they are made for. The code does not pass it; it
  only attributes effects.
-/

namespace WatchdogVpn.Provisioning

open Effect

inductive HostReq
  | acquireProvisionerLock
  | openAllowedRoot (root : String)
  | openIntermediates (path : String)
  | resolveTargetPath (path : String)
  | verifyAllowedRootsIdentity
  | statIdentity (path : String)
  | captureIntermediateIdentities (path : String)
  | capturePathAuthority (path : String)
  | capturePathAuthorityV2 (path transactionId planDigest resourceId : String) (integrity : Option String)
  | verifyPathAuthority (authority : Option PathAuthority) (path : String)
  | verifyPathAuthorityV2 (authority : Option PathAuthorityV2) (path : String)
      (transactionId planDigest resourceId : Option String)
  | verifyIntermediateIdentities (expected : List IntermediateIdentity)
  | confirmAbsent (resource : String)
  | fs (q : FsReq)
  | signaled
  | inspectStep (tid : TxId) (record : StepRecord)
  | applyStep (tid : TxId) (record : StepRecord)
  | verifyStep (tid : TxId) (record : StepRecord) (execution : ExecutionResult)
  | undoStep (tid : TxId) (record : StepRecord) (execution : ExecutionResult)
  | verifyPostcondition (tid : TxId) (plan : ProvisioningPlan)

abbrev HostAns : HostReq → Type
  | .resolveTargetPath _ => Except Exc AbsPath
  | .statIdentity _ => Except Exc Stat
  | .captureIntermediateIdentities _ => Except Exc (List IntermediateIdentity)
  | .capturePathAuthority _ => Except Exc PathAuthority
  | .capturePathAuthorityV2 _ _ _ _ _ => Except Exc PathAuthorityV2
  -- the reason why the resource is not confirmed absent, if any
  | .confirmAbsent _ => Except Exc (Option String)
  | .fs q => FsAns q
  | .signaled => Bool
  | .inspectStep _ _ => Except Exc Dict
  | .applyStep _ _ => Except Exc ExecutionResult
  | .verifyStep _ _ _ => Except Exc VerificationResult
  | .undoStep _ _ _ => Except Exc RollbackResult
  | .verifyPostcondition _ _ => Except Exc VerificationResult
  | _ => Except Exc Unit

inductive Req
  | newTransactionId
  | listTransactionIds
  | readJournal (tid : TxId)
  | writeJournal (j : TransactionJournal)
  | readOwnershipRecords (capabilityId : String)
  | writeOwnershipRecords (capabilityId : String) (records : List OwnershipRecord)
  | deleteOwnershipRecords (capabilityId : String)
  | ownershipFilePresent (capabilityId : String)
  | host (q : HostReq)

abbrev Ans : Req → Type
  | .newTransactionId => TxId
  | .listTransactionIds => Except Exc (List TxId)
  | .readJournal _ => Except Exc TransactionJournal
  | .readOwnershipRecords _ => Except Exc (List OwnershipRecord)
  | .ownershipFilePresent _ => Except Exc Bool
  | .host q => HostAns q
  | _ => Except Exc Unit

abbrev EngineProg := Prog Ans Exc

def HostReq.ask (q : HostReq) : EngineProg (HostAns q) := .ask (Req.host q)

def Req.ask (q : Req) : EngineProg (Ans q) := .ask q

def writeJournal (j : TransactionJournal) : EngineProg Unit := do
  .ofExcept (← Req.ask (.writeJournal j))

/-! ## Programs that only look -/

/-- A request that neither writes to the state root nor has an executor or a removal act. -/
def Req.Quiet : Req → Prop
  | .writeJournal _ | .writeOwnershipRecords _ _ | .deleteOwnershipRecords _ => False
  | .host (.applyStep _ _) | .host (.undoStep _ _ _) | .host (.fs _) => False
  | _ => True

/-- Programs that ask quiet requests only: all the checks of the engine. -/
abbrev CheckProg := Prog (fun e : Subtype Req.Quiet => Ans e.1) Exc

instance : MonadLift CheckProg EngineProg := ⟨Prog.widen⟩

def Req.look (q : Req) (h : q.Quiet := by trivial) : CheckProg (Ans q) :=
  Prog.ask (R := fun e : Subtype Req.Quiet => Ans e.1) ⟨q, h⟩

def HostReq.look (q : HostReq) (h : (Req.host q).Quiet := by trivial) : CheckProg (HostAns q) :=
  Req.look (.host q) h

/-! ## State root and host -/

structure Store (F : Type) where
  transactions : List TransactionJournal
  ownership : List (String × List OwnershipRecord)
  files : F

/-- Any behaviour of the machine: which answers it can give, and in which state it can be left by
a process killed during a request. -/
structure Host (F : Type) where
  step : F → (q : HostReq) → HostAns q → F → Prop
  cut : F → HostReq → F → Prop

namespace Store

variable {F : Type} (s : Store F)

def journal? (tid : TxId) : Option TransactionJournal :=
  s.transactions.find? fun j => j.transactionId == tid

def putJournal (j : TransactionJournal) : Store F :=
  { s with transactions := j.onDisk :: s.transactions.filter fun k => k.transactionId != j.transactionId }

/-- The ownership records on disk for a capability. -/
def ownership? (capabilityId : String) : Option (List OwnershipRecord) :=
  s.ownership.lookup capabilityId

def putOwnership (capabilityId : String) (records : List OwnershipRecord) : Store F :=
  { s with ownership := (capabilityId, records.map OwnershipRecord.onDisk) ::
      s.ownership.filter fun e => e.1 != capabilityId }

def deleteOwnership (capabilityId : String) : Store F :=
  { s with ownership := s.ownership.filter fun e => e.1 != capabilityId }

end Store

/-- A write to the state root: it succeeds and has landed, or it fails and may have. -/
def landed {F : Type} (s after : Store F) (r : Except Exc Unit) (s' : Store F) : Prop :=
  s' = after ∨ (s' = s ∧ ∃ x, r = .error x)

def storeStep {F : Type} (h : Host F) (s : Store F) : (e : Req) → Ans e → Store F → Prop
  | .newTransactionId, tid, s' => s' = s ∧ s.journal? tid = none ∧ isIdentifier tid = true
  | .listTransactionIds, r, s' => s' = s ∧
      ∀ ids, r = .ok ids → ids.Nodup ∧ ∀ tid, s.journal? tid ≠ none → tid ∈ ids
  | .readJournal tid, r, s' => s' = s ∧ ∀ j, r = .ok j → s.journal? tid = some j
  | .writeJournal j, r, s' => landed s (s.putJournal j) r s'
  | .readOwnershipRecords cap, r, s' => s' = s ∧ ∀ rs, r = .ok rs → rs = (s.ownership? cap).getD []
  | .writeOwnershipRecords cap rs, r, s' => landed s (s.putOwnership cap rs) r s'
  | .deleteOwnershipRecords cap, r, s' => landed s (s.deleteOwnership cap) r s'
  | .ownershipFilePresent cap, r, s' => s' = s ∧ ∀ b, r = .ok b → b = (s.ownership? cap).isSome
  | .host q, r, s' => ∃ f', h.step s.files q r f' ∧ s' = { s with files := f' }

def storeCut {F : Type} (h : Host F) (s : Store F) : Req → Store F → Prop
  | .writeJournal j, s' => s' = s ∨ s' = s.putJournal j
  | .writeOwnershipRecords cap rs, s' => s' = s ∨ s' = s.putOwnership cap rs
  | .deleteOwnershipRecords cap, s' => s' = s ∨ s' = s.deleteOwnership cap
  | .host q, s' => ∃ f', h.cut s.files q f' ∧ s' = { s with files := f' }
  | _, s' => s' = s

/-- The state root and the host as one handler of the engine's requests. -/
def storeHandler {F : Type} (h : Host F) : Handler Ans (Store F) where
  step := storeStep h
  cut := storeCut h

/-- The log of an engine history, newest event first. -/
abbrev Trace F := List (Event Ans (Store F))

/-! ## Lemmas about the state root -/

section Lemmas

variable {F : Type} {h : Host F} {s s' : Store F} {j : TransactionJournal} {tid : TxId}

theorem journal?_eq_some (hj : s.journal? tid = some j) : j ∈ s.transactions ∧ j.transactionId = tid :=
  ⟨List.mem_of_find?_eq_some hj, by simpa using List.find?_some hj⟩

@[simp] theorem journal?_putJournal : (s.putJournal j).journal? j.transactionId = some j.onDisk := by
  simp [Store.journal?, Store.putJournal]

theorem journal?_putJournal_of_ne (hne : tid ≠ j.transactionId) :
    (s.putJournal j).journal? tid = s.journal? tid := by
  have hhead : (j.transactionId == tid) = false := by
    simpa using fun e : j.transactionId = tid => hne e.symm
  simp only [Store.journal?, Store.putJournal, List.find?_cons, onDisk_transactionId, hhead, List.find?_filter]
  congr 1
  funext k
  by_cases hk : k.transactionId = tid
  · simp [hk, hne]
  · simp [hk]

@[simp] theorem ownership?_putOwnership (cap : String) (rs : List OwnershipRecord) :
    (s.putOwnership cap rs).ownership? cap = some (rs.map OwnershipRecord.onDisk) := by
  simp [Store.ownership?, Store.putOwnership]

theorem step_quiet {e : Req} {r : Ans e} (he : e.Quiet) (hs : storeStep h s e r s') :
    s'.transactions = s.transactions ∧ s'.ownership = s.ownership := by
  cases e with
  | writeJournal j | writeOwnershipRecords cap rs | deleteOwnershipRecords cap => exact he.elim
  | host q => obtain ⟨f', -, rfl⟩ := hs; exact ⟨rfl, rfl⟩
  | newTransactionId | listTransactionIds | readJournal tid | readOwnershipRecords cap =>
    rw [hs.1]
    exact ⟨rfl, rfl⟩
  | ownershipFilePresent cap => rw [hs.1]; exact ⟨rfl, rfl⟩

theorem journal?_congr (ht : s'.transactions = s.transactions) (tid : TxId) :
    s'.journal? tid = s.journal? tid := by
  simp only [Store.journal?, ht]

theorem ownership?_congr (ho : s'.ownership = s.ownership) (cap : String) :
    s'.ownership? cap = s.ownership? cap := by
  simp only [Store.ownership?, ho]

end Lemmas

end WatchdogVpn.Provisioning
