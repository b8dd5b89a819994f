import WatchdogVpn.Provisioning.Engine
import WatchdogVpn.Provisioning.Canary
import Mathlib.Data.List.Dedup
import Mathlib.Data.List.Infix

/-!
# The engine as a machine that runs

A `Script` fixes what the world leaves open: the identifiers of new transactions, the answers
of the host, and where the process is killed. Against a script the engine computes; what it
computes is a run of the model (`Script.run`), so a run can be exhibited by evaluation.
-/

namespace WatchdogVpn.Provisioning

open Effect List

variable {F : Type}

/-- Which requests of the host are answered how, and where the process is killed. -/
structure Script (F : Type) where
  name : Store F → TxId
  host : F → (q : HostReq) → HostAns q × F
  /-- The process is killed before this request. -/
  stops : Store F → Req → Bool := fun _ _ => false
  /-- The process is killed inside this request and leaves the machine so. -/
  cuts : F → HostReq → Option F := fun _ _ => none

namespace Script

variable (c : Script F)

/-- What the world does with a request under the script; reads and writes of the state root succeed.
-/
def answer (s : Store F) : (e : Req) → Reply Ans (Store F) Unit e
  | .newTransactionId =>
    if (s.journal? (c.name s)).isNone && isIdentifier (c.name s) then .answer (c.name s) s () else .stop
  | .listTransactionIds => .answer (.ok (s.transactions.map (·.transactionId)).dedup) s ()
  | .readJournal tid =>
    .answer (match s.journal? tid with
      | some j => .ok j
      | none => .error ⟨.journalError, "no journal for transaction " ++ tid⟩) s ()
  | .writeJournal j => .answer (.ok ()) (s.putJournal j) ()
  | .readOwnershipRecords cap => .answer (.ok ((s.ownership? cap).getD [])) s ()
  | .writeOwnershipRecords cap rs => .answer (.ok ()) (s.putOwnership cap rs) ()
  | .deleteOwnershipRecords cap => .answer (.ok ()) (s.deleteOwnership cap) ()
  | .ownershipFilePresent cap => .answer (.ok (s.ownership? cap).isSome) s ()
  | .host q =>
    match c.cuts s.files q with
    | some f => .kill { s with files := f }
    | none => .answer (c.host s.files q).1 { s with files := (c.host s.files q).2 } ()

def reply (_ : Unit) (s : Store F) (e : Req) : Reply Ans (Store F) Unit e :=
  if c.stops s e then .stop else c.answer s e

/-- The script does to the host only what the host can do. -/
structure Fits (h : Host F) : Prop where
  host : ∀ f q, h.step f q (c.host f q).1 (c.host f q).2
  cuts : ∀ f q f', c.cuts f q = some f' → h.cut f q f'

variable {c} {h : Host F}

theorem answer_step (hf : c.Fits h) {s s' : Store F} {e : Req} {r : Ans e} {i : Unit}
    (ha : c.answer s e = .answer r s' i) : storeStep h s e r s' := by
  cases e with
  | newTransactionId =>
    simp only [answer] at ha
    split at ha
    · rename_i hok
      cases ha
      simp only [Bool.and_eq_true, Option.isNone_iff_eq_none] at hok
      exact ⟨rfl, hok⟩
    · cases ha
  | listTransactionIds =>
    cases ha
    refine ⟨rfl, fun ids hids => ?_⟩
    cases hids
    refine ⟨nodup_dedup _, fun tid hj => ?_⟩
    obtain ⟨j, hj⟩ := Option.ne_none_iff_exists'.mp hj
    obtain ⟨hmem, rfl⟩ := journal?_eq_some hj
    exact mem_dedup.mpr (mem_map_of_mem hmem)
  | readJournal tid =>
    cases ha
    refine ⟨rfl, fun j hj => ?_⟩
    cases hd : s.journal? tid with
    | none => rw [hd] at hj; cases hj
    | some d => rw [hd] at hj; cases hj; rfl
  | writeJournal j => cases ha; exact .inl rfl
  | readOwnershipRecords cap => cases ha; exact ⟨rfl, fun rs hrs => by cases hrs; rfl⟩
  | writeOwnershipRecords cap rs | deleteOwnershipRecords cap => cases ha; exact .inl rfl
  | ownershipFilePresent cap => cases ha; exact ⟨rfl, fun b hb => by cases hb; rfl⟩
  | host q =>
    simp only [answer] at ha
    split at ha
    · cases ha
    cases ha
    exact ⟨_, hf.host _ _, rfl⟩

theorem answer_kill (hf : c.Fits h) {s s' : Store F} {e : Req} (ha : c.answer s e = .kill s') :
    storeCut h s e s' := by
  cases e with
  | host q =>
    simp only [answer] at ha
    split at ha
    · rename_i f hcut
      cases ha
      exact ⟨f, hf.cuts _ _ _ hcut, rfl⟩
    · cases ha
  | newTransactionId =>
    simp only [answer] at ha
    split at ha <;> cases ha
  | _ => cases ha

theorem follows (hf : c.Fits h) : Follows c.reply (storeHandler h) where
  answer i s e r s' i' ha := by
    unfold reply at ha
    split at ha
    · cases ha
    · exact answer_step hf ha
  kill i s e s' ha := by
    unfold reply at ha
    split at ha
    · cases ha
    · exact answer_kill hf ha

/-! ## Runs -/

variable (c)

/-- One invocation under the script: its report, and the state and log it leaves. -/
def invoke (env : ProvisioningEnvironment) (cmd : Command) (s : Store F) (l : Trace F) : Store F × Trace F :=
  let out := drive c.reply (cmd.run env) () s l
  (out.2.2.1, out.2.2.2)

def invokeAll (env : ProvisioningEnvironment) : List Command → Store F → Trace F → Store F × Trace F
  | [], s, l => (s, l)
  | cmd :: cmds, s, l => invokeAll env cmds (c.invoke env cmd s l).1 (c.invoke env cmd s l).2

variable {c}

/-- **What is computed is a run.** -/
theorem run {envs : ProvisioningEnvironment → Prop} {env : ProvisioningEnvironment} (hf : c.Fits h)
    (he : envs env) {s0 : Store F} (cmds : List Command) : ∀ {s l}, EngineRun h envs s0 s l →
      EngineRun h envs s0 (c.invokeAll env cmds s l).1 (c.invokeAll env cmds s l).2 := by
  induction cmds with
  | nil => exact fun hr => hr
  | cons cmd cmds ih => exact fun hr => ih (hr.pass ⟨env, cmd, he, rfl⟩ (drive_exec (follows hf) _ _ _ _))

end Script

/-! ## Journals written in a log -/

/-- The event is a write of a journal that satisfies `p`. -/
def wrote (p : TransactionJournal → Bool) (ev : Event Ans (Store F)) : Bool :=
  match ev.req with
  | .writeJournal j => p j
  | _ => false

theorem exists_wrote {p : TransactionJournal → Bool} {l : Trace F} (hl : l.any (wrote p) = true) :
    ∃ ev ∈ l, ∃ j, ev.req = .writeJournal j ∧ p j = true := by
  obtain ⟨ev, hev, hw⟩ := any_eq_true.mp hl
  refine ⟨ev, hev, ?_⟩
  unfold wrote at hw
  split at hw
  · rename_i j hj; exact ⟨j, hj, hw⟩
  · cases hw

/-! ## A laboratory

The canary executor under `/lab`, on a machine where every check of a path passes. -/

def anyHost : Host Unit := ⟨fun _ _ _ _ => True, fun _ _ _ => True⟩

def labCanary : CanaryExecutor :=
  { context := { allowedRoots := ["/lab"] }, uid := 0, gid := 0, sha256 := fun _ => "00" }

def labEnv : ProvisioningEnvironment where
  registry := ⟨[(("canary_lab", "canary"), labCanary.registered)]⟩
  expectedExecutorVersion := "1"
  context := labCanary.context
  sha256Json := fun _ => "00"

def labOnly (env : ProvisioningEnvironment) : Prop := env = labEnv

def labDecision : ResolutionDecision where
  resolutionStatus := "method_selected"
  executionReady := true
  capabilityId := "canary"
  dependencyId := "canary"
  selectedMethodId := some "canary"
  selectedMethodKind := some "canary_lab"
  resolvedRelease := some "lab"
  resolvedDistribution := none
  machineArchitecture := some "x86_64"
  supportClassification := "lab"
  selectedAsset := none

/-- The files of the laboratory look alike. -/
def labStat : Stat := { dev := 1, ino := 1, uid := 0, gid := 0, mode := 0o600, nlink := 1, isRegular := true }

/-- What the machine of the laboratory answers; by default everything succeeds. -/
structure LabAnswers where
  inspect : StepRecord → Except Exc Dict := fun _ => .ok CanaryExecutor.inspectedAbsent
  apply : StepRecord → Except Exc ExecutionResult := fun r =>
    .ok { status := .applied, undoRecord := (CanaryExecutor.reconstructUndoRecord r).toOption }
  undo : RollbackResult := { status := .undone, residual := false }
  signaled : Bool := false
  stat : Except Exc Stat := .ok labStat
  confirmAbsent : Option String := none

/-- The system calls of a removal, on a machine where they succeed. -/
def labFs : (q : FsReq) → FsAns q
  | .resolve path => if hp : path.toList.head? = some '/' then .ok ⟨path, hp⟩
      else .error ⟨.pathPolicyError, path⟩
  | .openRead _ | .openQuarantined _ => .ok 1
  | .openCustody => .ok 2
  | .fstat fd => .ok { labStat with isRegular := fd == 1, isDirectory := fd == 2, mode := 0o700 }
  | .sha256 _ => .ok "00"
  | .getuid => (0 : Nat)
  | .quarantineName name => name
  | .openParent _ | .fsyncParent _ | .mkdirCustody | .fsyncRoot
  | .fsyncCustody | .rmdirCustody | .renameToCustody _ _ | .renameFromCustody _
      _ | .unlinkQuarantined _ => .ok ()

variable (a : LabAnswers)

def LabAnswers.host : (q : HostReq) → HostAns q
  | .resolveTargetPath path => labFs (.resolve path)
  | .statIdentity _ => a.stat
  | .captureIntermediateIdentities _ => .ok []
  | .capturePathAuthority path => .ok ⟨"/lab", path, 1, []⟩
  | .capturePathAuthorityV2 path tid digest resource _ =>
    .ok ⟨"v2", tid, digest, resource, "/lab", "/lab", path, 1, [], "", ""⟩
  | .confirmAbsent _ => .ok a.confirmAbsent
  | .fs q => labFs q
  | .signaled => a.signaled
  | .inspectStep _ r => a.inspect r
  | .applyStep _ r => a.apply r
  | .verifyStep _ _ _ => .ok { status := .verified, evidence := [("sha256", .str "00")] }
  | .undoStep _ _ _ => .ok a.undo
  | .verifyPostcondition _ _ => .ok { status := .verified }
  | .acquireProvisionerLock | .openAllowedRoot _ | .openIntermediates _ | .verifyAllowedRootsIdentity
  | .verifyPathAuthority _ _ | .verifyPathAuthorityV2 _ _ _ _ _ | .verifyIntermediateIdentities _ => .ok ()

/-- The script of the laboratory; the `n`-th transaction gets the `n`-th of the names `t`, `tt`,
`ttt` … -/
def LabAnswers.script : Script Unit where
  name s := String.ofList (replicate (s.transactions.length + 1) 't')
  host _ q := (a.host q, ())

theorem LabAnswers.fits : a.script.Fits anyHost := ⟨fun _ _ => trivial, fun _ _ _ _ => trivial⟩

def emptyStore : Store Unit := ⟨[], [], ()⟩

/-- Commands run in the laboratory from an empty state root. -/
def LabAnswers.after (cmds : List Command) : Store Unit × Trace Unit :=
  a.script.invokeAll labEnv cmds emptyStore []

/-- The host after the canary was prepared, every step of it succeeding. -/
abbrev labPrepared : Store Unit × Trace Unit := ({} : LabAnswers).after [.prepare labDecision true]

theorem LabAnswers.run (cmds : List Command) :
    EngineRun anyHost labOnly emptyStore (a.after cmds).1 (a.after cmds).2 := by
  have he : labOnly labEnv := rfl
  exact Script.run a.fits he cmds .init

/-- One more command in the laboratory. -/
def LabAnswers.next (cmd : Command) (s : Store Unit) (l : Trace Unit) : Store Unit × Trace Unit :=
  a.script.invoke labEnv cmd s l

theorem LabAnswers.exec (cmd : Command) (s : Store Unit) (l : Trace Unit) :
    Exec (storeHandler anyHost) (cmd.run labEnv) s l (a.next cmd s l).1 (a.next cmd s l).2 :=
  drive_exec (Script.follows a.fits) _ _ _ _

theorem LabAnswers.ends {α : Type} {p : EngineProg α} {s : Store Unit} {l : Trace Unit} {r : Except Exc α}
    (hr : (drive a.script.reply p () s l).1 = some r) :
    Ends (storeHandler anyHost) p s l r (drive a.script.reply p () s l).2.2.1
      (drive a.script.reply p () s l).2.2.2 :=
  drive_ends (Script.follows a.fits) hr

/-- A point of the log that satisfies `p`, which sees the event and all before it. -/
theorem exists_point {p : Trace F → Bool} {l : Trace F} (hp : p [] = false) (hl : l.tails.any p = true) :
    ∃ later ev earlier, l = later ++ ev :: earlier ∧ p (ev :: earlier) = true := by
  obtain ⟨t, ht, hpt⟩ := any_eq_true.mp hl
  obtain ⟨later, rfl⟩ := (mem_tails _ _).mp ht
  cases t with
  | nil => rw [hp] at hpt; cases hpt
  | cons ev earlier => exact ⟨later, ev, earlier, rfl, hpt⟩

end WatchdogVpn.Provisioning
