import WatchdogVpn.Daemon.Requests

/-!
# The entries of the table

* `Step.evolves`: what a step may do to the entry under a command id.
* `commandOutcome_stable`: a final response stays until its entry is dropped.
-/

namespace WatchdogVpn.Daemon

open List State Table

variable {Admits : State → WorkerRequest → Prop} {s s' : State}
  {r : WorkerRequest} {response : Response}

/-! ## The table -/

namespace Table

def entry (table : Table) (commandId : String) : Option CommandRecord := table.records.get commandId

theorem get_dropFinal (expired : String) (records : PyDict String CommandRecord) (commandId : String) :
    (dropFinal expired records).get commandId = records.get commandId ∨
      (dropFinal expired records).get commandId = none ∧
        ∃ record response, records.get commandId = some record ∧ record.response = some response := by
  unfold dropFinal
  split
  · rename_i record hrec
    split
    · rename_i hsome
      rw [PyDict.get_pop]
      by_cases hid : commandId = expired
      · obtain ⟨response, hresp⟩ := Option.isSome_iff_exists.mp hsome
        exact .inr ⟨if_pos hid, record, response, hid ▸ hrec, hresp⟩
      · exact .inl (if_neg hid)
    · exact .inl rfl
  · exact .inl rfl

/-- The loop drops entries that have a response, and nothing else. -/
theorem get_trim (ids : List String) (records : PyDict String CommandRecord) (commandId : String) :
    (trim ids records).entry commandId = records.get commandId ∨ (trim ids records).entry commandId = none ∧
        ∃ record response, records.get commandId = some record ∧ record.response = some response := by
  induction ids generalizing records with
  | nil => exact .inl rfl
  | cons expired ids ih =>
    unfold trim
    split
    · rcases ih (dropFinal expired records) with hsame | ⟨hnone, record, response, hrec, hresp⟩
      · rw [hsame]
        exact get_dropFinal expired records commandId
      · rcases get_dropFinal expired records commandId with hget | ⟨hget, -⟩
        · exact .inr ⟨hnone, record, response, hget ▸ hrec, hresp⟩
        · rw [hget] at hrec
          cases hrec
    · exact .inl rfl

/-- After an entry got its response: every entry is as before or dropped, which happens to those
with a response only. -/
theorem entry_finalize (table : Table) (commandId : String) (record : CommandRecord) (state : CommandState)
    (response : Response) (id : String) :
    (table.finalize commandId record state response).entry id =
        (if id = commandId then some { record with state, response := some response }
          else table.entry id) ∨ (table.finalize commandId record state response).entry id = none ∧
        (id = commandId ∨ ∃ other answer, table.entry id = some other ∧ other.response = some answer) := by
  unfold finalize retainFinalCommand
  rcases get_trim (table.finalCommandIds ++ [commandId])
    (table.records.set commandId { record with state, response := some response }) id with
    hsame | ⟨hnone, other, answer, hoth, hans⟩
  · rw [hsame, PyDict.get_set]
    exact .inl rfl
  · refine .inr ⟨hnone, ?_⟩
    rw [PyDict.get_set] at hoth
    by_cases hid : id = commandId
    · exact .inl hid
    · rw [if_neg hid] at hoth
      exact .inr ⟨other, answer, hoth, hans⟩

variable {table : Table} {record : CommandRecord}

variable {r : WorkerRequest}

/-- The entry that is claimed has no response; it runs, and the others stay. -/
theorem claim_eq_some {table' : Table} (h : table.claim r = some table') :
    ∃ record, table.entry r.commandId = some record ∧ record.response = none ∧
      ∀ id, table'.entry id = if id = r.commandId then some { record with state := .running }
        else table.entry id := by
  unfold claim at h
  split at h
  · cases h
  rename_i record hent
  split at h
  · cases h
  rename_i hopen
  cases h
  exact ⟨record, hent, hopen, fun id => PyDict.get_set⟩

theorem claim_eq_none (h : table.claim r = none)
    (hent : table.entry r.commandId = some record) : ∃ response, record.response = some response := by
  unfold claim at h
  rw [show table.records.get r.commandId = some record from hent] at h
  cases hresp : record.response with
  | none => simp [hresp] at h
  | some response => exact ⟨response, rfl⟩

/-- What is entered for a request: nothing if it only reads, or an entry under an id that was not
there. -/
theorem register_eq_some {table' : Table} (h : table.register r = some table') :
    r.command.mutating = false ∧ table' = table ∨ r.command.mutating = true ∧ table.entry r.commandId = none ∧
        ∀ id, table'.entry id = if id = r.commandId then some { command := r.command, request := r }
          else table.entry id := by
  unfold register at h
  split at h
  · rename_i hmut
    split at h
    · cases h
    rename_i hnone
    cases h
    exact .inr ⟨hmut, hnone, fun id => PyDict.get_set⟩
  · rename_i hread
    cases h
    exact .inl ⟨Bool.eq_false_of_not_eq_true hread, rfl⟩

theorem entry_finalize_self {commandId : String} {record other : CommandRecord} {state : CommandState}
    {response : Response} (h : (table.finalize commandId record state response).entry commandId = some other) :
    other = { record with state, response := some response } := by
  rcases entry_finalize table commandId record state response commandId with hsame | ⟨hnone, -⟩
  · rw [hsame, if_pos rfl] at h
    exact (Option.some.inj h).symm
  · rw [hnone] at h
    cases h

theorem recordFinalResponse_open (hent : table.entry r.commandId = some record)
    (hopen : record.response = none) (response : Response) (state : CommandState) :
    table.recordFinalResponse r response state = table.finalize r.commandId record state response := by
  simp only [recordFinalResponse, show table.records.get r.commandId = some record from hent, hopen]

theorem recordFinalResponse_closed (hcls : ∀ record, table.entry r.commandId = some record →
    record.response ≠ none) (response : Response)
    (state : CommandState) : table.recordFinalResponse r response state = table := by
  unfold recordFinalResponse
  split
  · rfl
  rename_i record hent
  split
  · rfl
  rename_i hopen
  exact absurd hopen (hcls record hent)

end Table

/-! ## What a step does to an entry -/

variable {commandId : String} {record : CommandRecord}

theorem table_cancel (hent : s.table.entry commandId = some record)
    (hopen : record.response = none) (hstate : record.state = .queued) : (s.cancel commandId).table =
      s.table.finalize commandId record .cancelled (cancelledResponse commandId record.command) := by
  simp only [cancel, cancelCommand, show s.table.records.get commandId = some record from hent, hopen,
    if_pos hstate]

theorem table_cancel_other (hnot : ∀ record, s.table.entry commandId = some record →
    record.response = none → record.state ≠ .queued) : (s.cancel commandId).table = s.table := by
  change (s.table.cancelCommand commandId).2.1 = s.table
  unfold cancelCommand
  split
  · rfl
  rename_i record hent
  split
  · rfl
  rename_i hopen
  rw [if_neg (hnot record hent hopen)]

/-- An open entry gets its response: a queued command is cancelled, or the worker records the
outcome. -/
def Finishes (s s' : State) (id : String) (record : CommandRecord) (response : Response) : Prop :=
  (record.state = .queued ∧ response = cancelledResponse id record.command ∧ s' = s.cancel id) ∨
    ∃ r state, s.worker = .recording r response state ∧ r.commandId = id ∧
      s' = { s with table := s.table.recordFinalResponse r response state, worker := .responding r response }

/-- It has it now, or has been dropped at once. -/
structure Finished (s s' : State) (id : String) (record : CommandRecord) (response : Response) : Prop where
  finishes : Finishes s s' id record response
  entry : ∀ record', s'.table.entry id = some record' →
    record'.request = record.request ∧ record'.command = record.command ∧ record'.response = some response

/-- A command has been accepted and entered. -/
structure Enters (Admits : State → WorkerRequest → Prop) (s s' : State) (id : String)
    (r : WorkerRequest) : Prop where
  commandId : r.commandId = id
  mutating : r.command.mutating = true
  admitted : Admits s r
  new : ∀ r' ∈ s.made, r'.serial ≠ r.serial
  made : r ∈ s'.made
  waits : r ∈ s'.waiting
  entry : s'.table.entry id = some { command := r.command, request := r }

/-- What may happen to the entry under a command id. -/
inductive Evolves (Admits : State → WorkerRequest → Prop) (s s' : State) (id : String) : Prop
  | same (hnew : s'.table.entry id = s.table.entry id)
  | entered (r : WorkerRequest) (hold : s.table.entry id = none) (henters : Enters Admits s s' id r)
  | started (record : CommandRecord) (hold : s.table.entry id = some record) (hopen : record.response = none)
      (hnew : s'.table.entry id = some { record with state := .running })
  | finished (record : CommandRecord) (response : Response) (hold : s.table.entry id = some record)
      (hopen : record.response = none) (hfinished : Finished s s' id record response)
  | dropped (record : CommandRecord) (hold : s.table.entry id = some record) (hclosed : record.response ≠ none)
      (hnew : s'.table.entry id = none)

variable {id : String} {state : CommandState}

theorem finished_of_finalize (hfin : Finishes s s' id record response)
    (htab : s'.table = s.table.finalize id record state response) :
    Finished s s' id record response := by
  refine ⟨hfin, fun record' h => ?_⟩
  rw [htab] at h
  rw [entry_finalize_self h]
  exact ⟨rfl, rfl, rfl⟩

theorem evolves_finalize (hold : s.table.entry commandId = some record) (hopen : record.response = none)
    (hfin : Finishes s s' commandId record response)
    (htab : s'.table = s.table.finalize commandId record state response) (id : String) :
    Evolves Admits s s' id := by
  by_cases hid : id = commandId
  · subst hid
    exact .finished record response hold hopen (finished_of_finalize hfin htab)
  · rcases s.table.entry_finalize commandId record state response id with hsame | ⟨hnone, hcause⟩
    · rw [if_neg hid] at hsame
      exact .same (htab ▸ hsame)
    · obtain ⟨other, answer, hoth, hans⟩ := hcause.resolve_left hid
      exact .dropped other hoth (by rw [hans]; nofun) (htab ▸ hnone)

section

variable (hstep : Step Admits s s')
include hstep

theorem Step.evolves (id : String) : Evolves Admits s s' id := by
  cases hstep with
  | accept r table alive new registered admitted =>
    rcases register_eq_some registered with ⟨-, rfl⟩ | ⟨hmut, hnone, hall⟩
    · exact .same rfl
    by_cases hid : id = r.commandId
    · subst hid
      exact .entered r hnone ⟨rfl, hmut, admitted, new, mem_cons_self,
        waiting_accept.mem_iff.mpr mem_cons_self, (hall _).trans (if_pos rfl)⟩
    · exact .same ((hall _).trans (if_neg hid))
  | cancel commandId =>
    by_cases hque : ∃ record, s.table.entry commandId = some record ∧ record.response = none ∧
      record.state = .queued
    · obtain ⟨record, hent, hopen, hstate⟩ := hque
      exact evolves_finalize hent hopen (.inl ⟨hstate, rfl, rfl⟩) (table_cancel hent hopen hstate) id
    · refine .same (congrArg (entry · id) (table_cancel_other fun record hent hopen hstate => ?_))
      exact hque ⟨record, hent, hopen, hstate⟩
  | claim r table has claimed =>
    obtain ⟨record, hent, hopen, hall⟩ := claim_eq_some claimed
    by_cases hid : id = r.commandId
    · subst hid
      exact .started record hent hopen ((hall _).trans (if_pos rfl))
    · exact .same ((hall _).trans (if_neg hid))
  | record r response state has =>
    by_cases hopen : ∃ record, s.table.entry r.commandId = some record ∧ record.response = none
    · obtain ⟨record, hent, hopen⟩ := hopen
      exact evolves_finalize hent hopen (.inr ⟨r, state, has, rfl, rfl⟩)
        (recordFinalResponse_open hent hopen response state) id
    · refine .same (congrArg (entry · id)
        (recordFinalResponse_closed (fun record hent hnone => ?_) response state))
      exact hopen ⟨record, hent, hnone⟩
  | _ => exact .same rfl

theorem Step.final_stays (hent : s.table.entry id = some record) (hcls : record.response ≠ none) :
    s'.table.entry id = some record ∨ s'.table.entry id = none := by
  cases hstep.evolves id with
  | same hnew => exact .inl (hnew.trans hent)
  | entered r hold hentr => exact absurd (hent.symm.trans hold) nofun
  | started _ hold hopen | finished _ _ hold hopen =>
    exact absurd (Option.some.inj (hent.symm.trans hold) ▸ hopen) hcls
  | dropped other hold hcls' hnew => exact .inr hnew

/-- An open entry stays open, perhaps running now, or gets its response. -/
theorem Step.open_to (hent : s.table.entry id = some record) (hopen : record.response = none) :
    (∃ record', s'.table.entry id = some record' ∧ record'.response = none ∧
      (record' = record ∨ record'.state = .running)) ∨ ∃ response, Finished s s' id record response := by
  cases hstep.evolves id with
  | same hnew => exact .inl ⟨record, hnew.trans hent, hopen, .inl rfl⟩
  | entered r hold hentr => exact absurd (hent.symm.trans hold) nofun
  | started other hold hopen' hnew => exact .inl ⟨_, hnew, hopen', .inr rfl⟩
  | finished other answer hold hopen' hfin => exact .inr ⟨answer, Option.some.inj (hent.symm.trans hold) ▸ hfin⟩
  | dropped other hold hcls hnew => exact absurd (Option.some.inj (hent.symm.trans hold) ▸ hopen) hcls

theorem Step.entry_from {record' : CommandRecord} (h : s'.table.entry id = some record') :
    (∃ record, s.table.entry id = some record ∧ record'.request = record.request ∧
      record'.command = record.command ∧
      (record' = record ∨ record.response = none ∧ (record'.state = .running ∨ record'.response ≠ none))) ∨
    ∃ r, Enters Admits s s' id r := by
  cases hstep.evolves id with
  | same hnew => exact .inl ⟨record', hnew ▸ h, rfl, rfl, .inl rfl⟩
  | entered r hold hentr => exact .inr ⟨r, hentr⟩
  | started record hold hopen hnew =>
    rw [hnew] at h
    cases h
    exact .inl ⟨record, hold, rfl, rfl, .inr ⟨hopen, .inl rfl⟩⟩
  | finished record answer hold hopen hfin =>
    obtain ⟨hreq, hcmd, hresp⟩ := hfin.entry record' h
    exact .inl ⟨record, hold, hreq, hcmd, .inr ⟨hopen, .inr (by rw [hresp]; nofun)⟩⟩
  | dropped record hold hcls hnew => exact absurd (h.symm.trans hnew) nofun

theorem Step.queued_from
    (hent : s'.table.entry id = some record) (hopen : record.response = none)
    (hstate : record.state = .queued) :
    s.table.entry id = some record ∨ record.request ∈ s'.waiting := by
  rcases hstep.entry_from hent with ⟨old, hold, -, -, rfl | ⟨-, hrunn | hcls⟩⟩ | ⟨r, hentr⟩
  · exact .inl hold
  · exact absurd (hstate.symm.trans hrunn) nofun
  · exact absurd hopen hcls
  · rw [hentr.entry] at hent
    cases hent
    exact .inr hentr.waits

theorem Step.entry_of_new (hr : r ∈ s'.made) (hnot : r ∉ s.made) (hmut : r.command.mutating = true) :
    s'.table.entry r.commandId = some { command := r.command, request := r } := by
  cases hstep with
  | accept r0 table alive new registered admitted =>
    have heq : r = r0 := (mem_cons.mp hr).resolve_right hnot
    subst heq
    rcases register_eq_some registered with ⟨hread, -⟩ | ⟨-, -, hall⟩
    · rw [hmut] at hread
      cases hread
    · exact (hall _).trans (if_pos rfl)
  | _ => exact absurd hr hnot

end

/-- **A final response stays until its entry is dropped.** Along any run in which the entry is never
dropped, the outcome of the command is the response that was recorded. -/
theorem commandOutcome_stable (hent : s.table.entry commandId = some record)
    (hresp : record.response = some response)
    (hrun : Relation.ReflTransGen (fun a b => Step Admits a b ∧ b.table.entry commandId ≠ none) s s') :
    s'.table.commandOutcome commandId = response := by
  suffices hstill : ∃ record', s'.table.entry commandId = some record' ∧ record'.response = some response by
    obtain ⟨record', hent', hresp'⟩ := hstill
    unfold commandOutcome
    rw [show s'.table.records.get commandId = some record' from hent']
    simp only [hresp']
  induction hrun with
  | refl => exact ⟨record, hent, hresp⟩
  | tail _ hstep ih =>
    obtain ⟨record', hent', hresp'⟩ := ih
    have hcls : record'.response ≠ none := by rw [hresp']; nofun
    exact ⟨record', (hstep.1.final_stays hent' hcls).resolve_right hstep.2, hresp'⟩

end WatchdogVpn.Daemon
