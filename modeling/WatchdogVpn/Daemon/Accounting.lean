import WatchdogVpn.Daemon.Ownership

/-!
# The accounting of commands

* `canBeAnswered`: the worker gets on with the request in its hands.
* **`command_accounting`** puts the parts together.
* `reused_id_disagrees`: a command id that is used again after its entry was dropped.
* `outcomes_bounded`: how many outcomes are kept.
-/

namespace WatchdogVpn.Daemon

open List State Table

variable {Admits : State → WorkerRequest → Prop} {s s' : State}
  {r : WorkerRequest} {response : Response} {state : CommandState} {table : Table}

/-! ## The worker gets on with the request in its hands -/

/-- The run goes on to a state where the request has its answer. -/
def CanBeAnswered (Admits : State → WorkerRequest → Prop) (s : State) (r : WorkerRequest) : Prop :=
  ∃ s', Relation.ReflTransGen (Step Admits) s s' ∧ s'.worker = .finishing (.request r)

theorem CanBeAnswered.head (hstep : Step Admits s s') (h : CanBeAnswered Admits s' r) :
    CanBeAnswered Admits s r := by
  obtain ⟨s'', hrun, hend⟩ := h
  exact ⟨s'', .head hstep hrun, hend⟩

theorem canBeAnswered_responding (has : s.worker = .responding r response) :
    CanBeAnswered Admits s r := ⟨_, .single (.respond r response has), rfl⟩

theorem canBeAnswered_recording (has : s.worker = .recording r response state) : CanBeAnswered Admits s r :=
  .head (.record r response state has) (canBeAnswered_responding rfl)

theorem canBeAnswered_executing (has : s.worker = .executing r) : CanBeAnswered Admits s r := by
  refine .head (.handle r ⟨true, [], none⟩ has) ?_
  by_cases hmut : r.command.mutating = true
  · exact canBeAnswered_recording (if_pos hmut)
  · exact canBeAnswered_responding (if_neg hmut)

theorem canBeAnswered_claiming (has : s.worker = .claiming r) : CanBeAnswered Admits s r := by
  cases hclaim : s.table.claim r with
  | none => exact ⟨_, .single (.giveUp r has hclaim), rfl⟩
  | some table => exact .head (.claim r table has hclaim) (canBeAnswered_executing rfl)

theorem canBeAnswered_starting (has : s.worker = .starting (.request r)) : CanBeAnswered Admits s r := by
  cases hmut : r.command.mutating with
  | false => exact .head (.read r has hmut) (canBeAnswered_executing rfl)
  | true =>
    by_cases hlate : s.cancellationRequested r.serial = true ∨ deadlineExpired r 0
    · exact .head (.refuse r 0 has hmut hlate) (canBeAnswered_recording rfl)
    · exact .head (.letThrough r 0 has hmut hlate) (canBeAnswered_claiming rfl)

theorem item_of_hand {item : Item} (h : item.request? = some r ∨ none = some r) : item = .request r := by
  cases item with
  | request r' => exact congrArg _ (Option.some.inj (h.resolve_right nofun))
  | _ => rcases h with h | h <;> cases h

/-- Whatever the other threads do, the request in the hands of the worker can be answered. -/
theorem canBeAnswered (hhand : s.worker.undecided = some r ∨ s.worker.unanswered = some r) :
    CanBeAnswered Admits s r := by
  cases hwork : s.worker <;> rw [hwork] at hhand
  case fetched item =>
    cases item_of_hand hhand
    -- a thread inside the lock of the ticks leaves it first
    cases hfree : s.ticking with
    | false => exact .head (.markBusy _ hwork hfree) (canBeAnswered_starting rfl)
    | true => exact .head (.putTick hfree) (.head (.markBusy _ hwork rfl) (canBeAnswered_starting rfl))
  case starting item =>
    cases item_of_hand hhand
    exact canBeAnswered_starting hwork
  all_goals rcases hhand with hhand | hhand <;> cases hhand
  · exact canBeAnswered_claiming hwork
  · exact canBeAnswered_executing hwork
  · exact canBeAnswered_recording hwork
  · exact canBeAnswered_responding hwork

/-- **The accounting of commands.** In every interleaving no request is handled more than once, a
request has its one answer exactly when it is neither waiting nor in the hands of the worker, where
it can always be answered, there is at most one tick, and a final response is what a look-up gives
until its entry is dropped. If moreover no command is accepted under the id of one that has not been
answered, then a final response is the one answer its request ever gets, and a command whose
cancellation was answered as cancelled is never handled. -/
theorem command_accounting (s : State) : (Reachable anyRequest s → (∀ r ∈ s.made, s.executions r.serial ≤ 1) ∧
      (∀ r ∈ s.made, (s.responses r.serial).length = if r ∈ s.inFlight then 0 else 1) ∧
      (∀ r, s.worker.undecided = some r ∨ s.worker.unanswered = some r → CanBeAnswered anyRequest s r) ∧
      s.ticks ≤ 1 ∧
      ∀ commandId record response s', s.table.entry commandId = some record → record.response = some response →
        Relation.ReflTransGen (fun a b => Step anyRequest a b ∧ b.table.entry commandId ≠ none) s s' →
          s'.table.commandOutcome commandId = response) ∧
    (Reachable freshCommandId s → ∀ commandId record, s.table.entry commandId = some record →
      (∀ response s', record.response = some response → Relation.ReflTransGen (Step freshCommandId) s s' →
        ∀ answer ∈ s'.responses record.request.serial, answer = response) ∧
      ∀ s', (s.table.cancelCommand commandId).1.IsCancelled →
        Relation.ReflTransGen (Step freshCommandId) (s.cancel commandId) s' →
        s'.executions record.request.serial = 0) := by
  refine ⟨fun hs => ?_, fun hs commandId record hent => ⟨?_, ?_⟩⟩
  · obtain ⟨hc, ht⟩ := hs.counted
    refine ⟨hc.executions_le, hc.responses_length, fun r hhand => canBeAnswered hhand, ?_, ?_⟩
    · have hpend : s.ticks ≤ if s.tickPending then 1 else 0 := ht ▸ Nat.le_add_right _ _
      split at hpend <;> omega
    · exact fun commandId record response s' hent hresp hrun => commandOutcome_stable hent hresp hrun
  · intro response s' hresp hrun
    have hdec := (Reachable.owned hs).final commandId record response hent hresp
    exact (hdec.run hs hrun).answers
  · intro s' hans hrun
    obtain ⟨response, hcanc, hdec⟩ := decided_of_cancelled hs hent hans
    exact (hdec.run (hs.tail (.cancel commandId)) hrun).executions hcanc

def upRequest : WorkerRequest := ⟨0, .connect, "up", none⟩

def downRequest : WorkerRequest := ⟨1, .disconnect, "down", none⟩

/-- A command to connect is handled and answered; the command to disconnect that comes in meanwhile
can be cancelled. -/
theorem command_accounting_run : ∃ s up down response, Reachable freshCommandId s ∧
    s.table.entry "up" = some up ∧ up.response = some response ∧ s.responses 0 = [response] ∧
    s.table.entry "down" = some down ∧ (s.table.cancelCommand "down").1.IsCancelled ∧
    (∀ s', Relation.ReflTransGen (Step freshCommandId) s s' → ∀ answer ∈ s'.responses 0, answer = response) ∧
    ∀ s', Relation.ReflTransGen (Step freshCommandId) (s.cancel "down") s' → s'.executions 1 = 0 := by
  have hs0 : Reachable freshCommandId {} := .refl
  have hs1 := hs0.tail (.accept upRequest _ nofun nofun rfl nofun)
  have hs2 := hs1.tail (.put [] upRequest [] rfl)
  have hs3 := hs2.tail (.fetch (.request upRequest) [] rfl rfl nofun)
  -- the other command is accepted while the first one is in the hands of the worker
  have hs4 := hs3.tail (.accept downRequest _ nofun (by decide) rfl (by unfold freshCommandId; decide))
  have hs5 := hs4.tail (.markBusy _ rfl rfl)
  have hs6 := hs5.tail (.letThrough upRequest 0 rfl rfl (by rintro (h | ⟨_, h, -⟩) <;> cases h))
  have hs7 := hs6.tail (.claim upRequest _ rfl rfl)
  have hs8 := hs7.tail (.handle upRequest ⟨true, [], none⟩ rfl)
  have hs9 := hs8.tail (.record upRequest _ _ rfl)
  have hs10 := hs9.tail (.respond upRequest _ rfl)
  have hacc := (command_accounting _).2 hs10
  refine ⟨_, _, _, _, hs10, rfl, rfl, rfl, rfl, rfl, ?_, ?_⟩
  · intro s' hrun
    exact (hacc "up" _ rfl).1 _ s' rfl hrun
  · intro s' hrun
    exact (hacc "down" _ rfl).2 s' rfl hrun

/-! ## A command id that is used again -/

variable {records : PyDict String CommandRecord}

theorem Table.trim_of_le {ids : List String}
    (h : ids.length ≤ maxRetainedFinalOutcomes) : trim ids records = ⟨records, ids⟩ := by
  cases ids with
  | nil => rfl
  | cons expired ids =>
    rw [length_cons] at h
    rw [trim, if_neg (by omega)]

theorem Table.trim_of_full {expired : String} {ids : List String}
    (h : ids.length = maxRetainedFinalOutcomes) :
    trim (expired :: ids) records = ⟨dropFinal expired records, ids⟩ := by
  rw [trim, if_pos (by omega), trim_of_le h.le]

theorem Table.get_dropFinal_ne {expired commandId : String}
    (h : commandId ≠ expired) : (dropFinal expired records).get commandId = records.get commandId := by
  unfold dropFinal
  split
  · split
    · rw [PyDict.get_pop, if_neg h]
    · rfl
  · rfl

/-- The ids of the commands that are cancelled: the one that is used again, then `f`, `ff`, and so
on. -/
def fillerId : Nat → String
  | 0 => "reused"
  | k + 1 => String.ofList (List.replicate (k + 1) 'f')

def filler (k : Nat) : WorkerRequest := ⟨k, .connect, fillerId k, none⟩

abbrev firstRequest : WorkerRequest := filler 0

def secondRequest : WorkerRequest := ⟨maxRetainedFinalOutcomes + 1, .disconnect, "reused", none⟩

theorem fillerId_inj {j k : Nat} (h : fillerId j = fillerId k) : j = k := by
  have hlists := congrArg String.toList h
  have hreused : ∀ i, replicate (i + 1) 'f' ≠ "reused".toList := fun i heq =>
    absurd (cons.inj (replicate_succ ▸ heq)).1 (by decide)
  match j, k with
  | 0, 0 => rfl
  | 0, k + 1 => exact absurd (by simpa [fillerId] using hlists.symm) (hreused k)
  | j + 1, 0 => exact absurd (by simpa [fillerId] using hlists) (hreused j)
  | j + 1, k + 1 => simpa [fillerId] using hlists

theorem fillerId_ne {k : Nat} (hk : 0 < k) : "reused" ≠ fillerId k := fun h => hk.ne (fillerId_inj h)

/-- The state after a command has been accepted and cancelled. -/
def State.acceptAndCancel (s : State) (r : WorkerRequest) : State :=
  State.cancel { s with
    made := r :: s.made
    table := { s.table with records := s.table.records.set r.commandId { command := r.command, request := r } }
    accepted := s.accepted ++ [r] } r.commandId

theorem register_of_unused (hmut : r.command.mutating = true)
    (hunus : s.table.entry r.commandId = none) : s.table.register r =
      some { s.table with
        records := s.table.records.set r.commandId { command := r.command, request := r } } := by
  unfold register
  rw [if_pos hmut, show s.table.records.get r.commandId = none from hunus]

theorem reachable_acceptAndCancel (hs : Reachable anyRequest s) (hidle : s.worker = .idle)
    (hnew : ∀ r' ∈ s.made, r'.serial ≠ r.serial) (hmut : r.command.mutating = true)
    (hunus : s.table.entry r.commandId = none) : Reachable anyRequest (s.acceptAndCancel r) := by
  have haccept := hs.tail (.accept r _ (by rw [hidle]; nofun) hnew (register_of_unused hmut hunus) trivial)
  exact haccept.tail (.cancel r.commandId)

/-- The entry a command leaves that was cancelled. -/
def cancelledRecord (r : WorkerRequest) : CommandRecord :=
  { command := r.command, state := .cancelled,
    response := some (cancelledResponse r.commandId r.command), request := r }

theorem acceptAndCancel_eq (s : State) (r : WorkerRequest) : ∃ records : PyDict String CommandRecord,
      (∀ id, records.get id = if id = r.commandId then some (cancelledRecord r) else s.table.entry id) ∧
      s.acceptAndCancel r = { s with
        made := r :: s.made
        table := trim (s.table.finalCommandIds ++ [r.commandId]) records
        accepted := s.accepted ++ [r]
        cancellationRequested := Function.update s.cancellationRequested r.serial true } := by
  refine ⟨(s.table.records.set r.commandId { command := r.command, request := r }).set r.commandId
    (cancelledRecord r), fun id => ?_, ?_⟩
  · rw [PyDict.get_set]
    by_cases hid : id = r.commandId
    · rw [if_pos hid, if_pos hid]
    · rw [if_neg hid, if_neg hid, PyDict.get_set_ne hid]
      rfl
  · unfold acceptAndCancel cancel cancelCommand
    simp only [PyDict.get_set_self]
    rfl

/-- The state after `k` commands have been accepted and cancelled, none of them put on the queue. -/
structure Filled (k : Nat) (s : State) : Prop where
  reachable : Reachable anyRequest s
  made : ∀ r ∈ s.made, r.serial < k
  accepted : s.accepted = (List.range k).map filler
  queue : s.queue = []
  worker : s.worker = .idle
  ticking : s.ticking = false
  cancelled : ∀ n, s.cancellationRequested n = decide (n < k)
  unused : ∀ j, k ≤ j → s.table.entry (fillerId j) = none

theorem Filled.next {k : Nat} (h : Filled k s) : ∃ s' records,
    Filled (k + 1) s' ∧ s'.table = Table.trim (s.table.finalCommandIds ++ [fillerId k]) records ∧
    ∀ id, records.get id = if id = fillerId k then some (cancelledRecord (filler k)) else s.table.entry id := by
  obtain ⟨records, hrecs, hstate⟩ := acceptAndCancel_eq s (filler k)
  have hreach : Reachable anyRequest (s.acceptAndCancel (filler k)) :=
    reachable_acceptAndCancel h.reachable h.worker (fun r' hr' => (h.made r' hr').ne) rfl
      (h.unused k (Nat.le_refl k))
  refine ⟨_, records, ⟨hreach, ?_, ?_, ?_, ?_, ?_, ?_, ?_⟩, ?_, hrecs⟩ <;> rw [hstate]
  · exact forall_mem_cons.mpr ⟨Nat.lt_succ_self k, fun r hr => Nat.lt_succ_of_lt (h.made r hr)⟩
  · rw [range_succ, map_append, ← h.accepted]
    rfl
  · exact h.queue
  · exact h.worker
  · exact h.ticking
  · intro n
    change Function.update s.cancellationRequested k true n = _
    by_cases hn : n = k
    · rw [hn, Function.update_self, decide_eq_true (Nat.lt_succ_self k)]
    · rw [Function.update_of_ne hn, h.cancelled, Bool.eq_iff_iff, decide_eq_true_iff, decide_eq_true_iff]
      omega
  · intro j hj
    -- an entry that is not there is not there after the loop either
    have hget : records.get (fillerId j) = none := by
      have hne : fillerId j ≠ fillerId k := fun heq => absurd (fillerId_inj heq) (by omega)
      exact (hrecs _).trans ((if_neg hne).trans (h.unused j (by omega)))
    rcases get_trim (s.table.finalCommandIds ++ [fillerId k]) records (fillerId j) with hsame | ⟨hnone, -⟩
    · exact hsame.trans hget
    · exact hnone
  · rfl

theorem filled (k : Nat) (hk : k ≤ maxRetainedFinalOutcomes) : ∃ s, Filled k s ∧
    s.table.finalCommandIds = (range k).map fillerId ∧
    ∀ j < k, s.table.entry (fillerId j) = some (cancelledRecord (filler j)) := by
  induction k with
  | zero => exact ⟨{}, ⟨.refl, nofun, rfl, rfl, rfl, rfl, fun _ => rfl, fun _ _ => rfl⟩, rfl, nofun⟩
  | succ k ih =>
    obtain ⟨s, h, hids, hent⟩ := ih (by omega)
    obtain ⟨s', records, h', htab, hrecs⟩ := h.next
    have hroom : (s.table.finalCommandIds ++ [fillerId k]).length ≤ maxRetainedFinalOutcomes := by
      rw [hids]
      simpa using hk
    rw [trim_of_le hroom] at htab
    refine ⟨s', h', ?_, fun j hj => ?_⟩
    · rw [htab, hids, range_succ, map_append]
      rfl
    · rw [htab]
      refine (hrecs _).trans ?_
      split
      · rename_i heq
        rw [fillerId_inj heq]
      · rename_i hne
        exact hent j (by have : j ≠ k := fun heq => hne (heq ▸ rfl); omega)

/-- One command too many, and the entry of the first is dropped while its request is still on its
way to the queue. -/
theorem first_dropped : ∃ s, Filled (maxRetainedFinalOutcomes + 1) s ∧
    s.table.finalCommandIds = (range' 1 maxRetainedFinalOutcomes).map fillerId ∧
    s.table.entry "reused" = none := by
  obtain ⟨s, h, hids, hent⟩ := filled maxRetainedFinalOutcomes (Nat.le_refl _)
  obtain ⟨s', records, h', htab, hrecs⟩ := h.next
  have hall : (range maxRetainedFinalOutcomes).map fillerId ++ [fillerId maxRetainedFinalOutcomes] =
      "reused" :: (range' 1 maxRetainedFinalOutcomes).map fillerId := by
    rw [← map_singleton, ← map_append, ← range_succ, range_eq_range']
    rfl
  rw [hids, hall, trim_of_full (by rw [length_map, length_range'])] at htab
  refine ⟨s', h', by rw [htab], ?_⟩
  have hget : records.get "reused" = some (cancelledRecord firstRequest) :=
    (hrecs _).trans ((if_neg (fillerId_ne (by decide))).trans (hent 0 (by decide)))
  rw [htab]
  unfold dropFinal
  rw [hget]
  exact PyDict.get_pop.trans (if_pos rfl)

theorem mem_responses_respond (s : State) (r : WorkerRequest) (response : Response) :
    response ∈ (s.respond r response).responses r.serial := by
  change response ∈ Function.update s.responses r.serial (s.responses r.serial ++ [response]) r.serial
  rw [Function.update_self]
  exact mem_append_right _ (mem_singleton.mpr rfl)

/-- The answer to the first request is recorded in the entry of the second command under its id. -/
theorem recorded_for_second (hids : table.finalCommandIds = (range' 1 maxRetainedFinalOutcomes).map fillerId)
    (hent : table.entry "reused" = some { command := .disconnect, request := secondRequest }) :
    (table.recordFinalResponse firstRequest (cancelledResponse "reused" .connect) .cancelled).entry "reused" =
      some { command := .disconnect, state := .cancelled, response := some (cancelledResponse "reused" .connect),
             request := secondRequest } := by
  have hfull : ((range' 2 511).map fillerId ++ ["reused"]).length = maxRetainedFinalOutcomes := by
    simp [maxRetainedFinalOutcomes]
  have hrange : (range' 1 maxRetainedFinalOutcomes).map fillerId = fillerId 1 ::
      (range' 2 511).map fillerId := by
    rw [show maxRetainedFinalOutcomes = 511 + 1 from rfl, range'_succ, map_cons]
  have hget : table.records.get "reused" = some { command := .disconnect, request := secondRequest } := hent
  unfold recordFinalResponse
  rw [show firstRequest.commandId = "reused" from rfl, hget]
  simp only [finalize, retainFinalCommand]
  rw [hids, hrange, cons_append, trim_of_full hfull]
  exact (get_dropFinal_ne (fillerId_ne Nat.one_pos)).trans PyDict.get_set_self

/-- The first request reaches the worker after a second command has been accepted under its id: what
is recorded for the second is the answer to the first. -/
theorem reused_id_disagrees : ∃ s record response, Reachable anyRequest s ∧
    s.table.entry "reused" = some record ∧
    record.response = some response ∧ ∃ answer ∈ s.responses record.request.serial, answer ≠ response := by
  obtain ⟨s, h, hids, hunus⟩ := first_dropped
  obtain ⟨rest, hacc⟩ : ∃ rest, s.accepted = firstRequest :: rest :=
    ⟨_, h.accepted.trans (by rw [range_succ_eq_map]; rfl)⟩
  have hnew : ∀ r' ∈ s.made, r'.serial ≠ secondRequest.serial := fun r' hr' => (h.made r' hr').ne
  -- the second command is accepted
  let entered : Table := { s.table with
    records := s.table.records.set "reused" { command := .disconnect, request := secondRequest } }
  have hs1 := h.reachable.tail (.accept secondRequest entered (by rw [h.worker]; nofun) hnew
    (register_of_unused rfl hunus) trivial)
  -- the first request reaches the worker, which refuses it and records that
  have hs2 := hs1.tail (.put [] firstRequest (rest ++ [secondRequest]) (by simp only [hacc]; rfl))
  have hs3 := hs2.tail (.fetch (.request firstRequest) [] h.worker (by simp only [h.queue]; rfl) nofun)
  have hs4 := hs3.tail (.markBusy _ rfl h.ticking)
  have hs5 := hs4.tail (.refuse firstRequest 0 rfl rfl (.inl (h.cancelled 0)))
  have hs6 := hs5.tail (.record firstRequest _ _ rfl)
  have hs7 := hs6.tail (.respond firstRequest _ rfl)
  have hs8 := hs7.tail (.finish _ rfl nofun h.ticking)
  -- the second request finds a final response
  have hs9 := hs8.tail (.put rest secondRequest [] rfl)
  have hs10 := hs9.tail (.fetch (.request secondRequest) [] rfl rfl nofun)
  have hs11 := hs10.tail (.markBusy _ rfl h.ticking)
  have hflag : s.cancellationRequested secondRequest.serial =
      false := (h.cancelled _).trans (decide_eq_false (Nat.lt_irrefl _))
  have hs12 := hs11.tail (.letThrough secondRequest 0 rfl rfl (by
    rintro (hcanc | ⟨deadline, hdead, -⟩)
    · exact absurd (hflag.symm.trans hcanc) (by decide)
    · cases hdead))
  have hent : (entered.recordFinalResponse firstRequest
      (cancelledResponse "reused" .connect) .cancelled).entry "reused" = _ :=
    recorded_for_second hids PyDict.get_set_self
  have hclaim : (entered.recordFinalResponse firstRequest
      (cancelledResponse "reused" .connect) .cancelled).claim
      secondRequest = none := by
    unfold claim
    rw [show PyDict.get secondRequest.commandId _ = _ from hent]
  have hs13 := hs12.tail (.giveUp secondRequest rfl hclaim)
  refine ⟨_, _, _, hs13, hent, rfl, cancelledResponse "reused" .disconnect, ?_, ?_⟩
  · exact mem_responses_respond _ secondRequest _
  -- they name different commands
  intro heq
  have hname := congrArg (fun response : Response => response.payload.get "command") heq
  exact absurd (Json.str.inj (Option.some.inj hname)) (by decide)

/-! ## What is retained -/

/-- The ids that are retained are at most so many, and those of all entries with a response are
among them. -/
structure Retained (table : Table) : Prop where
  bound : table.finalCommandIds.length ≤ maxRetainedFinalOutcomes
  final : ∀ id record, table.entry id = some record → record.response ≠ none → id ∈ table.finalCommandIds

/-- The loop drops the entry of every id that it drops, unless that is open. -/
theorem retained_trim : ∀ (ids : List String) (records : PyDict String CommandRecord),
    (∀ id record, records.get id = some record → record.response ≠ none → id ∈ ids) →
    Retained (trim ids records)
  | [], _, h => ⟨Nat.zero_le _, h⟩
  | expired :: ids, records, h => by
    unfold trim
    split
    · refine retained_trim ids _ fun id record hget hresp => ?_
      rcases get_dropFinal expired records id with hsame | ⟨hnone, -⟩
      · rw [hget] at hsame
        refine (mem_cons.mp (h id record hsame.symm hresp)).resolve_left fun hid => ?_
        subst hid
        simp [dropFinal, ← hsame, Option.isSome_iff_ne_none.mpr hresp, PyDict.get_pop] at hget
      · rw [hget] at hnone
        cases hnone
    · exact ⟨Nat.not_lt.mp ‹_›, h⟩

theorem Retained.finalize (h : Retained table) (commandId : String) (record : CommandRecord)
    (state : CommandState)
    (response : Response) : Retained (table.finalize commandId record state response) := by
  refine retained_trim _ _ fun id other hget hresp => ?_
  rw [PyDict.get_set] at hget
  split at hget
  · simp [*]
  · exact mem_append_left _ (h.final id other hget hresp)

theorem Retained.set_open (h : Retained table) {commandId : String} {record : CommandRecord}
    (hopen : record.response = none) :
    Retained { table with records := table.records.set commandId record } := by
  refine ⟨h.bound, fun id other hget hresp => ?_⟩
  rw [entry, PyDict.get_set] at hget
  split at hget
  · cases hget
    exact absurd hopen hresp
  · exact h.final id other hget hresp

theorem Retained.step (h : Retained s.table) (hstep : Step Admits s s') : Retained s'.table := by
  cases hstep with
  | accept r table _ _ registered =>
    unfold register at registered
    split at registered
    · split at registered <;> cases registered
      exact h.set_open rfl
    · cases registered
      exact h
  | cancel commandId =>
    change Retained (s.table.cancelCommand commandId).2.1
    unfold cancelCommand
    repeat' split
    all_goals first | exact h | exact h.finalize _ _ _ _
  | claim r table _ claimed =>
    unfold Table.claim at claimed
    split at claimed
    · cases claimed
    · split at claimed <;> cases claimed
      exact h.set_open ‹_›
  | record r response state =>
    change Retained (s.table.recordFinalResponse r response state)
    unfold recordFinalResponse
    repeat' split
    all_goals first | exact h | exact h.finalize _ _ _ _
  | _ => exact h

/-- **Outcomes are kept within bounds.** In every run, whatever the interleaving, at most
`maxRetainedFinalOutcomes` commands with a final response have an entry. -/
theorem outcomes_bounded (hs : Reachable Admits s) : Retained s.table := by
  induction hs with
  | refl => exact ⟨Nat.zero_le _, nofun⟩
  | tail _ hstep ih => exact ih.step hstep

/-- After one command too many there are as many as there can be. -/
theorem outcomes_bounded_full : ∃ s, Reachable anyRequest s ∧
    s.table.finalCommandIds.length = maxRetainedFinalOutcomes ∧ Retained s.table := by
  obtain ⟨s, h, hids, -⟩ := first_dropped
  exact ⟨s, h.reachable, by rw [hids, length_map, length_range'], outcomes_bounded h.reachable⟩

end WatchdogVpn.Daemon
