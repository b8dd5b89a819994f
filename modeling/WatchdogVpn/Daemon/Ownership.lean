import WatchdogVpn.Daemon.Entries

/-!
# Decided requests

* `Decided s r response`: the outcome of `r` is `response` for good.
* `Owned`: in a run in which no command id is used again while a request with that id is unanswered,
  an entry under the id of such a request is its own, and one with a final response is decided.
* `decided_of_cancelled`: so is a command whose cancellation was answered as cancelled.
-/

namespace WatchdogVpn.Daemon

open List State Table

variable {Admits : State → WorkerRequest → Prop} {s s' : State}
  {r : WorkerRequest} {response : Response} {commandId : String} {record : CommandRecord} {table : Table}

/-- What the worker has in its hands does not contradict the response of the request. -/
def Phase.Agrees (p : Phase) (r : WorkerRequest) (response : Response) : Prop :=
  match p with
  | executing r' => r' ≠ r
  | recording r' answer _ | responding r' answer => r' = r → answer = response
  | _ => True

/-- The outcome of a command is decided: whatever is or will be put on its queue is the response,
and if the response says that it was cancelled, it is never executed. -/
structure Decided (s : State) (r : WorkerRequest) (response : Response) : Prop where
  made : r ∈ s.made
  mutating : r.command.mutating = true
  answers : ∀ answer ∈ s.responses r.serial, answer = response
  worker : s.worker.Agrees r response
  waiting : r ∈ s.waiting → response = cancelledResponse r.commandId r.command
  executions : response.IsCancelled → s.executions r.serial = 0
  entry : ∀ record, s.table.entry r.commandId = some record → record.request = r →
    record.response = some response

/-- The outcome of a command in the hands of the worker is about to be recorded: its entry is there
and has no response. -/
structure Undecided (s : State) (r : WorkerRequest) (response : Response) : Prop where
  entry : ∃ record, s.table.entry r.commandId = some record ∧ record.response = none ∧
    (record.state = .queued → response = cancelledResponse r.commandId r.command)
  executions : response.IsCancelled → s.executions r.serial = 0

/-- In a run without reused ids, an entry under the id of an unanswered command is that command's,
and what has been recorded is decided. -/
structure Owned (s : State) : Prop where
  entries : ∀ id record, s.table.entry id = some record → record.request.commandId = id ∧
    record.command = record.request.command ∧ record.request.command.mutating = true ∧ record.request ∈ s.made
  own : ∀ r ∈ s.inFlight, r.command.mutating = true →
    ∀ record, s.table.entry r.commandId = some record → record.request = r
  queued : ∀ id record, s.table.entry id = some record → record.response = none → record.state = .queued →
    record.request ∈ s.waiting ∨ ∃ response state, s.worker = .recording record.request response state
  final : ∀ id record response, s.table.entry id = some record → record.response = some response →
    Decided s record.request response
  dropped : ∀ r ∈ s.waiting, r.command.mutating = true → s.table.entry r.commandId = none →
    Decided s r (cancelledResponse r.commandId r.command)
  executing : ∀ r, s.worker = .executing r → r.command.mutating = true →
    ∃ record, s.table.entry r.commandId = some record ∧ record.response = none ∧ record.state = .running
  recording : ∀ r response state, s.worker = .recording r response state →
    r.command.mutating = true ∧ (Decided s r response ∨ Undecided s r response)
  responding : ∀ r response, s.worker = .responding r response → r.command.mutating = true →
    Decided s r response

theorem owned_init : Owned {} where
  entries _ _ h := nomatch h
  own _ h := nomatch h
  queued _ _ h := nomatch h
  final _ _ _ h := nomatch h
  dropped _ h := nomatch h
  executing _ h := nomatch h
  recording _ _ _ h := nomatch h
  responding _ _ h := nomatch h

section Decided

variable {r : WorkerRequest} {response : Response}

section

variable (h : Decided s r response)
include h

theorem Decided.entry_step (hstep : Step Admits s s') :
    ∀ record', s'.table.entry r.commandId = some record' → record'.request = r →
    record'.response = some response := by
  intro record' hrec' hreq
  rcases hstep.entry_from hrec' with ⟨record, hrec, hsame, -, heq⟩ | ⟨r0, hentr⟩
  · have hresp := h.entry record hrec (hsame ▸ hreq)
    rcases heq with rfl | ⟨hopen, -⟩
    · exact hresp
    · exact absurd (hopen.symm.trans hresp) nofun
  · rw [hentr.entry] at hrec'
    cases hrec'
    exact absurd (congrArg WorkerRequest.serial hreq).symm (hentr.new r h.made)

/-- What is decided stays decided if the worker does not contradict it and puts nothing else on the
queue. -/
theorem Decided.keep (hstep : Step Admits s s')
    (hansw : ∀ answer ∈ s'.responses r.serial, answer ∈ s.responses r.serial ∨ answer = response)
    (hwork : s'.worker.Agrees r response) (hexe : s'.executions r.serial = s.executions r.serial) :
    Decided s' r response where
  made := hstep.made_grows h.made
  mutating := h.mutating
  answers answer hans := (hansw answer hans).elim (h.answers answer) id
  worker := hwork
  waiting hin := h.waiting (hstep.waiting_from hin h.made)
  executions hcanc := hexe.trans (h.executions hcanc)
  entry := h.entry_step hstep

theorem Decided.not_claimed (ho : Owned s) {r0 : WorkerRequest}
    (has : s.worker = .claiming r0) (hclaim : s.table.claim r0 = some table) : r0 ≠ r := by
  rintro rfl
  obtain ⟨record, hent, hopen, -⟩ := claim_eq_some hclaim
  have hfl : r0 ∈ s.inFlight := mem_inFlight.mpr (.inl (by simp [State.waiting, has, Phase.undecided]))
  have hsome := h.entry record hent (ho.own r0 hfl h.mutating record hent)
  rw [hopen] at hsome
  cases hsome

theorem Decided.step (hc : Counted s) (ho : Owned s) (hstep : Step Admits s s') : Decided s' r response := by
  have hstep' := hstep
  -- the queue of the request changes only when it is the one that is answered
  have hupdate : ∀ {r0 : WorkerRequest} {answer : Response}, r0 ∈ s.inFlight → (r0 = r → answer = response) →
      ∀ a ∈ (s.respond r0 answer).responses r.serial, a ∈ s.responses r.serial ∨ a = response := by
    intro r0 answer hr0 hsame a ha
    change a ∈ Function.update s.responses r0.serial (s.responses r0.serial ++ [answer]) r.serial at ha
    by_cases heq : r = r0
    · rw [← heq, Function.update_self, mem_append, mem_singleton] at ha
      exact ha.imp id fun h => h.trans (hsame heq.symm)
    · rw [Function.update_of_ne fun hserial => heq (hc.distinct r h.made r0 (hc.made r0 hr0) hserial)] at ha
      exact .inl ha
  have hexec : ∀ {r0 : WorkerRequest} (table : Table), r0 ∈ s.inFlight → r0 ≠ r →
      (execute { s with table } r0).executions r.serial = s.executions r.serial := by
    intro r0 table hr0 hne
    exact Function.update_of_ne (fun hserial => hne (hc.distinct r0 (hc.made r0 hr0) r h.made hserial.symm)) _ _
  cases hstep with
  | read r0 has reading =>
    have hne : r0 ≠ r := by
      rintro rfl
      rw [h.mutating] at reading
      cases reading
    have hr0 : r0 ∈ s.inFlight := mem_inFlight.mpr
      (.inl (by simp [State.waiting, has, Phase.undecided, Item.request?]))
    exact h.keep hstep' (fun _ ha => .inl ha) hne (hexec s.table hr0 hne)
  | claim r0 table has claimed =>
    have hne := h.not_claimed ho has claimed
    have hr0 : r0 ∈ s.inFlight := mem_inFlight.mpr (.inl (by simp [State.waiting, has, Phase.undecided]))
    exact h.keep hstep' (fun _ ha => .inl ha) hne (hexec table hr0 hne)
  | refuse r0 now has changing late =>
    refine h.keep hstep' (fun _ ha => .inl ha) (fun heq => ?_) rfl
    rw [heq]
    exact (h.waiting (by simp [State.waiting, has, Phase.undecided, Item.request?, heq])).symm
  | giveUp r0 has unclaimed =>
    have hr0 : r0 ∈ s.waiting := by simp [State.waiting, has, Phase.undecided]
    refine h.keep hstep' (hupdate (mem_inFlight.mpr (.inl hr0)) fun heq => ?_) trivial rfl
    rw [heq] at hr0 ⊢
    exact (h.waiting hr0).symm
  | handle r0 answer has =>
    have hne : r0 ≠ r := by
      have hagr := h.worker
      rw [has] at hagr
      exact hagr
    refine h.keep hstep' (fun _ ha => .inl ha) ?_ rfl
    unfold handled
    split <;> exact fun heq => absurd heq hne
  | record r0 answer state has =>
    have hagr := h.worker
    rw [has] at hagr
    exact h.keep hstep' (fun _ ha => .inl ha) hagr rfl
  | respond r0 answer has =>
    have hagr := h.worker
    rw [has] at hagr
    have hr0 : r0 ∈ s.inFlight := mem_inFlight.mpr (.inr (by rw [has]; rfl))
    exact h.keep hstep' (hupdate hr0 hagr) trivial rfl
  | fetch | fetchStop | markBusy | autonomous | letThrough | finish | finishTick =>
    exact h.keep hstep' (fun _ ha => .inl ha) trivial rfl
  | _ => exact h.keep hstep' (fun _ ha => .inl ha) h.worker rfl

end

end Decided

/-! ## Every step keeps the ownership -/

section Owned

theorem Owned.waiting_cases (ho : Owned s) {r : WorkerRequest} (hr : r ∈ s.waiting)
    (hmut : r.command.mutating = true) : Decided s r (cancelledResponse r.commandId r.command) ∨
      ∃ record, s.table.entry r.commandId = some record ∧ record.response = none := by
  cases hent : s.table.entry r.commandId with
  | none => exact .inl (ho.dropped r hr hmut hent)
  | some record =>
    cases hresp : record.response with
    | none => exact .inr ⟨record, rfl, hresp⟩
    | some response =>
      have hdec := ho.final _ record response hent hresp
      rw [ho.own r (mem_inFlight.mpr (.inl hr)) hmut record hent] at hdec
      exact .inl (hdec.waiting hr ▸ hdec)

section

variable (ho : Owned s) (hc : Counted s)
include ho hc

/-- An open queued entry is that of a command nothing has happened to, except that the worker may be
recording its cancellation. -/
theorem Owned.queued_facts {id : String} {record : CommandRecord}
    (hent : s.table.entry id = some record) (hopen : record.response = none) (hstate : record.state = .queued) :
    s.responses record.request.serial = [] ∧ s.executions record.request.serial = 0 ∧
      s.worker.Agrees record.request (cancelledResponse record.request.commandId record.request.command) := by
  obtain ⟨hid, -, hmut, -⟩ := ho.entries id record hent
  subst hid
  have hnot : ∀ response, ¬ Decided s record.request response := by
    intro response hdec
    have hsome := hdec.entry record hent rfl
    rw [hopen] at hsome
    cases hsome
  have hagr : s.worker.Agrees record.request
      (cancelledResponse record.request.commandId record.request.command) := by
    cases hwork : s.worker with
    | executing r =>
      rintro rfl
      obtain ⟨record', hent', -, hrunn⟩ := ho.executing _ hwork hmut
      rw [hent] at hent'
      cases hent'
      rw [hstate] at hrunn
      cases hrunn
    | recording r response state =>
      rintro rfl
      obtain ⟨-, hdec | hund⟩ := ho.recording _ response state hwork
      · exact absurd hdec (hnot response)
      obtain ⟨record', hent', -, hcanc⟩ := hund.entry
      rw [hent] at hent'
      cases hent'
      exact hcanc hstate
    | responding r response =>
      rintro rfl
      exact absurd (ho.responding _ response hwork hmut) (hnot response)
    | _ => trivial
  refine ⟨?_, ?_, hagr⟩
  all_goals
    rcases ho.queued _ record hent hopen hstate with hwait | ⟨response, state, hwork⟩
  · exact (hc.waiting _ hwait).1
  · exact (hc.unanswered _ (by rw [hwork]; rfl)).1
  · exact (hc.waiting _ hwait).2
  · rw [hwork] at hagr
    have hcanc := hagr rfl
    obtain ⟨-, hdec | hund⟩ := ho.recording _ response state hwork
    · exact absurd hdec (hnot response)
    · exact hund.executions (hcanc ▸ rfl)

theorem Owned.decided_finish (hstep : Step Admits s s') {id : String}
    {record : CommandRecord} {response : Response} (hold : s.table.entry id = some record)
    (hopen : record.response = none)
    (hfin : Finished s s' id record response) : Decided s' record.request response := by
  obtain ⟨hid, hcmd, hmut, hmade⟩ := ho.entries id record hold
  have hent : ∀ other, s'.table.entry record.request.commandId = some other → other.request = record.request →
      other.response = some response := fun other h _ => (hfin.entry other (hid ▸ h)).2.2
  rcases hfin.finishes with ⟨hque, rfl, rfl⟩ | ⟨r, state, hwork, rfl, rfl⟩
  · obtain ⟨hansw, hexe, hagr⟩ := ho.queued_facts hc hold hopen hque
    rw [hid, ← hcmd] at hagr
    refine ⟨hmade, hmut, fun a ha => ?_, hagr, fun _ => by rw [hid, hcmd], fun _ => hexe, hent⟩
    change a ∈ s.responses record.request.serial at ha
    rw [hansw] at ha
    cases ha
  · have hunan : r ∈ s.worker.unanswered := by rw [hwork]; rfl
    obtain ⟨hmut', hpend⟩ := ho.recording r response state hwork
    have hown := ho.own r (mem_inFlight.mpr (.inr hunan)) hmut' record hold
    subst hown
    rcases hpend with hdec | hund
    · exact hdec.step hc ho hstep
    refine ⟨hmade, hmut, fun a ha => ?_, fun _ => rfl, fun hin => ?_, hund.executions, hent⟩
    · rw [(hc.unanswered _ hunan).1] at ha
      cases ha
    · -- it is in the hands of the worker, so it does not wait
      have hin := hstep.waiting_from hin hmade
      have hnd := hc.once
      rw [inFlight, hwork] at hnd
      exact absurd rfl ((nodup_append.mp hnd).2.2 _ hin _ (mem_singleton_self _))

/-- What a step does to the entries keeps the ownership; what remains to be seen is where the worker
is. -/
theorem Owned.step_of (hstep : Step freshCommandId s s')
    (hque : ∀ id record, s'.table.entry id = some record → record.response = none → record.state = .queued →
      record.request ∈ s'.waiting ∨ ∃ response state, s'.worker = .recording record.request response state)
    (hexec : ∀ r, s'.worker = .executing r → r.command.mutating = true →
      ∃ record, s'.table.entry r.commandId = some record ∧ record.response = none ∧ record.state = .running)
    (hrecd : ∀ r response state, s'.worker = .recording r response state →
      r.command.mutating = true ∧ (Decided s' r response ∨ Undecided s' r response))
    (hresp : ∀ r response, s'.worker = .responding r response → r.command.mutating = true →
      Decided s' r response) : Owned s' := by
  refine ⟨?_, ?_, hque, ?_, ?_, hexec, hrecd, hresp⟩
  · intro id record' hrec'
    rcases hstep.entry_from hrec' with ⟨record, hent, hreq, hcmd, -⟩ | ⟨r, hentr⟩
    · obtain ⟨hid, hcmd', hmut, hmade⟩ := ho.entries id record hent
      rw [hreq, hcmd]
      exact ⟨hid, hcmd', hmut, hstep.made_grows hmade⟩
    · rw [hentr.entry] at hrec'
      cases hrec'
      exact ⟨hentr.commandId, rfl, hentr.mutating, hentr.made⟩
  · intro r hr hmut record' hrec'
    by_cases hin : r ∈ s.made
    · have hfl := hstep.inFlight_from hr hin
      rcases hstep.entry_from hrec' with ⟨record, hent, hreq, -⟩ | ⟨r0, hentr⟩
      · rw [hreq]
        exact ho.own r hfl hmut record hent
      · -- the id of a request in flight is not admitted again
        exact absurd hentr.commandId.symm (hentr.admitted hentr.mutating r hfl hmut)
    · rw [hstep.entry_of_new ((hc.step hstep).made r hr) hin hmut] at hrec'
      cases hrec'
      rfl
  · intro id record' answer hrec' hans
    rcases hstep.entry_from hrec' with ⟨record, hent, hreq, -, rfl | ⟨hopen, -⟩⟩ | ⟨r, hentr⟩
    · exact (ho.final id record' answer hent hans).step hc ho hstep
    · rcases hstep.open_to hent hopen with ⟨other, hoth, hnone, -⟩ | ⟨response, hfin⟩
      · rw [hrec'] at hoth
        cases hoth
        exact absurd (hnone.symm.trans hans) nofun
      · rw [hreq, Option.some.inj (hans.symm.trans (hfin.entry record' hrec').2.2)]
        exact ho.decided_finish hc hstep hent hopen hfin
    · rw [hentr.entry] at hrec'
      cases hrec'
      cases hans
  · intro r hr hmut hnone
    by_cases hin : r ∈ s.made
    · have hwait := hstep.waiting_from hr hin
      rcases ho.waiting_cases hwait hmut with hcanc | ⟨record, hent, hopen⟩
      · exact hcanc.step hc ho hstep
      rcases hstep.open_to hent hopen with ⟨other, hoth, -⟩ | ⟨response, hfin⟩
      · exact absurd (hnone.symm.trans hoth) nofun
      have hdec := ho.decided_finish hc hstep hent hopen hfin
      rw [ho.own r (mem_inFlight.mpr (.inl hwait)) hmut record hent] at hdec
      exact hdec.waiting hr ▸ hdec
    · rw [hstep.entry_of_new ((hc.step hstep).made r (mem_inFlight.mpr (.inl hr))) hin hmut] at hnone
      cases hnone

/-- Where the worker neither executes nor records nor responds, only the waiting requests matter. -/
theorem Owned.step_of_quiet (hstep : Step freshCommandId s s') (hunan : s'.worker.unanswered = none)
    (hque : ∀ id record, s'.table.entry id = some record → record.response = none → record.state = .queued →
      record.request ∈ s'.waiting) : Owned s' := by
  have hphase : ∀ p, s'.worker = p → p.unanswered = none := fun p hp => hp ▸ hunan
  refine ho.step_of hc hstep (fun id record h h' h'' => .inl (hque id record h h' h'')) ?_ ?_ ?_
  · exact fun _ hr => nomatch hphase _ hr
  · exact fun _ _ _ hr => nomatch hphase _ hr
  · exact fun _ _ hr => nomatch hphase _ hr

theorem Owned.step_of_worker (hstep : Step freshCommandId s s')
    (hwork : s'.worker = s.worker) (hexe : s'.executions = s.executions) : Owned s' := by
  have hcanc : ∀ {id record response}, Finished s s' id record response →
      record.state = .queued ∧ response = cancelledResponse id record.command := by
    intro id record response hfin
    rcases hfin.finishes with ⟨hque, hresp, -⟩ | ⟨r, state, hrecd, -, rfl⟩
    · exact ⟨hque, hresp⟩
    · rw [hrecd] at hwork
      cases hwork
  refine ho.step_of hc hstep (fun id record h h' h'' => ?_) ?_ ?_ ?_
  · rcases hstep.queued_from h h' h'' with hold | hwait
    · rcases ho.queued id record hold h' h'' with hin | hrecd
      · exact .inl (hstep.waiting_stays hin fun hhand => hwork ▸ hhand)
      · exact .inr (hwork ▸ hrecd)
    · exact .inl hwait
  · intro r hr hmut
    obtain ⟨record, hent, hopen, hrunn⟩ := ho.executing r (hwork ▸ hr) hmut
    rcases hstep.open_to hent hopen with ⟨other, hoth, hnone, hstill⟩ | ⟨response, hfin⟩
    · exact ⟨other, hoth, hnone, hstill.elim (fun heq => heq ▸ hrunn) id⟩
    · exact absurd (hrunn.symm.trans (hcanc hfin).1) nofun
  · intro r response state hr
    have hbef := hwork ▸ hr
    obtain ⟨hmut, hdec | hund⟩ := ho.recording r response state hbef
    · exact ⟨hmut, .inl (hdec.step hc ho hstep)⟩
    obtain ⟨record, hent, hopen, hque⟩ := hund.entry
    refine ⟨hmut, ?_⟩
    rcases hstep.open_to hent hopen with ⟨other, hoth, hnone, hstill⟩ | ⟨answer, hfin⟩
    · refine .inr ⟨⟨other, hoth, hnone, fun hstate => ?_⟩, hexe ▸ hund.executions⟩
      rcases hstill with rfl | hrunn
      · exact hque hstate
      · exact absurd (hstate.symm.trans hrunn) nofun
    · -- the command whose cancellation is being recorded is cancelled by another thread
      have hfl : r ∈ s.inFlight := mem_inFlight.mpr (.inr (by rw [hbef]; rfl))
      have hown := ho.own r hfl hmut record hent
      have hdec := ho.decided_finish hc hstep hent hopen hfin
      obtain ⟨hstate, hans⟩ := hcanc hfin
      rw [hans, (ho.entries _ record hent).2.1, hown] at hdec
      rw [hque hstate]
      exact .inl hdec
  · exact fun r response hr hmut => (ho.responding r response (hwork ▸ hr) hmut).step hc ho hstep

end

theorem not_cancelled_withCommandMetadata (response : Response) (commandId : String) (command : Command) :
    ¬ (withCommandMetadata response commandId command).IsCancelled := by
  unfold Response.IsCancelled withCommandMetadata PyDict.update
  simp only [foldl_cons, foldl_nil, PyDict.get_set_self]
  intro h
  exact absurd (Json.str.inj (Option.some.inj h)) (by decide)

theorem Owned.step (ho : Owned s) (hc : Counted s) (hstep : Step freshCommandId s s') : Owned s' := by
  have hstep' := hstep
  -- a waiting request goes on waiting if it is not the one in the hands of the worker
  have hque : ∀ {id record}, s.table.entry id = some record → record.response = none → record.state = .queued →
      (∀ response state, s.worker ≠ .recording record.request response state) →
      (s.worker.undecided = some record.request → s'.worker.undecided = some record.request) →
      record.request ∈ s'.waiting := by
    intro id record hent hopen hstate hnot hhand
    rcases ho.queued id record hent hopen hstate with hwait | ⟨response, state, hwork⟩
    · exact hstep'.waiting_stays hwait hhand
    · exact absurd hwork (hnot response state)
  cases hstep with
  | accept | cancel | put | beginTick | putTick | scheduledRotation | stop =>
    exact ho.step_of_worker hc hstep' rfl rfl
  | record r response state has =>
    refine ho.step_of hc hstep' (fun id record h h' h'' => .inl ?_) (by simp) (by simp)
      fun r' answer hr' hmut => ?_
    · refine (hstep'.queued_from h h' h'').elim (fun hold => ?_) fun hwait => hwait
      rcases ho.queued id record hold h' h'' with hwait | ⟨answer, state', hwork⟩
      · exact hstep'.waiting_stays hwait fun hhand => by rw [has] at hhand; cases hhand
      -- the outcome of this command has just been recorded
      rw [has] at hwork
      cases hwork
      have hid := (ho.entries id record hold).1
      subst hid
      rw [recordFinalResponse_open hold h'] at h
      rw [entry_finalize_self h] at h'
      cases h'
    · cases hr'
      have hfl : r ∈ s.inFlight := mem_inFlight.mpr (.inr (by rw [has]; rfl))
      obtain ⟨-, hdec | hund⟩ := ho.recording r response state has
      · exact hdec.step hc ho hstep'
      obtain ⟨record, hent, hopen, -⟩ := hund.entry
      refine ho.own r hfl hmut record hent ▸ ho.decided_finish hc hstep' hent hopen ?_
      exact finished_of_finalize (.inr ⟨r, state, has, rfl, rfl⟩)
        (recordFinalResponse_open hent hopen response state)
  | claim r table has claimed =>
    obtain ⟨record, hent, hopen, hall⟩ := claim_eq_some claimed
    refine ho.step_of hc hstep' (fun id other h h' h'' => .inl ?_) ?_ (by simp [execute]) (by simp [execute])
    · refine (hstep'.queued_from h h' h'').elim (fun hold => ?_) fun hwait => hwait
      refine hque hold h' h'' (by simp [has]) fun hhand => ?_
      -- the claimed entry is not queued any more
      rw [has] at hhand
      cases hhand
      have hid := (ho.entries id other hold).1
      subst hid
      cases (hall _).symm.trans h |>.symm.trans (if_pos rfl)
      cases h''
    · intro r' hr' _
      cases hr'
      exact ⟨{ record with state := .running }, (hall _).trans (if_pos rfl), hopen, rfl⟩
  | fetch | fetchStop | finish | finishTick =>
    refine ho.step_of_quiet hc hstep' rfl fun id record h h' h'' => hque h h' h'' (by simp [‹s.worker = _›]) ?_
    simp [‹s.worker = _›, Phase.undecided]
  | markBusy | letThrough =>
    refine ho.step_of_quiet hc hstep' rfl fun id record h h' h'' => hque h h' h'' (by simp [‹s.worker = _›]) ?_
    rw [‹s.worker = _›]
    exact fun hhand => hhand
  | autonomous item has noRequest =>
    refine ho.step_of_quiet hc hstep' rfl fun id record h h' h'' => hque h h' h'' (by simp [has]) ?_
    rw [has]
    intro hhand
    cases item with
    | request r => exact absurd rfl (noRequest r)
    | _ => cases hhand
  | read r has reading =>
    refine ho.step_of hc hstep' (fun id record h h' h'' => .inl (hque h h' h'' (by simp [has]) ?_))
      ?_ (by simp [execute]) (by simp [execute])
    · rw [has]
      intro hhand
      cases hhand
      rw [(ho.entries id record h).2.2.1] at reading
      cases reading
    · intro r' hr' hmut
      cases hr'
      rw [hmut] at reading
      cases reading
  | refuse r now has changing late =>
    have hr : r ∈ s.waiting := by simp [waiting, has, Phase.undecided, Item.request?]
    refine ho.step_of hc hstep' (fun id record h h' h'' => ?_) (by simp) ?_ (by simp)
    · by_cases hsame : record.request = r
      · exact .inr ⟨_, _, by rw [hsame]⟩
      refine .inl (hque h h' h'' (by simp [has]) ?_)
      rw [has]
      intro hhand
      cases hhand
      exact absurd rfl hsame
    · intro r' response state hr'
      cases hr'
      refine ⟨changing, ?_⟩
      rcases ho.waiting_cases hr changing with hdec | ⟨record, hent, hopen⟩
      · exact .inl (hdec.step hc ho hstep')
      · exact .inr ⟨⟨record, hent, hopen, fun _ => rfl⟩, fun _ => (hc.waiting r hr).2⟩
  | giveUp r has unclaimed =>
    refine ho.step_of_quiet hc hstep' rfl fun id record h h' h'' => hque h h' h'' (by simp [has]) ?_
    rw [has]
    intro hhand
    cases hhand
    obtain ⟨response, hresp⟩ := claim_eq_none unclaimed (by rw [(ho.entries id record h).1]; exact h)
    rw [h'] at hresp
    cases hresp
  | handle r response has =>
    refine ho.step_of hc hstep'
      (fun id record h h' h'' => .inl (hque h h' h'' (by simp [has]) (by simp [has, Phase.undecided]))) ?_ ?_ ?_
    · intro r' hr'
      simp only [handled] at hr'
      split at hr' <;> cases hr'
    · intro r' answer state hr'
      simp only [handled] at hr'
      split at hr' <;> cases hr'
      rename_i hmut
      obtain ⟨record, hent, hopen, hrunn⟩ := ho.executing r has hmut
      refine ⟨hmut, .inr ⟨⟨record, hent, hopen, fun hstate => ?_⟩, fun hcanc => ?_⟩⟩
      · exact absurd (hstate.symm.trans hrunn) (by simp)
      · exact absurd hcanc (not_cancelled_withCommandMetadata _ _ _)
    · intro r' answer hr' hmut
      simp only [handled] at hr'
      split at hr' <;> cases hr'
      exact absurd hmut ‹_›
  | respond r response has =>
    exact ho.step_of_quiet hc hstep' rfl fun id record h h' h'' =>
      hque h h' h'' (by simp [has]) (by simp [has, Phase.undecided])

end Owned

theorem Reachable.owned (h : Reachable freshCommandId s) : Owned s := by
  have hboth : Counted s ∧ Owned s := by
    induction h with
    | refl => exact ⟨counted_init, owned_init⟩
    | tail _ hstep ih => exact ⟨ih.1.step hstep, ih.2.step ih.1 hstep⟩
  exact hboth.2

theorem Decided.run (h : Decided s r response) (hs : Reachable freshCommandId s)
    (hrun : Relation.ReflTransGen (Step freshCommandId) s s') : Decided s' r response := by
  induction hrun with
  | refl => exact h
  | tail hrun hstep ih =>
    have hreach := hs.trans hrun
    exact ih.step (Reachable.counted hreach).1 (Reachable.owned hreach) hstep

theorem decided_of_cancelled (hs : Reachable freshCommandId s)
    (hent : s.table.entry commandId = some record) (hans : (s.table.cancelCommand commandId).1.IsCancelled) :
    ∃ response : Response, response.IsCancelled ∧ Decided (s.cancel commandId) record.request response := by
  have hc := (Reachable.counted hs).1
  have ho := Reachable.owned hs
  have hget : s.table.records.get commandId = some record := hent
  have hstep : Step anyRequest s (s.cancel commandId) := .cancel commandId
  cases hresp : record.response with
  | some response =>
    simp only [cancelCommand, hget, hresp] at hans
    exact ⟨response, hans, (ho.final commandId record response hent hresp).step hc ho hstep⟩
  | none =>
    by_cases hstate : record.state = .queued
    · refine ⟨cancelledResponse commandId record.command, rfl, ho.decided_finish hc hstep hent hresp ?_⟩
      exact finished_of_finalize (.inl ⟨hstate, rfl, rfl⟩) (table_cancel hent hresp hstate)
    · simp only [cancelCommand, hget, hresp, if_neg hstate] at hans
      exact absurd (Json.str.inj (Option.some.inj hans)) (by decide)

end WatchdogVpn.Daemon
