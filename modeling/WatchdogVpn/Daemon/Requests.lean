import WatchdogVpn.Daemon.Worker

/-!
# Requests and ticks

What the threads can rely on in every interleaving.

* `Counted`: no request is handled twice, and each one that left the queue has one answer.
* `TickCounted`: there is at most one tick.
* `Step.moves`: what a step may do to the requests, from which both are kept.
-/

namespace WatchdogVpn.Daemon

open List State Table

variable {Admits : State → WorkerRequest → Prop} {s s' : State}

/-! ## Ticks -/

/-- The flag is set exactly while a tick is about to be put on the queue, queued or running. -/
def TickCounted (s : State) : Prop := s.ticks + (if s.ticking then 1 else 0) = if s.tickPending then 1 else 0

theorem TickCounted.step (h : TickCounted s) (hstep : Step Admits s s') : TickCounted s' := by
  unfold TickCounted ticks at h ⊢
  cases hstep with
  | accept | cancel => exact h
  | put | scheduledRotation | stop => simpa [Item.isTick] using h
  | beginTick alive free rested pending empty =>
    simp only [free, pending] at h
    simpa using h
  | putTick inside =>
    simp only [inside] at h
    simp [Item.isTick]
    simp at h
    omega
  | fetch item rest idle first goOn =>
    rw [idle, first] at h
    by_cases hitem : item.isTick = true
    · simp [Phase.hasTick, hitem] at h ⊢
      omega
    · simpa [Phase.hasTick, hitem] using h
  | fetchStop rest idle first =>
    rw [idle, first] at h
    simpa [Phase.hasTick, Item.isTick] using h
  | markBusy | autonomous | read | refuse | letThrough | claim | giveUp | record | respond =>
    rw [‹s.worker = _›] at h
    exact h
  | handle r response has =>
    rw [has] at h
    have hno : (handled r response).hasTick = false := by
      unfold handled
      split <;> rfl
    rw [hno]
    exact h
  | finish item has noTick free =>
    have hno : item.isTick = false := by
      cases item with
      | tick => exact absurd rfl noTick
      | _ => rfl
    rw [has] at h
    simpa [Phase.hasTick, hno] using h
  | finishTick has free =>
    rw [has] at h
    cases hpend : s.tickPending <;> simp [Phase.hasTick, hpend, show Item.isTick .tick = true from rfl] at h
    simpa [Phase.hasTick, free] using h

/-! ## Requests -/

/-- What is known of every request: nothing has happened to one that waits; one that the worker has
decided about has no answer yet and was handled at most once; every other one that has been made has
one answer. -/
structure Counted (s : State) : Prop where
  distinct : ∀ r ∈ s.made, ∀ r' ∈ s.made, r.serial = r'.serial → r = r'
  once : s.inFlight.Nodup
  made : ∀ r ∈ s.inFlight, r ∈ s.made
  unused : ∀ n, (∀ r ∈ s.made, r.serial ≠ n) → s.responses n = [] ∧ s.executions n = 0
  waiting : ∀ r ∈ s.waiting, s.responses r.serial = [] ∧ s.executions r.serial = 0
  unanswered : ∀ r ∈ s.worker.unanswered, s.responses r.serial = [] ∧ s.executions r.serial ≤ 1
  answered : ∀ r ∈ s.made, r ∉ s.inFlight → (s.responses r.serial).length = 1 ∧ s.executions r.serial ≤ 1

theorem counted_init : Counted {} := ⟨nofun, nodup_nil, nofun, fun _ _ => ⟨rfl, rfl⟩, nofun, nofun, nofun⟩

variable {r : WorkerRequest}

theorem mem_inFlight : r ∈ s.inFlight ↔ r ∈ s.waiting ∨ r ∈ s.worker.unanswered := by
  rw [inFlight, mem_append, Option.mem_toList, Option.mem_def]

theorem Counted.executions_le (hc : Counted s) (r : WorkerRequest) (hr : r ∈ s.made) :
    s.executions r.serial ≤ 1 := by
  by_cases hfl : r ∈ s.inFlight
  · rcases mem_inFlight.mp hfl with hwait | hunan
    · exact (hc.waiting r hwait).2 ▸ Nat.zero_le 1
    · exact (hc.unanswered r hunan).2
  · exact (hc.answered r hr hfl).2

theorem Counted.responses_length (hc : Counted s) (r : WorkerRequest) (hr : r ∈ s.made) :
    (s.responses r.serial).length = if r ∈ s.inFlight then 0 else 1 := by
  by_cases hfl : r ∈ s.inFlight
  · rw [if_pos hfl]
    rcases mem_inFlight.mp hfl with hwait | hunan
    · rw [(hc.waiting r hwait).1, length_nil]
    · rw [(hc.unanswered r hunan).1, length_nil]
  · rw [if_neg hfl]
    exact (hc.answered r hr hfl).1

/-- What a step does to the requests: they stay where they are or move among those that wait, the
worker decides about the one in its hands or answers it, or a new one is accepted. -/
inductive Moves (s s' : State) : Prop
  | stay (hmade : s'.made = s.made) (hresponses : s'.responses = s.responses)
  (hexecutions : s'.executions = s.executions)
      (hwaiting : s'.waiting.Perm s.waiting) (hunanswered : s'.worker.unanswered = s.worker.unanswered)
  | decide (r : WorkerRequest) (hmade : s'.made = s.made) (hresponses : s'.responses = s.responses)
      (hqueued : s'.queued = s.queued) (hbefore : s.worker.undecided = some r)
      (hbefore' : s.worker.unanswered = none)
      (hafter : s'.worker.undecided = none) (hafter' : s'.worker.unanswered = some r)
      (hothers : ∀ n, n ≠ r.serial → s'.executions n = s.executions n)
      (hself : s'.executions r.serial ≤ s.executions r.serial + 1)
  | respond (r : WorkerRequest) (response : Response)
      (hhand : s.worker.undecided = some r ∧ s.worker.unanswered = none ∨
        s.worker.undecided = none ∧ s.worker.unanswered = some r) (hs : s' = s.respond r response)
  | accept (r : WorkerRequest) (table : Table) (hnew : ∀ r' ∈ s.made, r'.serial ≠ r.serial)
      (hs : s' = { s with made := r :: s.made, table, accepted := s.accepted ++ [r] })

theorem Counted.move (h : Counted s) (hmade : s'.made = s.made) (hresps : s'.responses = s.responses)
    (hexe : s'.executions = s.executions) (hwait : s'.waiting.Perm s.waiting)
    (hunan : s'.worker.unanswered = s.worker.unanswered) : Counted s' := by
  have hfl : s'.inFlight.Perm s.inFlight := by
    unfold inFlight
    rw [hunan]
    exact hwait.append_right _
  constructor
  · rw [hmade]
    exact h.distinct
  · exact hfl.nodup_iff.mpr h.once
  · intro r hr
    rw [hmade]
    exact h.made r (hfl.mem_iff.mp hr)
  · rw [hmade, hresps, hexe]
    exact h.unused
  · intro r hr
    rw [hresps, hexe]
    exact h.waiting r (hwait.mem_iff.mp hr)
  · rw [hunan, hresps, hexe]
    exact h.unanswered
  · intro r hr hout
    rw [hresps, hexe]
    exact h.answered r (hmade ▸ hr) fun hin => hout (hfl.mem_iff.mpr hin)

/-- The worker decides about the request in its hands; its handling may begin. -/
theorem Counted.decide (h : Counted s) (hmade : s'.made = s.made)
    (hresps : s'.responses = s.responses) (hque : s'.queued = s.queued) (hbef : s.worker.undecided = some r)
    (hbef' : s.worker.unanswered = none) (haft : s'.worker.undecided = none)
    (haft' : s'.worker.unanswered = some r)
    (hothers : ∀ n, n ≠ r.serial → s'.executions n = s.executions n)
    (hself : s'.executions r.serial ≤ s.executions r.serial + 1) : Counted s' := by
  have hwait : s.waiting = s.queued ++ [r] := by rw [State.waiting, hbef, Option.toList_some]
  have hwait' : s'.waiting = s.queued := by rw [State.waiting, haft, Option.toList_none, append_nil, hque]
  have hfl : s'.inFlight = s.inFlight := by
    rw [inFlight, inFlight, hwait, hwait', haft', hbef', Option.toList_some, Option.toList_none, append_nil]
  have hr : r ∈ s.waiting := by rw [hwait]; simp
  have hin : r ∈ s.made := h.made r (mem_inFlight.mpr (.inl hr))
  have hoth : ∀ r' ∈ s.made, r' ≠ r → s'.executions r'.serial = s.executions r'.serial :=
    fun r' hr' hne => hothers _ fun hsame => hne (h.distinct r' hr' r hin hsame)
  -- the request goes from the waiting to the unanswered ones, and so stays in flight
  constructor
  · rw [hmade]
    exact h.distinct
  · rw [hfl]
    exact h.once
  · rw [hfl, hmade]
    exact h.made
  · intro n hn
    rw [hmade] at hn
    rw [hresps, hothers n fun hsame => hn r hin hsame.symm]
    exact h.unused n hn
  · intro r' hr'
    have hwait'' : r' ∈ s.waiting := by
      rw [hwait'] at hr'
      exact mem_append_left _ hr'
    have hne : r' ≠ r := by
      rintro rfl
      have hnd := h.once
      rw [inFlight, hbef', Option.toList_none, append_nil, hwait, nodup_append] at hnd
      rw [hwait'] at hr'
      exact hnd.2.2 r' hr' r' (mem_singleton_self r') rfl
    rw [hresps, hoth r' (h.made r' (mem_inFlight.mpr (.inl hwait''))) hne]
    exact h.waiting r' hwait''
  · intro r' hr'
    rw [haft'] at hr'
    cases hr'
    rw [hresps]
    obtain ⟨hnone, hzero⟩ := h.waiting r hr
    exact ⟨hnone, by omega⟩
  · intro r' hr' hout
    rw [hfl] at hout
    rw [hmade] at hr'
    have hne : r' ≠ r := fun hsame => hout (hsame ▸ mem_inFlight.mpr (.inl hr))
    rw [hresps, hoth r' hr' hne]
    exact h.answered r' hr' hout

variable {response : Response}

theorem Counted.respond (h : Counted s) (hhand : s.worker.undecided = some r ∧ s.worker.unanswered = none ∨
      s.worker.undecided = none ∧ s.worker.unanswered = some r) : Counted (s.respond r response) := by
  have hfl : s.inFlight = s.queued ++ [r] := by
    rcases hhand with ⟨hu, hn⟩ | ⟨hu, hn⟩ <;> simp [State.inFlight, State.waiting, hu, hn]
  have hfl' : (s.respond r response).inFlight = s.queued := by
    change s.queued ++ [] ++ [] = s.queued
    rw [append_nil, append_nil]
  have hr : r ∈ s.inFlight := by rw [hfl]; simp
  have hfacts : s.responses r.serial = [] ∧ s.executions r.serial ≤ 1 := by
    rcases hhand with ⟨hu, -⟩ | ⟨-, hn⟩
    · have hw := h.waiting r (by simp [State.waiting, hu])
      exact ⟨hw.1, by omega⟩
    · exact h.unanswered r (by rw [hn]; rfl)
  have hnd := h.once
  rw [hfl, nodup_append] at hnd
  -- no other request has this serial number, so no other queue changes
  have hoth : ∀ r' ∈ s.made, r' ≠ r →
      Function.update s.responses r.serial (s.responses r.serial ++ [response]) r'.serial =
      s.responses r'.serial :=
    fun r' hr' hne => Function.update_of_ne (fun hsame => hne (h.distinct r' hr' r (h.made r hr) hsame)) _ _
  constructor
  · exact h.distinct
  · rw [hfl']
    exact hnd.1
  · intro r' hr'
    rw [hfl'] at hr'
    exact h.made r' (by rw [hfl]; exact mem_append_left _ hr')
  · intro n hn
    change Function.update s.responses r.serial _ n = [] ∧ _
    rw [Function.update_of_ne fun hsame => hn r (h.made r hr) hsame.symm]
    exact h.unused n hn
  · intro r' hr'
    change r' ∈ s.queued ++ [] at hr'
    rw [append_nil] at hr'
    have hin : r' ∈ s.inFlight := by
      rw [hfl]
      exact mem_append_left _ hr'
    change Function.update s.responses r.serial _ r'.serial = [] ∧ _
    rw [hoth r' (h.made r' hin) fun hsame => hnd.2.2 r' hr' r (mem_singleton_self r) hsame]
    exact h.waiting r' (mem_append_left _ hr')
  · nofun
  · intro r' hr' hout
    change (Function.update s.responses r.serial _ r'.serial).length = 1 ∧ _
    by_cases hsame : r' = r
    · rw [hsame, Function.update_self, hfacts.1]
      exact ⟨rfl, hfacts.2⟩
    · rw [hoth r' hr' hsame]
      refine h.answered r' hr' fun hin => ?_
      rw [hfl, mem_append, mem_singleton] at hin
      rcases hin with hin | hin
      · exact hout (by rw [hfl']; exact hin)
      · exact hsame hin

variable {table : Table}

theorem waiting_accept :
    (State.waiting { s with made := r :: s.made, table, accepted := s.accepted ++
      [r] }).Perm (r :: s.waiting) := by
  simp only [waiting, queued, append_assoc]
  exact perm_middle

theorem Counted.accept (h : Counted s) (hnew : ∀ r' ∈ s.made, r'.serial ≠ r.serial) :
    Counted { s with made := r :: s.made, table, accepted := s.accepted ++ [r] } := by
  have hfl : (inFlight { s with made := r :: s.made, table, accepted := s.accepted ++ [r] }).Perm
      (r :: s.inFlight) := waiting_accept.append_right _
  constructor
  · intro r1 h1 r2 h2 hsame
    rcases mem_cons.mp h1 with heq1 | hin1
    · rcases mem_cons.mp h2 with heq2 | hin2
      · rw [heq1, heq2]
      · exact absurd (hsame.symm.trans (congrArg _ heq1)) (hnew r2 hin2)
    · rcases mem_cons.mp h2 with heq2 | hin2
      · exact absurd (hsame.trans (congrArg _ heq2)) (hnew r1 hin1)
      · exact h.distinct r1 hin1 r2 hin2 hsame
  · rw [hfl.nodup_iff, nodup_cons]
    exact ⟨fun hin => hnew r (h.made r hin) rfl, h.once⟩
  · intro r' hr'
    exact (mem_cons.mp (hfl.mem_iff.mp hr')).elim (fun heq => heq ▸ mem_cons_self)
      fun hin => mem_cons_of_mem _ (h.made r' hin)
  · intro n hn
    exact h.unused n fun r' hr' => hn r' (mem_cons_of_mem _ hr')
  · intro r' hr'
    rcases mem_cons.mp (waiting_accept.mem_iff.mp hr') with rfl | hr'
    · exact h.unused _ hnew
    · exact h.waiting r' hr'
  · exact h.unanswered
  · intro r' hr' hout
    have hout : r' ∉ r :: s.inFlight := fun hin => hout (hfl.mem_iff.mpr hin)
    rw [mem_cons, not_or] at hout
    exact h.answered r' ((mem_cons.mp hr').resolve_left hout.1) hout.2

theorem requests_cons (item : Item) (rest : List Item) :
    (item :: rest).filterMap Item.request? = item.request?.toList ++ rest.filterMap Item.request? := by
  rw [filterMap_cons]
  cases item.request? <;> rfl

theorem Step.moves (hstep : Step Admits s s') : Moves s s' := by
  cases hstep with
  | accept r table alive new registered admitted => exact .accept r table new rfl
  | put before r after mine =>
    refine Moves.stay rfl rfl rfl (List.Perm.append_right _ ?_) rfl
    simp only [queued, mine, filterMap_append]
    rw [← append_assoc]
    refine (perm_append_singleton _ _).trans ?_
    exact perm_middle.symm.append_right _
  | cancel | beginTick => exact Moves.stay rfl rfl rfl (.refl _) rfl
  | putTick | scheduledRotation | stop =>
    refine Moves.stay rfl rfl rfl (.of_eq ?_) rfl
    simp [waiting, queued, Item.request?]
  | fetch item rest idle first goOn =>
    refine Moves.stay rfl rfl rfl ?_ (by rw [idle]; rfl)
    simp only [waiting, queued, idle, first, Phase.undecided, requests_cons, Option.toList_none,
      append_nil, append_assoc]
    exact perm_append_comm.append_left _
  | fetchStop rest idle first =>
    refine Moves.stay rfl rfl rfl (.of_eq ?_) (by rw [idle]; rfl)
    simp only [waiting, queued, idle, first, Phase.undecided, requests_cons, Item.request?,
      Option.toList_none, nil_append]
  | markBusy | record | finish | finishTick | letThrough =>
    refine Moves.stay rfl rfl rfl (.of_eq ?_) (by rw [‹s.worker = _›]; rfl)
    simp [waiting, queued, ‹s.worker = _›, Phase.undecided, Item.request?]
  | autonomous item has noRequest =>
    have hnone : item.request? = none := by
      cases item with
      | request r => exact absurd rfl (noRequest r)
      | _ => rfl
    refine Moves.stay rfl rfl rfl (.of_eq ?_) (by rw [has]; rfl)
    simp [waiting, queued, has, Phase.undecided, hnone]
  | read r | claim r =>
    refine Moves.decide r rfl rfl rfl ?_ ?_ rfl rfl (fun n hn => Function.update_of_ne hn _ _)
      (Nat.le_of_eq (Function.update_self _ _ _)) <;> rw [‹s.worker = _›] <;> rfl
  | refuse r now has changing late =>
    exact Moves.decide r rfl rfl rfl (by rw [has]; rfl) (by rw [has]; rfl) rfl rfl (fun _ _ => rfl)
      (Nat.le_succ _)
  | giveUp r has unclaimed => exact .respond r _ (.inl (by rw [has]; exact ⟨rfl, rfl⟩)) rfl
  | handle r response has =>
    have hhand : (handled r response).undecided = none ∧ (handled r response).unanswered = some r := by
      unfold handled
      split <;> exact ⟨rfl, rfl⟩
    refine Moves.stay rfl rfl rfl (.of_eq ?_) (by rw [has]; exact hhand.2)
    change s.queued ++ (handled r response).undecided.toList = s.queued ++ s.worker.undecided.toList
    rw [hhand.1, has]
    rfl
  | respond r response has => exact .respond r response (.inr (by rw [has]; exact ⟨rfl, rfl⟩)) rfl

theorem Counted.step (h : Counted s) (hstep : Step Admits s s') : Counted s' := by
  cases hstep.moves with
  | stay hmade hresps hexe hwait hunan =>
    exact h.move hmade hresps hexe hwait hunan
  | decide r hmade hresps hque hbef hbef' haft haft' hothers hself =>
    exact h.decide hmade hresps hque hbef hbef' haft haft' hothers hself
  | respond r response hhand hs => exact hs ▸ h.respond hhand
  | accept r table hnew hs => exact hs ▸ h.accept hnew

theorem Step.waiting_from (hstep : Step Admits s s') (hr : r ∈ s'.waiting) (hmade : r ∈ s.made) :
    r ∈ s.waiting := by
  cases hstep.moves with
  | stay _ _ _ hwait _ => exact hwait.mem_iff.mp hr
  | decide r0 _ _ hque hbef _ haft _ _ _ =>
    rw [waiting, haft, hque, Option.toList_none, append_nil] at hr
    exact mem_append_left _ hr
  | respond r0 response hhand hs =>
    subst hs
    change r ∈ s.queued ++ [] at hr
    rw [append_nil] at hr
    exact mem_append_left _ hr
  | accept r0 table hnew hs =>
    subst hs
    rcases mem_cons.mp (waiting_accept.mem_iff.mp hr) with rfl | hr
    · exact absurd rfl (hnew r hmade)
    · exact hr

/-- A request stops waiting when the worker decides about it. -/
theorem Step.waiting_stays (hstep : Step Admits s s') (hr : r ∈ s.waiting)
    (hhand : s.worker.undecided = some r → s'.worker.undecided = some r) : r ∈ s'.waiting := by
  cases hstep.moves with
  | stay _ _ _ hwait _ => exact hwait.mem_iff.mpr hr
  | decide r0 _ _ hque hbef _ haft _ _ _ =>
    rw [waiting, hbef, mem_append] at hr
    rcases hr with hr | hr
    · rw [waiting, hque]
      exact mem_append_left _ hr
    · rw [Option.toList_some, mem_singleton] at hr
      rw [haft, hbef, hr] at hhand
      cases hhand rfl
  | respond r0 response hh hs =>
    subst hs
    rw [waiting, mem_append] at hr
    rcases hr with hr | hr
    · exact mem_append_left _ hr
    · rw [Option.mem_toList] at hr
      cases hhand hr
  | accept r0 table hnew hs =>
    subst hs
    exact waiting_accept.mem_iff.mpr (mem_cons_of_mem _ hr)

theorem Step.inFlight_from (hstep : Step Admits s s') (hr : r ∈ s'.inFlight) (hmade : r ∈ s.made) :
    r ∈ s.inFlight := by
  rcases mem_inFlight.mp hr with hwait | hunan
  · exact mem_inFlight.mpr (.inl (hstep.waiting_from hwait hmade))
  cases hstep.moves with
  | stay _ _ _ _ hsame => exact mem_inFlight.mpr (.inr (hsame ▸ hunan))
  | decide r0 _ _ _ hbef _ _ haft' _ _ =>
    rw [haft'] at hunan
    cases hunan
    exact mem_inFlight.mpr (.inl (by simp [waiting, hbef]))
  | respond r0 response hh hs =>
    subst hs
    cases hunan
  | accept r0 table hnew hs =>
    subst hs
    exact mem_inFlight.mpr (.inr hunan)

theorem Step.made_grows (hstep : Step Admits s s') (hr : r ∈ s.made) : r ∈ s'.made := by
  cases hstep.moves with
  | stay hmade _ _ _ _ | decide r0 hmade _ _ _ _ _ _ _ _ => exact hmade ▸ hr
  | respond r0 response hh hs => exact hs ▸ hr
  | accept r0 table hnew hs => exact hs ▸ mem_cons_of_mem _ hr

theorem Reachable.counted (h : Reachable Admits s) : Counted s ∧ TickCounted s := by
  induction h with
  | refl => exact ⟨counted_init, rfl⟩
  | tail _ hstep ih => exact ⟨ih.1.step hstep, ih.2.step hstep⟩

end WatchdogVpn.Daemon
