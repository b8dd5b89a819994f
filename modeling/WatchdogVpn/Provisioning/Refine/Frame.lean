import WatchdogVpn.Provisioning.Protocol

/-!
# What checks and writes leave behind

The vocabulary in which the functions of the engine are specified against the protocol.

* `wp_look`: a program of checks keeps the state root and is always permitted.
* `wp_write`: a permitted write leaves exactly the written journal.
* `Progress`: what every part of a prepare transaction keeps, whatever it does. The engine still
  holds the journal on disk, the plan still is the journal's plan, no other journal moved.
-/

namespace WatchdogVpn.Provisioning

open Effect List

variable {F : Type} {h : Host F} {envs : ProvisioningEnvironment → Prop} {α β : Type}
  {s s' s'' : Store F} {l l' l'' : Trace F} {executor : Executor} {plan : ProvisioningPlan}
  {j j' j'' d : TransactionJournal} {r old new : StepRecord} {tid : TxId}

/-! ## Journals that differ only in what changes -/

section

variable (hp : j'.plain = j.plain)
include hp

theorem plain_transactionId : j'.transactionId = j.transactionId := by
  change j'.plain.transactionId = j.plain.transactionId
  rw [hp]

theorem plain_operation : j'.operation = j.operation := by
  change j'.plain.operation = j.plain.operation
  rw [hp]

theorem plain_steps : j'.steps.map StepRecord.plain = j.steps.map StepRecord.plain :=
  congrArg TransactionJournal.steps hp

end

theorem stepsMatchExactly_plain (steps : List StepRecord) (ps : List ProvisioningStep) :
    stepsMatchExactly (steps.map StepRecord.plain) ps = stepsMatchExactly steps ps := by
  have hseq : (steps.map StepRecord.plain).map (·.sequence) = steps.map (·.sequence) := by
    rw [map_map]; rfl
  have hall : (steps.map StepRecord.plain).all (stepMatches ps) = steps.all (stepMatches ps) := by
    rw [all_map]; rfl
  unfold stepsMatchExactly
  rw [hseq, hall, length_map]

theorem Bound.of_plain (hb : Bound envs executor plan j) (hp : j'.plain = j.plain) :
    Bound envs executor plan j' := by
  obtain ⟨hres, hreb, hmat⟩ := hb
  have hm : j'.plain.selectedMethod = j.plain.selectedMethod := by rw [hp]
  have he : j'.plain.executor = j.plain.executor := by rw [hp]
  refine ⟨?_, ?_, ?_⟩
  · change ∃ env registered, envs env ∧ env.registry.resolve j'.plain.selectedMethod.kind
      j'.plain.selectedMethod.id j'.plain.executor.version = .ok registered ∧ _
    rw [hm, he]
    exact hres
  · have : rebuildPlan executor j'.plain = rebuildPlan executor j.plain := by rw [hp]
    exact this.trans hreb
  · unfold journalStepsMatchPlanExactly at hmat ⊢
    rw [← stepsMatchExactly_plain, plain_steps hp, stepsMatchExactly_plain]
    exact hmat

/-! ## Steps of a journal that matches its plan -/

theorem stepsMatchExactly_iff {steps : List StepRecord} {ps : List ProvisioningStep} :
    stepsMatchExactly steps ps = true ↔ steps.length = ps.length ∧ (steps.map (·.sequence)).Nodup ∧
      sameSet (steps.map (·.sequence)) (ps.map (·.sequence)) = true ∧ ∀ r ∈ steps, stepMatches ps r = true := by
  simp only [stepsMatchExactly, Bool.and_eq_true, beq_iff_eq, decide_eq_true_eq, all_eq_true, and_assoc]

theorem Bound.nodup (hb : Bound envs executor plan j) : (j.steps.map (·.sequence)).Nodup :=
  (stepsMatchExactly_iff.mp hb.matched).2.1

theorem sameSet_iff {A : Type} [DecidableEq A] {a b : List A} :
    sameSet a b = true ↔ (∀ x ∈ a, x ∈ b) ∧ ∀ x ∈ b, x ∈ a := by
  simp [sameSet]

theorem Bound.planned (hb : Bound envs executor plan j) (hr : r ∈ j.steps) :
    ∃ p ∈ plan.steps, p.sequence = r.sequence := by
  have hs := (sameSet_iff.mp (stepsMatchExactly_iff.mp hb.matched).2.2.1).1 r.sequence (mem_map_of_mem hr)
  obtain ⟨p, hp, he⟩ := mem_map.mp hs
  exact ⟨p, hp, he⟩

theorem eq_of_sequence (hn : (j.steps.map (·.sequence)).Nodup) {a b : StepRecord} (ha : a ∈ j.steps)
    (hb : b ∈ j.steps) (he : a.sequence = b.sequence) : a = b := inj_on_of_nodup_map hn ha hb he

theorem step_of_mem (hn : (j.steps.map (·.sequence)).Nodup) (hr : r ∈ j.steps) : j.step r.sequence = .ok r := by
  rw [step_eq_ok]
  cases hf : j.steps.find? fun s => s.sequence == r.sequence with
  | none => exact absurd (find?_eq_none.mp hf r hr) (by simp)
  | some x =>
    have hx : x.sequence = r.sequence := by simpa using find?_some hf
    rw [eq_of_sequence hn (mem_of_find?_eq_some hf) hr hx]

theorem find?_withStep (q : Int) : (j.withStep new).steps.find? (fun s => s.sequence == q) =
    (j.steps.find? fun s => s.sequence == q).map fun s => if s.sequence == new.sequence then new else s := by
  rw [withStep_steps, find?_map]
  congr 2
  funext x
  by_cases hx : x.sequence = new.sequence <;> simp [hx]

theorem step_withStep_self (ho : j.step new.sequence = .ok old) :
    (j.withStep new).step new.sequence = .ok new := by
  rw [step_eq_ok] at ho ⊢
  have hs : old.sequence = new.sequence := by simpa using find?_some ho
  rw [find?_withStep, ho]
  simp [hs]

theorem step_withStep_of_ne {q : Int} (hq : q ≠ new.sequence) : (j.withStep new).step q = j.step q := by
  unfold TransactionJournal.step
  rw [find?_withStep]
  cases hf : j.steps.find? fun s => s.sequence == q with
  | none => rfl
  | some x =>
    have hx : x.sequence = q := by simpa using find?_some hf
    have hne : ¬ x.sequence = new.sequence := by rw [hx]; exact hq
    simp [hne]

theorem sequences_withStep (new : StepRecord) :
    (j.withStep new).steps.map (·.sequence) = j.steps.map (·.sequence) := by
  rw [withStep_steps, map_map]
  refine map_congr_left fun a _ => ?_
  by_cases ha : a.sequence = new.sequence <;> simp [ha]

theorem plain_withStep (hn : (j.steps.map (·.sequence)).Nodup) (ho : j.step new.sequence = .ok old)
    (hp : new.plain = old.plain) : (j.withStep new).plain = j.plain := by
  have hsteps : (j.withStep new).steps.map StepRecord.plain = j.steps.map StepRecord.plain := by
    rw [withStep_steps, map_map]
    refine map_congr_left fun x hx => ?_
    by_cases he : x.sequence = new.sequence
    · obtain ⟨hmem, hseq⟩ := mem_of_step ho
      have hxo : x = old := eq_of_sequence hn hx hmem (he.trans hseq.symm)
      simp [hxo, hseq, hp]
    · simp [he]
  unfold TransactionJournal.plain
  rw [hsteps]
  rfl

/-! ## What is on disk -/

section

variable (hs : Synced d j)
include hs

theorem Synced.operation : d.operation = j.operation := by
  rcases hs with rfl | rfl <;> rfl

theorem Synced.state : d.state = j.state := by
  rcases hs with rfl | rfl <;> rfl

/-- A step on disk has a step in memory with the same sequence, state and target, and the other way
round. -/
theorem Synced.steps :
    d.steps.map (fun r => (r.sequence, r.state, r.target)) = j.steps.map fun r =>
      (r.sequence, r.state, r.target) := by
  rcases hs with rfl | rfl
  · rfl
  · rw [onDisk_steps, map_map]; rfl

theorem Synced.exists_disk (hr : r ∈ j.steps) :
    ∃ r' ∈ d.steps, r'.sequence = r.sequence ∧ r'.state = r.state ∧ r'.target = r.target := by
  have hm := mem_map_of_mem (f := fun r : StepRecord => (r.sequence, r.state, r.target)) hr
  rw [← hs.steps] at hm
  obtain ⟨r', hr', he⟩ := mem_map.mp hm
  simp only [Prod.mk.injEq] at he
  exact ⟨r', hr', he⟩

theorem Synced.exists_memory (hr : r ∈ d.steps) :
    ∃ r' ∈ j.steps, r'.sequence = r.sequence ∧ r'.state = r.state ∧ r'.target = r.target := by
  have hm := mem_map_of_mem (f := fun r : StepRecord => (r.sequence, r.state, r.target)) hr
  rw [hs.steps] at hm
  obtain ⟨r', hr', he⟩ := mem_map.mp hm
  simp only [Prod.mk.injEq] at he
  exact ⟨r', hr', he⟩

end

theorem holds_put : Holds (s.putJournal j) j := ⟨j.onDisk, journal?_putJournal, .inr rfl⟩

theorem holds_congr (hj : Holds s j) (he : s'.journal? j.transactionId = s.journal? j.transactionId) :
    Holds s' j := by
  obtain ⟨d, hd, hsy⟩ := hj
  exact ⟨d, he.trans hd, hsy⟩

/-! ## Frames -/

/-- The state root is as it was; the log has grown. -/
structure Kept (s : Store F) (l : Trace F) (s' : Store F) (l' : Trace F) : Prop where
  transactions : s'.transactions = s.transactions
  ownership : s'.ownership = s.ownership
  log : l <:+ l'

theorem Kept.refl : Kept s l s l := ⟨rfl, rfl, suffix_refl _⟩

theorem Kept.trans (h1 : Kept s l s' l') (h2 : Kept s' l' s'' l'') : Kept s l s'' l'' :=
  ⟨h2.transactions.trans h1.transactions, h2.ownership.trans h1.ownership, h1.log.trans h2.log⟩

theorem Kept.journal? (hk : Kept s l s' l') (tid : TxId) : s'.journal? tid = s.journal? tid :=
  journal?_congr hk.transactions tid

theorem Kept.ownership? (hk : Kept s l s' l') (cap : String) : s'.ownership? cap = s.ownership? cap :=
  ownership?_congr hk.ownership cap

theorem kept_step {e : Req} {a : Ans e} (he : e.Quiet) (hs : storeStep h s e a s') :
    Kept s l s' (⟨s, e, some a⟩ :: l) := ⟨(step_quiet he hs).1, (step_quiet he hs).2, suffix_cons _ _⟩

/-- Of the journals, only `tid`'s may have moved; the log has grown. -/
structure Evolves (tid : TxId) (s : Store F) (l : Trace F) (s' : Store F) (l' : Trace F) : Prop where
  others : ∀ t, t ≠ tid → s'.journal? t = s.journal? t
  log : l <:+ l'

theorem Evolves.refl : Evolves tid s l s l := ⟨fun _ _ => rfl, suffix_refl _⟩

theorem Evolves.trans (h1 : Evolves tid s l s' l') (h2 : Evolves tid s' l' s'' l'') : Evolves tid s l s'' l'' :=
  ⟨fun t ht => (h2.others t ht).trans (h1.others t ht), h1.log.trans h2.log⟩

theorem Kept.evolves (hk : Kept s l s' l') : Evolves tid s l s' l' := ⟨fun t _ => hk.journal? t, hk.log⟩

theorem evolves_put (ev : Event Ans (Store F)) : Evolves j.transactionId s l (s.putJournal j) (ev :: l) :=
  ⟨fun _ ht => journal?_putJournal_of_ne ht, suffix_cons _ _⟩

theorem Kept.holds (hk : Kept s l s' l') (hj : Holds s j) : Holds s' j := holds_congr hj (hk.journal? _)

theorem Kept.serving (hk : Kept s l s' l') (hv : Serving envs s executor plan j) :
    Serving envs s' executor plan j :=
  ⟨hk.holds hv.holds, hv.operation, hv.bound⟩

/-- What every part of a prepare transaction keeps. -/
structure Progress (envs : ProvisioningEnvironment → Prop) (executor : Executor) (plan : ProvisioningPlan)
    (s : Store F) (l : Trace F) (j : TransactionJournal) (s' : Store F) (l' : Trace F)
    (j' : TransactionJournal) : Prop where
  serving : Serving envs s' executor plan j'
  evolves : Evolves j.transactionId s l s' l'
  plain : j'.plain = j.plain

theorem Progress.sameId (hp : Progress envs executor plan s l j s' l' j') :
    j'.transactionId = j.transactionId :=
  plain_transactionId hp.plain

theorem Progress.trans (h1 : Progress envs executor plan s l j s' l' j')
    (h2 : Progress envs executor plan s' l' j' s'' l'' j'') : Progress envs executor plan s l j s'' l'' j'' :=
  ⟨h2.serving, h1.evolves.trans (h1.sameId ▸ h2.evolves), h2.plain.trans h1.plain⟩

theorem Kept.progress (hk : Kept s l s' l') (hv : Serving envs s executor plan j) :
    Progress envs executor plan s l j s' l' j := ⟨hk.serving hv, hk.evolves, rfl⟩

theorem progress_put (hv : Serving envs s executor plan j) (hp : j'.plain = j.plain)
    (ev : Event Ans (Store F)) : Progress envs executor plan s l j (s.putJournal j') (ev :: l) j' :=
  ⟨⟨holds_put, plain_operation hp ▸ hv.operation, hv.bound.of_plain hp⟩,
    plain_transactionId hp ▸ evolves_put ev, hp⟩

/-! ## Rules for the requests of the engine -/

/-- The requests meet `G` and the return satisfies `Q`; exceptions may leave anything. -/
abbrev Guarded (h : Host F) (G : Store F → Trace F → Req → Prop) (Q : α → Store F → Trace F → Prop)
    (p : EngineProg α) (s : Store F) (l : Trace F) : Prop := wp (storeHandler h) G Q (fun _ _ _ => True) p s l

/-- The program is permitted and its return satisfies `Q`; exceptions may leave anything. -/
abbrev Meets (h : Host F) (envs : ProvisioningEnvironment → Prop) (Q : α → Store F → Trace F → Prop)
    (p : EngineProg α) (s : Store F) (l : Trace F) : Prop :=
  wp (storeHandler h) (Permitted envs) Q (fun _ _ _ => True) p s l

variable {Q : α → Store F → Trace F → Prop}

theorem permitted_quiet {e : Req} (he : e.Quiet) : Permitted envs s l e := by
  cases e with
  | writeJournal j | writeOwnershipRecords cap rs | deleteOwnershipRecords cap => exact he.elim
  | host q => cases q <;> first | exact he.elim | trivial
  | _ => trivial

/-- A program of checks is permitted anywhere and keeps the state root, however it ends. -/
theorem wp_look (p : CheckProg α) : wp (storeHandler h) (Permitted envs) (fun _ => Kept s l)
    (fun _ => Kept s l) (liftM p : EngineProg α) s l := by
  refine wp_widen p Kept.refl (fun _ _ _ he _ => permitted_quiet he) ?_
  intro s' l' e a s'' he hk hs
  exact hk.trans (kept_step he hs)

theorem wp_look_meets {p : CheckProg α} {Q : α → Store F → Trace F → Prop}
    (hp : wp (storeHandler h) (Permitted envs) Q (fun _ _ _ => True) (liftM p : EngineProg α) s l) :
    wp (storeHandler h) (Permitted envs) (fun a s' l' => Kept s l s' l' ∧ Q a s' l') (fun _ => Kept s l)
      (liftM p : EngineProg α) s l :=
  wp_mono (wp_and (wp_look p) hp) (fun _ _ _ h => h) (fun _ _ _ h => h) fun _ _ _ h => h.1

variable {p : EngineProg β} {G : Store F → Trace F → Req → Prop}

theorem meets_bind {f : β → EngineProg α} (hp : Guarded h G (fun b => Guarded h G Q (f b)) p s l) :
    Guarded h G Q (p >>= f) s l := (wp_bind p f s l).mpr hp

theorem meets_attempt {Q : Except Exc β → Store F → Trace F → Prop}
    (hp : wp (storeHandler h) (Permitted envs) (fun a => Q (.ok a)) (fun x => Q (.error x)) p s l) :
    Meets h envs Q p.attempt s l := (wp_attempt p s l).mpr hp

theorem meets_look {p : CheckProg α} (hQ : ∀ a s' l', Kept s l s' l' → Q a s' l') :
    Meets h envs Q (liftM p) s l :=
  wp_mono (wp_look p) (fun _ _ _ h => h) hQ fun _ _ _ _ => trivial

theorem meets_ofExcept {a : Except Exc α} (hQ : ∀ b, a = .ok b → Q b s l) :
    Guarded h G Q (.ofExcept a) s l := by
  cases a with
  | ok b => exact hQ b rfl
  | error x => trivial

theorem meets_state {st : TransactionState} {f : TransactionJournal → EngineProg α}
    (hf : st ∈ transactionTransitions j.state → Meets h envs Q (f { j with state := st }) s l) :
    Meets h envs Q (.ofExcept (j.withState st) >>= f) s l := by
  refine meets_bind (meets_ofExcept fun j' hj' => ?_)
  obtain ⟨ht, rfl⟩ := withState_eq_ok.mp hj'
  exact hf ht

theorem meets_stepState {st : StepState} {f : StepRecord → EngineProg α}
    (hf : st ∈ stepTransitions r.state → Guarded h G Q (f { r with state := st }) s l) :
    Guarded h G Q (.ofExcept (r.withState st) >>= f) s l := by
  refine meets_bind (meets_ofExcept fun r' hr' => ?_)
  obtain ⟨ht, rfl⟩ := stepWithState_eq_ok.mp hr'
  exact hf ht

theorem meets_ask {e : Req} {Q : Ans e → Store F → Trace F → Prop} (he : e.Quiet)
    (hQ : ∀ a s', storeStep h s e a s' → Kept s l s' (⟨s, e, some a⟩ :: l) → Q a s' (⟨s, e, some a⟩ :: l)) :
    Meets h envs Q (Prog.ask e) s l := ⟨permitted_quiet he, fun a s' hs => hQ a s' hs (kept_step he hs)⟩

theorem meets_write {Q : Unit → Store F → Trace F → Prop} (hw : WritePermitted envs s l j)
    (hQ : Q () (s.putJournal j) (⟨s, .writeJournal j, some (.ok ())⟩ :: l)) :
    Meets h envs Q (writeJournal j) s l := by
  refine ⟨hw, ?_⟩
  intro a s' hs
  cases a with
  | error x => trivial
  | ok u =>
    rcases hs with rfl | ⟨-, x, hx⟩
    · exact hQ
    · cases hx

/-! ## Programs that return -/

/-- Whenever the program returns, what it leaves satisfies `Q`. -/
abbrev Returns (h : Host F) (Q : α → Store F → Trace F → Prop) (p : EngineProg α) (s : Store F)
    (l : Trace F) : Prop :=
  wp (storeHandler h) (fun _ _ _ => True) Q (fun _ _ _ => True) p s l

/-! ## The writes of a prepare transaction -/

theorem ApplyMove.plain (hm : ApplyMove l tid executor old new) : new.plain = old.plain := by
  cases hm <;> rfl

theorem ApplyMove.sequence (hm : ApplyMove l tid executor old new) : new.sequence = old.sequence := by
  cases hm <;> rfl

theorem UndoMove.plain (hm : UndoMove l tid old new) : new.plain = old.plain := by
  cases hm <;> rfl

theorem UndoMove.sequence (hm : UndoMove l tid old new) : new.sequence = old.sequence := by
  cases hm <;> rfl

/-- A step of the journal was replaced, and nothing else of it. -/
structure Replaced (j : TransactionJournal) (new : StepRecord) (j' : TransactionJournal) : Prop where
  state : j'.state = j.state
  self : j'.step new.sequence = .ok new
  others : ∀ q, q ≠ new.sequence → j'.step q = j.step q

theorem replaced_withStep (ho : j.step new.sequence = .ok old) : Replaced j new (j.withStep new) :=
  ⟨rfl, step_withStep_self ho, fun _ hq => step_withStep_of_ne hq⟩

variable {Q : TransactionJournal → Store F → Trace F → Prop}

section

variable (ha : Acting envs s executor plan j old)
include ha

theorem Acting.progress (hp : new.plain = old.plain) (hq : new.sequence = old.sequence)
    (ev : Event Ans (Store F)) :
    Progress envs executor plan s l j (s.putJournal (j.withStep new)) (ev :: l) (j.withStep new) :=
  progress_put ha.toServing (plain_withStep ha.bound.nodup (hq ▸ ha.record) hp) ev

theorem meets_applyMove (hst : j.state = .applying ∨ j.state = .verifying)
    (hm : ApplyMove l j.transactionId executor old new)
    (hQ : ∀ j' ev, ev = ⟨s, .writeJournal j', some (.ok ())⟩ →
      Progress envs executor plan s l j (s.putJournal j') (ev :: l) j' → Replaced j new j' →
      Q j' (s.putJournal j') (ev :: l)) : Meets h envs Q (writeStep j new) s l :=
  meets_bind (meets_write
    (.prepare j _ ha.holds ha.operation (.apply executor plan old new ha.bound hst ha.record hm))
    (hQ _ _ rfl (ha.progress hm.plain hm.sequence _) (replaced_withStep (hm.sequence ▸ ha.record))))

theorem meets_undoMove (hst : j.state = .rollingBack)
    (hm : UndoMove l j.transactionId old new) (hQ : ∀ j' ev, ev = ⟨s, .writeJournal j', some (.ok ())⟩ →
      Progress envs executor plan s l j (s.putJournal j') (ev :: l) j' → Replaced j new j' →
      Q j' (s.putJournal j') (ev :: l)) : Meets h envs Q (writeStep j new) s l :=
  meets_bind (meets_write (.prepare j _ ha.holds ha.operation
    (.undo executor plan old new ha.bound hst ha.record hm))
    (hQ _ _ rfl (ha.progress hm.plain hm.sequence _) (replaced_withStep (hm.sequence ▸ ha.record))))

end

/-- A journal in another state, with the same steps. -/
structure Entered (j : TransactionJournal) (st : TransactionState) (j' : TransactionJournal) : Prop where
  plain : j'.plain = j.plain
  state : j'.state = st
  steps : j'.steps = j.steps

variable {st : TransactionState}

theorem Entered.sameId (he : Entered j st j') : j'.transactionId = j.transactionId :=
  plain_transactionId he.plain

section

variable (hj : Holds s j) (ho : j.operation ≠ .uninstall)
include hj ho

theorem meets_enter {provenance failure recovery : Option Dict} {Q : Unit → Store F → Trace F → Prop}
    (ht : st ∈ transactionTransitions j.state) (he : EntryEvidence s l j st)
    (hj' : j' = { j with state := st, provenance, failure, recovery })
    (hQ : ∀ ev, ev = ⟨s, .writeJournal j', some (.ok ())⟩ → Entered j st j' →
      Q () (s.putJournal j') (ev :: l)) : Meets h envs Q (writeJournal j') s l := by
  subst hj'
  exact meets_write (.prepare j _ hj ho (.enter st _ _ _ ht he)) (hQ _ rfl ⟨rfl, rfl, rfl⟩)

theorem meets_moveTo (he : EntryEvidence s l j st)
    (hQ : ∀ j' ev, ev = ⟨s, .writeJournal j', some (.ok ())⟩ → st ∈ transactionTransitions j.state →
      Entered j st j' → Q j' (s.putJournal j') (ev :: l)) : Meets h envs Q (moveTo j st) s l := by
  refine meets_state fun ht => ?_
  exact meets_bind (meets_enter hj ho ht he rfl fun ev hev hen => hQ _ ev hev ht hen)

theorem meets_moveIf {c : Prop} [Decidable c] (he : c → EntryEvidence s l j st)
    (hQ : ∀ j' ev, c → ev = ⟨s, .writeJournal j', some (.ok ())⟩ → st ∈ transactionTransitions j.state →
      Entered j st j' → Q j' (s.putJournal j') (ev :: l))
    (hn : ¬ c → Q j s l) : Meets h envs Q (moveIf c j st) s l := by
  unfold moveIf
  split
  · rename_i hc
    exact meets_moveTo hj ho (he hc) fun j' ev => hQ j' ev hc
  · exact hn ‹_›

theorem meets_requireRecovery {reason : Dict}
    (hQ : ∀ j' ev, ev = ⟨s, .writeJournal j', some (.ok ())⟩ → Entered j .recoveryRequired j' →
      Q j' (s.putJournal j') (ev :: l)) : Meets h envs Q (requireRecovery j reason) s l := by
  refine meets_state fun ht => ?_
  exact meets_bind (meets_enter hj ho ht trivial rfl fun ev hev hen => hQ _ ev hev hen)

end

end WatchdogVpn.Provisioning
