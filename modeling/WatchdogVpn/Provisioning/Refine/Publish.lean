import WatchdogVpn.Provisioning.Refine.Backward

/-!
# The ends of a transaction against the protocol

Publication writes one ownership record per step, each naming the path that the path check
resolved for that step; then the journal is committed. A clean rollback ends
`PREPARATION_FAILED`, any other `ROLLBACK_FAILED`.
-/

namespace WatchdogVpn.Provisioning

open Effect

variable {F : Type} {h : Host F} {envs : ProvisioningEnvironment → Prop} {α β : Type}
  {s s' s'' : Store F} {l l' l'' : Trace F} {executor : Executor} {plan : ProvisioningPlan}
  {j j' j'' : TransactionJournal} {step : StepRecord} {c : ExecutionContext} {tid : TxId}

/-! ## Ownership records -/

/-- The path check resolved `path` to `p`. -/
def ResolvedTo (l : Trace F) (path : String) (p : AbsPath) : Prop :=
  ∃ pre, ⟨pre, .host (.resolveTargetPath path), some (.ok p)⟩ ∈ l

theorem ResolvedTo.mono {path : String} {p : AbsPath} (hr : ResolvedTo l path p) (hl : l <:+ l') :
    ResolvedTo l' path p := by
  obtain ⟨pre, hm⟩ := hr
  exact ⟨pre, hl.subset hm⟩

theorem validateTargetPath_meets {path : String} :
    Meets h envs (fun p _ l' => isAbsolute path = true ∧ ResolvedTo l' path p)
      (liftM (validateTargetPath c path)) s l := by
  unfold validateTargetPath
  split
  · trivial
  rename_i hok
  refine ⟨trivial, fun a s' _ => ?_⟩
  cases a with
  | error x => trivial
  | ok p => exact ⟨isAbsolute_of_accepted hok, s, List.mem_cons_self⟩

theorem captureIdentity_meets {resource : Value} {integrity : Option String} :
    Meets h envs (fun captured _ l' => ∃ path, resource = .str path ∧ isAbsolute path = true ∧
      ResolvedTo l' path captured.validated) (liftM (captureIdentity c j resource integrity)) s l := by
  change wp _ _ _ _ (Prog.widen (captureIdentity c j resource integrity)) s l
  unfold captureIdentity
  split
  · rename_i path
    simp only [widen_bind]
    refine meets_bind (wp_imp validateTargetPath_meets fun p s1 l1 hres => ?_)
    refine meets_bind (meets_look fun _ s2 l2 hk2 => ?_)
    refine meets_bind (meets_look fun identity s3 l3 hk3 => meets_bind (meets_look fun _ s4 l4 hk4 => ?_))
    refine meets_bind (meets_look fun inter s5 l5 hk5 => meets_bind (meets_look fun _ s6 l6 hk6 => ?_))
    refine meets_bind (meets_look fun auth s7 l7 hk7 => meets_bind (meets_look fun _ s8 l8 hk8 => ?_))
    refine meets_bind (meets_look fun auth2 s9 l9 hk9 => meets_bind (meets_look fun _ s' l' hk => ?_))
    have hlog := ((((((hk2.trans hk3).trans hk4).trans hk5).trans hk6).trans hk7).trans hk8).trans
      (hk9.trans hk)
    exact ⟨path, rfl, hres.1, hres.2.mono hlog.log⟩
  · trivial

theorem Bound.capability (hb : Bound envs executor plan j) : plan.capabilityId = j.capabilityId := by
  obtain ⟨steps, -, hbuild⟩ := except_bind_ok hb.rebuilt
  exact congrArg PlanHeader.capabilityId (build_ok hbuild).1

theorem RecordFor.mono {r : OwnershipRecord} (hr : RecordFor l j step r) (hl : l <:+ l') :
    RecordFor l' j step r := by
  obtain ⟨h1, h2, h3, path, p, h4, h5, ⟨pre, hm⟩, h6⟩ := hr
  exact ⟨h1, h2, h3, path, p, h4, h5, ⟨pre, hl.subset hm⟩, h6⟩

theorem ownershipRecordForStep_meets (hb : Bound envs executor plan j) :
    Meets h envs (fun r _ l' => RecordFor l' j step r)
      (liftM (ownershipRecordForStep c executor plan j step)) s l := by
  change wp _ _ _ _ (Prog.widen (ownershipRecordForStep c executor plan j step)) s l
  unfold ownershipRecordForStep
  split
  · trivial
  simp only [widen_bind]
  refine meets_bind (meets_look fun expected s1 l1 _ => ?_)
  refine meets_bind (meets_look fun dynamic s2 l2 _ => ?_)
  rw [widen_attempt]
  refine meets_bind (meets_attempt (wp_mono (wp_look_meets captureIdentity_meets) (fun _ _ _ h => h) ?_ ?_))
  · intro captured s3 l3 hcap
    obtain ⟨-, path, hpath, habs, hres⟩ := hcap
    simp only
    split
    · trivial
    · exact ⟨rfl, rfl, hb.capability, path, captured.validated, hpath, habs, hres, rfl⟩
  · intro x s3 l3 _
    simp only
    split <;> trivial

theorem ownershipRecordsForSteps_meets (hb : Bound envs executor plan j) (steps : List StepRecord) : ∀ s l,
    Meets h envs (fun rs _ l' => List.Forall₂ (RecordFor l' j) steps rs)
      (liftM (ownershipRecordsForSteps c executor plan j steps)) s l := by
  induction steps with
  | nil => intro s l; exact List.Forall₂.nil
  | cons step steps ih =>
    intro s l
    change wp _ _ _ _ (Prog.widen (ownershipRecordsForSteps c executor plan j (step :: steps))) s l
    simp only [ownershipRecordsForSteps, widen_bind]
    refine meets_bind (wp_imp (ownershipRecordForStep_meets hb) fun r s1 l1 hr => ?_)
    refine meets_bind (wp_mono (wp_look_meets (ih s1 l1)) (fun _ _ _ h => h) (fun rs s2 l2 hrs => ?_) ?_)
    · exact List.Forall₂.cons (hr.mono hrs.1.log) hrs.2
    · exact fun _ _ _ _ => trivial

/-! ## Publication and commit -/

/-- No journal has moved; the log has grown. -/
structure Untouched (s : Store F) (l : Trace F) (s' : Store F) (l' : Trace F) : Prop where
  transactions : s'.transactions = s.transactions
  log : l <:+ l'

theorem Kept.untouched (hk : Kept s l s' l') : Untouched s l s' l' := ⟨hk.transactions, hk.log⟩

theorem Untouched.trans (h1 : Untouched s l s' l') (h2 : Untouched s' l' s'' l'') : Untouched s l s'' l'' :=
  ⟨h2.transactions.trans h1.transactions, h1.log.trans h2.log⟩

theorem Untouched.journal? (hk : Untouched s l s' l') (tid : TxId) : s'.journal? tid = s.journal? tid :=
  journal?_congr hk.transactions tid

theorem Untouched.progress (hk : Untouched s l s' l') (hv : Serving envs s executor plan j) :
    Progress envs executor plan s l j s' l' j :=
  ⟨⟨holds_congr hv.holds (hk.journal? _), hv.operation, hv.bound⟩, ⟨fun t _ => hk.journal? t, hk.log⟩, rfl⟩

theorem postconditionVerified_untouched (hk : Untouched s l s' l') (hp : PostconditionVerified s l tid) :
    PostconditionVerified s' l' tid := by
  obtain ⟨pre, plan, ans, hm, hv, he⟩ := hp
  exact ⟨pre, plan, ans, hk.log.subset hm, hv, he.trans (hk.journal? tid).symm⟩

theorem RecordsFor.mono {rs : List OwnershipRecord} (hr : RecordsFor l j rs) (hl : l <:+ l') :
    RecordsFor l' j rs :=
  List.Forall₂.imp (fun _ _ h => h.mono hl) hr

/-- Publication leaves the records on disk, or raises with the journals untouched. -/
theorem finalizeProvenance_wp (hv : Serving envs s executor plan j) (hst : j.state = .verifying)
    (hall : AllVerified j) (hpost : PostconditionVerified s l j.transactionId) :
    wp (storeHandler h) (Permitted envs) (fun _ s' l' => Untouched s l s' l' ∧ ∃ records,
        s'.ownership? j.capabilityId = some (records.map OwnershipRecord.onDisk) ∧ RecordsFor l' j records)
      (fun _ => Untouched s l) (finalizeProvenance c executor plan j) s l := by
  unfold finalizeProvenance
  rw [wp_bind]
  refine wp_mono (wp_look_meets (ownershipRecordsForSteps_meets hv.bound j.steps s l)) (fun _ _ _ h => h) ?_
    (fun _ _ _ hk => hk.untouched)
  intro records s1 l1 hrec
  obtain ⟨hk, hrecs⟩ := hrec
  have hpub : PublishPermitted envs s1 l1 plan.capabilityId records :=
    ⟨executor, plan, j, hk.serving hv, hst, hall, postconditionVerified_kept hk hpost,
      hv.bound.capability, hrecs⟩
  refine ⟨hpub, fun a s2 hs => ?_⟩
  have hunt : Untouched s l s2 (⟨s1, .writeOwnershipRecords plan.capabilityId records, some a⟩ :: l1) := by
    refine hk.untouched.trans ⟨?_, List.suffix_cons _ _⟩
    rcases hs with rfl | ⟨rfl, -⟩ <;> rfl
  cases a with
  | error x => exact hunt
  | ok u =>
    rcases hs with rfl | ⟨-, x, hx⟩
    · refine ⟨hunt, records, ?_, RecordsFor.mono hrecs (List.suffix_cons _ _)⟩
      rw [← hv.bound.capability]
      exact ownership?_putOwnership _ _
    · cases hx

/-- The journal on disk is in this state, and no other journal has moved. -/
structure EndsIn (tid : TxId) (st : TransactionState) (s : Store F) (l : Trace F) (s' : Store F)
    (l' : Trace F) : Prop where
  evolves : Evolves tid s l s' l'
  ended : ∃ d, s'.journal? tid = some d ∧ d.state = st

theorem EndsIn.look {st : TransactionState} (he : EndsIn tid st s l s' l') (hk : Kept s' l' s'' l'') :
    EndsIn tid st s l s'' l'' := by
  obtain ⟨hev, d, hd, hst⟩ := he
  exact ⟨hev.trans hk.evolves, d, (hk.journal? tid).trans hd, hst⟩

theorem endsIn_put {st : TransactionState} (hev : Evolves j.transactionId s l s' l') (hen : Entered j' st j'')
    (hid : j'.transactionId = j.transactionId) (ev : Event Ans (Store F)) :
    EndsIn j.transactionId st s l (s'.putJournal j'') (ev :: l') := by
  have hid' : j''.transactionId = j.transactionId := hen.sameId.trans hid
  exact ⟨hev.trans (hid' ▸ evolves_put ev), j''.onDisk, hid' ▸ journal?_putJournal, hen.state⟩

theorem commitPrepared_meets (hj : Holds s j) (ho : j.operation ≠ .uninstall)
    (hst : j.state = .prepareTerminalPrepared) (cap : String) :
    Meets h envs (fun j' s' l' => j'.transactionId = j.transactionId ∧
      EndsIn j.transactionId .committed s l s' l')
      (commitPrepared c j cap) s l := by
  refine meets_bind (meets_look fun _ s1 l1 hk1 => meets_bind (meets_look fun _ s2 l2 hk2 => ?_))
  have hk := hk1.trans hk2
  refine meets_bind (meets_moveTo (hk.holds hj) ho hst fun j1 ev _ _ hen => ?_)
  have hend := endsIn_put hk.evolves hen rfl ev
  refine meets_bind (meets_look fun _ s3 l3 hk3 => meets_bind (meets_look fun _ s4 l4 hk4 => ?_))
  exact ⟨hen.sameId, hend.look (hk3.trans hk4)⟩

theorem publishAndCommit_meets (hv : Serving envs s executor plan j) (hst : j.state = .verifying)
    (hall : AllVerified j) (hpost : PostconditionVerified s l j.transactionId) (cap : String) :
    Meets h envs (fun a s' l' => Evolves j.transactionId s l s' l' ∧ ∀ j', a = some j' →
      j'.transactionId = j.transactionId ∧ EndsIn j.transactionId .committed s l s' l')
      (publishAndCommit c executor plan j cap) s l := by
  refine meets_bind (meets_look fun _ s1 l1 hk1 => ?_)
  have hv1 := hk1.serving hv
  refine meets_bind (meets_attempt (wp_mono (finalizeProvenance_wp hv1 hst hall
    (postconditionVerified_kept hk1 hpost)) (fun _ _ _ h => h) ?_ ?_))
  · intro provenance s2 l2 hfin
    obtain ⟨hunt, records, hown, hrecs⟩ := hfin
    refine meets_bind (meets_look fun _ s3 l3 hk3 => meets_bind (meets_look fun _ s4 l4 hk4 => ?_))
    have hk := hk3.trans hk4
    have hunt4 := (hk1.untouched.trans hunt).trans hk.untouched
    have hp := hunt4.progress hv
    refine meets_state fun ht => ?_
    have hev : EntryEvidence s4 l4 j .prepareTerminalPrepared :=
      ⟨hall, postconditionVerified_untouched hunt4 hpost, records, (hk.ownership? _).trans hown,
        hrecs.mono hk.log⟩
    refine meets_bind (meets_enter hp.serving.holds hv.operation ht hev rfl fun ev _ hen => ?_)
    have hp5 := hp.trans (progress_put hp.serving hen.plain ev)
    refine meets_bind (wp_imp (commitPrepared_meets hp5.serving.holds hp5.serving.operation hen.state cap) ?_)
    intro j6 s6 l6 hcom
    obtain ⟨hid, hend⟩ := hcom
    have hev6 : Evolves j.transactionId s l s6 l6 := hp5.evolves.trans (hen.sameId ▸ hend.evolves)
    refine ⟨hev6, fun j' he => ?_⟩
    cases he
    exact ⟨hid.trans hen.sameId, hev6, hen.sameId ▸ hend.ended⟩
  · intro x s2 l2 hunt
    have hp := (hk1.untouched.trans hunt).progress hv
    simp only
    split
    · refine meets_bind (meets_requireRecovery hp.serving.holds hv.operation fun j' ev _ hen => ?_)
      exact ⟨(hp.trans (progress_put hp.serving hen.plain ev)).evolves, fun j' he => (nomatch he)⟩
    · trivial

/-! ## The ends of a rollback -/

theorem concludeRollback_meets (hj : Holds s j) (ho : j.operation ≠ .uninstall) (he : RolledBackEvidence l j) :
    Meets h envs (fun j' s' l' => j'.transactionId = j.transactionId ∧
      EndsIn j.transactionId .preparationFailed s l s' l') (concludeRollback c j) s l := by
  refine meets_bind (meets_look fun _ s1 l1 hk1 => ?_)
  have he1 : EntryEvidence s1 l1 j .rolledBack := by
    obtain ⟨jₑ, ⟨ev, hm, hen⟩, hord⟩ := he
    exact ⟨jₑ, ⟨ev, hk1.log.subset hm, hen⟩, hord⟩
  refine meets_bind (meets_moveTo (hk1.holds hj) ho he1 fun j1 ev _ _ hen => ?_)
  refine meets_bind (meets_look fun _ s2 l2 hk2 => ?_)
  refine meets_moveTo (hk2.holds holds_put) (plain_operation hen.plain ▸ ho) trivial fun j2 ev2 _ _ hen2 => ?_
  have hev : Evolves j.transactionId s l s2 l2 :=
    (hk1.evolves.trans (hen.sameId ▸ evolves_put ev)).trans hk2.evolves
  exact ⟨hen2.sameId.trans hen.sameId, endsIn_put hev hen2 hen.sameId ev2⟩

theorem failRollback_meets (hj : Holds s j) (ho : j.operation ≠ .uninstall) (residuals : List String) :
    Meets h envs (fun j' s' l' => j'.transactionId = j.transactionId ∧ Evolves j.transactionId s l s' l')
      (failRollback j residuals) s l := by
  refine meets_state fun ht => ?_
  refine meets_bind (meets_enter hj ho ht trivial rfl fun ev _ hen => ?_)
  exact ⟨hen.sameId, hen.sameId ▸ evolves_put ev⟩

end WatchdogVpn.Provisioning
