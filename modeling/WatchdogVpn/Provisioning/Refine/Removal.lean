import WatchdogVpn.Provisioning.Refine.Publish

/-!
# Uninstall against the protocol

The removal loop works on a box that may fall behind the journal on disk (two of its branches
write a failed step and keep the old box). What never falls behind is the header and the
transaction's state, and that is all the protocol asks of an uninstall write.

* `runUninstallLoop_meets`: the loop keeps the header and stays in `UNINSTALLING`.
* `recoverUninstall_meets`: a resumed uninstall that reports success is `UNINSTALLED` on disk.
-/

namespace WatchdogVpn.Provisioning

open Effect

variable {F : Type} {h : Host F} {envs : ProvisioningEnvironment → Prop} {env : ProvisioningEnvironment}
  {s s' s'' s0 : Store F} {l l' l'' l0 : Trace F} {c : ExecutionContext}
  {j j' j0 box d : TransactionJournal} {r : StepRecord} {tid : TxId}

/-! ## Journals of one uninstall -/

/-- Two journals of the same uninstall, in the same state. -/
structure SameRemoval (d j : TransactionJournal) : Prop where
  transactionId : d.transactionId = j.transactionId
  operation : d.operation = .uninstall ∧ j.operation = .uninstall
  capability : d.capabilityId = j.capabilityId
  target : d.target = j.target
  state : d.state = j.state

theorem SameRemoval.symm (hs : SameRemoval d j) : SameRemoval j d :=
  ⟨hs.transactionId.symm, hs.operation.symm, hs.capability.symm, hs.target.symm, hs.state.symm⟩

theorem SameRemoval.trans (h1 : SameRemoval d j) (h2 : SameRemoval j j') : SameRemoval d j' :=
  ⟨h1.transactionId.trans h2.transactionId, ⟨h1.operation.1, h2.operation.2⟩,
    h1.capability.trans h2.capability, h1.target.trans h2.target, h1.state.trans h2.state⟩

/-- The journal on disk belongs to the uninstall held in memory and is in the same state. -/
def HoldsRemoval (s : Store F) (j : TransactionJournal) : Prop :=
  ∃ d, s.journal? j.transactionId = some d ∧ SameRemoval d j

theorem HoldsRemoval.operation (hj : HoldsRemoval s j) : j.operation = .uninstall := by
  obtain ⟨d, -, hsame⟩ := hj
  exact hsame.operation.2

theorem HoldsRemoval.congr (hj : HoldsRemoval s j)
    (he : s'.journal? j.transactionId = s.journal? j.transactionId) : HoldsRemoval s' j := by
  obtain ⟨d, hd, hsame⟩ := hj
  exact ⟨d, he.trans hd, hsame⟩

theorem HoldsRemoval.of_same (hj : HoldsRemoval s j) (hs : SameRemoval j j') : HoldsRemoval s j' := by
  obtain ⟨d, hd, hsame⟩ := hj
  exact ⟨d, hs.transactionId ▸ hd, hsame.trans hs⟩

theorem holdsRemoval_put (ho : j.operation = .uninstall) : HoldsRemoval (s.putJournal j) j :=
  ⟨j.onDisk, journal?_putJournal, rfl, ⟨ho, ho⟩, rfl, rfl, rfl⟩

/-- Inside the removal loop entered with `j0` in `s0`. -/
structure RemovalOK (s0 : Store F) (l0 : Trace F) (j0 : TransactionJournal) (s : Store F) (l : Trace F)
    (box : TransactionJournal) : Prop where
  holds : HoldsRemoval s box
  same : SameRemoval j0 box
  uninstalling : j0.state = .uninstalling
  evolves : Evolves j0.transactionId s0 l0 s l

section

variable (hb : RemovalOK s0 l0 j0 s l box)
include hb

theorem RemovalOK.look (hk : Untouched s l s' l') : RemovalOK s0 l0 j0 s' l' box :=
  ⟨hb.holds.congr (hk.journal? _), hb.same, hb.uninstalling,
    hb.evolves.trans ⟨fun t _ => hk.journal? t, hk.log⟩⟩

/-- A journal of the same uninstall may be written; the box may take it over or stay as it was. -/
theorem RemovalOK.put (hs : SameRemoval box j) (ev : Event Ans (Store F)) :
    RemovalOK s0 l0 j0 (s.putJournal j) (ev :: l) j ∧ RemovalOK s0 l0 j0 (s.putJournal j) (ev :: l) box := by
  have hid : j0.transactionId = j.transactionId := hb.same.transactionId.trans hs.transactionId
  have hev : Evolves j0.transactionId s0 l0 (s.putJournal j) (ev :: l) :=
    hb.evolves.trans (hid ▸ evolves_put ev)
  have hput : HoldsRemoval (s.putJournal j) j := holdsRemoval_put hs.operation.2
  exact ⟨⟨hput, hb.same.trans hs, hb.uninstalling, hev⟩, ⟨hput.of_same hs.symm, hb.same, hb.uninstalling, hev⟩⟩

theorem RemovalOK.disk :
    ∃ d, s.journal? box.transactionId = some d ∧ SameRemoval d box ∧ d.state = .uninstalling := by
  obtain ⟨d, hd, hsame⟩ := hb.holds
  exact ⟨d, hd, hsame, hsame.state.trans (hb.same.state.symm.trans hb.uninstalling)⟩

theorem RemovalOK.permitted (hs : SameRemoval box j) : WritePermitted envs s l j := by
  obtain ⟨d, hd, hsame, hst⟩ := hb.disk
  have hdj := hsame.trans hs
  refine .uninstall d j (hs.transactionId ▸ hd)
    ⟨hdj.operation, hdj.capability.symm, hdj.target.symm, .inl ⟨hst, hdj.state ▸ hst⟩,
      by rw [← hdj.state, hst]; decide, fun _ => hst⟩ ?_
  intro hp
  rw [hst] at hp
  cases hp

theorem meets_writeBox {Q : TransactionJournal → Store F → Trace F → Prop}
    (hQ : ∀ box' s' l', RemovalOK s0 l0 j0 s' l' box' → RemovalOK s0 l0 j0 s' l' box → Q box' s' l') :
    Meets h envs Q (writeStep box r) s l := by
  have hs : SameRemoval box (box.withStep r) :=
    ⟨rfl, ⟨hb.holds.operation, hb.holds.operation⟩, rfl, rfl, rfl⟩
  refine meets_bind (meets_write (hb.permitted hs) ?_)
  exact hQ _ _ _ (hb.put hs _).1 (hb.put hs _).2

end

/-! ## The removal loop -/

section Loop

variable (hb : RemovalOK s0 l0 j0 s l box)
include hb

theorem failUninstallStep_meets (kind error : String) :
    Meets h envs (fun a s' l' => RemovalOK s0 l0 j0 s' l' a.1) (failUninstallStep box r kind error) s l :=
  meets_bind (meets_ofExcept fun _ _ => meets_bind (meets_writeBox hb fun _ _ _ hb' _ => hb'))

theorem failUninstallStepUnboxed_meets (kind error : String) :
    Meets h envs (fun a s' l' => RemovalOK s0 l0 j0 s' l' a.1)
      (failUninstallStepUnboxed box r kind error) s l :=
  meets_bind (meets_ofExcept fun _ _ => meets_bind (meets_writeBox hb fun _ _ _ _ hb' => hb'))

theorem custodyRecorder_meets (e : RemovalReq) :
    Meets h envs (fun a s' l' => RemovalOK s0 l0 j0 s' l' a.2) (custodyRecorder e box) s l := by
  cases e with
  | fs q =>
    obtain ⟨d, hd, hsame, hst⟩ := hb.disk
    exact ⟨⟨_, d, hd, hsame.operation.1, hst⟩, fun a s' hs => hb.look (kept_host hs).untouched⟩
  | record r =>
    have hs : SameRemoval box (journalWithCustodyRecord box r) :=
      ⟨rfl, ⟨hb.holds.operation, hb.holds.operation⟩, rfl, rfl, rfl⟩
    refine ⟨hb.permitted hs, fun a s' hland => ?_⟩
    cases a with
    | ok u =>
      rcases hland with rfl | ⟨-, x, hx⟩
      · exact (hb.put hs _).1
      · cases hx
    | error x =>
      rcases hland with rfl | ⟨rfl, -⟩
      · exact (hb.put hs _).2
      · exact hb.look ⟨rfl, List.suffix_cons _ _⟩

theorem removeOwnedFile_meets (root validated resource : String) : Meets h envs (fun a s' l' => match a with
      | .inl a => RemovalOK s0 l0 j0 s' l' a.1
      | .inr a => RemovalOK s0 l0 j0 s' l' a.1) (removeOwnedFile c box r root validated resource) s l := by
  refine meets_bind (meets_look fun drift s1 l1 hk => ?_)
  have hb1 := hb.look hk.untouched
  cases drift with
  | some drift => exact meets_bind (failUninstallStep_meets hb1 _ _)
  | none =>
    refine meets_bind (wp_imp (wp_handle (J := fun t s l => RemovalOK s0 l0 j0 s l t)
      (fun e t s l ht => custodyRecorder_meets ht e) _ box s1 l1 hb1) fun a s2 l2 hb2 => ?_)
    obtain ⟨outcome, box2⟩ := a
    cases outcome with
    | error x => exact meets_bind (failUninstallStep_meets hb2 _ _)
    | ok u =>
      exact meets_bind (meets_ofExcept fun _ _ => meets_bind (meets_writeBox hb2 fun _ _ _ hb' _ => hb'))

theorem failVerification_meets (kind error : String) :
    Meets h envs (fun a s' l' => RemovalOK s0 l0 j0 s' l' a.1) (failVerification box r kind error) s l :=
  meets_bind (meets_ofExcept fun _ _ => meets_bind (meets_writeBox hb fun _ _ _ hb' _ => hb'))

theorem advanceRemoval_meets :
    Meets h envs (fun a s' l' => RemovalOK s0 l0 j0 s' l' a.1) (advanceRemoval box r) s l := by
  unfold advanceRemoval
  split
  · exact meets_bind (meets_ofExcept fun _ _ => meets_bind (meets_writeBox hb fun _ _ _ hb' _ => hb'))
  · exact hb

theorem verifyRemoved_meets (validated : String) :
    Meets h envs (fun a s' l' => RemovalOK s0 l0 j0 s' l' a.1) (verifyRemoved box r validated) s l := by
  refine meets_bind (wp_imp (advanceRemoval_meets hb) fun a s1 l1 hb1 => ?_)
  refine meets_bind (meets_ask trivial fun a s2 _ hk => ?_)
  have hb2 := hb1.look hk.untouched
  cases a with
  | error x =>
    simp only
    split
    · exact meets_bind (meets_ofExcept fun _ _ => meets_bind (meets_writeBox hb2 fun _ _ _ hb' _ => hb'))
    split
    · exact failVerification_meets hb2 _ _
    · trivial
  | ok identity => exact failVerification_meets hb2 _ _

theorem beginRemoval_meets : Meets h envs (fun a s' l' => RemovalOK s0 l0 j0 s' l' a.1)
    (beginRemoval box r) s l := by
  unfold beginRemoval
  split
  · exact meets_bind (meets_ofExcept fun _ _ => meets_bind (meets_writeBox hb fun _ _ _ hb' _ => hb'))
  · exact hb

theorem approachStep_meets (q : Int) :
    Meets h envs (fun a s' l' => RemovalOK s0 l0 j0 s' l' a.1) (approachStep c box q) s l := by
  refine meets_bind (meets_ofExcept fun record _ => ?_)
  split
  · exact hb
  refine meets_bind (meets_ofExcept fun resource _ => meets_bind (meets_look fun a s1 l1 hk => ?_))
  have hb1 := hb.look hk.untouched
  cases a with
  | error x =>
    simp only
    split
    · exact hb1
    · trivial
  | ok place =>
    refine meets_bind (wp_imp (beginRemoval_meets hb1) fun a s2 l2 hb2 => ?_)
    simp only
    split
    · refine meets_bind (meets_ask trivial fun a s3 _ hk => ?_)
      have hb3 := hb2.look hk.untouched
      cases a with
      | error x =>
        simp only
        split
        · exact hb3
        split
        · exact hb3
        · trivial
      | ok identity =>
        simp only
        split <;> exact hb3
    · exact hb2

theorem settleStep_meets (a : Approach) :
    Meets h envs (fun a s' l' => RemovalOK s0 l0 j0 s' l' a.1) (settleStep c box a) s l := by
  cases a with
  | finished => exact hb
  | refused record reason => exact failUninstallStepUnboxed_meets hb _ _
  | removed record validated => exact verifyRemoved_meets hb _
  | absent record validated resource =>
    simp only [settleStep]
    split
    · exact failUninstallStep_meets hb _ _
    · exact meets_bind (meets_ofExcept fun _ _ => meets_bind (meets_writeBox hb fun _ _ _ hb' _ =>
        verifyRemoved_meets hb' _))
  | unknown record reason => exact failUninstallStep_meets hb _ _
  | symlink record => exact failUninstallStepUnboxed_meets hb _ _
  | present record validated root resource =>
    refine meets_bind (wp_imp (removeOwnedFile_meets hb _ _ _) fun a s1 l1 hb1 => ?_)
    cases a with
    | inl stopped => exact hb1
    | inr going => exact verifyRemoved_meets hb1 _

theorem uninstallStep_meets (q : Int) :
    Meets h envs (fun a s' l' => RemovalOK s0 l0 j0 s' l' a.1) (uninstallStep c box q) s l :=
  meets_bind (wp_imp (approachStep_meets hb q) fun a _ _ hb1 => settleStep_meets hb1 a.2)

end Loop

theorem uninstallSteps_meets (sequences : List Int) : ∀ (box s l residuals), RemovalOK s0 l0 j0 s l box →
    Meets h envs (fun a s' l' => RemovalOK s0 l0 j0 s' l' a.1)
      (uninstallSteps c sequences box residuals) s l := by
  induction sequences with
  | nil => intro box s l residuals hb; exact hb
  | cons q sequences ih =>
    intro box s l residuals hb
    exact meets_bind (wp_imp (uninstallStep_meets hb q) fun a s1 l1 hb1 => ih a.1 s1 l1 _ hb1)

/-- **The removal loop** keeps the header and stays in `UNINSTALLING`. -/
theorem runUninstallLoop_meets (hj : HoldsRemoval s j) (hst : j.state = .uninstalling) :
    Meets h envs (fun a s' l' => RemovalOK s l j s' l' a.journal) (runUninstallLoop env c j) s l := by
  have hb : RemovalOK s l j s l j := ⟨hj, ⟨rfl, ⟨hj.operation, hj.operation⟩, rfl, rfl, rfl⟩, hst, .refl⟩
  refine meets_bind (meets_look fun b s1 l1 hk1 => ?_)
  split
  · refine meets_bind (meets_look fun a s2 l2 hk2 => ?_)
    have hb2 := hb.look (hk1.trans hk2).untouched
    cases a with
    | error x =>
      simp only
      split
      · exact hb2
      · trivial
    | ok u => exact hb2
  · refine meets_bind (meets_look fun _ s2 l2 hk2 => ?_)
    have hb2 := hb.look (hk1.trans hk2).untouched
    split
    · exact hb2
    · exact meets_bind (wp_imp (uninstallSteps_meets _ j s2 l2 [] hb2) fun _ _ _ hb' => hb')

/-! ## Moves between the boundaries of an uninstall -/

variable {st : TransactionState}

/-- An uninstall journal may enter any state its own allows, `UNINSTALL_FAILED` only from the loop.
-/
theorem meets_enterRemoval {Q : Unit → Store F → Trace F → Prop} (hj : HoldsRemoval s j)
    (ht : st ∈ transactionTransitions j.state) (hr : st ∈ removalStates)
    (hf : st = .uninstallFailed → j.state = .uninstalling)
    (hl : j.state = .uninstallPlanned → LastWas l (.writeJournal j) (.ok ())) (hen : Entered j st j')
    (hQ : ∀ ev, ev = ⟨s, .writeJournal j', some (.ok ())⟩ → HoldsRemoval (s.putJournal j') j' →
      Evolves j.transactionId s l (s.putJournal j') (ev :: l) → Q () (s.putJournal j') (ev :: l)) :
    Meets h envs Q (writeJournal j') s l := by
  obtain ⟨d, hd, hsame⟩ := hj
  have ho : j'.operation = .uninstall := (plain_operation hen.plain).trans hsame.operation.2
  have hm : UninstallMove d j' :=
    { operation := ⟨hsame.operation.1, ho⟩
      capability := (congrArg TransactionJournal.capabilityId hen.plain).trans hsame.capability.symm
      target := (congrArg TransactionJournal.target hen.plain).trans hsame.target.symm
      state := .inr (by rw [hen.state, hsame.state]; exact ht)
      removal := by rw [hen.state]; exact hr
      failed := fun hst => hsame.state.trans (hf (hen.state.symm.trans hst)) }
  refine meets_write (.uninstall d j' (hen.sameId ▸ hd) hm fun hp => ?_)
    (hQ _ rfl (holdsRemoval_put ho) (hen.sameId ▸ evolves_put _))
  have hp' : j.state = .uninstallPlanned := hsame.state.symm.trans hp
  exact ⟨j, hen.sameId.symm, hp', hl hp'⟩

theorem meets_moveRemoval {Q : TransactionJournal → Store F → Trace F → Prop}
    (hj : HoldsRemoval s j) (hr : st ∈ removalStates ∧ st ≠ .uninstallFailed)
    (hl : st = .uninstalling → j.state = .uninstallPlanned → LastWas l (.writeJournal j) (.ok ()))
    (hQ : ∀ j' ev, ev = ⟨s, .writeJournal j', some (.ok ())⟩ → HoldsRemoval (s.putJournal j') j' →
      Evolves j.transactionId s l (s.putJournal j') (ev :: l) → Entered j st j' →
      Q j' (s.putJournal j') (ev :: l)) :
    Meets h envs Q (moveTo j st) s l := by
  refine meets_state fun ht => ?_
  have hl' (hp : j.state = .uninstallPlanned) : LastWas l (.writeJournal j) (.ok ()) := by
    rw [hp] at ht
    exact hl (List.mem_singleton.mp ht) hp
  exact meets_bind (meets_enterRemoval hj ht hr.1 (fun e => absurd e hr.2) hl' ⟨rfl, rfl, rfl⟩
    fun ev hev hput hevo => hQ _ ev hev hput hevo ⟨rfl, rfl, rfl⟩)

theorem requireRecovery_removal {reason : Dict} (hj : HoldsRemoval s j) :
    Meets h envs (fun j' s' l' => j'.transactionId = j.transactionId ∧ Evolves j.transactionId s l s' l')
      (requireRecovery j reason) s l := by
  refine meets_state fun ht => ?_
  have hne (hp : j.state = .uninstallPlanned) : LastWas l (.writeJournal j) (.ok ()) := by
    rw [hp] at ht
    exact absurd ht (by decide)
  exact meets_bind (meets_enterRemoval hj ht (by decide) nofun hne ⟨rfl, rfl, rfl⟩ fun _ _ _ hev => ⟨rfl, hev⟩)

theorem revokeOwnershipAndVerify_meets (ho : j.operation = .uninstall) (hst : j.state = .uninstalled)
    (hl : LastWas l (.writeJournal j) (.ok ())) :
    Meets h envs (fun _ s' l' => Untouched s l s' l') (revokeOwnershipAndVerify j.capabilityId) s l := by
  refine meets_bind ⟨⟨j, ho, rfl, hst, hl⟩, fun a s1 hs => ?_⟩
  have hunt : Untouched s l s1 (⟨s, .deleteOwnershipRecords j.capabilityId, some a⟩ :: l) := by
    refine ⟨?_, List.suffix_cons _ _⟩
    rcases hs with rfl | ⟨rfl, -⟩ <;> rfl
  cases a with
  | error x =>
    rw [wp_ret]
    simp only
    split
    · exact hunt
    split
    · exact hunt
    · trivial
  | ok u =>
    refine meets_bind (meets_ask trivial fun b s2 _ hk => ?_)
    have hunt2 := hunt.trans hk.untouched
    cases b with
    | ok b => cases b <;> exact hunt2
    | error x =>
      simp only
      split
      · exact hunt2
      · trivial

theorem concludeUninstall_meets (hj : HoldsRemoval s j) (records : List OwnershipRecord) :
    Meets h envs (fun j' s' l' => j'.transactionId = j.transactionId ∧
      EndsIn j.transactionId .uninstalled s l s' l') (concludeUninstall c j records) s l := by
  refine meets_bind (meets_look fun _ s1 l1 hk => ?_)
  refine meets_bind (meets_moveRemoval (hj.congr (hk.journal? _)) (by decide) nofun
    fun j1 ev hev hput _ hen => ?_)
  have hend := endsIn_put hk.evolves hen rfl ev
  refine meets_bind (wp_imp (revokeOwnershipAndVerify_meets hput.operation hen.state ⟨s1, l1, hev ▸ rfl⟩) ?_)
  intro _ s2 l2 hunt
  obtain ⟨hev, d, hd, hst⟩ := hend
  exact ⟨hen.sameId, hev.trans ⟨fun t _ => hunt.journal? t, hunt.log⟩, d, (hunt.journal? _).trans hd, hst⟩

theorem revokeAndConclude_meets (hj : HoldsRemoval s j) (records : List OwnershipRecord) :
    Meets h envs (fun a s' l' => Evolves j.transactionId s l s' l' ∧
      (a = none → EndsIn j.transactionId .uninstalled s l s' l')) (revokeAndConclude env c j records) s l := by
  refine meets_bind (meets_look fun safe s1 l1 hk1 => ?_)
  cases safe with
  | some reason =>
    refine meets_bind (wp_imp (requireRecovery_removal (hj.congr (hk1.journal? _))) fun _ s2 l2 hrec => ?_)
    exact ⟨hk1.evolves.trans hrec.2, nofun⟩
  | none =>
    refine meets_bind (meets_look fun _ s2 l2 hk2 => ?_)
    have hk := hk1.trans hk2
    refine meets_bind (meets_moveRemoval (hj.congr (hk.journal? _)) (by decide) nofun
      fun j1 _ _ hput hevo hen => ?_)
    refine meets_bind (wp_imp (concludeUninstall_meets hput records) fun j2 s3 l3 hcon => ?_)
    have hev : Evolves j.transactionId s l s3 l3 :=
      (hk.evolves.trans hevo).trans (hen.sameId ▸ hcon.2.evolves)
    exact ⟨hev, fun _ => ⟨hev, hen.sameId ▸ hcon.2.ended⟩⟩

theorem recordUninstallFailure_meets {looped : UninstallLoopResult}
    (hb : RemovalOK s0 l0 j0 s l looped.journal) :
    Meets h envs (fun a s' l' => a.1.transactionId = j0.transactionId ∧ Evolves j0.transactionId s0 l0 s' l')
      (recordUninstallFailure looped) s l := by
  have hid : looped.journal.transactionId = j0.transactionId := hb.same.transactionId.symm
  unfold recordUninstallFailure
  split
  · refine meets_bind (wp_imp (requireRecovery_removal hb.holds) fun j' s' l' hrec => ?_)
    exact ⟨hrec.1.trans hid, hb.evolves.trans (hid ▸ hrec.2)⟩
  · refine meets_state fun ht => ?_
    refine meets_bind (meets_enterRemoval hb.holds ht (by decide)
      (fun _ => hb.same.state.symm.trans hb.uninstalling)
      (fun hp => ?_) ⟨rfl, rfl, rfl⟩ fun _ _ _ hev => ⟨hid, hb.evolves.trans (hid ▸ hev)⟩)
    rw [← hb.same.state, hb.uninstalling] at hp
    cases hp

theorem reenterUninstall_meets (hj : HoldsRemoval s j) :
    Meets h envs (fun j' s' l' => HoldsRemoval s' j' ∧ j'.transactionId = j.transactionId ∧
      Evolves j.transactionId s l s' l') (reenterUninstall j) s l := by
  unfold reenterUninstall
  split
  · refine meets_bind (meets_moveRemoval hj (by decide) nofun fun j1 _ _ hput hev hen => ?_)
    have hnew (hp : j1.state = .uninstallPlanned) : False := by rw [hen.state] at hp; cases hp
    split
    all_goals
      refine meets_moveRemoval hput (by decide) (fun _ hp => (hnew hp).elim) fun j2 _ _ hput2 hev2 hen2 => ?_
      exact ⟨hput2, hen2.sameId.trans hen.sameId, hev.trans (hen.sameId ▸ hev2)⟩
  · exact ⟨hj, rfl, .refl⟩

/-! ## Recovery of an uninstall -/

/-- A decision of recovery is about its journal, moves no other, and is true on disk. -/
structure Truthful (tid : TxId) (s : Store F) (l : Trace F) (s' : Store F) (l' : Trace F)
    (a : RecoveryDecision) : Prop where
  about : a.transactionId = tid
  evolves : Evolves tid s l s' l'
  resumed : a.action = .resume → ∃ d, s'.journal? tid = some d ∧ (d.state = .committed ∨ d.state = .uninstalled)
  rolledBack : a.action = .rollback → ∃ d, s'.journal? tid = some d ∧ d.state = .preparationFailed

variable {reason : String}

theorem truthful_manual {t : TxId} (ht : t = tid) (hev : Evolves tid s l s' l') :
    Truthful tid s l s' l' ⟨t, .requireManual, reason⟩ := ⟨ht, hev, nofun, nofun⟩

theorem truthful_resume {t : TxId} (ht : t = tid)
    (hst : st = .committed ∨ st = .uninstalled) (he : EndsIn tid st s l s' l') :
    Truthful tid s l s' l' ⟨t, .resume, reason⟩ := by
  obtain ⟨hev, d, hd, hs⟩ := he
  exact ⟨ht, hev, fun _ => ⟨d, hd, hs ▸ hst⟩, nofun⟩

theorem Truthful.after {a : RecoveryDecision} (ht : Truthful tid s' l' s'' l'' a)
    (hev : Evolves tid s l s' l') :
    Truthful tid s l s'' l'' a := ⟨ht.about, hev.trans ht.evolves, ht.resumed, ht.rolledBack⟩

theorem bailOut_meets {recorded reason : String}
    (hrec : Meets h envs (fun _ s' l' => Evolves j.transactionId s l s' l')
      (requireRecovery j [("reason", .str recorded)]) s l) :
    Meets h envs (fun a s' l' => Truthful j.transactionId s l s' l' a) (bailOut j recorded reason) s l := by
  unfold bailOut
  split
  · exact meets_bind (wp_imp hrec fun _ _ _ hev => truthful_manual rfl hev)
  · exact truthful_manual rfl .refl

theorem recoverRevocation_meets (hj : HoldsRemoval s j) :
    Meets h envs (fun a s' l' => Truthful j.transactionId s l s' l' a) (recoverRevocation env c j) s l := by
  unfold recoverRevocation
  split
  · refine meets_bind (wp_imp (concludeUninstall_meets hj _) fun j' s' l' hcon => ?_)
    exact truthful_resume hcon.1 (.inr rfl) hcon.2
  · refine meets_bind (wp_imp (revokeAndConclude_meets hj _) fun a s' l' hrev => ?_)
    cases a with
    | some reason => exact truthful_manual rfl hrev.1
    | none => exact truthful_resume rfl (.inr rfl) (hrev.2 rfl)

/-- **A resumed uninstall** tells the truth. -/
theorem recoverUninstall_meets (hj : HoldsRemoval s j) :
    Meets h envs (fun a s' l' => Truthful j.transactionId s l s' l' a) (recoverUninstall env c j) s l := by
  refine meets_bind (meets_look fun _ s1 l1 hk1 => ?_)
  have hj1 := hj.congr (hk1.journal? _)
  split
  · refine wp_imp (bailOut_meets (wp_imp (requireRecovery_removal hj1) fun _ _ _ hrec => hrec.2)) ?_
    exact fun a s' l' ht => ht.after hk1.evolves
  · refine meets_bind (wp_imp (reenterUninstall_meets hj1) fun j2 s2 l2 hre => ?_)
    obtain ⟨hj2, hid, hev2⟩ := hre
    have hev : Evolves j.transactionId s l s2 l2 := hk1.evolves.trans hev2
    rw [← hid] at hev ⊢
    split
    · rename_i hst
      refine meets_bind (wp_imp (runUninstallLoop_meets hj2 hst) fun looped s3 l3 hb => ?_)
      split
      · refine meets_bind (wp_imp (recordUninstallFailure_meets hb) fun a s4 l4 hrec => ?_)
        exact truthful_manual hrec.1 (hev.trans hrec.2)
      · refine meets_bind (meets_moveRemoval hb.holds (by decide) nofun fun j4 _ _ hput hev4 hen => ?_)
        have hid4 : j4.transactionId = j2.transactionId := hen.sameId.trans hb.same.transactionId.symm
        refine wp_imp (recoverRevocation_meets hput) fun a s' l' ht => ?_
        rw [hid4] at ht
        exact ht.after ((hev.trans hb.evolves).trans (hb.same.transactionId ▸ hev4))
    · exact wp_imp (recoverRevocation_meets hj2) fun a s' l' ht => ht.after hev

/-! ## A new uninstall -/

theorem startUninstall_meets {plan : UninstallPlan} {owned : List OwnershipRecord} (he : envs env)
    (hn : s.journal? plan.transactionId = none) (hp : NoPending s) :
    Meets h envs (fun _ _ _ => True) (startUninstall env c plan owned tid) s l := by
  refine meets_bind (meets_write (.createUninstall env plan he hn hp) ?_)
  refine meets_bind (meets_moveRemoval (holdsRemoval_put rfl) (by decide) (fun _ _ => ⟨s, l, rfl⟩)
    fun j1 _ _ hput _ hen => ?_)
  refine meets_bind (wp_imp (runUninstallLoop_meets hput hen.state) fun looped s2 l2 hb => ?_)
  split
  · exact meets_bind (wp_imp (recordUninstallFailure_meets hb) fun _ _ _ _ => trivial)
  refine meets_bind (meets_moveRemoval hb.holds (by decide) nofun fun j3 _ _ hput3 _ _ => ?_)
  refine meets_bind (wp_imp (revokeAndConclude_meets hput3 owned) fun a s' l' _ => ?_)
  cases a <;> trivial

end WatchdogVpn.Provisioning
