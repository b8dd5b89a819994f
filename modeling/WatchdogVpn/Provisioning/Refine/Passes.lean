import WatchdogVpn.Provisioning.Refine.Removal

/-!
# Every run of the engine is lawful

Recovery, `prepare` and `uninstall` against the protocol, and the theorem the history results rest
on.

* `recoverOne_meets`: the decision on one journal is true on disk.
* `recoverPendingLocked_meets`: so are all decisions of a pass, and every journal that still needs
  attention has one that asks for manual recovery.
* **`engine_lawful`**: every history of engine invocations, each killed anywhere, over any host and
  from any state root, is a history of the protocol.
-/

namespace WatchdogVpn.Provisioning

open Effect List

variable {F : Type} {h : Host F} {envs : ProvisioningEnvironment → Prop} {env : ProvisioningEnvironment}
  {s s' s'' s0 : Store F} {l l' l'' : Trace F} {executor : Executor} {plan : ProvisioningPlan}
  {c : ExecutionContext} {j j' d : TransactionJournal} {tid : TxId}

/-! ## Rollback and resumption -/

section

variable (hv : Serving envs s executor plan j)
include hv

theorem rollBackAndDecide_meets (hst : j.state = .rollingBack)
    (hen : ∃ ev ∈ l, EntersRollback j.transactionId j ev) :
    Meets h envs (fun a s' l' => Truthful j.transactionId s l s' l' a)
      (rollBackAndDecide c executor j) s l := by
  refine meets_bind (wp_imp (runRollback_meets hv hst hen) fun a s1 l1 hrb => ?_)
  obtain ⟨hp, -, hclean⟩ := hrb
  obtain ⟨j1, residuals⟩ := a
  have hid := hp.sameId
  change Meets h envs _ (finalizeRecoveryRollback c j1 residuals) s1 l1
  unfold finalizeRecoveryRollback
  split
  · rename_i hres
    refine meets_bind (wp_imp (concludeRollback_meets hp.serving.holds hp.serving.operation (hclean hres)) ?_)
    intro j' s' l' hcon
    rw [hid] at hcon
    exact ⟨hcon.1, hp.evolves.trans hcon.2.evolves, nofun, fun _ => hcon.2.ended⟩
  · refine meets_bind (wp_imp (failRollback_meets hp.serving.holds hp.serving.operation _)
      fun j' s' l' hf => ?_)
    rw [hid] at hf
    exact truthful_manual hf.1 (hp.evolves.trans hf.2)

theorem enterRecoveryRollback_meets
    (hst : j.state = .rollingBack → ∃ ev ∈ l, EntersRollback j.transactionId j ev) :
    Meets h envs (fun j' s' l' => Progress envs executor plan s l j s' l' j' ∧ j'.state = .rollingBack ∧
      ∃ ev ∈ l', EntersRollback j'.transactionId j' ev) (enterRecoveryRollback j) s l := by
  unfold enterRecoveryRollback
  split
  · rename_i hne
    refine meets_state fun ht => ?_
    refine meets_bind (meets_enter hv.holds hv.operation ht trivial rfl fun ev hev hen => ?_)
    refine ⟨progress_put hv hen.plain ev, hen.state, ev, mem_cons_self, ?_⟩
    rw [hev]
    exact entersRollback_write hv.holds hne hen
  · rename_i hrb
    exact ⟨Kept.refl.progress hv, not_not.mp hrb, hst (not_not.mp hrb)⟩

theorem resumeForward_meets (hst : j.state = .recovering ∨ j.state = .applying ∨ j.state = .verifying) :
    Meets h envs (fun a s' l' => Truthful j.transactionId s l s' l' a)
      (resumeForward c executor plan j) s l := by
  have hmove : Meets h envs (fun j' s' l' => Progress envs executor plan s l j s' l' j' ∧
      (j'.state = .applying ∨ j'.state = .verifying)) (moveIf (j.state = .recovering) j .applying) s l := by
    refine meets_moveIf hv.holds hv.operation (fun hr => .inl hr) ?_ fun hn => ?_
    · intro j' ev _ _ _ hen
      exact ⟨progress_put hv hen.plain ev, .inl hen.state⟩
    · exact ⟨Kept.refl.progress hv, hst.resolve_left hn⟩
  refine meets_bind (wp_imp hmove fun j1 s1 l1 hmv => ?_)
  obtain ⟨hp1, hst1⟩ := hmv
  refine meets_bind (wp_imp (applyAndVerify_meets hp1.serving hst1) fun a s2 l2 happ => ?_)
  have hp2 := hp1.trans happ.progress
  have hid := hp2.sameId
  split
  · rename_i hok
    obtain ⟨hver, hall, hpost⟩ := happ.success hok
    refine meets_bind (wp_imp (publishAndCommit_meets hp2.serving hver hall hpost _) fun b s3 l3 hpub => ?_)
    rw [hid] at hpub
    cases b with
    | none => exact truthful_manual hid (hp2.evolves.trans hpub.1)
    | some j3 =>
      obtain ⟨hid3, hend⟩ := hpub.2 j3 rfl
      exact truthful_resume hid3 (.inl rfl) ⟨hp2.evolves.trans hend.evolves, hend.ended⟩
  rename_i hok
  rw [Bool.not_eq_true] at hok
  split
  · exact truthful_manual hid hp2.evolves
  rename_i hdur
  rw [Bool.not_eq_true] at hdur
  have hent : a.journal.state = .rollingBack →
      ∃ ev ∈ l2, EntersRollback a.journal.transactionId a.journal ev := by
    intro hrb
    rcases happ.stopped hok hdur with hs | hs | ⟨-, hs⟩
    · rw [hs] at hrb; cases hrb
    · rw [hs] at hrb; cases hrb
    · exact hs
  refine meets_bind (wp_imp (enterRecoveryRollback_meets hp2.serving hent) fun j3 s3 l3 hen => ?_)
  obtain ⟨hp3, hst3, hev3⟩ := hen
  refine wp_imp (rollBackAndDecide_meets hp3.serving hst3 hev3) fun a s' l' ht => ?_
  have hp := hp2.trans hp3
  rw [hp.sameId] at ht
  exact ht.after hp.evolves

theorem resumeBackward_meets (hst : j.state = .recovering ∨ j.state = .applying ∨
      j.state = .rollingBack ∧ ∃ ev ∈ l, EntersRollback j.transactionId j ev) :
    Meets h envs (fun a s' l' => Truthful j.transactionId s l s' l' a) (resumeBackward c executor j) s l := by
  have hmove : Meets h envs (fun j' s' l' => Progress envs executor plan s l j s' l' j' ∧
      j'.state = .rollingBack ∧ ∃ ev ∈ l', EntersRollback j'.transactionId j' ev)
      (moveIf (j.state = .recovering ∨ j.state = .applying) j .rollingBack) s l := by
    refine meets_moveIf hv.holds hv.operation (fun _ => trivial) ?_ fun hn => ?_
    · intro j' ev hc hev _ hen
      have hne : j.state ≠ .rollingBack := by rcases hc with hc | hc <;> rw [hc] <;> decide
      refine ⟨progress_put hv hen.plain ev, hen.state, ev, mem_cons_self, ?_⟩
      rw [hev]
      exact entersRollback_write hv.holds hne hen
    · rcases hst with hs | hs | hs
      · exact absurd (.inl hs) hn
      · exact absurd (.inr hs) hn
      · exact ⟨Kept.refl.progress hv, hs⟩
  refine meets_bind (wp_imp hmove fun j1 s1 l1 hmv => ?_)
  obtain ⟨hp1, hst1, hen1⟩ := hmv
  refine wp_imp (rollBackAndDecide_meets hp1.serving hst1 hen1) fun a s' l' ht => ?_
  rw [hp1.sameId] at ht
  exact ht.after hp1.evolves

end

/-! ## The boundary -/

/-- Which verdicts a state can get. -/
def VerdictFits (st : TransactionState) : Verdict → Prop
  | .resumeApply => st = .applying ∨ st = .recoveryRequired ∨ st = .recovering ∨ st = .verifying ∨
      st = .prepareTerminalPrepared
  | .resumeRollback => st = .rollingBack ∨ st = .applying ∨ st = .recoveryRequired ∨ st = .recovering
  | .ambiguous => True

theorem inspectRecoveryBoundary_meets : Meets h envs (fun v s' l' => Kept s l s' l' ∧ VerdictFits j.state v.1)
      (liftM (inspectRecoveryBoundary executor j)) s l := by
  refine wp_mono (wp_look_meets ?_) (fun _ _ _ h => h) (fun _ _ _ h => h) fun _ _ _ _ => trivial
  -- in the states whose steps are inspected every verdict fits
  have hany (hst : j.state = .applying ∨ j.state = .recoveryRequired ∨ j.state = .recovering) v :
      VerdictFits j.state v := by
    cases v <;> simp only [VerdictFits] <;> tauto
  unfold inspectRecoveryBoundary
  split
  · rename_i hst; rw [hst]; exact .inl rfl
  · rename_i hst; exact meets_look fun v _ _ _ => hany (.inl hst) v.1
  · rename_i hst; exact meets_look fun v _ _ _ => hany (.inr (.inl hst)) v.1
  · rename_i hst; exact meets_look fun v _ _ _ => hany (.inr (.inr hst)) v.1
  · rename_i hst; rw [hst]; exact .inr (.inr (.inr (.inl rfl)))
  · rename_i hst; rw [hst]; exact .inr (.inr (.inr (.inr rfl)))
  · trivial

theorem resumePrepare_meets (hv : Serving envs s executor plan j)
    (hread : ∃ pre, (⟨pre, .readJournal j.transactionId, some (.ok j)⟩ : Event Ans (Store F)) ∈ l) :
    Meets h envs (fun a s' l' => Truthful j.transactionId s l s' l' a)
      (resumePrepare c executor plan j) s l := by
  refine meets_bind (wp_imp inspectRecoveryBoundary_meets fun v s1 l1 hv1 => ?_)
  obtain ⟨verdict, reason⟩ := v
  obtain ⟨hk1, hfit⟩ := hv1
  have hserv1 := hk1.serving hv
  have hrec : Meets h envs (fun _ s' l' => Evolves j.transactionId s1 l1 s' l')
      (requireRecovery j [("reason", .str reason)]) s1 l1 :=
    meets_requireRecovery hserv1.holds hv.operation fun j' ev _ hen => hen.sameId ▸ evolves_put ev
  simp only at hfit ⊢
  split
  · -- nobody knows what happened to the step, so nothing is done
    exact wp_imp (bailOut_meets hrec) fun a s' l' ht => ht.after hk1.evolves
  rename_i hamb
  have hmove : Meets h envs (fun j' s' l' => Progress envs executor plan s l j s' l' j' ∧
      (j.state = .recoveryRequired ∧ j'.state = .recovering ∨ j.state ≠ .recoveryRequired ∧ j' = j))
      (moveIf (j.state = .recoveryRequired) j .recovering) s1 l1 := by
    refine meets_moveIf hserv1.holds hv.operation (fun _ => trivial) ?_ fun hn => ?_
    · intro j' ev hc _ _ hen
      exact ⟨(hk1.progress hv).trans (progress_put hserv1 hen.plain ev), .inl ⟨hc, hen.state⟩⟩
    · exact ⟨hk1.progress hv, .inr ⟨hn, rfl⟩⟩
  refine meets_bind (wp_imp hmove fun j2 s2 l2 hmv => ?_)
  obtain ⟨hp2, hst2⟩ := hmv
  have haft {a : RecoveryDecision} {s' : Store F} {l' : Trace F}
      (ht : Truthful j2.transactionId s2 l2 s' l' a) : Truthful j.transactionId s l s' l' a := by
    rw [hp2.sameId] at ht
    exact ht.after hp2.evolves
  split
  · rename_i hptp
    refine meets_bind (meets_look fun _ s3 l3 hk3 => ?_)
    refine meets_bind
      (wp_imp (commitPrepared_meets (hk3.holds hp2.serving.holds) hp2.serving.operation hptp _) ?_)
    intro j4 s4 l4 hcom
    exact haft ((truthful_resume hcom.1 (.inl rfl) hcom.2).after hk3.evolves)
  split
  · rename_i happ
    rw [happ] at hfit
    refine wp_imp (resumeForward_meets hp2.serving ?_) fun a s' l' ht => haft ht
    rcases hst2 with ⟨-, hs⟩ | ⟨hne, rfl⟩
    · exact .inl hs
    · simp only [VerdictFits] at hfit
      tauto
  · rename_i hback
    have hverd : verdict = .resumeRollback := by
      cases verdict with
      | resumeApply => exact absurd rfl hback
      | resumeRollback => rfl
      | ambiguous => exact absurd rfl hamb
    rw [hverd] at hfit
    refine wp_imp (resumeBackward_meets hp2.serving ?_) fun a s' l' ht => haft ht
    rcases hst2 with ⟨-, hs⟩ | ⟨hne, rfl⟩
    · exact .inl hs
    -- a journal that is read while rolling back shows that the rollback was entered
    obtain ⟨pre, hm⟩ := hread
    have hen hrb : ∃ ev ∈ l2, EntersRollback j2.transactionId j2 ev :=
      ⟨_, hp2.evolves.log.subset hm, .read pre hrb⟩
    simp only [VerdictFits] at hfit
    tauto

/-! ## Recovery of one journal -/

theorem holds_of_journal (hj : s.journal? j.transactionId = some j) : Holds s j := ⟨j, hj, .inl rfl⟩

theorem holdsRemoval_of_journal (hj : s.journal? j.transactionId = some j) (ho : j.operation = .uninstall) :
    HoldsRemoval s j := ⟨j, hj, rfl, ⟨ho, ho⟩, rfl, rfl, rfl⟩

theorem requireRecovery_read {reason : Dict} (hj : s.journal? j.transactionId = some j) :
    Meets h envs (fun j' s' l' => j'.transactionId = j.transactionId ∧ Evolves j.transactionId s l s' l')
      (requireRecovery j reason) s l := by
  by_cases ho : j.operation = .uninstall
  · exact requireRecovery_removal (holdsRemoval_of_journal hj ho)
  · exact meets_requireRecovery (holds_of_journal hj) ho fun j' ev _ hen =>
      ⟨hen.sameId, hen.sameId ▸ evolves_put ev⟩

theorem bailOut_read {recorded reason : String} (hj : s.journal? j.transactionId = some j) :
    Meets h envs (fun a s' l' => Truthful j.transactionId s l s' l' a) (bailOut j recorded reason) s l :=
  bailOut_meets (wp_imp (requireRecovery_read hj) fun _ _ _ hrec => hrec.2)

theorem recoverPrepare_meets (he : envs env) (hj : s.journal? j.transactionId = some j)
    (ho : j.operation ≠ .uninstall)
    (hread : ∃ pre, (⟨pre, .readJournal j.transactionId, some (.ok j)⟩ : Event Ans (Store F)) ∈ l) :
    Meets h envs (fun a s' l' => Truthful j.transactionId s l s' l' a) (recoverPrepare env c j) s l := by
  unfold recoverPrepare
  split
  · exact bailOut_read hj
  rename_i registered hres
  split
  · split
    · exact bailOut_read hj
    · trivial
  rename_i executor hbind
  split
  · split
    · exact bailOut_read hj
    · trivial
  rename_i plan hplan
  refine meets_bind (meets_look fun _ s1 l1 hk => ?_)
  have hj1 : s1.journal? j.transactionId = some j := (hk.journal? _).trans hj
  have hbail {recorded reason : String} : Meets h envs (fun a s' l' => Truthful j.transactionId s l s' l' a)
      (bailOut j recorded reason) s1 l1 := wp_imp (bailOut_read hj1) fun a s' l' ht => ht.after hk.evolves
  split
  · exact hbail
  split
  · exact hbail
  rename_i hmatch
  split
  · exact hbail
  have hv : Serving envs s1 executor plan j :=
    ⟨holds_of_journal hj1, ho, ⟨env, registered, he, hres, .inr ⟨j, hbind⟩⟩, hplan, by simpa using hmatch⟩
  obtain ⟨pre, hm⟩ := hread
  exact wp_imp (resumePrepare_meets hv ⟨pre, hk.log.subset hm⟩) fun a s' l' ht => ht.after hk.evolves

/-- **Recovery of one journal** tells the truth. -/
theorem recoverOne_meets (he : envs env) (hj : s.journal? j.transactionId = some j)
    (hread : ∃ pre, (⟨pre, .readJournal j.transactionId, some (.ok j)⟩ : Event Ans (Store F)) ∈ l) :
    Meets h envs (fun a s' l' => Truthful j.transactionId s l s' l' a) (recoverOne env c j) s l := by
  unfold recoverOne
  split
  · exact meets_bind (wp_imp (requireRecovery_read hj) fun j' s' l' hrec => truthful_manual hrec.1 hrec.2)
  split
  · exact meets_bind (wp_imp (requireRecovery_read hj) fun j' s' l' hrec => truthful_manual hrec.1 hrec.2)
  split
  · rename_i ho
    exact recoverUninstall_meets (holdsRemoval_of_journal hj ho)
  · rename_i ho
    exact recoverPrepare_meets he hj ho hread

/-! ## A recovery pass -/

/-- The journal was read between the two logs. -/
def ReadBetween (l l' : Trace F) (t : TxId) : Prop :=
  ∃ later pre j, l' = later ++ l ∧ ⟨pre, .readJournal t, some (.ok j)⟩ ∈ later

theorem ReadBetween.before {t : TxId} (hr : ReadBetween l' l'' t) (hl : l <:+ l') : ReadBetween l l'' t := by
  obtain ⟨later, pre, j, rfl, hm⟩ := hr
  obtain ⟨mid, rfl⟩ := hl
  exact ⟨later ++ mid, pre, j, (append_assoc _ _ _).symm, mem_append_left _ hm⟩

theorem ReadBetween.after {t : TxId} (hr : ReadBetween l l' t) (hl : l' <:+ l'') : ReadBetween l l'' t := by
  obtain ⟨later, pre, j, rfl, hm⟩ := hr
  obtain ⟨mid, rfl⟩ := hl
  exact ⟨mid ++ later, pre, j, (append_assoc _ _ _).symm, mem_append_right _ hm⟩

/-- A pass over the journals listed as `ids`: each decision is true on disk, and every listed
journal that still needs attention, or that no read got hold of, has a manual one. -/
structure PassOK (ids : List TxId) (s : Store F) (l : Trace F) (s' : Store F) (l' : Trace F)
    (ds : List RecoveryDecision) : Prop where
  others : ∀ t, t ∉ ids → s'.journal? t = s.journal? t
  absent : ∀ t, s.journal? t = none → s'.journal? t = none
  log : l <:+ l'
  about : ∀ a ∈ ds, a.transactionId ∈ ids
  resumed : ∀ a ∈ ds, a.action = .resume →
    ∃ d, s'.journal? a.transactionId = some d ∧ (d.state = .committed ∨ d.state = .uninstalled)
  rolledBack : ∀ a ∈ ds, a.action = .rollback →
    ∃ d, s'.journal? a.transactionId = some d ∧ d.state = .preparationFailed
  manual : ∀ t ∈ ids, (∀ d, s'.journal? t = some d → d.state ∈ needsRecoveryAttention) ∨ ¬ ReadBetween l l' t →
    ∃ a ∈ ds, a.transactionId = t ∧ a.action = .requireManual

theorem Truthful.manual {a : RecoveryDecision} (ha : Truthful tid s l s' l' a)
    (hd : ∀ d, s'.journal? tid = some d → d.state ∈ needsRecoveryAttention) : a.action = .requireManual := by
  cases hact : a.action with
  | requireManual => rfl
  | resume =>
    obtain ⟨d, hj, hst⟩ := ha.resumed hact
    have hneed := hd d hj
    rcases hst with hst | hst <;> rw [hst] at hneed <;> exact absurd hneed (by decide)
  | rollback =>
    obtain ⟨d, hj, hst⟩ := ha.rolledBack hact
    have hneed := hd d hj
    rw [hst] at hneed
    exact absurd hneed (by decide)

variable {ds : List RecoveryDecision}

theorem PassOK.cons {ids : List TxId} {a : RecoveryDecision} (hn : tid ∉ ids)
    (ha : Truthful tid s l s' l' a) (hread : a.action = .requireManual ∨ ReadBetween l l' tid)
    (habs : ∀ t, s.journal? t = none → s'.journal? t = none)
    (hp : PassOK ids s' l' s'' l'' ds) : PassOK (tid :: ids) s l s'' l'' (a :: ds) where
  others t ht := by
    rw [mem_cons, not_or] at ht
    exact (hp.others t ht.2).trans (ha.evolves.others t ht.1)
  absent t ht := hp.absent t (habs t ht)
  log := ha.evolves.log.trans hp.log
  about b hb := by
    rcases mem_cons.mp hb with rfl | hb
    · rw [ha.about]; exact mem_cons_self
    · exact mem_cons_of_mem _ (hp.about b hb)
  resumed := by
    refine forall_mem_cons.mpr ⟨?_, hp.resumed⟩
    rw [ha.about, hp.others tid hn]
    exact ha.resumed
  rolledBack := by
    refine forall_mem_cons.mpr ⟨?_, hp.rolledBack⟩
    rw [ha.about, hp.others tid hn]
    exact ha.rolledBack
  manual t ht hd := by
    rcases mem_cons.mp ht with rfl | ht
    · refine ⟨a, mem_cons_self, ha.about, ?_⟩
      rcases hd with hd | hd
      · rw [hp.others t hn] at hd
        exact ha.manual hd
      · exact hread.resolve_right fun hr => hd (hr.after hp.log)
    · obtain ⟨b, hb, hab⟩ := hp.manual t ht (hd.imp_right fun hn hr => hn (hr.before ha.evolves.log))
      exact ⟨b, mem_cons_of_mem _ hb, hab⟩

theorem PassOK.skip {ids : List TxId} (hn : tid ∉ ids) (hk : Kept s l s' l') (hread : ReadBetween l l' tid)
    (hj : s.journal? tid = some j) (hst : j.state ∉ needsRecoveryAttention)
    (hp : PassOK ids s' l' s'' l'' ds) : PassOK (tid :: ids) s l s'' l'' ds where
  others t ht := by
    rw [mem_cons, not_or] at ht
    exact (hp.others t ht.2).trans (hk.journal? t)
  absent t ht := hp.absent t ((hk.journal? t).trans ht)
  log := hk.log.trans hp.log
  about b hb := mem_cons_of_mem _ (hp.about b hb)
  resumed := hp.resumed
  rolledBack := hp.rolledBack
  manual t ht hd := by
    rcases mem_cons.mp ht with rfl | ht
    · rcases hd with hd | hd
      · exact absurd (hd j ((hp.others t hn).trans ((hk.journal? t).trans hj))) hst
      · exact absurd (hread.after hp.log) hd
    · exact hp.manual t ht (hd.imp_right fun hn hr => hn (hr.before hk.log))

theorem recoverEach_meets (he : envs env) (ids : List TxId) : ids.Nodup → ∀ s l,
    Meets h envs (fun ds s' l' => PassOK ids s l s' l' ds) (recoverEach env c ids) s l := by
  induction ids with
  | nil =>
    intro _ s l
    exact ⟨fun _ _ => rfl, fun _ ht => ht, suffix_refl _, by simp, by simp, by simp, by simp⟩
  | cons tid ids ih =>
    intro hnd s l
    obtain ⟨hn, hnd'⟩ := nodup_cons.mp hnd
    refine meets_bind (meets_ask trivial fun a s1 hs hk => ?_)
    have habs : ∀ t, s.journal? t = none → s1.journal? t = none := fun t ht => (hk.journal? t).trans ht
    cases a with
    | error x =>
      refine meets_bind (wp_imp (ih hnd' s1 _) fun ds s2 l2 hp => ?_)
      exact hp.cons hn (truthful_manual rfl hk.evolves) (.inl rfl) habs
    | ok j =>
      have hj : s.journal? tid = some j := hs.2 j rfl
      obtain ⟨-, rfl⟩ := journal?_eq_some hj
      have hread : ReadBetween l (⟨s, .readJournal j.transactionId, some (.ok j)⟩ :: l) j.transactionId :=
        ⟨[_], s, j, rfl, mem_cons_self⟩
      simp only
      split
      · rename_i hst
        exact wp_imp (ih hnd' s1 _) fun ds s2 l2 hp => hp.skip hn hk hread hj hst
      · have hj1 : s1.journal? j.transactionId = some j := (hk.journal? _).trans hj
        refine meets_bind (wp_imp (recoverOne_meets he hj1 ⟨s, mem_cons_self⟩) fun a s2 l2 ht => ?_)
        refine meets_bind (wp_imp (ih hnd' s2 l2) fun ds s3 l3 hp => ?_)
        refine hp.cons hn (ht.after hk.evolves) (.inr (hread.after ht.evolves.log)) fun t hnone => ?_
        have hne : t ≠ j.transactionId := fun e => by rw [e, hj] at hnone; cases hnone
        exact (ht.evolves.others t hne).trans (habs t hnone)

/-- What a recovery pass leaves: it could not list the journals and says so, or it went over all of
them. -/
def PendingOK (s : Store F) (l : Trace F) (s' : Store F) (l' : Trace F) (ds : List RecoveryDecision) : Prop :=
  (Kept s l s' l' ∧ ∃ reason, ds = [⟨"<state-scan>", .requireManual, reason⟩]) ∨
  ∃ ids, ⟨s, .listTransactionIds, some (.ok ids)⟩ :: l <:+ l' ∧ PassOK ids s l s' l' ds ∧
    ∀ t, s'.journal? t ≠ none → t ∈ ids

/-- **A recovery pass** tells the truth about every journal of the state root. -/
theorem recoverPendingLocked_meets (he : envs env) :
    Meets h envs (fun ds s' l' => PendingOK s l s' l' ds) (recoverPendingLocked env c) s l := by
  refine meets_bind (meets_ask trivial fun a s1 hs hk => ?_)
  cases a with
  | error x => exact .inl ⟨hk, _, rfl⟩
  | ok ids =>
    obtain ⟨rfl, hids⟩ := hs
    obtain ⟨hnd, hall⟩ := hids ids rfl
    refine wp_imp (recoverEach_meets he ids hnd s1 _) fun ds s' l' hp => ?_
    refine .inr ⟨ids, hp.log, { hp with
      log := hk.log.trans hp.log
      manual := fun t ht hd => hp.manual t ht (hd.imp_right fun hn hr => hn (hr.before hk.log)) },
      fun t ht => hall t fun hnone => ?_⟩
    exact ht (hp.absent t hnone)

theorem PendingOK.noPending (hp : PendingOK s l s' l' ds) (hb : blockingIds ds = []) : NoPending s' := by
  have hno : ∀ a ∈ ds, a.action ≠ .requireManual := by
    intro a ha hact
    have hmem : a.transactionId ∈ blockingIds ds :=
      mem_map_of_mem (mem_filter.mpr ⟨ha, by rw [hact]; rfl⟩)
    rw [hb] at hmem
    cases hmem
  rcases hp with ⟨-, reason, rfl⟩ | ⟨ids, -, hpass, hall⟩
  · exact absurd rfl (hno _ mem_cons_self)
  intro t d hd hneed
  have ht : t ∈ ids := hall t (by rw [hd]; exact Option.some_ne_none d)
  have hnow : ∀ d', s'.journal? t = some d' → d'.state ∈ needsRecoveryAttention := by
    intro d' hd'
    rw [hd] at hd'
    cases hd'
    exact hneed
  obtain ⟨a, ha, -, hact⟩ := hpass.manual t ht (.inl hnow)
  exact hno a ha hact

theorem PendingOK.absent (hp : PendingOK s l s' l' ds) (hn : s.journal? tid = none) :
    s'.journal? tid = none := by
  rcases hp with ⟨hk, -⟩ | ⟨ids, -, hpass, -⟩
  · exact (hk.journal? tid).trans hn
  · exact hpass.absent tid hn

/-! ## A new transaction -/

theorem stepsMatchExactly_planned (plan : ProvisioningPlan) :
    stepsMatchExactly (plan.steps.map plannedRecord) plan.steps = true := by
  have hseq : (plan.steps.map plannedRecord).map (·.sequence) = plan.steps.map (·.sequence) := by
    rw [map_map]; rfl
  have hnd : (plan.steps.map (·.sequence)).Nodup :=
    pairwise_map.mpr (plan.increasing.imp fun hlt => hlt.ne)
  rw [stepsMatchExactly_iff, hseq, length_map]
  refine ⟨rfl, hnd, sameSet_iff.mpr ⟨fun _ hx => hx, fun _ hx => hx⟩, fun r hr => ?_⟩
  obtain ⟨p, hp, rfl⟩ := mem_map.mp hr
  have hfind : stepWithSequence plan.steps (plannedRecord p).sequence = some p := by
    unfold stepWithSequence
    cases hf : plan.steps.find? fun s => s.sequence == (plannedRecord p).sequence with
    | none => exact absurd (find?_eq_none.mp hf p hp) (by simp [plannedRecord])
    | some x =>
      have hx : x.sequence = p.sequence := by simpa [plannedRecord] using find?_some hf
      rw [inj_on_of_nodup_map hnd (mem_of_find?_eq_some hf) hp hx]
  unfold stepMatches
  rw [hfind]
  simp [plannedRecord]

theorem resolve_version {reg : TrustedExecutorRegistry} {kind id version : String} {e : RegisteredExecutor}
    (hr : reg.resolve kind id version = .ok e) : e.executorVersion = version := by
  unfold TrustedExecutorRegistry.resolve at hr
  split at hr
  · cases hr
  split at hr
  · cases hr
  rename_i hv
  cases hr
  exact not_not.mp hv

variable {decision : ResolutionDecision} {registered : RegisteredExecutor}

theorem buildPlan_ok (hb : buildPlan env decision = .ok (plan, registered)) :
    ∃ methodId methodKind target architecture steps,
      env.registry.resolve methodKind methodId env.expectedExecutorVersion = .ok registered ∧
      registered.planSteps decision.capabilityId decision.dependencyId = .ok steps ∧
      ProvisioningPlan.build
        (decisionHeader decision registered.toExecutor methodId methodKind target architecture)
          steps = .ok plan := by
  unfold buildPlan at hb
  simp only at hb
  split at hb
  · cases hb
  split at hb
  · cases hb
  obtain ⟨executor, hres, hb⟩ := except_bind_ok hb
  split at hb
  · cases hb
  split at hb
  · obtain ⟨steps, hsteps, hb⟩ := except_bind_ok hb
    obtain ⟨plan', hplan, hb⟩ := except_bind_ok hb
    cases hb
    exact ⟨_, _, _, _, steps, hres, hsteps, hplan⟩
  · cases hb

theorem buildPlan_resolves (hb : buildPlan env decision = .ok (plan, registered)) :
    env.registry.resolve plan.selectedMethodKind plan.selectedMethodId plan.executorVersion =
      .ok registered := by
  obtain ⟨methodId, methodKind, target, architecture, steps, hres, hsteps, hplan⟩ := buildPlan_ok hb
  have hhead := (build_ok hplan).1
  have hid : plan.selectedMethodId = methodId := congrArg PlanHeader.selectedMethodId hhead
  have hkind : plan.selectedMethodKind = methodKind := congrArg PlanHeader.selectedMethodKind hhead
  have hver : plan.executorVersion = env.expectedExecutorVersion :=
    (congrArg PlanHeader.executorVersion hhead).trans (resolve_version hres)
  rw [hid, hkind, hver]
  exact hres

theorem buildPlan_rebuilt (hb : buildPlan env decision = .ok (plan, registered)) :
    rebuildPlan registered.toExecutor (initialJournal env plan tid) = .ok plan := by
  obtain ⟨methodId, methodKind, target, architecture, steps, hres, hsteps, hplan⟩ := buildPlan_ok hb
  have hhead := (build_ok hplan).1
  have hcap : plan.capabilityId = decision.capabilityId := congrArg PlanHeader.capabilityId hhead
  have hdep : plan.dependencyId = decision.dependencyId := congrArg PlanHeader.dependencyId hhead
  have hpost : registered.postconditionDescription = plan.postcondition :=
    (congrArg PlanHeader.postcondition hhead).symm
  have hself := build_self plan
  rw [(build_ok hplan).2] at hself
  unfold rebuildPlan
  simp only [initialJournal]
  rw [hcap, hdep, hsteps, hpost, ← hcap, ← hdep]
  exact hself

theorem buildPlan_bound (he : envs env) (hb : buildPlan env decision = .ok (plan, registered)) :
    Bound envs registered.toExecutor plan (initialJournal env plan tid) :=
  ⟨⟨env, registered, he, buildPlan_resolves hb, .inl rfl⟩, buildPlan_rebuilt hb, stepsMatchExactly_planned plan⟩

theorem finishPrepare_meets {a : ApplyResult} (happ : AppliedOK envs executor plan s l j s' l' a) :
    Meets h envs (fun _ _ _ => True) (finishPrepare c executor plan a tid) s' l' := by
  have hserv := happ.progress.serving
  unfold finishPrepare
  split
  · trivial
  rename_i hdur
  rw [Bool.not_eq_true] at hdur
  split
  · rename_i hok
    obtain ⟨hver, hall, hpost⟩ := happ.success hok
    refine meets_bind (wp_imp (publishAndCommit_meets hserv hver hall hpost _) fun b _ _ _ => ?_)
    cases b <;> trivial
  rename_i hok
  rw [Bool.not_eq_true] at hok
  have hmove : Meets h envs (fun j' s'' l'' => Progress envs executor plan s' l' a.journal s'' l'' j' ∧
      j'.state = .rollingBack ∧ ∃ ev ∈ l'', EntersRollback j'.transactionId j' ev)
      (moveIf (a.journal.state ≠ .rollingBack) a.journal .rollingBack) s' l' := by
    refine meets_moveIf hserv.holds hserv.operation (fun _ => trivial) ?_ fun hn => ?_
    · intro j' ev hne hev _ hen
      refine ⟨progress_put hserv hen.plain ev, hen.state, ev, mem_cons_self, ?_⟩
      rw [hev]
      exact entersRollback_write hserv.holds hne hen
    · have hrb := not_not.mp hn
      rcases happ.stopped hok hdur with hs | hs | ⟨-, hs⟩
      · rw [hs] at hrb; cases hrb
      · rw [hs] at hrb; cases hrb
      · exact ⟨Kept.refl.progress hserv, hrb, hs⟩
  refine meets_bind (wp_imp hmove fun j1 s1 l1 hmv => ?_)
  obtain ⟨hp1, hst1, hen1⟩ := hmv
  refine meets_bind (wp_imp (runRollback_meets hp1.serving hst1 hen1) fun b s2 l2 hrb => ?_)
  obtain ⟨j2, residuals⟩ := b
  obtain ⟨hp2, -, hclean⟩ := hrb
  simp only at hclean ⊢
  split
  · rename_i hres
    exact meets_bind (wp_imp (concludeRollback_meets hp2.serving.holds hp2.serving.operation (hclean hres))
      fun _ _ _ _ => trivial)
  · exact meets_bind (wp_imp (failRollback_meets hp2.serving.holds hp2.serving.operation _)
      fun _ _ _ _ => trivial)

section

variable (he : envs env) (hid : isIdentifier tid = true)
  (hb : Bound envs executor plan (initialJournal env plan tid))
  (hn : s.journal? tid = none)
include he hid hb hn

theorem startTransaction_meets (hp : NoPending s) :
    Meets h envs (fun _ _ _ => True) (startTransaction env c executor plan tid) s l := by
  refine meets_bind (meets_write (.create env executor plan tid he hid hb hn hp) ?_)
  have hv : Serving envs (s.putJournal (initialJournal env plan tid)) executor plan
      (initialJournal env plan tid) :=
    ⟨holds_put, by simp [initialJournal], hb⟩
  refine meets_bind (meets_moveTo hv.holds hv.operation ⟨s, l, rfl⟩ fun j1 ev1 hev1 _ hen1 => ?_)
  have hv1 := (progress_put (l := l) hv hen1.plain ev1).serving
  refine meets_bind (meets_moveTo hv1.holds hv1.operation (.inr ⟨_, _, by rw [hev1]⟩) fun j2 ev2 _ _ hen2 => ?_)
  have hv2 := (progress_put (l := l) hv1 hen2.plain ev2).serving
  refine meets_bind (wp_imp (applyAndVerify_meets hv2 (.inl hen2.state)) fun a s3 l3 happ => ?_)
  exact finishPrepare_meets happ

theorem prepareLocked_meets : Meets h envs (fun _ _ _ => True) (prepareLocked env executor plan tid) s l := by
  refine meets_bind (meets_ask trivial fun a s1 _ hk1 => meets_bind (meets_ofExcept fun _ _ => ?_))
  refine meets_bind (meets_look fun c s2 l2 hk2 => meets_bind (meets_look fun _ s3 l3 hk3 => ?_))
  have hk := (hk1.trans hk2).trans hk3
  refine meets_bind (wp_imp (recoverPendingLocked_meets he) fun reports s4 l4 hpend => ?_)
  split
  · trivial
  rename_i hblk
  have hnp := hpend.noPending (not_not.mp hblk)
  have hn4 : s4.journal? tid = none := hpend.absent ((hk.journal? tid).trans hn)
  refine meets_bind (meets_look fun existing s5 l5 hk5 => meets_bind (meets_look fun idem s6 l6 hk6 => ?_))
  have hk' := hk5.trans hk6
  split
  · trivial
  · trivial
  · trivial
  · refine startTransaction_meets he hid hb ((hk'.journal? tid).trans hn4) fun t d hd => ?_
    exact hnp t d ((hk'.journal? t).symm.trans hd)

end

theorem prepare_meets (he : envs env) (decision : ResolutionDecision) (apply : Bool) :
    Meets h envs (fun _ _ _ => True) (prepare env decision apply) s l := by
  unfold prepare
  split
  · split
    · trivial
    · split <;> trivial
  rename_i plan registered hplan
  split
  · trivial
  split
  · trivial
  refine meets_bind (meets_ask trivial fun tid s1 hs hk => ?_)
  have hn : s1.journal? tid = none := (hk.journal? tid).trans hs.2.1
  refine meets_bind (meets_attempt (wp_mono (prepareLocked_meets he hs.2.2 (buildPlan_bound he hplan) hn)
    (fun _ _ _ h => h) (fun _ _ _ _ => trivial) fun x s' l' _ => ?_))
  simp only
  split <;> trivial

/-! ## Uninstall and the commands -/

theorem uninstallLocked_meets (he : envs env) (cap : String) (hn : s.journal? tid = none) :
    Meets h envs (fun _ _ _ => True) (uninstallLocked env cap tid) s l := by
  refine meets_bind (meets_ask trivial fun a s1 _ hk1 => meets_bind (meets_ofExcept fun _ _ => ?_))
  refine meets_bind (meets_look fun c s2 l2 hk2 => ?_)
  have hk := hk1.trans hk2
  refine meets_bind (wp_imp (recoverPendingLocked_meets he) fun reports s3 l3 hpend => ?_)
  split
  · trivial
  rename_i hblk
  have hnp := hpend.noPending (not_not.mp hblk)
  have hn3 : s3.journal? tid = none := hpend.absent ((hk.journal? tid).trans hn)
  refine meets_bind (meets_look fun records s4 l4 hk4 => ?_)
  simp only
  split
  · trivial
  refine meets_bind (meets_look fun _ s5 l5 hk5 => meets_bind (meets_look fun ok s6 l6 hk6 => ?_))
  have hk' := (hk4.trans hk5).trans hk6
  split
  · trivial
  refine meets_bind (meets_ofExcept fun plan hplan => ?_)
  have hid : plan.transactionId = tid := by
    unfold buildUninstallPlan at hplan
    split at hplan
    · cases hplan
    split at hplan
    · cases hplan; rfl
    · cases hplan
  refine startUninstall_meets he ?_ fun t d hd => hnp t d ((hk'.journal? t).symm.trans hd)
  rw [hid]
  exact (hk'.journal? tid).trans hn3

theorem uninstall_meets (he : envs env) (cap : String) (apply : Bool) :
    Meets h envs (fun _ _ _ => True) (uninstall env cap apply) s l := by
  refine meets_bind (meets_look fun records s1 l1 _ => ?_)
  simp only
  split
  · trivial
  refine meets_bind (meets_look fun ok s2 l2 _ => ?_)
  split
  · trivial
  split
  · trivial
  refine meets_bind (meets_ask trivial fun tid s3 hs hk => ?_)
  have hn : s3.journal? tid = none := (hk.journal? tid).trans hs.2.1
  refine meets_bind (meets_attempt (wp_mono (uninstallLocked_meets he cap hn) (fun _ _ _ h => h)
    (fun _ _ _ _ => trivial) fun x s' l' _ => ?_))
  simp only
  split <;> trivial

theorem recoverPending_meets (he : envs env) : Meets h envs (fun _ _ _ => True) (recoverPending env) s l := by
  refine meets_bind (meets_ask trivial fun tid s1 _ _ => ?_)
  refine meets_bind (meets_attempt (wp_mono (Q := fun _ _ _ => True) (F := fun _ _ _ => True) ?_
    (fun _ _ _ h => h) (fun _ _ _ _ => trivial) fun x s' l' _ => ?_))
  · refine meets_bind (meets_ask trivial fun a s2 _ _ => meets_bind (meets_ofExcept fun _ _ => ?_))
    refine meets_bind (meets_look fun c s3 l3 _ => ?_)
    exact wp_imp (recoverPendingLocked_meets he) fun _ _ _ _ => trivial
  · simp only
    split <;> trivial

/-- Every invocation of the engine is permitted. -/
theorem pass_meets {p : EngineProg Report} (hp : Pass envs p) (s : Store F) (l : Trace F) :
    Meets h envs (fun _ _ _ => True) p s l := by
  obtain ⟨env, cmd, he, rfl⟩ := hp
  cases cmd with
  | prepare decision apply => exact meets_bind (wp_imp (prepare_meets he decision apply) fun _ _ _ _ => trivial)
  | recoverPending => exact meets_bind (wp_imp (recoverPending_meets he) fun _ _ _ _ => trivial)
  | uninstall cap apply => exact meets_bind (wp_imp (uninstall_meets he cap apply) fun _ _ _ _ => trivial)

/-- **Every run of the engine is lawful**: it is a history of the protocol. -/
theorem engine_lawful (hr : EngineRun h envs s0 s l) : Lawful (storeHandler h) (Permitted envs) s0 s l :=
  run_lawful (fun _ hp s l => pass_meets hp s l) hr

end WatchdogVpn.Provisioning
