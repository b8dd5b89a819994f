import WatchdogVpn.Runtime.Protection

/-!
# The way back to standby

A disconnect and a manual connect that fails store the desired state `off`. By then the kill switch
should be gone (unless the user keeps it) and the resolver settings put back, or the stored failure
should say which of the two is missing; `startup` with autoconnect disabled does it that way. Both
ignore what `disable()` and the restore return, and store a failure of their own afterwards.

* `Host` is what is kept on the host, `Parts` what the firewall and the resolver settings may do;
  drivers, probes, profiles and policies may answer anything.
* **`accounted_iff`**: from which states, and with which parts, `off` is left clean or reported.
* `stuck_policy_unreported`: a firewall that does not let go of the policy.
-/

namespace WatchdogVpn.Runtime

open Effect

variable {P : Type} {α β : Type}

/-! ## The host -/

/-- A configuration as `AppConfig.load` returns it: every entry has been validated. -/
structure ValidConfig extends Config where
  killSwitchEnabled_ok : ∃ b, killSwitchEnabled = .ok b
  blockIpv6_ok : ∃ b, blockIpv6 = .ok b
  allowLan_ok : ∃ b, allowLan = .ok b

structure Host where
  state : PersistentState
  config : ValidConfig
  /-- The policy of the kill switch is in the firewall. -/
  active : Bool
  /-- The file with the resolver settings from before is there. -/
  snapshot : Bool

/-- What the firewall and the resolver settings may do when they are asked: an outcome, and whether
the policy or the snapshot is there afterwards. Each may work, and what reports success has done its
work. -/
structure Parts where
  applies : Except PyError Bool → Bool → Prop
  disables : Except PyError Bool → Bool → Prop
  restores : Except PyError Unit → Bool → Prop
  /-- The snapshot may be unreadable. -/
  unreadable : Prop
  applies_ok : ∀ active, applies (.ok true) active ↔ active = true
  disables_ok : ∀ active, disables (.ok true) active ↔ active = false
  restores_ok : ∀ left, restores (.ok ()) left ↔ left = false

def PersistentState.set (state : PersistentState) : StateKey → String → PersistentState
  | .desiredState, value => { state with desiredState := value }
  | .activeProfileId, value => { state with activeProfileId := value }
  | .lastFailureReason, value => { state with lastFailureReason := value }
  | .lastFailureAt, _ => state

variable (F : Parts) (s : Host)

/-- What a call may answer on the host, and what it leaves. The files can be written. -/
def hostStep : (c : Call P) → Except PyError (Value c) → Host → Prop
  | .loadState, r, s' => (r = .ok s.state ∨ ∃ x, r = .error x) ∧ s' = s
  | .setState key value, r, s' => r = .ok () ∧ s' = { s with state := s.state.set key value }
  | .stampFailure, r, s' => r = .ok () ∧ s' = s
  | .loadConfig, r, s' => (r = .ok s.config.toConfig ∨ ∃ x, r = .error x) ∧ s' = s
  | .isActive, r, s' => (r = .ok s.active ∨ ∃ x, r = .error x) ∧ s' = s
  | .applyAtomic _, r, s' => ∃ active, F.applies r active ∧ s' = { s with active }
  | .disable, r, s' => ∃ active, F.disables r active ∧ s' = { s with active }
  | .loadSnapshot, r, s' => (r = .ok s.snapshot ∨ F.unreadable ∧ ∃ x, r = .error x) ∧ s' = s
  | .restoreSnapshot, r, s' => ∃ left, F.restores r left ∧ s' = { s with snapshot := left }
  | _, _, s' => s' = s

def host : Handler (RuntimeAns (P := P)) Host where
  step s e r s' :=
    match e, r with
    | .call c, r => hostStep F s c r s'
    | .activate _, _ | .clock, _ | .sleep _, _ => s' = s
  cut s _ s' := s' = s

namespace Host

/-- The kill switch is off, or it is kept by the user's wish. -/
def Released : Prop := s.active = false ∨ s.config.onManualDisconnect = "keep"

def Clean : Prop := s.Released ∧ s.snapshot = false

/-- The stored failure names a part that is not clean. -/
def Reported : Prop :=
  s.state.lastFailureReason = "kill_switch_disable_failed" ∧ ¬ s.Released ∨
    s.state.lastFailureReason = "dns_restore_failed" ∧ s.snapshot = true

def Off : Prop := s.state.desiredState = "off"

/-- If the VPN is off, it is off cleanly, or the failure is reported. -/
def Accounted : Prop := s.Off → s.Clean ∨ s.Reported

end Host

inductive StandbyRequest (P : Type)
  | connect (p : P)
  | disconnect

def StandbyRequest.run (D : Deployment P) : StandbyRequest P → RuntimeMethod P Bool
  | connect p => Runtime.connect D p
  | disconnect => Runtime.disconnect D

/-- Every execution of the request, whether it returns or raises, leaves an accounted host. -/
def LeavesAccounted (D : Deployment P) (F : Parts) (request : StandbyRequest P) (t : Fields)
    (s : Host) : Prop :=
  ∀ o s' l', Ends (host F) (request.run D t) s [] o s' l' → s'.Accounted

/-! ## What a method leaves -/

/-- From the host `s`, whatever the fields, the method ends with an outcome and a host that meet
`Q`. -/
def Yields (m : RuntimeMethod P α) (Q : Except PyError α → Host → Prop) : Prop :=
  ∀ t l, meets (host F) (fun _ _ _ => True) (fun o _ s' _ => Q o s') m t s l

section Yields

variable {F : Parts} {s : Host} {m : RuntimeMethod P α} {Q : Except PyError α → Host → Prop}

theorem Yields.imp {Q' : Except PyError α → Host → Prop} (h : Yields F s m Q) (hQ : ∀ o s', Q o s' → Q' o s') :
    Yields F s m Q' := fun t l => meets_imp (h t l) fun o _ s' _ ho => hQ o s' ho

theorem Yields.bind {Q' : Except PyError β → Host → Prop} {f : α → RuntimeMethod P β} (h : Yields F s m Q)
    (hok : ∀ v s', Q (.ok v) s' → Yields F s' (f v) Q') (herr : ∀ x s', Q (.error x) s' → Q' (.error x) s') :
    Yields F s (m >>= f) Q' :=
  fun t l => meets_seq (h t l) (fun v t' s' l' ho => hok v s' ho t' l') fun x _ s' _ ho => herr x s' ho

theorem Yields.attempt (h : Yields F s m Q) : Yields F s m.attempt fun o s' => ∃ o', o = .ok o' ∧ Q o' s' := by
  intro t l
  rw [meets_attempt]
  exact meets_imp (h t l) fun o _ s' _ ho => ⟨o, rfl, ho⟩

theorem Yields.attempt_bind {Q' : Except PyError β → Host → Prop} {f : Except PyError α → RuntimeMethod P β}
    (h : Yields F s m Q) (hf : ∀ o s', Q o s' → Yields F s' (f o) Q') : Yields F s (m.attempt >>= f) Q' := by
  refine h.attempt.bind (fun o s' ⟨o', ho, hQ⟩ => ?_) (fun _ _ ⟨_, ho, _⟩ => nomatch ho)
  cases ho
  exact hf o s' hQ

theorem yields_get_bind {f : Fields → RuntimeMethod P α} (h : ∀ t, Yields F s (f t) Q) :
    Yields F s (Method.get >>= f) Q := fun t l => (meets_get_bind f).mpr (h t t l)

theorem yields_modify_bind {g : Fields → Fields} {f : Unit → RuntimeMethod P α} (h : Yields F s (f ()) Q) :
    Yields F s (Method.modify g >>= f) Q := fun t l => (meets_modify_bind g f).mpr (h (g t) l)

theorem yields_pure {v : α} (h : Q (.ok v) s) : Yields (P := P) F s (pure v) Q := fun _ _ => h

theorem yields_ask (e : RuntimeReq P) : Yields F s (Method.ask e)
    fun o s' => ∃ r, o = .ok r ∧ (host F).step s e r s' := fun _ _ => ⟨trivial, fun r _ hr => ⟨r, rfl, hr⟩⟩

theorem yields_perform (c : Call P) : Yields F s (perform c) (hostStep F s c) := by
  refine (yields_ask (.call c)).bind (fun r s' ⟨r', hr, hstep⟩ => ?_) (fun _ _ ⟨_, hr, _⟩ => nomatch hr)
  cases hr
  exact fun _ _ => hstep

theorem Yields.ends (h : Yields F s m Q) {t : Fields} {l l' : List (Event (RuntimeAns (P := P)) Host)}
    {o : Except PyError (Except PyError α × Fields)} {s' : Host} (he : Ends (host F) (m t) s l o s' l') :
    ∃ a, o = .ok a ∧ Q a.1 s' := meets_ends (h t l) he

end Yields

/-! ### Methods that leave the host as it is -/

theorem step_of_not_writes {F : Parts} {s s' : Host} {e : RuntimeReq P} {r : RuntimeAns e}
    (he : writes e = false) (h : (host F).step s e r s') : s' = s := by
  cases e with
  | call c =>
    cases c
    case setState | applyAtomic | disable | restoreSnapshot => cases he
    case loadState | stampFailure | loadConfig | isActive | loadSnapshot => exact h.2
    all_goals exact h
  | _ => exact h

/-- The method changes nothing of what is kept on the host. -/
def Quiet (m : RuntimeMethod P α) : Prop := ∀ s, Yields F s m fun _ s' => s' = s

section Quiet

variable {F : Parts} {m m' : RuntimeMethod P α} {f : α → RuntimeMethod P β} {D : Deployment P}

theorem quiet_pure (v : α) : Quiet (P := P) F (pure v) := fun _ => yields_pure rfl

theorem quiet_ofExcept (o : Except PyError α) : Quiet (P := P) F (Method.ofExcept o) := fun _ _ _ => rfl

theorem quiet_get : Quiet (P := P) F Method.get := fun _ _ _ => rfl

theorem quiet_modify (g : Fields → Fields) : Quiet (P := P) F (Method.modify g) := fun _ _ _ => rfl

theorem Quiet.bind (hm : Quiet F m) (hf : ∀ v, Quiet F (f v)) : Quiet F (m >>= f) := by
  intro s
  refine (hm s).bind (fun v s' hs => ?_) fun _ _ hs => hs
  subst hs
  exact hf v s'

theorem quiet_ite {c : Prop} [Decidable c] (hm : Quiet F m) (hm' : Quiet F m') :
    Quiet F (if c then m else m') := by
  split
  · exact hm
  · exact hm'

theorem quiet_ask {e : RuntimeReq P} (he : writes e = false) : Quiet F (Method.ask e) :=
  fun _ => (yields_ask e).imp fun _ _ ⟨_, _, hr⟩ => step_of_not_writes he hr

theorem quiet_perform {c : Call P} (hc : writes (.call c) = false) : Quiet F (perform c) :=
  (quiet_ask hc).bind fun a => quiet_ofExcept a

theorem Asks.quiet (hm : Asks (fun e => writes e = false) m) : Quiet F m := by
  intro s t l
  have hasks := hm t []
  unfold Effect.meets at hasks ⊢
  generalize m t = p, ([]) = l0 at hasks
  induction p generalizing l l0 with
  | ret a => exact rfl
  | raise x => exact hasks
  | call e k ih =>
    refine ⟨trivial, fun r s' hstep => ?_⟩
    cases step_of_not_writes hasks.1 hstep
    exact ih r _ _ (hasks.2 r () trivial)

theorem Quiet.then {Q : Except PyError β → Host → Prop} {s : Host} (hm : Quiet F m)
    (hok : ∀ v, Yields F s (f v) Q) (herr : ∀ x, Q (.error x) s) : Yields F s (m >>= f) Q :=
  (hm s).bind (fun v _ hs => hs ▸ hok v) fun x _ hs => hs ▸ herr x

theorem quiet_useDriver (driver : Driver) : Quiet (P := P) F (useDriver driver) :=
  quiet_get.bind fun _ => quiet_ite (quiet_pure _)
    ((quiet_ask rfl).bind fun _ => (quiet_modify _).bind fun _ => quiet_pure _)

theorem quiet_driverConnect (driver : Driver) (p : P) : Quiet F (driverConnect driver p) :=
  (quiet_perform rfl).bind fun _ => quiet_perform rfl

end Quiet

/-! ## When nothing is left behind -/

/-- A `disable()` that returns has disabled the policy, whatever it returns. -/
def Parts.Disables : Prop := ∀ done active, F.disables (.ok done) active → active = false

/-- The snapshot can be read, and after a restore it is gone. -/
def Parts.Restores : Prop := ¬ F.unreadable ∧ ∀ o left, F.restores o left → left = false

namespace Host

def failing (reason : String) : Host := { s with state.lastFailureReason := reason }

/-- The host after a change of the desired state and of the active profile. -/
def desiring (desired profileId : String) : Host :=
  { s with state.desiredState := desired, state.activeProfileId := profileId }

/-- The parts will do what has to be done on the way back from this host. -/
def Recoverable : Prop := (s.Released ∨ F.Disables) ∧ (s.snapshot = false ∨ F.Restores)

end Host

/-- When a request leaves an accounted host. A disconnect: what was off already was clean, and the
parts that are in use work. A connect of a profile whose endpoint can be read: what was off already
was clean and stays so if the policy of the candidate cannot be applied, the policy is kept by the
user's wish or can be disabled, and a snapshot can be restored. -/
def AccountedWhen (D : Deployment P) (F : Parts) : StandbyRequest P → Host → Prop
  | .disconnect, s => (s.Off → s.Clean) ∧ s.Recoverable F
  | .connect p, s =>
    match D.endpointHost p with
    | .error _ => s.Accounted
    | .ok _ =>
      (s.Off → s.Clean ∧ ∀ o active, F.applies o active → o ≠ .ok true →
        Host.Accounted { s with active }) ∧ Host.Recoverable F { s with active := true }

section Sufficient

variable {D : Deployment P} {F : Parts} {s : Host}

theorem yields_setState_bind {key : StateKey} {value : String} {f : Unit → RuntimeMethod P α}
    {Q : Except PyError α → Host → Prop} (h : Yields F { s with state := s.state.set key value } (f ()) Q) :
    Yields F s (perform (.setState key value) >>= f) Q := by
  refine (yields_perform _).bind (fun v s' hstep => ?_) (fun _ _ hstep => nomatch hstep.1)
  obtain ⟨-, rfl⟩ := hstep
  exact h

theorem yields_loadConfig_bind {f : Config → RuntimeMethod P α} {Q : Except PyError α → Host → Prop}
    (h : Yields F s (f s.config.toConfig) Q) (herr : ∀ x, Q (.error x) s) :
    Yields F s (perform .loadConfig >>= f) Q := by
  refine (yields_perform .loadConfig).bind (fun config s1 h1 => ?_) fun x s1 h1 => h1.2 ▸ herr x
  obtain ⟨hcfg | ⟨x, hx⟩, rfl⟩ := h1
  · cases hcfg
    exact h
  · cases hx

theorem yields_recordLastFailure (reason : String) :
    Yields (P := P) F s (recordLastFailure reason) fun o s' => o = .ok () ∧ s' = s.failing reason :=
  yields_setState_bind (yields_perform _)

theorem yields_clearLastFailure : Yields (P := P) F s clearLastFailure fun o s' => o = .ok () ∧
    s' = s.failing "" :=
  yields_setState_bind (yields_perform _)

theorem yields_teardown_bind {f : Bool → RuntimeMethod P α} (hdone : Yields F s (f true) Q)
    (hfail : Yields F (s.failing "cleanup_failed") (f false) Q) :
    Yields F s (teardownActiveDriver >>= f) Q := by
  have htear : Yields (P := P) F s teardownActiveDriver fun o s' =>
      o = .ok true ∧ s' = s ∨ o = .ok false ∧ s' = s.failing "cleanup_failed" := by
    refine yields_get_bind fun t => (quiet_perform rfl s).attempt_bind fun outcome s' hs => ?_
    subst hs
    split
    · exact yields_modify_bind (yields_pure (.inl ⟨rfl, rfl⟩))
    · refine yields_modify_bind ((yields_recordLastFailure _).bind (fun _ s1 h => ?_) fun _ _ h => nomatch h.1)
      exact yields_pure (.inr ⟨rfl, h.2⟩)
  refine htear.bind (fun torn s1 h1 => ?_) (fun _ _ h1 => by rcases h1 with h | h <;> cases h.1)
  rcases h1 with ⟨htorn, rfl⟩ | ⟨htorn, rfl⟩
  · cases htorn
    exact hdone
  · cases htorn
    exact hfail

/-- What the handling of the kill switch leaves: a policy that may stay stays, another is disabled
if that works. -/
theorem yields_handleManualDisconnectKillSwitch : Yields F s (handleManualDisconnectKillSwitch D) fun o s' =>
    ∃ active, s' = { s with active } ∧ (s.Released → active = s.active) ∧
      (o = .ok () → s.Released ∨ F.Disables → s'.Released) := by
  -- until the policy is asked for, nothing has changed, and an exception ends the method
  have hstays : ∀ o : Except PyError Unit, o ≠ .ok () → ∃ active, s = { s with active } ∧
      (s.Released → active = s.active) ∧ (o = .ok () → s.Released ∨ F.Disables → s.Released) :=
    fun o ho => ⟨s.active, rfl, fun _ => rfl, fun h => absurd h ho⟩
  refine yields_loadConfig_bind ?_ fun x => hstays _ nofun
  refine only_activeProfile.quiet.then (fun profile => ?_) fun x => hstays _ nofun
  refine (only_configureKillSwitch _ profile).quiet.then (fun _ => ?_) fun x => hstays _ nofun
  refine (yields_perform .isActive).bind (fun active s1 h => ?_) fun x s1 h => by
    rw [h.2]
    exact hstays _ nofun
  obtain ⟨hact | ⟨x, hx⟩, rfl⟩ := h
  rotate_left
  · cases hx
  cases hact
  have hforg : s1.Released → Yields (P := P) F s1 forgetForced fun o s' =>
      ∃ active, s' = { s1 with active } ∧ (s1.Released → active = s1.active) ∧
        (o = .ok () → s1.Released ∨ F.Disables → s'.Released) :=
    fun h => (quiet_modify _ s1).imp fun o s' hs => ⟨s1.active, hs, fun _ => rfl, fun _ _ => hs ▸ h⟩
  by_cases hoff : s1.active = true
  · rw [if_pos hoff]
    by_cases hkeep : s1.config.onManualDisconnect = "keep"
    · rw [if_pos hkeep]
      exact hforg (.inr hkeep)
    · rw [if_neg hkeep]
      have hnot : ¬ s1.Released := by simp [Host.Released, hoff, hkeep]
      refine (yields_perform .disable).bind (fun done s' h => ?_) (fun x s' h => ?_)
      · obtain ⟨active, hdone, rfl⟩ := h
        have hqt : Quiet (P := P) F (if done then forgetForced else pure ()) :=
          quiet_ite (quiet_modify _) (quiet_pure _)
        refine (hqt _).imp fun o s'' hs => ⟨active, hs, fun h => absurd h hnot, fun _ h => ?_⟩
        rw [hs]
        exact .inl (h.resolve_left hnot done active hdone)
      · obtain ⟨active, -, rfl⟩ := h
        exact ⟨active, rfl, fun h => absurd h hnot, nofun⟩
  · rw [if_neg hoff]
    exact hforg (.inl (Bool.eq_false_of_not_eq_true hoff))

theorem yields_restoreDnsSnapshotIfPresent : Yields (P := P) F s restoreDnsSnapshotIfPresent fun o s' =>
    (∃ done, o = .ok done) ∧ ∃ left, s' = { s with snapshot := left } ∧
    (s.snapshot = false ∨ F.Restores → left = false) := by
  refine (yields_perform .loadSnapshot).attempt_bind fun o s1 h => ?_
  obtain ⟨ho, rfl⟩ := h
  split
  · refine yields_pure ⟨⟨_, rfl⟩, s1.snapshot, rfl, fun h => h.elim id fun hr => ?_⟩
    rcases ho with ho | ⟨hunr, -⟩
    · cases ho
    · exact absurd hunr hr.1
  · have hgone : s1.snapshot = false := by
      rcases ho with ho | ⟨-, x, ho⟩
      · exact (Except.ok.inj ho).symm
      · cases ho
    exact yields_pure ⟨⟨_, rfl⟩, s1.snapshot, rfl, fun _ => hgone⟩
  · have hthere : s1.snapshot = true := by
      rcases ho with ho | ⟨-, x, ho⟩
      · exact (Except.ok.inj ho).symm
      · cases ho
    refine (yields_perform .restoreSnapshot).attempt_bind fun o s2 h => ?_
    obtain ⟨left, hleft, rfl⟩ := h
    have hdone : s1.snapshot = false ∨ F.Restores → left = false := by
      rintro (h | h)
      · rw [hthere] at h
        cases h
      · exact h.2 o left hleft
    split <;> exact yields_pure ⟨⟨_, rfl⟩, left, rfl, hdone⟩

/-- From a host from which the parts work: the way back ends clean, or with an exception before
anything is stored. -/
theorem yields_returnToStandby (h : s.Recoverable F) : Yields F s (returnToStandby D) fun o s' =>
    match o with
    | .ok _ => s'.Clean
    | .error _ => s'.state = s.state ∧ (s.Clean → s'.Clean) := by
  refine yields_handleManualDisconnectKillSwitch.bind (fun _ s1 h1 => ?_) (fun x s1 h1 => ?_)
  · obtain ⟨active, rfl, -, hrel⟩ := h1
    have hrel := hrel rfl h.1
    refine yields_restoreDnsSnapshotIfPresent.bind (fun _ s2 h2 => ?_) (fun _ _ h2 => ?_)
    · obtain ⟨-, left, rfl, hleft⟩ := h2
      refine yields_setState_bind ((yields_perform _).imp fun o s' hstep => ?_)
      obtain ⟨rfl, rfl⟩ := hstep
      exact ⟨hrel, hleft h.2⟩
    · obtain ⟨⟨_, ho⟩, -⟩ := h2
      cases ho
  · obtain ⟨active, rfl, hstays, -⟩ := h1
    refine ⟨rfl, fun hclean => ⟨?_, hclean.2⟩⟩
    rw [hstays hclean.1]
    exact hclean.1

theorem Host.Clean.accounted (h : s.Clean) : s.Accounted := fun _ => .inl h

theorem Host.Clean.failing (h : s.Clean) (reason : String) : (s.failing reason).Clean := h

theorem disconnect_accounted (h : AccountedWhen D F .disconnect s) :
    Yields F s (disconnect D) fun _ s' => s'.Accounted := by
  obtain ⟨hoff, hrec⟩ := h
  refine yields_teardown_bind ?_ (yields_pure fun hoff' => .inl ((hoff hoff').failing _))
  · refine (yields_returnToStandby hrec).bind (fun _ s2 hclean => ?_) (fun x s2 hx => ?_)
    · refine yields_clearLastFailure.bind (fun _ s3 h3 => ?_) fun _ _ h3 => nomatch h3.1
      rw [h3.2]
      exact yields_pure (hclean.failing "").accounted
    · intro hoff'
      rw [Host.Off, hx.1] at hoff'
      exact .inl (hx.2 (hoff hoff'))

theorem failManualConnect_accounted (hon : ¬ s.Off) (h : s.Recoverable F) :
    Yields F s (failManualConnect D) fun _ s' => s'.Accounted := by
  refine yields_teardown_bind ?_ (yields_pure fun hoff => absurd hoff hon)
  · refine (yields_returnToStandby h).bind (fun _ s2 hclean => ?_) (fun x s2 hx => ?_)
    · refine (yields_recordLastFailure _).bind (fun _ s3 h3 => ?_) fun _ _ h3 => nomatch h3.1
      rw [h3.2]
      exact yields_pure (hclean.failing _).accounted
    · intro hoff
      rw [Host.Off, hx.1] at hoff
      exact absurd hoff hon

theorem connectProtected_accounted (driver : Driver) (p : P) (h : s.Recoverable F) :
    Yields F s (connectProtected D driver p) fun _ s' => s'.Accounted := by
  -- from the first write on the desired state is `on`, until the way back ends
  refine yields_setState_bind (yields_setState_bind ?_)
  have hon : ¬ (s.desiring "on" (D.idOf p)).Off := by simp [Host.Off, Host.desiring]
  have hfail := failManualConnect_accounted (D := D) hon h
  have hraise : (s.desiring "on" (D.idOf p)).Accounted := fun hoff => absurd hoff hon
  refine (quiet_driverConnect driver p).then (fun connected => ?_) fun _ => hraise
  cases connected with
  | false => exact hfail
  | true =>
    refine (only_egressOk p).quiet.then (fun healthy => ?_) fun _ => hraise
    cases healthy with
    | false => exact hfail
    | true =>
      refine yields_clearLastFailure.bind (fun _ s2 h2 => ?_) (fun _ _ h2 => nomatch h2.1)
      refine ((Quiet.bind (quiet_modify _) fun _ => quiet_pure _) s2).imp fun _ s3 hs hoff => ?_
      rw [hs, h2.2] at hoff
      exact absurd hoff hon

/-- The policy of a candidate: an exception before the firewall is asked, or what the firewall
answers. -/
theorem yields_protectConnectionAttempt (p : P) : Yields F s (protectConnectionAttempt D p) fun o s' =>
    (∃ x, o = .error x) ∧ s' = s ∨ ∃ active, F.applies o active ∧ s' = { s with active } := by
  refine yields_loadConfig_bind ?_ fun x => .inl ⟨⟨x, rfl⟩, rfl⟩
  refine (only_configureKillSwitch _ _).quiet.then (fun _ => ?_) fun x => .inl ⟨⟨x, rfl⟩, rfl⟩
  refine Yields.bind (yields_get_bind fun t => yields_perform (.applyAtomic t.killSwitch))
    (fun applied s' h => ?_)
    (fun x s' h => .inr h)
  obtain ⟨active, happ, rfl⟩ := h
  cases applied with
  | false => exact yields_pure (.inr ⟨active, happ, rfl⟩)
  | true =>
    obtain ⟨b, hb⟩ := s.config.killSwitchEnabled_ok
    rw [hb]
    exact fun _ _ => .inr ⟨active, happ, rfl⟩

theorem yields_prepare_unreadable {p : P} {x : PyError} (he : D.endpointHost p = .error x) :
    Yields F s (prepareDriverForConnection D p) fun o s' => (∃ y, o = .error y) ∧ s' = s := by
  refine (only_policyCapabilitiesForProfile p).quiet.then (fun supported => ?_) fun y => ⟨⟨y, rfl⟩, rfl⟩
  refine (quiet_perform rfl).then (fun requested => ?_) fun y => ⟨⟨y, rfl⟩, rfl⟩
  refine (only_requireCapabilities _ _).quiet.then (fun _ => ?_) fun y => ⟨⟨y, rfl⟩, rfl⟩
  have hchk : Yields F s (checkEndpoint D p) fun o s' => (∃ y, o = .error y) ∧ s' = s := by
    unfold checkEndpoint validateEndpoint
    rw [he]
    exact fun _ _ => ⟨⟨_, rfl⟩, rfl⟩
  refine hchk.bind (fun _ _ h => ?_) (fun y _ h => ⟨⟨y, rfl⟩, h.2⟩)
  obtain ⟨⟨_, hy⟩, -⟩ := h
  cases hy

theorem connect_accounted {p : P} (h : AccountedWhen D F (.connect p) s) :
    Yields F s (connect D p) fun _ s' => s'.Accounted := by
  cases he : D.endpointHost p with
  | error x =>
    rw [AccountedWhen, he] at h
    refine (yields_prepare_unreadable he).bind (fun _ _ h' => ?_) (fun _ _ h' => h'.2 ▸ h)
    obtain ⟨⟨_, hy⟩, -⟩ := h'
    cases hy
  | ok endpoint =>
    rw [AccountedWhen, he] at h
    obtain ⟨hoff, hrec⟩ := h
    have hstart : s.Accounted := fun h => .inl (hoff h).1
    refine (only_prepareDriverForConnection p).quiet.then (fun driver => ?_) fun _ => hstart
    have hactv : Yields (P := P) F s (activateDriver driver) fun o s' =>
        s' = s ∨ (∃ x, o = .error x) ∧ s' = s.failing "cleanup_failed" := by
      refine yields_teardown_bind ((quiet_useDriver driver s).imp fun _ _ hs => .inl hs) ?_
      exact fun _ _ => .inr ⟨⟨_, rfl⟩, rfl⟩
    refine hactv.bind (fun active s2 h2 => ?_) (fun x s2 h2 => ?_)
    · have hs : s2 = s := by
        rcases h2 with h2 | ⟨⟨_, hx⟩, -⟩
        · exact h2
        · cases hx
      subst hs
      refine (yields_protectConnectionAttempt p).bind (fun isProtected s3 h3 => ?_) (fun x s3 h3 => ?_)
      · obtain ⟨⟨_, hx⟩, -⟩ | ⟨policy, happ, rfl⟩ := h3
        · cases hx
        cases isProtected with
        | false => exact yields_pure fun h => (hoff h).2 _ policy happ nofun h
        | true =>
          rw [(F.applies_ok policy).mp happ]
          exact connectProtected_accounted active p hrec
      · obtain ⟨-, rfl⟩ | ⟨policy, happ, rfl⟩ := h3
        · exact hstart
        · exact fun h => (hoff h).2 _ policy happ nofun h
    · rcases h2 with rfl | ⟨-, rfl⟩
      · exact hstart
      · exact fun h => .inl ((hoff h).1.failing _)

end Sufficient

/-! ## What a method may do to the host -/

section Necessary

variable {D : Deployment P} {F : Parts} {s s' : Host} {t : Fields}

theorem can_perform {c : Call P} {r : Except PyError (Value c)} (h : hostStep F s c r s') :
    can (host F) (perform c) t s r t s' := by
  have hask : can (host F) (Method.ask (.call c) : RuntimeMethod P _) t s (.ok r) t s' := can_ask h
  exact can_bind hask (can_ofExcept r)

theorem can_activeProfile : can (host (P := P) F) activeProfile t s (.ok none) t s := by
  have hload : can (host (P := P) F) (perform .loadState) t s (.ok s.state) t s :=
    can_perform ⟨.inl rfl, rfl⟩
  refine can_bind hload ?_
  unfold storedProfile
  split
  · exact can_pure none
  · exact can_perform rfl

theorem can_configureKillSwitch (profile : Option P) {endpoints : List String}
    (he : killSwitchAllowedEndpoints D profile = .ok endpoints) :
    ∃ t', can (host F) (configureKillSwitch D s.config.toConfig profile) t s (.ok ()) t' s := by
  obtain ⟨blockIpv6, hblk⟩ := s.config.blockIpv6_ok
  obtain ⟨allowLan, hlan⟩ := s.config.allowLan_ok
  unfold configureKillSwitch
  rw [hblk, hlan, he]
  exact ⟨_, can_bind (can_modify _)
    (can_bind (can_ofExcept _) (can_bind (can_modify _) (can_bind (can_ofExcept _)
    (can_bind (can_modify _) (can_bind (can_ofExcept _) (can_bind (can_modify _) (can_modify _)))))))⟩

/-- What may be left of the policy on the way back. -/
def PolicyLeft (F : Parts) (s : Host) (active : Bool) : Prop :=
  s.Released ∧ active = s.active ∨ ¬ s.Released ∧ ∃ done, F.disables (.ok done) active

/-- What may be left of the snapshot on the way back. -/
def SnapshotLeft (F : Parts) (s : Host) (left : Bool) : Prop :=
  s.snapshot = false ∧ left = false ∨ s.snapshot = true ∧ (F.unreadable ∧ left = true ∨ ∃ o, F.restores o left)

variable {active : Bool}

theorem can_handleManualDisconnectKillSwitch (h : PolicyLeft F s active) :
    ∃ t', can (host F) (handleManualDisconnectKillSwitch D) t s (.ok ()) t' { s with active } := by
  obtain ⟨t1, hconf⟩ := can_configureKillSwitch none rfl
  have hload : can (host (P := P) F) (perform .loadConfig) t s (.ok s.config.toConfig) t s :=
    can_perform ⟨.inl rfl, rfl⟩
  have hact : can (host (P := P) F) (perform .isActive) t1 s (.ok s.active) t1 s :=
    can_perform ⟨.inl rfl, rfl⟩
  have hforg : ∀ t s, can (host (P := P) F) forgetForced t s (.ok ()) { t with desiredOnForced := false } s :=
    fun t s => can_modify _
  suffices hend : ∃ t', can (host F) (if s.active then
      if s.config.onManualDisconnect = "keep" then forgetForced
      else do
        let disabled ← perform .disable
        if disabled then forgetForced else pure ()
    else forgetForced) t1 s (.ok ()) t' { s with active } by
    obtain ⟨t', hend⟩ := hend
    exact ⟨t', can_bind hload (can_bind can_activeProfile (can_bind hconf (can_bind hact hend)))⟩
  rcases h with ⟨hrel, rfl⟩ | ⟨hnot, done, hdone⟩
  · refine ⟨{ t1 with desiredOnForced := false }, ?_⟩
    rcases hrel with hoff | hkeep
    · rw [if_neg (by simp [hoff])]
      exact hforg t1 s
    · rw [if_pos hkeep, ite_self]
      exact hforg t1 s
  · obtain ⟨hoff, hkeep⟩ := not_or.mp hnot
    rw [if_pos (by simpa using hoff), if_neg hkeep]
    have hdis : can (host (P := P) F) (perform .disable) t1 s (.ok done) t1 { s with active } :=
      can_perform ⟨active, hdone, rfl⟩
    cases done with
    | true => exact ⟨_, can_bind hdis (hforg t1 _)⟩
    | false => exact ⟨_, can_bind hdis (can_pure ())⟩

theorem can_restoreDnsSnapshotIfPresent {left : Bool} (h : SnapshotLeft F s left) :
    ∃ done, can (host (P := P) F) restoreDnsSnapshotIfPresent t s (.ok done) t { s with snapshot := left } := by
  have hload : ∀ r, (r = .ok s.snapshot ∨ F.unreadable ∧ ∃ x, r = .error x) →
      can (host (P := P) F) (perform .loadSnapshot).attempt t s (.ok r) t s :=
    fun r hr => can_attempt (can_perform ⟨hr, rfl⟩)
  rcases h with ⟨hgone, rfl⟩ | ⟨hthere, ⟨hunr, rfl⟩ | ⟨o, ho⟩⟩
  · have hsame : ({ s with snapshot := false } : Host) = s := by rw [← hgone]
    rw [hsame]
    exact ⟨true, can_bind (hload (.ok false) (.inl (by rw [hgone]))) (can_pure true)⟩
  · have hsame : ({ s with snapshot := true } : Host) = s := by rw [← hthere]
    rw [hsame]
    exact ⟨false, can_bind (hload (.error .other) (.inr ⟨hunr, _, rfl⟩)) (can_pure false)⟩
  · have hrst : can (host (P := P) F) (perform .restoreSnapshot).attempt t s (.ok o) t
        { s with snapshot := left } := can_attempt (can_perform ⟨left, ho, rfl⟩)
    have hload := hload (.ok true) (.inl (by rw [hthere]))
    cases o with
    | ok _ => exact ⟨true, can_bind hload (can_bind hrst (can_pure true))⟩
    | error x => exact ⟨false, can_bind hload (can_bind hrst (can_pure false))⟩

theorem can_setState (key : StateKey) (value : String) :
    can (host (P := P) F) (perform (.setState key value)) t s (.ok ()) t
      { s with state := s.state.set key value } := can_perform ⟨rfl, rfl⟩

theorem can_recordLastFailure (reason : String) :
    can (host (P := P) F) (recordLastFailure reason) t s (.ok ()) t (s.failing reason) :=
  can_bind (can_setState _ _) (can_perform ⟨rfl, rfl⟩)

/-- The way back with what the parts may leave. -/
theorem can_returnToStandby {left : Bool} (ha : PolicyLeft F s active) (hl : SnapshotLeft F s left) :
    ∃ t', can (host F) (returnToStandby D) t s (.ok ()) t'
      (Host.desiring { s with active, snapshot := left } "off" "") := by
  obtain ⟨t1, hhnd⟩ := can_handleManualDisconnectKillSwitch ha
  obtain ⟨done, hrst⟩ := can_restoreDnsSnapshotIfPresent (s := { s with active }) hl
  exact ⟨t1, can_bind hhnd (can_bind hrst (can_bind (can_setState _ _) (can_setState _ _)))⟩

theorem can_teardown : can (host (P := P) F) teardownActiveDriver t s (.ok true)
    { t with cleanupBarrierFailed := false } s := by
  have hdisc : can (host (P := P) F) (perform (.disconnect t.driver)).attempt t s (.ok (.ok true)) t s :=
    can_attempt (can_perform rfl)
  exact can_bind can_get (can_bind hdisc (can_bind (can_modify _) (can_pure true)))

theorem can_fail_teardown : can (host (P := P) F) teardownActiveDriver t s (.ok false)
    { t with cleanupBarrierFailed := true } (s.failing "cleanup_failed") := by
  have hdisc : can (host (P := P) F) (perform (.disconnect t.driver)).attempt t s (.ok (.ok false)) t s :=
    can_attempt (can_perform rfl)
  exact can_bind can_get (can_bind hdisc
    (can_bind (can_modify _) (can_bind (can_recordLastFailure _) (can_pure false))))

theorem can_disconnect {left : Bool} (ha : PolicyLeft F s active) (hl : SnapshotLeft F s left) :
    ∃ t', can (host F) (disconnect D) t s (.ok true) t'
      ((Host.desiring { s with active, snapshot := left } "off" "").failing "") := by
  obtain ⟨t', hreturn⟩ := can_returnToStandby ha hl
  exact ⟨t', can_bind can_teardown (can_bind hreturn
    (can_bind (can_bind (can_setState _ _) (can_perform ⟨rfl, rfl⟩)) (can_pure true)))⟩

theorem can_failManualConnect {left : Bool} (ha : PolicyLeft F s active) (hl : SnapshotLeft F s left) :
    ∃ t', can (host F) (failManualConnect D) t s (.ok false) t'
      ((Host.desiring { s with active, snapshot := left } "off" "").failing "connect_failed") := by
  obtain ⟨t', hreturn⟩ := can_returnToStandby ha hl
  exact ⟨t', can_bind can_teardown (can_bind hreturn (can_bind (can_recordLastFailure _) (can_pure false)))⟩

theorem can_candidateDriverForProfile (p : P) :
    ∃ driver, can (host F) (candidateDriverForProfile D p) t s (.ok driver) t s := by
  unfold candidateDriverForProfile
  cases D.originalSelector with
  | true => exact ⟨_, can_bind can_get (can_bind (can_perform (r := .ok 0) rfl) (can_pure _))⟩
  | false => exact ⟨_, can_bind can_get (can_bind (can_perform (r := .ok t.driver) rfl) (can_pure _))⟩

theorem can_policyCapabilitiesForProfile (p : P) :
    ∃ supported, can (host F) (policyCapabilitiesForProfile D p) t s (.ok supported) t s := by
  obtain ⟨driver, hcand⟩ := can_candidateDriverForProfile p
  unfold policyCapabilitiesForProfile
  split
  · exact ⟨_, can_pure _⟩
  · exact ⟨_, can_bind hcand (can_pure _)⟩

theorem can_fail_prepare (p : P) : can (host F) (prepareDriverForConnection D p) t s (.error .other) t s := by
  obtain ⟨supported, hsup⟩ := can_policyCapabilitiesForProfile p
  have hreq : can (host (P := P) F) (perform .requestedPolicyCapabilities) t s (.error .other) t s :=
    can_perform rfl
  exact can_bind hsup (can_bind_error hreq)

theorem can_prepareDriverForConnection {p : P} {endpoint : Option String}
    (he : D.endpointHost p = .ok endpoint) :
    ∃ driver, can (host F) (prepareDriverForConnection D p) t s (.ok driver) t s := by
  obtain ⟨driver, hcand⟩ := can_candidateDriverForProfile p
  obtain ⟨supported, hsup⟩ := can_policyCapabilitiesForProfile p
  have hrqd : can (host (P := P) F) (requireCapabilities [] supported) t s (.ok ()) t s := can_pure ()
  have hval : can (host F) (validateEndpoint D p) t s (.ok ()) t s := by
    unfold validateEndpoint
    rw [he]
    cases endpoint with
    | none => exact can_bind (can_ofExcept _) (can_pure ())
    | some h =>
      have hstat : can (host (P := P) F) driverStatus.attempt t s (.ok (.error .other)) t s :=
        can_attempt (can_bind can_get (can_perform rfl))
      have hallow : can (host (P := P) F) endpointPolicyFakeipAllowlist t s (.ok ()) t s :=
        can_bind hstat (can_pure ())
      exact can_bind (can_ofExcept _) (can_bind hallow (can_perform rfl))
  have hchk : can (host F) (checkEndpoint D p) t s (.ok ()) t s := can_bind (can_attempt hval) (can_pure ())
  have hpref : can (host F) (preflightManagementPath driver p) t s (.ok ()) t s := by
    unfold preflightManagementPath
    split
    · exact can_perform rfl
    · exact can_pure ()
  have hreq : can (host (P := P) F) (perform .requestedPolicyCapabilities) t s (.ok []) t s := can_perform rfl
  have hopt : can (host (P := P) F) (perform .connectOptions) t s (.ok ()) t s := can_perform rfl
  exact ⟨driver, can_bind hsup (can_bind hreq (can_bind hrqd (can_bind hchk (can_bind hcand
    (can_bind hopt (can_bind hpref (can_pure driver)))))))⟩

theorem can_activateDriver (driver : Driver) :
    ∃ t' active, can (host (P := P) F) (activateDriver driver) t s (.ok active) t' s := by
  have huse : ∀ t, ∃ t' active, can (host (P := P) F) (useDriver driver) t s (.ok active) t' s := by
    intro t
    by_cases hsame : driver = t.driver
    · refine ⟨t, t.driver, can_bind can_get ?_⟩
      rw [if_pos hsame]
      exact can_pure _
    · refine ⟨{ t with driver }, driver, can_bind can_get ?_⟩
      rw [if_neg hsame]
      exact can_bind (can_ask (r := ()) rfl) (can_bind (can_modify _) (can_pure _))
  obtain ⟨t', active, huse⟩ := huse { t with cleanupBarrierFailed := false }
  exact ⟨t', active, can_bind can_teardown huse⟩

/-- The policy of a candidate whose endpoint can be read: whatever the firewall answers. -/
theorem can_protectConnectionAttempt {p : P} {endpoint : Option String} (he : D.endpointHost p = .ok endpoint)
    {o : Except PyError Bool} (ho : F.applies o active) :
    ∃ t', can (host F) (protectConnectionAttempt D p) t s o t' { s with active } := by
  have hendps : ∃ endpoints, killSwitchAllowedEndpoints D (some p) = .ok endpoints := by
    simp only [killSwitchAllowedEndpoints, he]
    cases endpoint with
    | none => exact ⟨_, rfl⟩
    | some h =>
      simp only
      split
      · exact ⟨_, rfl⟩
      · exact ⟨_, rfl⟩
  obtain ⟨endpoints, hendps⟩ := hendps
  obtain ⟨t1, hconf⟩ := can_configureKillSwitch (some p) hendps
  obtain ⟨b, hb⟩ := s.config.killSwitchEnabled_ok
  have hload : can (host (P := P) F) (perform .loadConfig) t s (.ok s.config.toConfig) t s :=
    can_perform ⟨.inl rfl, rfl⟩
  have happ : can (host (P := P) F) applyAtomic t1 s o t1 { s with active } :=
    can_bind can_get (can_perform ⟨active, ho, rfl⟩)
  cases o with
  | error x => exact ⟨t1, can_bind hload (can_bind hconf (can_bind_error happ))⟩
  | ok done =>
    cases done with
    | false => exact ⟨t1, can_bind hload (can_bind hconf (can_bind happ (can_pure false)))⟩
    | true =>
      have hconfigured : can (host (P := P) F) (Method.ofExcept s.config.killSwitchEnabled) t1
          { s with active } (.ok b) t1 { s with active } := by
        rw [hb]
        exact can_ofExcept _
      exact ⟨_, can_bind hload (can_bind hconf (can_bind happ
        (can_bind hconfigured (can_bind (can_modify _) (can_pure true)))))⟩

theorem LeavesAccounted.of_can {request : StandbyRequest P} (h : LeavesAccounted D F request t s)
    {o : Except PyError Bool} {t' : Fields} (hcan : can (host F) (request.run D) t s o t' s') :
    s'.Accounted := by
  obtain ⟨l', hends⟩ := hcan []
  exact h _ _ l' hends

theorem Host.Accounted.clean {reason : String} (h : (s.failing reason).Accounted) (hoff : s.Off)
    (hks : reason ≠ "kill_switch_disable_failed") (hdns : reason ≠ "dns_restore_failed") : s.Clean := by
  rcases h hoff with hclean | hrep
  · exact hclean
  rcases hrep with ⟨hreas, -⟩ | ⟨hreas, -⟩
  · exact absurd hreas hks
  · exact absurd hreas hdns

theorem recoverable_of_clean (h : ∀ active left, PolicyLeft F s active → SnapshotLeft F s left →
    Host.Clean { s with active, snapshot := left }) : s.Recoverable F := by
  have hpol : ∃ active, PolicyLeft F s active := by
    by_cases hrel : s.Released
    · exact ⟨s.active, .inl ⟨hrel, rfl⟩⟩
    · exact ⟨false, .inr ⟨hrel, true, (F.disables_ok false).mpr rfl⟩⟩
  have hsnap : ∃ left, SnapshotLeft F s left := by
    cases hthere : s.snapshot with
    | false => exact ⟨false, .inl ⟨hthere, rfl⟩⟩
    | true => exact ⟨false, .inr ⟨hthere, .inr ⟨.ok (), (F.restores_ok false).mpr rfl⟩⟩⟩
  obtain ⟨active0, hact0⟩ := hpol
  obtain ⟨left0, hleft0⟩ := hsnap
  constructor
  · by_cases hrel : s.Released
    · exact .inl hrel
    refine .inr fun done active hdone => ?_
    rcases (h active left0 (.inr ⟨hrel, done, hdone⟩) hleft0).1 with hoff | hkeep
    · exact hoff
    · exact absurd (.inr hkeep) hrel
  · cases hthere : s.snapshot with
    | false => exact .inl rfl
    | true =>
      refine .inr ⟨fun hunr => ?_, fun o left ho => ?_⟩
      · have hleft := (h active0 true hact0 (.inr ⟨hthere, .inl ⟨hunr, rfl⟩⟩)).2
        cases hleft
      · exact (h active0 left hact0 (.inr ⟨hthere, .inr ⟨o, ho⟩⟩)).2

theorem accountedWhen_disconnect (h : LeavesAccounted D F .disconnect t s) :
    AccountedWhen D F .disconnect s := by
  have hstuck : can (host F) (disconnect D) t s (.ok false) { t with cleanupBarrierFailed := true }
      (s.failing "cleanup_failed") := can_bind can_fail_teardown (can_pure false)
  refine ⟨fun hoff => (h.of_can hstuck).clean hoff (by decide) (by decide), recoverable_of_clean
    fun active left ha hl => ?_⟩
  obtain ⟨t', hdone⟩ := can_disconnect ha hl
  exact Host.Accounted.clean (s := Host.desiring
    { s with active, snapshot := left } "off" "") (h.of_can hdone) rfl
    (by decide) (by decide)

theorem accountedWhen_connect {p : P} (h : LeavesAccounted D F (.connect p) t s) :
    AccountedWhen D F (.connect p) s := by
  cases he : D.endpointHost p with
  | error x =>
    rw [AccountedWhen, he]
    have hfail : can (host F) (connect D p) t s (.error .other) t s := can_bind_error (can_fail_prepare p)
    exact h.of_can hfail
  | ok endpoint =>
    rw [AccountedWhen, he]
    obtain ⟨driver, hprep⟩ := can_prepareDriverForConnection he
    obtain ⟨t1, active, hactv⟩ := can_activateDriver driver
    have hbar : can (host F) (connect D p) t s (.error .teardownBarrier) { t with cleanupBarrierFailed := true }
        (s.failing "cleanup_failed") :=
      can_bind hprep (can_bind_error (can_bind can_fail_teardown (can_raise _)))
    refine ⟨fun hoff => ⟨(h.of_can hbar).clean hoff (by decide) (by decide), fun o policy ho hfailed => ?_⟩,
      recoverable_of_clean fun policy left ha hl => ?_⟩
    · obtain ⟨t2, hprot⟩ := can_protectConnectionAttempt he ho
      have hfail : can (host F) (connect D p) t s (o.map fun _ => false) t2 { s with active := policy } := by
        cases o with
        | error x => exact can_bind hprep (can_bind hactv (can_bind_error hprot))
        | ok done =>
          cases done with
          | false => exact can_bind hprep (can_bind hactv (can_bind hprot (can_pure false)))
          | true => exact absurd rfl hfailed
      exact h.of_can hfail
    · obtain ⟨t2, hprot⟩ := can_protectConnectionAttempt he ((F.applies_ok true).mpr rfl)
      have hconn : can (host F) (driverConnect active p) t2
          (Host.desiring { s with active := true } "on" (D.idOf p))
          (.ok false) t2 (Host.desiring { s with active := true } "on" (D.idOf p)) := by
        have hpol : can (host (P := P) F) (perform .loadDnsPolicy) t2
            (Host.desiring { s with active := true } "on" (D.idOf p)) (.ok ()) t2
            (Host.desiring { s with active := true } "on" (D.idOf p)) := can_perform rfl
        exact can_bind hpol (can_perform rfl)
      have hpol : PolicyLeft F (Host.desiring { s with active := true } "on" (D.idOf p)) policy := ha
      have hsnap : SnapshotLeft F (Host.desiring { s with active := true } "on" (D.idOf p)) left := hl
      obtain ⟨t3, hfail⟩ := can_failManualConnect hpol hsnap
      have hrun : can (host F) (connect D p) t s (.ok false) t3
          ((Host.desiring { s with active := policy, snapshot := left } "off" "").failing "connect_failed") :=
        can_bind hprep (can_bind hactv (can_bind hprot
          (can_bind (can_setState _ _) (can_bind (can_setState _ _) (can_bind hconn hfail)))))
      exact Host.Accounted.clean (s := Host.desiring { s with active := policy, snapshot := left } "off" "")
        (h.of_can hrun) rfl (by decide) (by decide)

end Necessary

/-- **When `off` is left clean or reported.** Every execution of a disconnect or of a manual
connect, with any answers of the drivers, the probes and the stores, leaves a host where a stored
`off` means that the kill switch is gone (or kept by the user's wish) and the resolver settings are
restored, or that the stored failure says what is missing: exactly if the parts that are in use can
be trusted to do their work whatever they report. -/
theorem accounted_iff (D : Deployment P) (F : Parts) (request : StandbyRequest P) (t : Fields) (s : Host) :
    LeavesAccounted D F request t s ↔ AccountedWhen D F request s := by
  constructor
  · intro h
    cases request with
    | connect p => exact accountedWhen_connect h
    | disconnect => exact accountedWhen_disconnect h
  · intro h o s' l' he
    cases request with
    | connect p =>
      obtain ⟨-, -, hacc⟩ := (connect_accounted h).ends he
      exact hacc
    | disconnect =>
      obtain ⟨-, -, hacc⟩ := (disconnect_accounted h).ends he
      exact hacc

/-- A firewall whose policy may stay although it is disabled. -/
def stuckFirewall : Parts where
  applies o active := o = .ok true ∧ active = true
  disables o active := o = .ok true ∧ active = false ∨ o = .ok false ∧ active = true
  restores o left := o = .ok () ∧ left = false
  unreadable := False
  applies_ok _ := ⟨fun h => h.2, fun h => ⟨rfl, h⟩⟩
  disables_ok _ := ⟨fun h => h.elim (·.2) fun h => (nomatch h.1), fun h => .inl ⟨rfl, h⟩⟩
  restores_ok _ := ⟨fun h => h.2, fun h => ⟨rfl, h⟩⟩

/-- Connected, with the policy in place and the default configuration. -/
def connectedHost : Host where
  state := { desiredState := "on", activeProfileId := "profile" }
  config := { killSwitchEnabled_ok := ⟨false, rfl⟩, blockIpv6_ok := ⟨true, rfl⟩, allowLan_ok := ⟨true, rfl⟩ }
  active := true
  snapshot := false

/-- The policy stays in the firewall after a disconnect: `off` is stored, the request is answered
with `True`, and no failure is left. -/
theorem stuck_policy_unreported : ∃ t' s' l',
    Ends (host stuckFirewall) (disconnect lab labFields) connectedHost [] (.ok (.ok true, t')) s' l' ∧
      s'.state.desiredState = "off" ∧ s'.active = true ∧ s'.config.onManualDisconnect = "disable" ∧
      s'.state.lastFailureReason = "" := by
  have hpol : PolicyLeft stuckFirewall connectedHost true :=
    .inr ⟨by simp [Host.Released, connectedHost], false, .inr ⟨rfl, rfl⟩⟩
  obtain ⟨t', hcan⟩ := can_disconnect hpol (.inl ⟨rfl, rfl⟩)
  obtain ⟨l', hends⟩ := hcan []
  exact ⟨t', _, l', hends, rfl, rfl, rfl, rfl⟩

end WatchdogVpn.Runtime
