import WatchdogVpn.Runtime.Watchdog
import WatchdogVpn.Rotation.Barrier

/-!
# No connection without protection

The history of a runtime is the list of all requests it made, the latest first. A call of `connect`
is safe (`Safe`) when the policy of its profile is in force, the driver that was in use before has
been torn down, and no other driver is left running.

* `Only`: the methods that call neither `connect` nor `disconnect` and do not change the driver.
* `teardownActiveDriver_meets`, `useDriver_meets`, `protectConnectionAttempt_meets`: the three steps
  before a connection, in whichever order.
* `keeps_rotation`: the same through the router; the engine connects only right after a disconnect.
* **`no_unprotected_connect`**: in every history every call of `connect` is safe.
* `no_driver_lost`: the runtime holds every driver that may be running.
-/

namespace WatchdogVpn.Runtime

open Effect
open Firewall (KillSwitch)
open Rotation (RotationReq RotationAns RotationResult rotate)

variable {P α β : Type}

abbrev Log (P : Type) : Type := List (Event (RuntimeAns (P := P)) Unit)

/-! ## What a history says -/

/-- The settings are those of the profile. -/
def PolicyOf (D : Deployment P) (p : P) (k : KillSwitch) : Prop :=
  killSwitchAllowedEndpoints D (some p) = .ok k.allowedEndpoints ∧ k.directEgressUid = some D.uid

/-- The policy of the profile was applied with success, and neither a disable nor an apply for
another profile came after. -/
def Shielded (D : Deployment P) (p : P) (l : Log P) : Prop :=
  ∃ later k earlier, l = later ++ ⟨(), .call (.applyAtomic k), some (.ok true)⟩ :: earlier ∧ PolicyOf D p k ∧
    ∀ ev ∈ later, ev.req ≠ .call .disable ∧ ∀ k', ev.req = .call (.applyAtomic k') → PolicyOf D p k'

/-- The driver in use, starting with `first`. -/
def activeDriver (first : Driver) : Log P → Driver
  | [] => first
  | ⟨_, .activate d, _⟩ :: _ => d
  | _ :: l => activeDriver first l

/-- The driver that was in use before `d` was disconnected with `True`, and no driver was connected
since. -/
def Torn (first d : Driver) (l : Log P) : Prop :=
  ∃ later previous earlier, l = later ++ ⟨(), .call (.disconnect previous), some (.ok true)⟩ :: earlier ∧
    activeDriver first earlier = previous ∧
    ∀ ev ∈ later, (∀ d' p, ev.req ≠ .call (.connect d' p)) ∧ ∀ d', ev.req = .activate d' → d' = d

/-- The driver that was connected last, unless it has been disconnected with `True` since. -/
def unstopped : Log P → Option Driver
  | [] => none
  | ⟨_, .call (.connect d _), _⟩ :: _ => some d
  | ⟨_, .call (.disconnect d), some (.ok true)⟩ :: l => if unstopped l = some d then none else unstopped l
  | _ :: l => unstopped l

/-- A call of `connect` after this history is protected. -/
structure Safe (D : Deployment P) (first d : Driver) (p : P) (l : Log P) : Prop where
  shielded : Shielded D p l
  torn : Torn first d l
  stopped : unstopped l = none

def Guard (D : Deployment P) (first : Driver) (_ : Unit) (l : Log P) (e : RuntimeReq P) : Prop :=
  ∀ d p, e = .call (.connect d p) → Safe D first d p l

/-! ## Requests that change nothing of it -/

/-- The requests a history is read by. -/
inductive Mark (P : Type)
  | connect (d : Driver) (p : P)
  | disconnect (d : Driver)
  | activate (d : Driver)
  | firewall

def mark : RuntimeReq P → Option (Mark P)
  | .call (.connect d p) => some (.connect d p)
  | .call (.disconnect d) => some (.disconnect d)
  | .activate d => some (.activate d)
  | .call (.applyAtomic _) | .call .disable => some .firewall
  | _ => none

/-- No call of a driver but for its state, no change of the driver and, unless `firewall`, none of
the policy. -/
def Allowed (firewall : Bool) (e : RuntimeReq P) : Prop :=
  mark e = none ∨ mark e = some .firewall ∧ firewall = true

section Allowed

variable {D : Deployment P} {first d : Driver} {p : P} {l l' : Log P} {firewall : Bool} {e : RuntimeReq P}
  {a : Option (RuntimeAns e)}

theorem Allowed.not_connect (h : Allowed firewall e) (d : Driver) (p : P) : e ≠ .call (.connect d p) := by
  rintro rfl
  rcases h with h | ⟨h, -⟩ <;> cases h

theorem Allowed.not_activate (h : Allowed firewall e) (d : Driver) : e ≠ .activate d := by
  rintro rfl
  rcases h with h | ⟨h, -⟩ <;> cases h

theorem Allowed.guard (h : Allowed firewall e) : Guard D first () l e :=
  fun d p he => absurd he (h.not_connect d p)

theorem activeDriver_cons (h : ∀ d, e ≠ .activate d) :
    activeDriver first (⟨(), e, a⟩ :: l) = activeDriver first l := by
  cases e with
  | activate d => exact absurd rfl (h d)
  | _ => rfl

theorem unstopped_cons (h : Allowed firewall e) : unstopped (⟨(), e, a⟩ :: l) = unstopped l := by
  cases e with
  | call c =>
    cases c with
    | connect d p => exact absurd rfl (h.not_connect d p)
    | disconnect d => rcases h with h | ⟨h, -⟩ <;> cases h
    | _ => rfl
  | _ => rfl

theorem activeDriver_extends (h : Extends (Allowed firewall) l l') :
    activeDriver first l' = activeDriver first l :=
  h.induct (I := fun l' => activeDriver first l' = _)
    (fun _ _ _ _ he ih => (activeDriver_cons he.not_activate).trans ih) rfl

theorem unstopped_extends (h : Extends (Allowed firewall) l l') : unstopped l' = unstopped l :=
  h.induct (I := fun l' => unstopped l' = _) (fun _ _ _ _ he ih => (unstopped_cons he).trans ih) rfl

theorem Torn.cons (h : Torn first d l) (hconn : ∀ d' p, e ≠ .call (.connect d' p))
    (hactv : ∀ d', e = .activate d' → d' = d) : Torn first d (⟨(), e, a⟩ :: l) := by
  obtain ⟨later, previous, earlier, rfl, hprev, hlater⟩ := h
  exact ⟨_ :: later, previous, earlier, rfl, hprev, List.forall_mem_cons.mpr ⟨⟨hconn, hactv⟩, hlater⟩⟩

theorem Torn.extends (ht : Torn first d l) (h : Extends (Allowed firewall) l l') : Torn first d l' :=
  h.induct (fun _ _ _ _ he ih => ih.cons he.not_connect fun d' hd' => absurd hd' (he.not_activate d')) ht

theorem Shielded.cons (h : Shielded D p l) (he : mark e ≠ some .firewall) : Shielded D p (⟨(), e, a⟩ :: l) := by
  obtain ⟨later, k, earlier, rfl, hk, hlater⟩ := h
  refine ⟨_ :: later, k, earlier, rfl, hk, List.forall_mem_cons.mpr ⟨⟨?_, fun k' hk' => ?_⟩, hlater⟩⟩
  · exact fun hd => he (congrArg mark hd)
  · exact absurd (congrArg mark hk') he

theorem Shielded.extends (hs : Shielded D p l) (h : Extends (Allowed false) l l') : Shielded D p l' := by
  refine h.induct (fun _ _ _ _ he ih => ih.cons fun hmark => ?_) hs
  -- what is allowed without the firewall is no call of it
  rcases he with he | ⟨-, he⟩
  · exact absurd (hmark.symm.trans he) nofun
  · cases he

end Allowed

/-! ## Methods that leave the tunnel alone -/

/-- The requests that may change what is kept on the host. -/
def writes : RuntimeReq P → Bool
  | .call (.setState _ _) | .call (.applyAtomic _) | .call .disable | .call .restoreSnapshot => true
  | _ => false

/-- What neither leaves a mark nor writes is among the requests. -/
class Harmless (A : RuntimeReq P → Prop) : Prop where
  allows : ∀ {e}, mark e = none → writes e = false → A e

instance {firewall : Bool} : Harmless (Allowed (P := P) firewall) := ⟨fun h _ => .inl h⟩

instance : Harmless fun e : RuntimeReq P => writes e = false := ⟨fun _ h => h⟩

/-- The method asks only such requests, and leaves the driver in use. -/
def Asks (A : RuntimeReq P → Prop) (m : RuntimeMethod P α) : Prop :=
  ∀ t l, meets anything (fun _ _ e => A e) (fun _ t' _ _ => t'.driver = t.driver) m t () l

/-- The method asks only what is allowed, and leaves the driver in use. -/
abbrev Only (firewall : Bool) (m : RuntimeMethod P α) : Prop := Asks (Allowed firewall) m

section Only

variable {A : RuntimeReq P → Prop} {firewall : Bool} {m m' : RuntimeMethod P α} {f : α → RuntimeMethod P β}

theorem only_pure (v : α) : Asks A (pure v) := fun _ _ => rfl

theorem only_raise (x : PyError) : Asks A (Method.raise x : RuntimeMethod P α) := fun _ _ => rfl

theorem only_ofExcept (o : Except PyError α) : Asks A (Method.ofExcept o) := fun _ _ => rfl

theorem only_get : Asks A Method.get := fun _ _ => rfl

theorem only_modify {g : Fields → Fields} (hg : ∀ t, (g t).driver = t.driver) :
    Asks A (Method.modify g) := fun t _ => hg t

theorem only_ask {e : RuntimeReq P} (he : A e) : Asks A (Method.ask e) := fun _ _ => ⟨he, fun _ _ _ => rfl⟩

theorem Asks.bind (hm : Asks A m) (hf : ∀ v, Asks A (f v)) : Asks A (m >>= f) := by
  intro t l
  refine meets_seq (hm t l) (fun v t' _ l' ht => ?_) fun _ _ _ _ ht => ht
  exact meets_imp (hf v t' l') fun _ _ _ _ ht' => ht'.trans ht

theorem Asks.attempt (hm : Asks A m) : Asks A m.attempt := by
  intro t l
  rw [meets_attempt]
  exact hm t l

theorem only_ite {c : Prop} [Decidable c] (hm : Asks A m) (hm' : Asks A m') : Asks A (if c then m else m') := by
  split
  · exact hm
  · exact hm'

theorem asks_perform [Harmless A] {c : Call P} (hc : mark (.call c) = none) (hw : writes (.call c) = false) :
    Asks A (perform c) := (only_ask (Harmless.allows hc hw)).bind fun a => only_ofExcept a

theorem only_perform {c : Call P} (hc : mark (.call c) = none) : Only firewall (perform c) :=
  (only_ask (.inl hc)).bind fun a => only_ofExcept a

theorem only_firewall {c : Call P} (hc : mark (.call c) = some .firewall) : Only true (perform c) :=
  (only_ask (.inr ⟨hc, rfl⟩)).bind fun a => only_ofExcept a

/-! ### Persistent state -/

theorem only_loadedState (read : PersistentState → α) (default : α) :
    Only (P := P) firewall (loadedState read default) := by
  refine (only_perform rfl).attempt.bind fun loaded => ?_
  cases loaded with
  | ok state => exact only_pure _
  | error x => exact only_ite (only_pure _) (only_raise _)

theorem only_recordLastFailure (reason : String) : Only (P := P) firewall (recordLastFailure reason) :=
  (only_perform rfl).bind fun _ => only_perform rfl

theorem only_clearLastFailure : Only (P := P) firewall clearLastFailure :=
  (only_perform rfl).bind fun _ => only_perform rfl

theorem only_storedProfile [Harmless A] (id : String) : Asks A (storedProfile id) :=
  only_ite (only_pure _) (asks_perform rfl rfl)

theorem only_activeProfile [Harmless A] : Asks A activeProfile :=
  (asks_perform rfl rfl).bind fun _ => only_storedProfile _

theorem only_restoreDnsSnapshotIfPresent : Only (P := P) firewall restoreDnsSnapshotIfPresent := by
  refine (only_perform rfl).attempt.bind fun snapshot => ?_
  split
  · exact only_pure _
  · exact only_pure _
  · refine (only_perform rfl).attempt.bind fun restored => ?_
    split <;> exact only_pure _

/-! ### The kill switch -/

section KillSwitch

variable {D : Deployment P} (config : Config)

theorem only_configureKillSwitch (profile : Option P) :
    Asks A (configureKillSwitch D config profile) := by
  refine Asks.bind (only_modify fun _ => rfl) fun _ => ?_
  refine (only_ofExcept _).bind fun blockIpv6 => ?_
  refine Asks.bind (only_modify fun _ => rfl) fun _ => ?_
  refine (only_ofExcept _).bind fun allowLan => ?_
  refine Asks.bind (only_modify fun _ => rfl) fun _ => ?_
  refine (only_ofExcept _).bind fun endpoints => ?_
  exact Asks.bind (only_modify fun _ => rfl) fun _ => only_modify fun _ => rfl

theorem only_applyAtomic : Only (P := P) true applyAtomic := only_get.bind fun _ => only_firewall rfl

theorem only_applyDesiredOnProtection (profile : Option P) :
    Only true (applyDesiredOnProtection D profile) := by
  refine (only_perform rfl).bind fun config => ?_
  refine (only_configureKillSwitch config profile).bind fun _ => ?_
  refine only_applyAtomic.bind fun applied => only_ite ?_ (only_pure _)
  refine (only_ofExcept _).bind fun configured => ?_
  exact Asks.bind (only_modify fun _ => rfl) fun _ => only_pure _

theorem only_killSwitchInPlace : Only (P := P) firewall killSwitchInPlace := by
  refine (only_perform rfl).bind fun status => ?_
  split
  · exact only_pure _
  · exact (only_perform rfl).bind fun active => only_pure _

theorem only_killSwitchWanted : Only (P := P) firewall (killSwitchWanted config) :=
  (only_ofExcept _).bind fun _ => only_get.bind fun _ => only_pure _

theorem only_maintainKillSwitchForActiveRuntime : Only true (maintainKillSwitchForActiveRuntime D) := by
  refine (only_perform rfl).bind fun config => ?_
  refine (only_killSwitchWanted config).bind fun wanted => only_ite ?_ (only_pure _)
  refine only_activeProfile.bind fun profile => ?_
  refine (only_configureKillSwitch config profile).bind fun _ => ?_
  exact only_killSwitchInPlace.bind fun inPlace => only_ite (only_pure _) only_applyAtomic

theorem only_applyAllFailedKillSwitch : Only true (applyAllFailedKillSwitch D config) := by
  refine only_activeProfile.bind fun profile => ?_
  refine (only_configureKillSwitch config profile).bind fun _ => ?_
  refine (only_killSwitchWanted config).bind fun wanted => ?_
  refine (only_perform rfl).bind fun active => only_ite (only_pure _) ?_
  exact only_ite only_applyAtomic (only_pure _)

theorem only_restoreKillSwitchAfterRecovery : Only true (restoreKillSwitchAfterRecovery D config) := by
  refine (only_killSwitchWanted config).bind fun wanted => ?_
  exact only_ite only_maintainKillSwitchForActiveRuntime (only_perform rfl)

theorem only_forgetForced : Only (P := P) firewall forgetForced := only_modify fun _ => rfl

theorem only_handleManualDisconnectKillSwitch : Only true (handleManualDisconnectKillSwitch D) := by
  refine (only_perform rfl).bind fun config => ?_
  refine only_activeProfile.bind fun profile => ?_
  refine (only_configureKillSwitch config profile).bind fun _ => ?_
  refine (only_perform rfl).bind fun active => only_ite ?_ only_forgetForced
  refine only_ite only_forgetForced ?_
  exact (only_firewall rfl).bind fun disabled => only_ite only_forgetForced (only_pure _)

end KillSwitch

/-! ### Status and health -/

section Health

variable {D : Deployment P}

theorem only_driverStatus [Harmless A] : Asks A driverStatus := only_get.bind fun _ => asks_perform rfl rfl

theorem only_withDriverMode (status : String) : Only (P := P) firewall (withDriverMode status) :=
  only_driverStatus.bind fun _ => only_pure _

theorem only_status : Only firewall (status D) := by
  have hobs : ∀ state, Only (P := P) firewall (do let _ ← killSwitchInPlace; perform (.observe state)) :=
    fun state => only_killSwitchInPlace.bind fun _ => only_perform rfl
  have hconf : Only firewall (configureForStatus D) :=
    (only_perform rfl).bind fun config => only_activeProfile.bind fun profile =>
      only_configureKillSwitch config profile
  refine only_driverStatus.bind fun state => ?_
  refine hconf.attempt.bind fun configured => ?_
  cases configured with
  | ok u => exact hobs state
  | error x => exact only_ite (hobs state) (only_raise _)

theorem only_cleanupFailureState : Only firewall (cleanupFailureState D) :=
  only_status.bind fun _ => only_pure _

theorem only_probed [Harmless A] (health : String) (viaProxy : Bool) : Asks A (probed health viaProxy) :=
  (asks_perform rfl rfl).bind fun _ => only_pure _

theorem only_checkFull [Harmless A] : Asks A checkFull := by
  refine only_get.bind fun t => ?_
  refine (asks_perform rfl rfl).bind fun health => only_ite (only_pure _) ?_
  refine only_driverStatus.bind fun state => only_ite (only_probed _ _) ?_
  exact only_ite (only_probed _ _) (only_pure _)

theorem only_checkedAndRecorded [Harmless A] (p : P) (retry : Bool) : Asks A (checkedAndRecorded p retry) := by
  have hrech : ∀ first, Asks A (recheck retry first) := by
    intro first
    refine only_get.bind fun t => only_ite ?_ (only_pure _)
    exact Asks.bind (only_ask (Harmless.allows rfl rfl)) fun _ => only_checkFull
  refine (asks_perform rfl rfl).bind fun config => ?_
  refine (only_ofExcept _).bind fun _ => ?_
  refine only_checkFull.bind fun first => ?_
  refine (hrech first).bind fun result => ?_
  exact (asks_perform rfl rfl).bind fun _ => only_pure _

theorem only_egressOk [Harmless A] (p : P) : Asks A (egressOk p) := by
  refine only_get.bind fun t => only_ite ?_ (only_pure _)
  exact (only_checkedAndRecorded p true).bind fun result => only_pure _

end Health

/-! ### Preparing a driver -/

section Prepare

variable {D : Deployment P}

theorem only_candidateDriverForProfile [Harmless A] (p : P) : Asks A (candidateDriverForProfile D p) := by
  refine only_get.bind fun t => only_ite ?_ ?_
  · exact (asks_perform rfl rfl).bind fun id => only_pure _
  · exact (asks_perform rfl rfl).bind fun selected => only_pure _

theorem only_policyCapabilitiesForProfile [Harmless A] (p : P) : Asks A (policyCapabilitiesForProfile D p) :=
  only_ite (only_pure _) ((only_candidateDriverForProfile p).bind fun _ => only_pure _)

theorem only_requireCapabilities (requested supported : List Capability) :
    Asks A (requireCapabilities requested supported : RuntimeMethod P Unit) :=
  only_ite (only_pure _) (only_raise _)

theorem only_endpointPolicyFakeipAllowlist [Harmless A] : Asks A endpointPolicyFakeipAllowlist := by
  refine only_driverStatus.attempt.bind fun state => ?_
  cases state with
  | error x => exact only_pure _
  | ok state => exact only_ite ((asks_perform rfl rfl).attempt.bind fun _ => only_pure _) (only_pure _)

theorem only_checkEndpoint [Harmless A] (p : P) : Asks A (checkEndpoint D p) := by
  have hval : Asks A (validateEndpoint D p) := by
    refine (only_ofExcept _).bind fun host => ?_
    cases host with
    | none => exact only_pure _
    | some host => exact only_endpointPolicyFakeipAllowlist.bind fun _ => asks_perform rfl rfl
  refine hval.attempt.bind fun outcome => ?_
  cases outcome with
  | ok u => exact only_pure _
  | error x => exact only_raise _

theorem only_prepareDriverForConnection [Harmless A] (p : P) : Asks A (prepareDriverForConnection D p) := by
  refine (only_policyCapabilitiesForProfile p).bind fun supported => ?_
  refine (asks_perform rfl rfl).bind fun requested => ?_
  refine (only_requireCapabilities requested supported).bind fun _ => ?_
  refine (only_checkEndpoint p).bind fun _ => ?_
  refine (only_candidateDriverForProfile p).bind fun driver => ?_
  refine (asks_perform rfl rfl).bind fun _ => ?_
  refine Asks.bind (only_ite (asks_perform rfl rfl) (only_pure _)) fun _ => ?_
  exact only_pure _

theorem only_recordSuccessfulProfile (p : P) : Only firewall (recordSuccessfulProfile D p) :=
  only_modify fun _ => rfl

theorem only_requirePoolCapabilities (requested : List Capability) (pool : List P) :
    Only firewall (requirePoolCapabilities D requested pool) := by
  induction pool with
  | nil => exact only_pure _
  | cons p rest ih =>
    refine (only_policyCapabilitiesForProfile p).bind fun supported => ?_
    exact (only_requireCapabilities requested supported).bind fun _ => ih

end Prepare

end Only

/-! ## The steps before a connection -/

/-- The field is the driver in use, and no other driver is running. -/
structure Inv (first : Driver) (t : Fields) (l : Log P) : Prop where
  active : activeDriver first l = t.driver
  running : ∀ d, unstopped l = some d → d = t.driver

/-- The driver `d` may be connected once the policy is in force. -/
structure Settled (first d : Driver) (t : Fields) (l : Log P) : Prop extends Inv first t l where
  stopped : unstopped l = none
  torn : Torn first d l

variable {m : RuntimeMethod P α} {f : β → RuntimeMethod P α}

section Steps

variable {D : Deployment P} {first d : Driver} {t t' : Fields} {l l' : Log P} {p : P} {firewall : Bool}

theorem Inv.extends (h : Inv first t l) (ht : t'.driver = t.driver) (hl : Extends (Allowed firewall) l l') :
    Inv first t' l' := by
  refine ⟨?_, fun d hd => ?_⟩
  · rw [activeDriver_extends hl, ht]
    exact h.active
  · rw [unstopped_extends hl] at hd
    rw [ht]
    exact h.running d hd

theorem Settled.extends (h : Settled first d t l) (ht : t'.driver = t.driver)
    (hl : Extends (Allowed firewall) l l') :
    Settled first d t' l' := ⟨h.toInv.extends ht hl, (unstopped_extends hl).trans h.stopped, h.torn.extends hl⟩

theorem Settled.still (h : Settled first t.driver t l) (ht : t'.driver = t.driver)
    (hl : Extends (Allowed firewall) l l') : Settled first t'.driver t' l' := by
  rw [ht]
  exact h.extends ht hl

theorem Settled.congr (h : Settled first d t l) (ht : t'.driver = t.driver) : Settled first d t' l :=
  h.extends ht (Extends.refl l : Extends (Allowed false) l l)

section Perform

variable (c : Call P) {G : Unit → Log P → RuntimeReq P → Prop}

theorem meets_perform {Q : Except PyError (Value c) → Fields → Unit → Log P → Prop} (hG : G () l (.call c))
    (hQ : ∀ a, Q a t () (⟨(), .call c, some a⟩ :: l)) : meets anything G Q (perform c) t () l :=
  ⟨hG, fun a _ _ => hQ a⟩

variable {c} in
theorem meets_perform_bind {Q : Except PyError α → Fields → Unit → Log P → Prop}
    {f : Value c → RuntimeMethod P α}
    (hG : G () l (.call c)) (hok : ∀ v, meets anything G Q (f v) t () (⟨(), .call c, some (.ok v)⟩ :: l))
    (herr : ∀ x, Q (.error x) t () (⟨(), .call c, some (.error x)⟩ :: l)) :
    meets anything G Q (perform c >>= f) t () l := by
  rw [meets_bind]
  refine meets_perform c hG fun a => ?_
  cases a with
  | ok v => exact hok v
  | error x => exact herr x

end Perform

/-- What a method that leaves the tunnel alone does to the history. -/
theorem Asks.meets (hm : Only firewall m) : meets anything (Guard D first)
    (fun _ t' _ l' => t'.driver = t.driver ∧ Extends (Allowed firewall) l l') m t () l :=
  wp_mono (wp_extends (hm t l)) (fun _ _ _ hA => hA.guard) (fun _ _ _ h => h) fun _ _ _ h => h.1

theorem Asks.then {m : RuntimeMethod P β} {Q : Except PyError α → Fields → Unit → Log P → Prop}
    (hm : Only firewall m)
    (hok : ∀ v t' l', t'.driver = t.driver → Extends (Allowed firewall) l l' →
      Effect.meets anything (Guard D first) Q (f v) t' () l')
    (herr : ∀ x t' l', t'.driver = t.driver → Extends (Allowed firewall) l l' → Q (.error x) t' () l') :
    Effect.meets anything (Guard D first) Q (m >>= f) t () l :=
  meets_seq hm.meets (fun v t' _ l' h => hok v t' l' h.1 h.2) fun x t' _ l' h => herr x t' l' h.1 h.2

theorem Inv.disconnect (h : Inv first t l) (a : Option (Except PyError Bool)) :
    Inv first t (⟨(), .call (.disconnect t.driver), a⟩ :: l) := by
  refine ⟨h.active, fun d hd => h.running d ?_⟩
  match a with
  | some (.ok true) =>
    change (if unstopped l = some t.driver then none else unstopped l) = some d at hd
    split at hd
    · cases hd
    · exact hd
  | some (.ok false) | some (.error x) | none => exact hd

theorem Inv.settled (h : Inv first t l) (d : Driver) :
    Settled first d t (⟨(), .call (.disconnect t.driver), some (.ok true)⟩ :: l) := by
  refine ⟨h.disconnect _, ?_, [], t.driver, l, rfl, h.active, fun _ hev => (nomatch hev)⟩
  change (if unstopped l = some t.driver then none else unstopped l) = none
  cases hd : unstopped l with
  | none => simp
  | some d' => rw [h.running d' hd, if_pos rfl]

theorem disconnect_meets (h : Inv first t l) : meets anything (Guard D first)
    (fun o t' _ l' => t' = t ∧ Inv first t l' ∧ (o = .ok true → ∀ d, Settled first d t l') ∧
      ∀ p, Shielded D p l → Shielded D p l')
    (perform (.disconnect t.driver)) t () l := by
  refine meets_perform (.disconnect t.driver) nofun fun a => ?_
  refine ⟨rfl, h.disconnect _, fun ha => ?_, fun p hp => hp.cons (by simp [mark])⟩
  rw [ha]
  exact h.settled

/-- **Teardown.** The same, with the failure on record. -/
theorem teardownActiveDriver_meets (h : Inv first t l) : meets anything (Guard D first)
    (fun o t' _ l' => t'.driver = t.driver ∧ Inv first t' l' ∧ (o = .ok true → ∀ d, Settled first d t' l') ∧
      ∀ p, Shielded D p l → Shielded D p l')
    teardownActiveDriver t () l := by
  unfold teardownActiveDriver
  rw [meets_get_bind, meets_attempt_bind]
  refine meets_imp (disconnect_meets h) fun o t1 _ l1 h1 => ?_
  obtain ⟨rfl, hinv, hset, hshield⟩ := h1
  split
  · have hinv' : ∀ d, Settled first d { t1 with cleanupBarrierFailed := false } l1 :=
      fun d => (hset rfl d).congr rfl
    exact ⟨rfl, (hinv' t1.driver).toInv, fun _ => hinv', hshield⟩
  · rw [meets_modify_bind]
    have hrec : Only (P := P) false (recordLastFailure "cleanup_failed") := only_recordLastFailure _
    refine hrec.then (fun _ t2 l2 ht2 hl2 => ?_) (fun _ t2 l2 ht2 hl2 => ?_) <;>
      exact ⟨ht2, hinv.extends ht2 hl2, nofun, fun p hp => (hshield p hp).extends hl2⟩

theorem useDriver_meets {selected : Driver} (h : Settled first selected t l) : meets anything (Guard D first)
    (fun o t' _ l' => o = .ok t'.driver ∧ Settled first t'.driver t' l' ∧ ∀ p, Shielded D p l → Shielded D p l')
    (useDriver selected) t () l := by
  unfold useDriver
  rw [meets_get_bind]
  split
  · rename_i hsame
    subst hsame
    exact ⟨rfl, h, fun _ hp => hp⟩
  · refine (meets_ask_bind _).mpr ⟨nofun, fun a s' _ => ?_⟩
    refine ⟨rfl, ⟨⟨rfl, fun d hd => ?_⟩, h.stopped, ?_⟩, fun p hp => hp.cons (by simp [mark])⟩
    · -- nothing is running, so the new driver is not another one
      have hnone : unstopped l = some d := hd
      rw [h.stopped] at hnone
      cases hnone
    · exact h.torn.cons nofun fun d' hd => (RuntimeReq.activate.inj hd).symm

theorem activateDriver_meets {selected : Driver} (h : Inv first t l) : meets anything (Guard D first)
    (fun o t' _ l' => Inv first t' l' ∧ (∀ d, o = .ok d → d = t'.driver ∧ Settled first t'.driver t' l' ∧
      ∀ p, Shielded D p l → Shielded D p l'))
    (activateDriver selected) t () l := by
  refine meets_seq (teardownActiveDriver_meets h) (fun torn t1 _ l1 h1 => ?_) fun x t1 _ l1 h1 =>
    ⟨h1.2.1, nofun⟩
  obtain ⟨-, hinv, hset, hshield⟩ := h1
  cases torn with
  | true =>
    refine meets_imp (useDriver_meets (hset rfl selected)) fun o t2 _ l2 h2 => ?_
    obtain ⟨ho, hset2, hshield2⟩ := h2
    refine ⟨hset2.toInv, fun d hd => ?_⟩
    rw [ho] at hd
    cases hd
    exact ⟨rfl, hset2, fun p hp => hshield2 p (hshield p hp)⟩
  | false => exact ⟨hinv, nofun⟩

theorem configureKillSwitch_meets (config : Config) {l : Log P} : meets anything (fun _ _ e => Allowed true e)
    (fun o t' _ _ => o = .ok () → PolicyOf D p t'.killSwitch)
      (configureKillSwitch D config (some p)) t () l := by
  unfold configureKillSwitch
  rw [meets_modify_bind]
  refine meets_ofExcept_bind _ _ (fun blockIpv6 _ => ?_) nofun
  rw [meets_modify_bind]
  refine meets_ofExcept_bind _ _ (fun allowLan _ => ?_) fun x _ h => (nomatch h)
  rw [meets_modify_bind]
  refine meets_ofExcept_bind _ _ (fun endpoints hends => ?_) fun x _ h => (nomatch h)
  exact fun _ => ⟨hends, rfl⟩

/-- **Protection.** After a `True` the policy of the profile is in force. -/
theorem protectConnectionAttempt_meets : meets anything (Guard D first)
    (fun o t' _ l' => t'.driver = t.driver ∧ Extends (Allowed true) l l' ∧ (o = .ok true → Shielded D p l'))
    (protectConnectionAttempt D p) t () l := by
  have honly : Only true (protectConnectionAttempt D p) := only_applyDesiredOnProtection (some p)
  have hshield : meets anything (fun _ _ e => Allowed true e) (fun o _ _ l' => o = .ok true → Shielded D p l')
      (protectConnectionAttempt D p) t () l := by
    refine meets_perform_bind (.inl rfl) (fun config => ?_) fun x h => (nomatch h)
    refine meets_seq (configureKillSwitch_meets config) (fun _ t2 _ l2 hk => ?_) fun x _ _ _ _ h => (nomatch h)
    -- the settings are applied as they were left
    have happ : meets anything (fun _ _ e => Allowed true e) (fun o _ _ l' => o = .ok true → Shielded D p l')
        applyAtomic t2 () l2 := by
      unfold applyAtomic
      rw [meets_get_bind]
      refine meets_perform (.applyAtomic t2.killSwitch) (.inr ⟨rfl, rfl⟩) fun a ha => ?_
      rw [ha]
      exact ⟨[], t2.killSwitch, l2, rfl, hk rfl, fun _ hev => (nomatch hev)⟩
    refine meets_seq happ (fun applied t3 _ l3 hs => ?_) fun x _ _ _ _ h => (nomatch h)
    cases applied with
    | false => exact fun h => (nomatch h)
    | true =>
      refine meets_ofExcept_bind _ _ (fun configured _ => ?_) nofun
      exact fun _ => hs rfl
  refine wp_mono (wp_extends (wp_and (honly t l) hshield)) (fun _ _ _ hA => hA.guard)
    (fun o _ l' h => ?_) fun _ _ _ h => h.1.1
  exact ⟨h.1.1, h.2, h.1.2⟩

/-- **Connect.** The driver in use is connected, and is the one that is running then. -/
theorem connect_meets (h : Settled first t.driver t l) (hp : Shielded D p l) : meets anything (Guard D first)
    (fun _ t' _ l' => Inv first t' l') (perform (.connect t.driver p)) t () l := by
  refine meets_perform (.connect t.driver p) (fun d q hd => ?_) fun a => ⟨h.active, fun d hd => ?_⟩
  · cases hd
    exact ⟨hp, h.torn, h.stopped⟩
  · cases hd
    rfl

end Steps

/-! ## What the operations keep -/

section Operations

variable {D : Deployment P} {first d : Driver} {t t' : Fields} {l l' : Log P} {p : P} {firewall : Bool}

/-- The invariant holds after the method, however it ends. -/
abbrev Leaves (D : Deployment P) (first : Driver) (m : RuntimeMethod P α) (t : Fields) (l : Log P) : Prop :=
  meets anything (Guard D first) (fun _ t' _ l' => Inv first t' l') m t () l

/-- The invariant holds after the method if it did before, however it ends. -/
def Keeps (D : Deployment P) (first : Driver) (m : RuntimeMethod P α) : Prop :=
  ∀ t l, Inv first t l → meets anything (Guard D first) (fun _ t' _ l' => Inv first t' l') m t () l

theorem Asks.keeps (hm : Only true m) : Keeps D first m := by
  intro t l h
  exact meets_imp hm.meets fun _ t' _ l' h' => h.extends h'.1 h'.2

theorem Keeps.bind {m : RuntimeMethod P β} (hm : Keeps D first m)
    (hf : ∀ v, Keeps D first (f v)) : Keeps D first (m >>= f) := by
  intro t l h
  exact meets_seq (hm t l h) (fun v t' _ l' h' => hf v t' l' h') fun _ _ _ _ h' => h'

theorem keeps_ite {c : Prop} [Decidable c] {m' : RuntimeMethod P α} (hm : Keeps D first m)
    (hm' : Keeps D first m') : Keeps D first (if c then m else m') := by
  split
  · exact hm
  · exact hm'

theorem keeps_teardownActiveDriver : Keeps D first teardownActiveDriver := by
  intro t l h
  exact meets_imp (teardownActiveDriver_meets h) fun _ _ _ _ h' => h'.2.1

theorem ready_then {m : RuntimeMethod P β} (hm : Only false m) (h : Settled first t.driver t l)
    (hp : Shielded D p l)
    (hf : ∀ v t' l', t'.driver = t.driver → Settled first t'.driver t' l' → Shielded D p l' →
      Leaves D first (f v) t' l') : Leaves D first (m >>= f) t l := by
  refine hm.then (fun v t' l' ht hl => ?_) fun x t' l' ht hl => h.toInv.extends ht hl
  exact hf v t' l' ht (h.still ht hl) (hp.extends hl)

theorem protect_then {f : Bool → RuntimeMethod P α} (h : Settled first t.driver t l)
    (htrue : ∀ t' l', Settled first t'.driver t' l' → t'.driver = t.driver → Shielded D p l' →
      Leaves D first (f true) t' l')
    (hfalse : Keeps D first (f false)) : Leaves D first (protectConnectionAttempt D p >>= f) t l := by
  refine meets_seq protectConnectionAttempt_meets (fun isProtected t' _ l' h' => ?_) fun x t' _ l' h' =>
    h.toInv.extends h'.1 h'.2.1
  obtain ⟨ht, hl, hshield⟩ := h'
  cases isProtected with
  | true => exact htrue t' l' (h.still ht hl) ht (hshield rfl)
  | false => exact hfalse t' l' (h.toInv.extends ht hl)

theorem driverConnect_then {f : Bool → RuntimeMethod P α} (h : Settled first t.driver t l) (hp : Shielded D p l)
    (hf : ∀ connected, Keeps D first (f connected)) : Leaves D first (driverConnect t.driver p >>= f) t l := by
  have hconn : Leaves D first (driverConnect t.driver p) t l := by
    refine ready_then (only_perform rfl) h hp fun _ t' l' ht h' hp' => ?_
    rw [← ht]
    exact connect_meets h' hp'
  exact meets_seq hconn (fun connected t' _ l' h' => hf connected t' l' h') fun _ _ _ _ h' => h'

theorem only_returnToStandby : Only true (returnToStandby D) := by
  refine only_handleManualDisconnectKillSwitch.bind fun _ => ?_
  refine only_restoreDnsSnapshotIfPresent.bind fun _ => ?_
  exact (only_perform rfl).bind fun _ => only_perform rfl

/-! ### Startup -/

theorem only_startupAutoconnectDisabled : Only (P := P) true startupAutoconnectDisabled := by
  have hdis : Only (P := P) true startupAutoconnectDisabled.disableAndConfirm := by
    refine (only_firewall rfl).bind fun disabled => only_ite ?_ (only_pure _)
    exact (only_perform rfl).bind fun active => only_pure _
  refine only_restoreDnsSnapshotIfPresent.bind fun restored => only_ite ?_ ?_
  · refine (only_perform rfl).bind fun active => ?_
    refine Asks.bind (only_ite hdis (only_pure _)) fun cleared => only_ite ?_ ?_
    · refine (only_perform rfl).bind fun _ => ?_
      refine (only_perform rfl).bind fun _ => ?_
      refine only_forgetForced.bind fun _ => ?_
      exact only_clearLastFailure.bind fun _ => only_pure _
    · exact (only_recordLastFailure _).bind fun _ => only_pure _
  · exact (only_recordLastFailure _).bind fun _ => only_pure _

theorem only_failedWith (reason : String) (state : ConnectionState) :
    Only (P := P) firewall (failedWith reason state) := (only_recordLastFailure _).bind fun _ => only_pure _

theorem keeps_concludeStartup (p : P) : Keeps D first (concludeStartup D p) := by
  refine (only_egressOk p).keeps.bind fun healthy => keeps_ite ?_ ?_
  · refine only_clearLastFailure.keeps.bind fun _ => ?_
    exact ((only_recordSuccessfulProfile p).bind fun _ => only_driverStatus).keeps
  · refine keeps_teardownActiveDriver.bind fun torn => ?_
    exact keeps_ite only_driverStatus.keeps only_cleanupFailureState.keeps

/-- With the restart protection the policy is in force already; otherwise it is applied now. -/
theorem startupActive_meets {require : Bool} (h : Settled first t.driver t l)
    (hp : require = true → Shielded D p l) :
    Leaves D first (startupActive D require t.driver p) t l := by
  have hconn : ∀ connected : Bool, Keeps D first (if connected then concludeStartup D p else driverStatus) :=
    fun connected => keeps_ite (keeps_concludeStartup p) only_driverStatus.keeps
  cases require with
  | true => exact driverConnect_then h (hp rfl) hconn
  | false =>
    refine protect_then h (fun t' l' h' ht hp' => ?_) (only_pure _).keeps
    rw [← ht]
    exact driverConnect_then h' hp' hconn

theorem startupProfile_meets {require : Bool} (h : Inv first t l) (hp : require = true → Shielded D p l) :
    Leaves D first (startupProfile D require p) t l := by
  have hprep : Only false (prepareDriverForConnection D p).attempt :=
    (only_prepareDriverForConnection p).attempt
  refine hprep.then (fun prepared t1 l1 ht1 hl1 => ?_) fun x t1 l1 ht1 hl1 => h.extends ht1 hl1
  have h1 := h.extends ht1 hl1
  have hp1 : require = true → Shielded D p l1 := fun hr => (hp hr).extends hl1
  split
  iterate 3 exact (only_failedWith _ _).keeps t1 l1 h1
  · exact (only_raise _).keeps t1 l1 h1
  rw [meets_attempt_bind]
  refine meets_imp (activateDriver_meets h1) fun activated t2 _ l2 h2 => ?_
  obtain ⟨hinv2, hset2⟩ := h2
  split
  · exact only_cleanupFailureState.keeps t2 l2 hinv2
  · exact (only_raise _).keeps t2 l2 hinv2
  · obtain ⟨rfl, hset, hshield⟩ := hset2 _ rfl
    exact startupActive_meets hset fun hr => hshield p (hp1 hr)

theorem keeps_startupAutoconnect (require : Bool) (profile : Option P) :
    Keeps D first (startupAutoconnect D require profile) := by
  intro t l h
  cases require with
  | false =>
    cases profile with
    | none => exact h
    | some p => exact startupProfile_meets h nofun
  | true =>
    cases profile with
    | none =>
      refine Keeps.bind (only_applyDesiredOnProtection none).keeps (fun isProtected => ?_) t l h
      exact keeps_ite (only_pure _).keeps (only_failedWith _ _).keeps
    | some p =>
      refine meets_seq protectConnectionAttempt_meets (fun isProtected t1 _ l1 h1 => ?_) fun x t1 _ l1 h1 =>
        h.extends h1.1 h1.2.1
      obtain ⟨ht1, hl1, hshield⟩ := h1
      cases isProtected with
      | true => exact startupProfile_meets (h.extends ht1 hl1) fun _ => hshield rfl
      | false => exact (only_failedWith _ _).keeps t1 l1 (h.extends ht1 hl1)

theorem keeps_startup (require : Bool) : Keeps D first (startup D require) := by
  refine (only_perform rfl).attempt.keeps.bind fun loaded => ?_
  cases loaded with
  | error x => exact keeps_ite (only_pure _).keeps (only_raise _).keeps
  | ok state =>
    refine keeps_ite ?_ (only_pure _).keeps
    refine (only_storedProfile _).keeps.bind fun profile => ?_
    exact keeps_ite (keeps_startupAutoconnect require profile) only_startupAutoconnectDisabled.keeps

/-! ### On request -/

theorem keeps_failManualConnect : Keeps D first (failManualConnect D) := by
  refine keeps_teardownActiveDriver.bind fun torn => keeps_ite ?_ (only_pure _).keeps
  refine only_returnToStandby.keeps.bind fun _ => ?_
  exact ((only_recordLastFailure _).bind fun _ => only_pure _).keeps

theorem connectProtected_meets (h : Settled first t.driver t l) (hp : Shielded D p l) :
    Leaves D first (connectProtected D t.driver p) t l := by
  have hconn : ∀ connected : Bool, Keeps D first (if connected then do
        let healthy ← egressOk p
        if healthy then do
          clearLastFailure
          recordSuccessfulProfile D p
          pure true
        else failManualConnect D
      else failManualConnect D) := by
    refine fun connected => keeps_ite ?_ keeps_failManualConnect
    refine (only_egressOk p).keeps.bind fun healthy => keeps_ite ?_ keeps_failManualConnect
    refine only_clearLastFailure.keeps.bind fun _ => ?_
    exact ((only_recordSuccessfulProfile p).bind fun _ => only_pure _).keeps
  refine ready_then (only_perform rfl) h hp fun _ t1 l1 ht1 h1 hp1 => ?_
  refine ready_then (only_perform rfl) h1 hp1 fun _ t2 l2 ht2 h2 hp2 => ?_
  rw [← ht1, ← ht2]
  exact driverConnect_then h2 hp2 hconn

theorem keeps_connect (p : P) : Keeps D first (connect D p) := by
  refine (only_prepareDriverForConnection p).keeps.bind fun driver => ?_
  intro t l h
  refine meets_seq (activateDriver_meets h) (fun active t1 _ l1 h1 => ?_) fun x t1 _ l1 h1 => h1.1
  obtain ⟨rfl, hset, -⟩ := h1.2 _ rfl
  refine protect_then hset (fun t2 l2 h2 ht2 hp2 => ?_) (only_pure _).keeps
  rw [← ht2]
  exact connectProtected_meets h2 hp2

theorem keeps_disconnect : Keeps D first (disconnect D) := by
  refine keeps_teardownActiveDriver.bind fun torn => keeps_ite ?_ (only_pure _).keeps
  refine only_returnToStandby.keeps.bind fun _ => ?_
  exact (only_clearLastFailure.bind fun _ => only_pure _).keeps

/-! ### Rotation -/

section Router

variable {r : Router} {G : Unit → Log P → RuntimeReq P → Prop}

theorem meets_onRuntime {Q : Except PyError α → Fields × Router → Unit → Log P → Prop} :
    meets anything G Q (onRuntime m) (t, r) () l ↔
    meets anything G (fun o t' s' l' => Q o (t', r) s' l') m t () l :=
  wp_bind _ _ _ _

theorem meets_assign_bind {Q : Except PyError α → Fields × Router → Unit → Log P → Prop} (g : Router → Router)
    (f : Unit → RouterMethod P α) :
    meets anything G Q (Router.assign g >>= f) (t, r) () l ↔ meets anything G Q (f ()) (t, g r) () l :=
  meets_modify_bind _ _

/-- The invariant through the router. -/
def RouterKeeps (D : Deployment P) (first : Driver) (m : RouterMethod P α) : Prop :=
  ∀ t l, Inv first t.1 l → meets anything (Guard D first) (fun _ t' _ l' => Inv first t'.1 l') m t () l

theorem Keeps.onRuntime (hm : Keeps D first m) : RouterKeeps D first (onRuntime m) := by
  intro t l h
  exact meets_onRuntime.mpr (hm t.1 l h)

theorem RouterKeeps.bind {m : RouterMethod P β} {f : β → RouterMethod P α} (hm : RouterKeeps D first m)
    (hf : ∀ v, RouterKeeps D first (f v)) : RouterKeeps D first (m >>= f) := by
  intro t l h
  exact meets_seq (hm t l h) (fun v t' _ l' h' => hf v t' l' h') fun _ _ _ _ h' => h'

theorem RouterKeeps.attempt {m : RouterMethod P α} (hm : RouterKeeps D first m) :
    RouterKeeps D first m.attempt := by
  intro t l h
  rw [meets_attempt]
  exact hm t l h

theorem routerKeeps_pure (v : α) : RouterKeeps D first (pure v) := fun _ _ h => h

theorem routerKeeps_assign (g : Router → Router) : RouterKeeps D first (Router.assign g) := fun _ _ h => h

theorem routerKeeps_preflightProfile (p : P) : RouterKeeps D first (Router.preflightProfile D p) := by
  refine (routerKeeps_assign _).bind fun _ => ?_
  refine (only_prepareDriverForConnection p).keeps.onRuntime.attempt.bind fun prepared => ?_
  cases prepared with
  | ok driver => exact (routerKeeps_assign _).bind fun _ => routerKeeps_pure _
  | error x =>
    change RouterKeeps D first (if Router.isRejection x then pure false else Method.raise x)
    split
    · exact routerKeeps_pure _
    · exact fun _ _ h => h

theorem router_disconnect_meets (h : Inv first t l) : meets anything (Guard D first)
    (fun o t' _ l' => Inv first t'.1 l' ∧ (o = .ok true → ∀ d, Settled first d t'.1 l'))
    Router.disconnect (t, r) () l := by
  unfold Router.disconnect
  rw [meets_bind]
  refine meets_onRuntime.mpr (meets_imp (teardownActiveDriver_meets h) fun o t1 _ l1 h1 => ?_)
  obtain ⟨-, hinv, hset, -⟩ := h1
  cases o with
  | error x => exact ⟨hinv, nofun⟩
  | ok torn =>
    refine ⟨hinv, fun ho => ?_⟩
    cases ho
    exact hset rfl

theorem router_connectWith_meets {driver : Driver} (h : ∀ d, Settled first d t l) :
    meets anything (Guard D first)
    (fun _ t' _ l' => Inv first t'.1 l') (Router.connectWith D driver p) (t, r) () l := by
  unfold Router.connectWith
  rw [meets_assign_bind, meets_bind]
  refine meets_onRuntime.mpr (meets_imp (useDriver_meets (h driver)) fun o t1 _ l1 h1 => ?_)
  obtain ⟨rfl, hset, -⟩ := h1
  change meets _ _ _ (onRuntime (protectConnectionAttempt D p) >>= _) _ _ _
  rw [meets_bind]
  refine meets_onRuntime.mpr (meets_imp protectConnectionAttempt_meets fun o t2 _ l2 h2 => ?_)
  obtain ⟨ht2, hl2, hshield⟩ := h2
  have h2 := hset.still ht2 hl2
  match o with
  | .error x | .ok false => exact h2.toInv
  | .ok true =>
    rw [← ht2]
    exact (meets_assign_bind _ _).mpr (meets_onRuntime.mpr (connect_meets h2 (hshield rfl)))

theorem router_preparedDriver_meets (h : ∀ d, Settled first d t l) : meets anything (Guard D first)
    (fun _ t' _ l' => ∀ d, Settled first d t'.1 l') (Router.preparedDriver D p) (t, r) () l := by
  unfold Router.preparedDriver
  rw [meets_get_bind]
  split
  · exact h
  rw [meets_attempt_bind]
  have hprep : Only true (prepareDriverForConnection D p) := only_prepareDriverForConnection p
  refine meets_onRuntime.mpr (meets_imp hprep.meets fun prepared t1 _ l1 h1 => ?_)
  have hset : ∀ d, Settled first d t1 l1 := fun d => (h d).extends h1.1 h1.2
  cases prepared with
  | ok driver => exact hset
  | error x =>
    change meets anything _ _ (if Router.isRejection x then pure none else Method.raise x) _ _ _
    split <;> exact hset

theorem router_connect_meets (h : ∀ d, Settled first d t l) : meets anything (Guard D first)
    (fun _ t' _ l' => Inv first t'.1 l') (Router.connect D p) (t, r) () l := by
  unfold Router.connect
  rw [meets_get_bind]
  split
  · refine meets_seq (router_preparedDriver_meets h) (fun driver t1 _ l1 h1 => ?_)
      fun x t1 _ l1 h1 => (h1 t1.1.driver).toInv
    cases driver with
    | none => exact (h1 t1.1.driver).toInv
    | some driver => exact router_connectWith_meets h1
  · have hrefuse : RouterKeeps D first (do
        onRuntime (Method.modify fun t => { t with cleanupBarrierFailed := true })
        onRuntime (recordLastFailure "cleanup_failed")
        pure false : RouterMethod P Bool) := by
      refine RouterKeeps.bind (Keeps.onRuntime (Asks.keeps (only_modify fun _ => rfl))) fun _ => ?_
      exact (only_recordLastFailure _).keeps.onRuntime.bind fun _ => routerKeeps_pure _
    exact hrefuse (t, r) l (h t.driver).toInv

/-- What holds between two requests of the engine: after a disconnect that returned `True` the way
is free. -/
def Between (first : Driver) (t : Fields × Router) (_ : Unit) (l : Log P)
    (u : Rotation.RotationLog P PyError Unit) : Prop :=
  Inv first t.1 l ∧ (Rotation.JustDisconnected u → ∀ d, Settled first d t.1 l)

theorem answer_meets (e : RotationReq P) (t : Fields × Router) (l : Log P)
    (u : Rotation.RotationLog P PyError Unit)
    (h : Between first t () l u) (he : Rotation.ConnectsTorn () u e) :
    wp anything (Guard D first) (fun a s' l' => Between first a.2 s' l' (⟨(), e, some a.1⟩ :: u))
      (fun _ _ _ => False) (Router.answer D e t) () l := by
  obtain ⟨hinv, hfree⟩ := h
  have hoth : ∀ {e' : RotationReq P} {a : Option (RotationAns PyError e')} {t' : Fields × Router} {l' : Log P},
      e' ≠ .disconnect → Inv first t'.1 l' → Between first t' () l' (⟨(), e', a⟩ :: u) := by
    refine fun hne hinv' => ⟨hinv', ?_⟩
    rintro ⟨s, earlier, heq⟩
    cases heq
    exact absurd rfl hne
  cases e with
  | preflight p =>
    exact wp_imp (routerKeeps_preflightProfile p t l hinv) fun _ _ _ h' => hoth nofun h'
  | disconnect =>
    refine wp_imp (router_disconnect_meets hinv) fun a _ l' h' => ⟨h'.1, fun hj => h'.2 ?_⟩
    obtain ⟨o, t'⟩ := a
    obtain ⟨s, earlier, heq⟩ := hj
    cases heq
    rfl
  | connect p =>
    exact wp_imp (router_connect_meets (hfree (he p rfl))) fun _ _ _ h' => hoth nofun h'
  | healthCheck p =>
    exact wp_imp ((only_checkedAndRecorded p true).keeps.onRuntime t l hinv) fun _ _ _ h' => hoth nofun h'
  | clock | sleep seconds =>
    refine ⟨nofun, fun a s' _ => hoth nofun ?_⟩
    exact hinv.extends rfl ((Extends.refl _).cons (.inl rfl : Allowed true _))
  | rollbackStart p => exact hoth nofun hinv

end Router

/-- **Rotation.** The engine connects only right after a disconnect, and so does the router. -/
theorem keeps_rotation (pool : List P) (force : Bool) : Keeps D first (rotation D pool force) := by
  intro t l h
  have horder : Rotation.Orderly anything (rotate D.idOf D.engine true pool force t.history :
      Rotation.RotationProg P PyError _) := Rotation.orderly_rotate force t.history
  have hhnd := wp_handle_under (fun e t _ l u h he => answer_meets (D := D) e t l u h he)
    (rotate D.idOf D.engine true pool force t.history) (t, {}) () l []
    ⟨h, fun hj => by obtain ⟨s, earlier, heq⟩ := hj; cases heq⟩ (horder () [])
  refine wp_seq hhnd fun a _ l' ha => ?_
  obtain ⟨o, t', r⟩ := a
  obtain ⟨u', hinv, -⟩ := ha
  have hsame : ∀ history, Inv first { t' with history } l' :=
    fun history => hinv.extends rfl (Extends.refl l' : Extends (Allowed true) l' l')
  cases o with
  | ok out => exact hsame out.2
  | error x => exact hsame _

variable (config : Config)

theorem only_concludeUnprotected (word : String) : Only true (concludeUnprotected D config word) := by
  refine (only_applyAllFailedKillSwitch config).bind fun killSwitchActive => ?_
  refine (only_perform rfl).bind fun _ => ?_
  refine only_get.bind fun t => ?_
  exact (only_recordLastFailure _).bind fun _ => only_withDriverMode _

theorem only_recoveredStateAfterStableConnection :
    Only true (recoveredStateAfterStableConnection D config) := by
  refine (only_restoreKillSwitchAfterRecovery config).bind fun _ => ?_
  exact only_driverStatus.bind fun state => only_pure _

theorem only_concludeRotation (result : RotationResult P) :
    Only true (concludeRotation D config result) := by
  refine only_get.bind fun t => only_ite only_cleanupFailureState ?_
  split
  · refine Asks.bind (only_modify fun _ => rfl) fun _ => ?_
    refine (only_perform rfl).bind fun _ => ?_
    refine (only_perform rfl).bind fun _ => ?_
    exact only_clearLastFailure.bind fun _ => only_recoveredStateAfterStableConnection config
  · exact only_ite (only_concludeUnprotected config _) (only_concludeUnprotected config _)

theorem keeps_rotatePool (pool : List P) (force : Bool) :
    Keeps D first (rotatePool D config pool force) := by
  have hchk : Only true (checkPool D pool) :=
    (only_perform rfl).bind fun requested => only_requirePoolCapabilities requested pool
  refine hchk.attempt.keeps.bind fun checked => ?_
  split
  · exact ((only_recordLastFailure _).bind fun _ => only_withDriverMode _).keeps
  · exact (only_raise _).keeps
  · refine (only_perform rfl).keeps.bind fun _ => ?_
    exact (keeps_rotation pool force).bind fun result => (only_concludeRotation config result).keeps

theorem keeps_attemptRotation (force : Bool) (exclude : String) :
    Keeps D first (attemptRotation D config force exclude) := by
  refine Keeps.bind (Asks.keeps (only_modify fun _ => rfl)) fun _ => ?_
  refine (only_perform rfl).keeps.bind fun _ => ?_
  refine Keeps.bind (only_ite (only_pure _) (only_ofExcept _)).keeps fun may => keeps_ite ?_ ?_
  · exact (only_perform rfl).keeps.bind fun pool => keeps_rotatePool config _ force
  · exact (only_concludeUnprotected config _).keeps

theorem keeps_rotateNow (force : Bool) : Keeps D first (rotateNow D force) := by
  refine (only_loadedState _ _).keeps.bind fun enabled => keeps_ite ?_ (only_pure _).keeps
  exact (only_perform rfl).keeps.bind fun config => keeps_attemptRotation config force ""

theorem keeps_scheduledRotate : Keeps D first (scheduledRotate D) := by
  refine (only_loadedState _ _).keeps.bind fun enabled => keeps_ite ?_ (only_loadedState _ _).keeps
  refine (only_perform rfl).keeps.bind fun config => ?_
  refine (only_ofExcept _).keeps.bind fun hours => keeps_ite ?_ only_status.keeps
  refine (only_perform rfl).keeps.bind fun pool => ?_
  exact keeps_ite only_status.keeps (keeps_attemptRotation config true "")

/-! ### Iterations and shutdown -/

theorem keeps_confirmReconnect (p : P) : Keeps D first (confirmReconnect D p) := by
  refine (only_checkedAndRecorded p true).keeps.bind fun result => keeps_ite ?_ ?_
  · exact ((only_recordSuccessfulProfile p).bind fun _ => only_pure _).keeps
  · exact keeps_teardownActiveDriver.bind fun _ => (only_pure _).keeps

theorem reconnectActive_meets (h : Settled first t.driver t l) :
    Leaves D first (reconnectActive D t.driver p) t l := by
  refine protect_then h (fun t' l' h' ht hp' => ?_) (only_pure _).keeps
  rw [← ht]
  exact driverConnect_then h' hp' fun connected => keeps_ite (keeps_confirmReconnect p) (only_pure _).keeps

theorem keeps_tryReconnect (p : P) : Keeps D first (tryReconnect D p) := by
  have hrej : ∀ reason, Only (P := P) true (rejectedReconnect reason) :=
    fun reason => (only_recordLastFailure _).bind fun _ => only_pure _
  refine (only_prepareDriverForConnection p).attempt.keeps.bind fun prepared => ?_
  split
  iterate 3 exact (hrej _).keeps
  · exact (only_raise _).keeps
  intro t l h
  rw [meets_attempt_bind]
  refine meets_imp (activateDriver_meets h) fun activated t1 _ l1 h1 => ?_
  obtain ⟨hinv1, hset1⟩ := h1
  split
  · exact hinv1
  · exact hinv1
  · obtain ⟨rfl, hset, -⟩ := hset1 _ rfl
    exact reconnectActive_meets hset

theorem keeps_escalate (current : Option P) : Keeps D first (escalate D config current) := by
  refine only_get.keeps.bind fun t => keeps_ite only_cleanupFailureState.keeps ?_
  refine Keeps.bind (Asks.keeps (only_modify fun _ => rfl)) fun _ => ?_
  refine (only_ofExcept _).keeps.bind fun attempts => keeps_ite ?_ ?_
  · exact ((only_recordLastFailure _).bind fun _ => only_withDriverMode _).keeps
  · refine Keeps.bind (Asks.keeps (only_modify fun _ => rfl)) fun _ => ?_
    exact keeps_attemptRotation config false _

theorem keeps_recoverFromFailure : Keeps D first (recoverFromFailure D) := by
  refine Keeps.bind (Asks.keeps (only_modify fun _ => rfl)) fun _ => ?_
  refine (only_perform rfl).keeps.bind fun config => ?_
  refine (only_perform rfl).keeps.bind fun _ => ?_
  refine (only_perform rfl).keeps.bind fun may => keeps_ite ?_ ?_
  · refine only_activeProfile.keeps.bind fun current => ?_
    have hrec : Keeps D first (tryReconnectCurrent D current) := by
      cases current with
      | none => exact (only_pure _).keeps
      | some p => exact keeps_tryReconnect p
    refine hrec.bind fun reconnected => keeps_ite ?_ (keeps_escalate config current)
    refine Keeps.bind (Asks.keeps (only_modify fun _ => rfl)) fun _ => ?_
    refine (only_perform rfl).keeps.bind fun _ => ?_
    exact (only_clearLastFailure.bind fun _ => only_recoveredStateAfterStableConnection config).keeps
  · exact ((only_recordLastFailure _).bind fun _ => only_withDriverMode _).keeps

theorem only_iterationHealth (profile : Option P) : Only firewall (iterationHealth profile) := by
  refine only_get.bind fun t => ?_
  cases profile with
  | none => exact only_perform rfl
  | some p =>
    refine only_ite (only_checkedAndRecorded p false) ?_
    exact (only_perform rfl).bind fun health => (only_perform rfl).bind fun _ => only_pure _

theorem keeps_runIteration : Keeps D first (runIteration D) := by
  refine (only_loadedState _ _).keeps.bind fun enabled => keeps_ite ?_ (only_pure _).keeps
  refine (only_loadedState _ _).keeps.bind fun autoconnect => ?_
  refine only_driverStatus.keeps.bind fun current => keeps_ite (only_loadedState _ _).keeps ?_
  refine only_maintainKillSwitchForActiveRuntime.keeps.bind fun maintained =>
    keeps_ite ?_ (only_failedWith _ _).keeps
  refine only_activeProfile.keeps.bind fun profile => ?_
  refine (only_iterationHealth profile).keeps.bind fun health =>
    keeps_ite ?_ (keeps_ite keeps_recoverFromFailure ?_)
  · exact ((only_perform rfl).bind fun _ => only_driverStatus).keeps
  · exact ((only_recordLastFailure _).bind fun _ => only_driverStatus.bind fun state => only_pure _).keeps

theorem keeps_shutdownDriver : Keeps D first shutdownDriver := by
  intro t l h
  unfold shutdownDriver
  rw [meets_get_bind, meets_attempt_bind]
  refine meets_imp (disconnect_meets h) fun o t1 _ l1 h1 => ?_
  obtain ⟨rfl, hinv, -⟩ := h1
  split <;> exact hinv

theorem keeps_shutdown : Keeps D first (shutdown D) := by
  have hprot : Only true (shutdownProtection D) := by
    have hbody : Only (P := P) true (do let profile ← activeProfile; applyDesiredOnProtection D profile) :=
      only_activeProfile.bind fun profile => only_applyDesiredOnProtection profile
    refine hbody.attempt.bind fun outcome => ?_
    split <;> exact only_pure _
  refine (only_loadedState _ _).keeps.bind fun desiredOn => keeps_ite ?_ ?_
  · refine hprot.keeps.bind fun protectionOk => ?_
    refine keeps_shutdownDriver.bind fun _ => ?_
    exact (only_restoreDnsSnapshotIfPresent.bind fun _ => only_pure _).keeps
  · refine keeps_shutdownDriver.bind fun disconnected => ?_
    refine only_restoreDnsSnapshotIfPresent.keeps.bind fun _ => ?_
    exact (only_handleManualDisconnectKillSwitch.bind fun _ => only_pure _).keeps

theorem keeps_run (op : Operation P) : Keeps D first (op.run D) := by
  cases op with
  | startup require => exact (keeps_startup require).bind fun _ => (only_pure _).keeps
  | connect p => exact (keeps_connect p).bind fun _ => (only_pure _).keeps
  | disconnect => exact keeps_disconnect.bind fun _ => (only_pure _).keeps
  | runIteration => exact keeps_runIteration.bind fun _ => (only_pure _).keeps
  | rotateNow force => exact (keeps_rotateNow force).bind fun _ => (only_pure _).keeps
  | scheduledRotate => exact keeps_scheduledRotate.bind fun _ => (only_pure _).keeps
  | shutdown => exact keeps_shutdown.bind fun _ => (only_pure _).keeps
  | healthCheck =>
    refine Keeps.bind ?_ fun _ => (only_pure _).keeps
    refine (only_loadedState _ _).keeps.bind fun enabled => keeps_ite ?_ (only_pure _).keeps
    exact only_get.keeps.bind fun t => Asks.keeps (only_perform rfl)
  | status => exact only_status.keeps.bind fun _ => (only_pure _).keeps

end Operations

/-! ## Histories -/

/-- The fields and the requests after any sequence of operations on a runtime that starts with the
fields `t₀`; each ends as it ends, with a result or an exception. -/
inductive History (D : Deployment P) (t₀ : Fields) : Fields → Log P → Prop
  | start : History D t₀ t₀ []
  | operation {t l o t' l'} (op : Operation P) : History D t₀ t l →
      Ends anything (op.run D t) () l (.ok (o, t')) () l' → History D t₀ t' l'

/-- The run lemma: the invariant holds, and every request met the guard. -/
theorem History.lawful {D : Deployment P} {t0 t : Fields} {l : Log P} (h : History D t0 t l) :
    Inv t0.driver t l ∧ Lawful anything (Guard D t0.driver) () () l := by
  induction h with
  | start => exact ⟨⟨rfl, nofun⟩, .init⟩
  | operation op _ hend ih =>
    have hkeeps := keeps_run (D := D) op _ _ ih.1
    obtain ⟨a, ha, hinv⟩ := meets_ends hkeeps hend
    cases ha
    exact ⟨hinv, exec_lawful ih.2 hkeeps (ends_exec hend)⟩

/-- A deployment with one profile, at a literal address. -/
def lab : Deployment Unit where
  idOf _ := "profile"
  protocol _ := .other
  endpointHost _ := .ok (some "198.51.100.7")
  ipAddress host := some (.ip, host)
  uid := 1000
  engine := {}
  originalSelector := true

def labAnswer : (e : RuntimeReq Unit) → RuntimeAns e
  | .call c => .ok (value c)
  | .clock => 0
  | .activate _ | .sleep _ => ()
where
  value : (c : Call Unit) → Value c
    | .connect _ _ | .disconnect _ | .applyAtomic _ | .disable | .isActive | .canRetryNow | .probe _ => true
    | .loadSnapshot => false
    | .status _ => { mode := "sing-box", tunActive := true, status := "connected" }
    | .observe state => state
    | .healthCheck _ => "ok"
    | .killSwitchStatus => ⟨some true, some true⟩
    | .newDriver _ => 1
    | .driverSelector _ => ⟨1, .singBox⟩
    | .loadState => { desiredState := "on" }
    | .getProfile _ => some ()
    | .loadConfig => {}
    | .requestedPolicyCapabilities => [.dns, .routing, .capture]
    | .compatiblePool => [()]
    | .preflightManagementPath _ _ | .setState _ _ | .stampFailure | .updateProfile _ _ | .loadDnsPolicy
    | .validateProfileEndpoint _ | .connectOptions | .restoreSnapshot | .configureRecovery | .recoverySuccess
    | .recoveryFailure => ()

def labScript (_ : Unit) (_ : Unit) (e : RuntimeReq Unit) : Reply (RuntimeAns (P := Unit)) Unit Unit e :=
  .answer (labAnswer e) () ()

theorem labScript_follows : Follows labScript anything :=
  ⟨fun _ _ _ _ _ _ _ => trivial, fun _ _ _ _ _ => trivial⟩

def isConnect : RuntimeReq P → Bool
  | .call (.connect _ _) => true
  | _ => false

theorem of_isConnect {e : RuntimeReq P} (h : isConnect e = true) : ∃ d p, e = .call (.connect d p) := by
  unfold isConnect at h
  split at h
  · exact ⟨_, _, rfl⟩
  · cases h

theorem exists_connect {p : Prog (RuntimeAns (P := Unit)) PyError α}
    (h : (drive labScript p () () []).2.2.2.any (fun ev => isConnect ev.req) = true) :
    ∃ (l' later earlier : Log Unit) (d : Driver) (a : Option (Except PyError Bool)),
    Exec anything p () [] () l' ∧
      l' = later ++ ⟨(), .call (.connect d ()), a⟩ :: earlier := by
  have hexec := drive_exec labScript_follows p () () []
  obtain ⟨ev, hmem, hev⟩ := List.any_eq_true.mp h
  obtain ⟨later, earlier, hsplit⟩ := List.append_of_mem hmem
  obtain ⟨⟨⟩, e, a⟩ := ev
  obtain ⟨d, ⟨⟩, rfl⟩ := of_isConnect hev
  exact ⟨_, later, earlier, d, a, hexec, hsplit⟩

def labFields : Fields := { driver := ⟨0, .singBox⟩, killSwitch := {} }

/-- **No connection without protection.** In every history, and at every point of an operation that
is under way, each call of `connect` came after a successful `apply_atomic` with the endpoints and
the uid of its profile, with neither a disable nor an apply for another profile since; after a
`disconnect` of the driver that was in use before, which returned `True`, with no connect since; and
no other driver was left running. -/
theorem no_unprotected_connect (D : Deployment P) {t₀ t : Fields} {l l' : Log P}
    (h : History D t₀ t l) (op : Operation P)
    (hrun : Exec anything (op.run D t) () l () l') {later earlier : Log P} {d : Driver} {p : P} {a}
    (hsplit : l' = later ++ ⟨(), .call (.connect d p), a⟩ :: earlier) : Safe D t₀.driver d p earlier := by
  obtain ⟨hinv, hlaw⟩ := h.lawful
  have hlaw' := exec_lawful hlaw (keeps_run op t l hinv) hrun
  rw [hsplit] at hlaw'
  exact (lawful_split hlaw').2.1 d p rfl

/-- A manual connection of the one profile: its connect was safe. -/
theorem no_unprotected_connect_lab :
    ∃ (l' later earlier : Log Unit) (d : Driver) (a : Option (Except PyError Bool)),
    Exec anything ((Operation.connect ()).run lab labFields) () [] () l' ∧
      l' = later ++ ⟨(), .call (.connect d ()), a⟩ :: earlier ∧ Safe lab labFields.driver d () earlier := by
  have hany : (drive labScript ((Operation.connect ()).run lab labFields) () () []).2.2.2.any
      (fun ev => isConnect ev.req) = true := by decide +kernel
  obtain ⟨l', later, earlier, d, a, hexec, hsplit⟩ := exists_connect hany
  exact ⟨l', later, earlier, d, a, hexec, hsplit, no_unprotected_connect lab .start (.connect ()) hexec hsplit⟩

/-- What was connected runs until a disconnect of it returns `True`: nothing else is connected
before that. -/
theorem unstopped_since {D : Deployment P} {first d : Driver} {p : P} {a} {later earlier : Log P}
    (h : Lawful anything (Guard D first) () () (later ++ ⟨(), .call (.connect d p), a⟩ :: earlier))
    (hnot : ⟨(), .call (.disconnect d), some (.ok true)⟩ ∉ later) :
    unstopped (later ++ ⟨(), .call (.connect d p), a⟩ :: earlier) = some d := by
  induction later with
  | nil => rfl
  | cons ev later ih =>
    obtain ⟨hlaw, hguard, -⟩ := lawful_last h
    rw [List.mem_cons, not_or] at hnot
    have hrest := ih hlaw hnot.2
    rw [List.cons_append]
    unfold unstopped
    split <;> rename_i heq <;> cases heq
    -- a connection is only made when nothing is running
    · exact absurd (hrest.symm.trans (hguard _ _ rfl).stopped) nofun
    · refine (if_neg fun hd => ?_).trans hrest
      cases hrest.symm.trans hd
      exact hnot.1 rfl
    · exact hrest

/-- **No driver is lost.** In every history, a driver that was connected is the one the runtime
holds, unless a disconnect of it has returned `True` since. -/
theorem no_driver_lost {D : Deployment P} {t₀ t : Fields} {l later earlier : Log P}
    (h : History D t₀ t l) {d : Driver} {p : P}
    {a} (hsplit : l = later ++ ⟨(), .call (.connect d p), a⟩ :: earlier) :
    d = t.driver ∨ ⟨(), .call (.disconnect d), some (.ok true)⟩ ∈ later := by
  obtain ⟨hinv, hlaw⟩ := h.lawful
  subst hsplit
  exact or_iff_not_imp_right.mpr fun hnot => hinv.running d (unstopped_since hlaw hnot)

theorem no_driver_lost_lab : ∃ t l later earlier d a, History lab labFields t l ∧
    l = later ++ ⟨(), .call (.connect d ()), a⟩ :: earlier ∧
      (d = t.driver ∨ ⟨(), .call (.disconnect d), some (.ok true)⟩ ∈ later) := by
  obtain ⟨res, hres, hok⟩ := (Option.any_eq_true Except.isOk _).mp (by decide +kernel :
    (drive labScript ((Operation.connect ()).run lab labFields) () () []).1.any _ = true)
  cases res with
  | error => cases hok
  | ok out =>
    have hhist := History.operation (.connect ()) .start (drive_ends labScript_follows hres)
    obtain ⟨ev, hmem, hev⟩ := List.any_eq_true.mp
      (by decide +kernel : (drive labScript ((Operation.connect ()).run lab
      labFields) () () []).2.2.2.any (fun ev => isConnect ev.req) = true)
    obtain ⟨later, earlier, hsplit⟩ := List.append_of_mem hmem
    obtain ⟨⟨⟩, e, a⟩ := ev
    obtain ⟨d, ⟨⟩, rfl⟩ := of_isConnect hev
    exact ⟨_, _, _, _, _, _, hhist, hsplit, no_driver_lost hhist hsplit⟩

end WatchdogVpn.Runtime
