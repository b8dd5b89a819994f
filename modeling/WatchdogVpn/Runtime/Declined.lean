import Mathlib
import WatchdogVpn.Runtime.Protection

/-!
# A rotation that is declined

Before the minimum interval has passed, `rotate` returns without an attempt. The runtime takes that
for an empty pool: it applies the policy for failed rotations, counts a failure and records a
reason.

* `reports_concludeUnprotected`: what `_handle_rotation_unavailable` leaves behind.
* `rotation_declined`: the engine asks for the time, and nothing else.
* **`declined_rotation_reported`**: every declined rotation that returns has been recorded as a
  failure.
-/

namespace WatchdogVpn.Runtime

open Effect
open Rotation (poolSizeCategory minInterval)

variable {P α β : Type}

/-- Whatever else the world answers: the connection is wanted, rotation is enabled, there is a
choice of profiles, and the last rotation ended too short ago. -/
structure TooEarly (H : Handler (RuntimeAns (P := P)) Unit) (D : Deployment P) (t : Fields)
    (last : Rat) : Prop where
  ended : t.history.lastRotationAt = some last
  desired : ∀ a, H.step () (.call .loadState) a () → ∃ state, a = .ok state ∧ state.desiredState = "on"
  enabled : ∀ config, H.step () (.call .loadConfig) (.ok config) () → config.rotationEnabled = .ok true
  choice : ∀ pool, H.step () (.call .compatiblePool) (.ok pool) () → 2 ≤ pool.length ∧
    ∀ now, H.step () .clock now () → now - last < minInterval D.engine pool.length

def Asked (c : Call P) (l : Log P) : Prop := ∃ ev ∈ l, ev.req = .call c

/-- A failure has been recorded; unless a driver does not support the policy, it also counts for the
backoff. -/
def Reported (l : Log P) : Prop :=
  ∃ reason, Asked (.setState .lastFailureReason reason) l ∧
    (Asked .recoveryFailure l ∨ reason = "unsupported_policy")

/-- The method ends in an exception or has reported a failure, and calls no driver but for its
state. -/
def Reports (H : Handler (RuntimeAns (P := P)) Unit) (m : RuntimeMethod P α) (t : Fields) (l : Log P) : Prop :=
  meets H (fun _ _ e => Allowed true e) (fun o _ _ l' => (∃ v, o = .ok v) → Reported l') m t () l

section Steps

variable {H : Handler (RuntimeAns (P := P)) Unit} {D : Deployment P} {t : Fields} {l : Log P}
  {m : RuntimeMethod P α} {f : α → RuntimeMethod P β}

theorem meets_of_anything {G : Unit → Log P → RuntimeReq P → Prop}
    {Q : Except PyError α → Fields → Unit → Log P → Prop}
    (h : meets anything G Q m t () l) : meets H G Q m t () l := by
  unfold meets at h ⊢
  generalize m t = p at h ⊢
  induction p generalizing l with
  | ret | raise => exact h
  | call e k ih => exact ⟨h.1, fun r s' _ => ih r (h.2 r s' trivial)⟩

theorem Asked.mono {c : Call P} (h : Asked c l) (new : Log P) : Asked c (new ++ l) := by
  obtain ⟨ev, hev, he⟩ := h
  exact ⟨ev, List.mem_append_right _ hev, he⟩

theorem Reported.reports (h : Reported l) (hm : Only true m) : Reports H m t l := by
  refine wp_mono (wp_extends (meets_of_anything (hm t l))) (fun _ _ _ hA => hA)
    (fun a _ l' ha _ => ?_) fun _ _ _ h => h.1
  obtain ⟨reason, hreas, hcoun⟩ := h
  obtain ⟨new, rfl, -⟩ := ha.2
  exact ⟨reason, hreas.mono new, hcoun.imp_left fun hc => hc.mono new⟩

theorem Asks.reports (hm : Only true m) (hf : ∀ v t' l', Reports H (f v) t' l') : Reports H (m >>= f) t l :=
  meets_seq (meets_of_anything (hm t l)) (fun v t' _ l' _ => hf v t' l') fun _ _ _ _ _ hv => (nomatch hv)

theorem reports_perform {c : Call P} {f : Value c → RuntimeMethod P β} (hc : mark (.call c) = none)
    (hf : ∀ a, H.step () (.call c) (.ok a) () → Reports H (f a) t (⟨(), .call c, some (.ok a)⟩ :: l)) :
    Reports H (perform c >>= f) t l := by
  refine (meets_bind _ _).mpr ⟨.inl hc, fun a s' hs => ?_⟩
  cases a with
  | ok a => exact hf a hs
  | error x => exact nofun

theorem reports_recordLastFailure {reason : String} {f : Unit → RuntimeMethod P β}
    (hcoun : Asked .recoveryFailure l ∨ reason = "unsupported_policy") (hf : ∀ v, Only true (f v)) :
    Reports H (recordLastFailure reason >>= f) t l := by
  refine (meets_bind _ _).mpr ((meets_bind _ _).mpr ⟨.inl rfl, fun a _ _ => ?_⟩)
  cases a with
  | error x => exact nofun
  | ok a =>
    have hrep : Reported (⟨(), .call (.setState .lastFailureReason reason), some (.ok a)⟩ :: l) :=
      ⟨reason, ⟨_, List.mem_cons_self, rfl⟩, hcoun.imp_left fun hc => hc.mono [_]⟩
    exact (meets_bind _ _).mp (hrep.reports ((only_perform rfl).bind hf))

/-- **`_handle_rotation_unavailable` counts and records a failure.** -/
theorem reports_concludeUnprotected (config : Config) (word : String) :
    Reports H (concludeUnprotected D config word) t l := by
  refine (only_applyAllFailedKillSwitch config).reports fun _ t' l' => reports_perform rfl fun a _ => ?_
  refine (meets_get_bind _).mpr (reports_recordLastFailure (.inl ⟨_, List.mem_cons_self, rfl⟩) fun _ => ?_)
  exact only_withDriverMode _

/-! ## The engine -/

/-- **The engine declines**: it asks for the time and returns no attempt. -/
theorem rotation_declined {pool : List P} {last : Rat} {config : Config}
    (hended : t.history.lastRotationAt = some last)
    (hbar : t.cleanupBarrierFailed = false) (hchoice : 2 ≤ pool.length)
    (hearly : ∀ now, H.step () .clock now () → now - last < minInterval D.engine pool.length) :
    Reports H (rotation D pool false >>= concludeRotation D config) t l := by
  obtain ⟨driver, killSwitch, failures, forced, barrier, ⟨lastId, recent, good, rotated, historyBarrier⟩⟩ := t
  cases hended
  cases hbar
  match pool, hchoice with
  | p :: q :: rest, _ =>
    refine (meets_bind _ _).mpr ?_
    refine ⟨.inl rfl, fun now s' hnow => ?_⟩
    have hskip : decide (now - last ≥ minInterval D.engine (p :: q :: rest).length) = false :=
      decide_eq_false (not_le.mpr (hearly now hnow))
    unfold minInterval at hskip
    simp only [Prog.bind]
    rw [hskip]
    change Reports H (concludeRotation D config
      { profile := none, success := false, attempts := 0,
        category := poolSizeCategory (p :: q :: rest).length }) _ _
    -- no attempt counts as an empty pool
    refine (meets_get_bind _).mpr ?_
    rw [if_pos (Or.inr rfl)]
    exact reports_concludeUnprotected config _

/-- A step that asks only what is allowed and leaves the fields as they are. -/
def Still (H : Handler (RuntimeAns (P := P)) Unit) (m : RuntimeMethod P α) : Prop :=
  ∀ t l, meets H (fun _ _ e => Allowed true e) (fun _ t' _ _ => t' = t) m t () l

theorem still_perform {c : Call P} (hc : mark (.call c) = none) : Still H (perform c) :=
  fun _ _ => ⟨.inl hc, fun _ _ _ => rfl⟩

theorem Still.bind (hm : Still H m) (hf : ∀ v, Still H (f v)) : Still H (m >>= f) := by
  intro t l
  refine meets_seq (hm t l) (fun v t' _ l' ht => ?_) fun _ _ _ _ ht => ht
  subst ht
  exact hf v t' l'

theorem still_checkPool (pool : List P) : Still H (checkPool D pool) := by
  refine (still_perform rfl).bind fun requested => ?_
  induction pool with
  | nil => exact fun _ _ => rfl
  | cons p rest ih =>
    refine Still.bind ?_ fun supported => Still.bind ?_ fun _ => ih
    · unfold policyCapabilitiesForProfile
      split
      · exact fun _ _ => rfl
      refine Still.bind (Still.bind (fun _ _ => rfl) fun t => ?_) fun _ _ _ => rfl
      split <;> exact (still_perform rfl).bind fun _ _ _ => rfl
    · unfold requireCapabilities
      split <;> exact fun _ _ => rfl

theorem reports_rotateNow {last : Rat} (h : TooEarly H D t last) : Reports H (rotateNow D false) t l := by
  refine (meets_bind _ _).mpr ((meets_attempt_bind _ _).mpr ⟨.inl rfl, fun a s' hs => ?_⟩)
  obtain ⟨state, rfl, hdes⟩ := h.desired a hs
  have hon : mayAct false state = true := by simp [mayAct, hdes]
  change Reports H (if mayAct false state then perform .loadConfig >>= fun config =>
    attemptRotation D config false ""
    else pure standbyState) t _
  rw [if_pos hon]
  refine reports_perform rfl fun config hcfg => (meets_modify_bind _ _).mpr (reports_perform rfl fun _ _ => ?_)
  have hmay : (mayRotate config false : RuntimeMethod P Bool) = Method.ofExcept (.ok true) :=
    congrArg Method.ofExcept (h.enabled config hcfg)
  rw [hmay]
  refine (meets_bind _ _).mpr (reports_perform rfl fun pool hpool => ?_)
  obtain ⟨hchoice, hearly⟩ := h.choice pool hpool
  refine (meets_attempt_bind _ _).mpr (meets_imp (still_checkPool pool _ _) ?_)
  rintro checked t' ⟨⟩ l' rfl
  split
  · exact reports_recordLastFailure (.inr rfl) fun _ => only_withDriverMode _
  · exact nofun
  · exact reports_perform rfl fun _ _ => rotation_declined h.ended rfl hchoice hearly

end Steps

/-- Two profiles, of which one is connected and healthy, and a rotation that ended a minute ago. -/
def pairAnswer : (e : RuntimeReq Bool) → RuntimeAns e
  | .call (.status _) => .ok { mode := "sing-box", tunActive := true, status := "connected" }
  | .call (.healthCheck _) => .ok "ok"
  | .call .loadState => .ok { desiredState := "on", activeProfileId := "true" }
  | .call (.getProfile _) => .ok (some true)
  | .call .loadConfig => .ok { rotationEnabled := .ok true }
  | .call .compatiblePool => .ok [true, false]
  | .call .requestedPolicyCapabilities => .ok []
  | .call .isActive => .ok false
  | .call .configureRecovery | .call .loadDnsPolicy | .call .recoveryFailure | .call (.setState _ _)
  | .call .stampFailure => .ok ()
  | .call _ => .error .other
  | .clock => 60
  | .activate _ | .sleep _ => ()

def pairWorld : Handler (RuntimeAns (P := Bool)) Unit where
  step _ e a _ := a = pairAnswer e
  cut _ _ _ := False

def pairLab : Deployment Bool where
  idOf := toString
  protocol _ := .other
  endpointHost _ := .ok (some "198.51.100.7")
  ipAddress host := some (.ip, host)
  uid := 1000
  engine := {}
  originalSelector := true

def pairFields : Fields :=
  { driver := ⟨0, .singBox⟩, killSwitch := {}, history := { lastRotationAt := some 0 } }

theorem pairWorld_follows : Follows (fun (_ _ : Unit) e => .answer (pairAnswer e) () ()) pairWorld :=
  ⟨fun _ _ _ _ _ _ h => by cases h; rfl, fun _ _ _ _ h => by cases h⟩

theorem tooEarly_pair : TooEarly pairWorld pairLab pairFields 0 where
  ended := rfl
  desired a ha := ⟨_, ha, rfl⟩
  enabled config hcfg := by cases hcfg; rfl
  choice pool hpool := by
    cases hpool
    refine ⟨by decide, fun now hnow => ?_⟩
    cases hnow
    decide +kernel

/-- The declined rotation there. -/
def pairRun := drive (fun (_ _ : Unit) e => .answer (pairAnswer e) () ())
    (rotateNow pairLab false pairFields) () () []

/-- **A declined rotation is recorded as a failure.** Every `rotate_now` without force that comes
before the minimum interval has passed calls no driver but for its state; but if it returns, it has
recorded a reason for a failure, and counted a failure for the backoff unless a driver of the pool
does not support the policy. -/
theorem declined_rotation_reported (H : Handler (RuntimeAns (P := P)) Unit) (D : Deployment P)
    (t : Fields) (last : Rat)
    (h : TooEarly H D t last) {o : Except PyError ConnectionState} {t' : Fields} {l' : Log P}
    (hrun : Ends H (rotateNow D false t) () [] (.ok (o, t')) () l') :
    (∀ ev ∈ l', Allowed true ev.req) ∧ ∀ state, o = .ok state → Reported l' := by
  have hmeets : Reports H (rotateNow D false) t [] := reports_rotateNow h
  obtain ⟨hrep, new, hnew, hall⟩ := (wp_ends (wp_extends hmeets) hrun).1 _ rfl
  rw [List.append_nil] at hnew
  subst hnew
  exact ⟨hall, fun state hstate => hrep ⟨state, hstate⟩⟩

/-- The connection stays up there, and a failure is reported. -/
theorem declined_rotation_reported_pair : TooEarly pairWorld pairLab pairFields 0 ∧ Reported pairRun.2.2.2 := by
  obtain ⟨result, hrun, hok⟩ :=
    (Option.any_eq_true (fun r => r.toOption.any (·.1.isOk)) pairRun.1).mp (by decide +kernel)
  rcases result with _ | ⟨_ | state, t'⟩
  · cases hok
  · cases hok
  · have hends := drive_ends pairWorld_follows hrun
    exact ⟨tooEarly_pair, (declined_rotation_reported _ _ _ _ tooEarly_pair hends).2 state rfl⟩

/-- The declined rotation there connects and disconnects nothing; but a failure is counted and its
reason is stored. -/
theorem declined_rotation_counts : TooEarly pairWorld pairLab pairFields 0 ∧
    (pairRun.2.2.2.any fun ev => match ev.req with | .call .recoveryFailure => true | _ => false) = true ∧
    (pairRun.2.2.2.any fun ev => match ev.req with
      | .call (.setState .lastFailureReason reason) => reason == "rotation_unavailable"
      | _ => false) = true := ⟨tooEarly_pair, by decide +kernel, by decide +kernel⟩

end WatchdogVpn.Runtime
