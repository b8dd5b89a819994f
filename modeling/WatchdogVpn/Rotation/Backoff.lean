import Mathlib.Algebra.Order.Field.Rat
import Mathlib.Data.List.Induction
import Mathlib.Tactic.Linarith
import Mathlib.Tactic.Ring

/-!
# The backoff between rotation cycles

`Recovery` waits longer after every failed cycle. The interval is found by doubling in a loop that
stops short of the maximum; the bounds are repaired at every call.

* `double_eq`: the loop computes a power of two, cut off at the maximum.
* `run_consecutiveFailures`: the counter is the number of failures since the last success.
* **`backoff_formula`**: the interval of every failure, and when the next attempt is due.
-/

namespace WatchdogVpn.Rotation

inductive IntervalSetting
  | number (value : ℚ)
  /-- A truth value, a value of another type, an infinite one or one too large for a float. -/
  | invalid
  deriving DecidableEq

structure RecoverySettings where
  baseIntervalSeconds : IntervalSetting := .number 10
  maxIntervalSeconds : IntervalSetting := .number 300

structure Recovery where
  consecutiveFailures : Nat := 0
  retryStartedAt : Option ℚ := none
  retryIntervalSeconds : ℚ := 0

def minBackoffIntervalSeconds : ℚ := 1

def maxBackoffIntervalSeconds : ℚ := 86400

def normalizedInterval (setting : IntervalSetting) (default : ℚ) : ℚ :=
  match setting with
  | .invalid => default
  | .number interval =>
    if interval < minBackoffIntervalSeconds then minBackoffIntervalSeconds
    else if interval > maxBackoffIntervalSeconds then maxBackoffIntervalSeconds
    else interval

variable (settings : RecoverySettings)

def intervalBounds : ℚ × ℚ :=
  let base := normalizedInterval settings.baseIntervalSeconds 10
  let maximum := normalizedInterval settings.maxIntervalSeconds 300
  (base, if maximum < base then base else maximum)

/-- The loop of `backoff_interval`. -/
def double (maximum : ℚ) : Nat → ℚ → ℚ
  | 0, interval => interval
  | remaining + 1, interval =>
    if interval < maximum then
      if maximum / 2 ≤ interval then maximum else double maximum remaining (interval * 2)
    else interval

def backoffInterval (attempt : Int) : ℚ :=
  if attempt ≤ 0 then 0
  else
    let (interval, maximum) := intervalBounds settings
    double maximum (attempt - 1).toNat interval

/-- `record_failure`, with what the clock shows. -/
def recordFailure (now : ℚ) (s : Recovery) : Recovery × ℚ :=
  let failures := s.consecutiveFailures + 1
  let interval := backoffInterval settings failures
  ({ consecutiveFailures := failures, retryStartedAt := some now, retryIntervalSeconds := interval }, interval)

def recordSuccess (_ : Recovery) : Recovery := {}

def canRetryNow (force : Bool) (now : ℚ) (s : Recovery) : Bool :=
  if force then true
  else match s.retryStartedAt with
    | none => true
    | some started => now - started ≥ s.retryIntervalSeconds

/-! ## The loop -/

/-- An interval within the range, whatever was configured. -/
def clamped (default : ℚ) : IntervalSetting → ℚ
  | .number value => max minBackoffIntervalSeconds (min value maxBackoffIntervalSeconds)
  | .invalid => default

theorem normalizedInterval_eq (setting : IntervalSetting) (default : ℚ) :
    normalizedInterval setting default = clamped default setting := by
  cases setting with
  | invalid => rfl
  | number value =>
    unfold normalizedInterval clamped minBackoffIntervalSeconds maxBackoffIntervalSeconds
    simp only
    split
    · rename_i hlow
      rw [min_eq_left (by linarith), max_eq_left hlow.le]
    · split
      · rename_i hhigh
        rw [min_eq_right (le_of_lt hhigh), max_eq_right (by norm_num)]
      · rename_i hlow hhigh
        rw [min_eq_left (not_lt.mp hhigh), max_eq_right (not_lt.mp hlow)]

theorem clamped_range {default : ℚ} (h : 1 ≤ default ∧ default ≤ 86400) (setting : IntervalSetting) :
    1 ≤ clamped default setting ∧ clamped default setting ≤ 86400 := by
  cases setting with
  | invalid => exact h
  | number value => exact ⟨le_max_left _ _, max_le (by norm_num [minBackoffIntervalSeconds]) (min_le_right _ _)⟩

theorem intervalBounds_eq :
    intervalBounds settings = (clamped 10 settings.baseIntervalSeconds,
      max (clamped 300 settings.maxIntervalSeconds) (clamped 10 settings.baseIntervalSeconds)) := by
  unfold intervalBounds
  simp only [normalizedInterval_eq]
  split
  · rename_i hlt
    rw [max_eq_right hlt.le]
  · rename_i hle
    rw [max_eq_left (not_lt.mp hle)]

/-- **The loop in closed form.** -/
theorem double_eq {maximum : ℚ} (remaining : Nat) {interval : ℚ} (hpos : 0 < interval)
    (hle : interval ≤ maximum) :
    double maximum remaining interval = min maximum (interval * 2 ^ remaining) := by
  induction remaining generalizing interval with
  | zero => rw [double, pow_zero, mul_one, min_eq_right hle]
  | succ remaining ih =>
    have hgrow : interval * 2 ≤ interval * 2 ^ (remaining + 1) := by
      have hpow : (1 : ℚ) ≤ 2 ^ remaining := one_le_pow₀ (by norm_num)
      have hscaled : interval * 2 * 1 ≤ interval * 2 * 2 ^ remaining :=
        mul_le_mul_of_nonneg_left hpow (by linarith)
      calc interval * 2 = interval * 2 * 1 := (mul_one _).symm
        _ ≤ interval * 2 * 2 ^ remaining := hscaled
        _ = interval * 2 ^ (remaining + 1) := by ring
    rw [double]
    split
    · split
      · -- half of the maximum is reached, so the next doubling would go past it
        rw [min_eq_left (by linarith)]
      · rw [ih (by linarith) (by linarith)]
        ring_nf
    · have hmax : interval = maximum := le_antisymm hle (by linarith)
      rw [min_eq_left (by linarith), hmax]

/-! ## Sequences of calls -/

inductive RecoveryCall
  | failure (now : ℚ)
  | success

variable (calls : List RecoveryCall)

/-- The state after a sequence of calls. -/
def recoveryRun : Recovery :=
  calls.foldl (fun s call =>
    match call with
    | .failure now => (recordFailure settings now s).1
    | .success => recordSuccess s) {}

/-- The failures since the last success. -/
def consecutive : Nat :=
  calls.foldl (fun n call =>
    match call with
    | .failure _ => n + 1
    | .success => 0) 0

theorem run_consecutiveFailures :
    (recoveryRun settings calls).consecutiveFailures = consecutive calls := by
  induction calls using List.reverseRecOn with
  | nil => rfl
  | append_singleton calls call ih =>
    unfold recoveryRun consecutive at *
    rw [List.foldl_append, List.foldl_append]
    cases call with
    | success => rfl
    | failure now => exact congrArg (· + 1) ih

theorem recordFailure_interval (now : ℚ) (s : Recovery) :
    (recordFailure settings now s).2 =
      min (intervalBounds settings).2 ((intervalBounds settings).1 * 2 ^ s.consecutiveFailures) := by
  have hbase := clamped_range (by norm_num : (1 : ℚ) ≤ 10 ∧ (10 : ℚ) ≤ 86400) settings.baseIntervalSeconds
  have hloop : (recordFailure settings now s).2 =
      double (intervalBounds settings).2 s.consecutiveFailures (intervalBounds settings).1 := by
    change backoffInterval settings (s.consecutiveFailures + 1) = _
    rw [backoffInterval]
    simp
  rw [hloop, double_eq]
  · rw [intervalBounds_eq]
    linarith
  · rw [intervalBounds_eq]
    exact le_max_right _ _

/-- **The backoff formula.** After any calls, the interval of the next failure is the base doubled
for every failure since the last success, up to the maximum. It does not shrink while the failures
go on, it is a day at most, and the next attempt is due exactly when it has passed. -/
theorem backoff_formula (now : ℚ) :
    let base := clamped 10 settings.baseIntervalSeconds
    let maximum := max (clamped 300 settings.maxIntervalSeconds) base
    let n := consecutive (calls ++ [.failure now])
    let failed := recordFailure settings now (recoveryRun settings calls)
    failed.2 = min maximum (base * 2 ^ (n - 1)) ∧ failed.2 ≤ 86400 ∧
      (∀ later, failed.2 ≤ (recordFailure settings later failed.1).2) ∧
      ∀ time, canRetryNow false time (recoveryRun settings (calls ++ [.failure now])) = true ↔
      failed.2 ≤ time - now := by
  intro base maximum n failed
  have hn : n - 1 = consecutive calls := by
    simp [n, consecutive]
  have hfail : failed.2 = min maximum (base * 2 ^ consecutive calls) := by
    rw [recordFailure_interval, intervalBounds_eq, run_consecutiveFailures]
  have hbase := clamped_range (by norm_num : (1 : ℚ) ≤ 10 ∧ (10 : ℚ) ≤ 86400) settings.baseIntervalSeconds
  have hmax := clamped_range (by norm_num : (1 : ℚ) ≤ 300 ∧ (300 : ℚ) ≤ 86400) settings.maxIntervalSeconds
  refine ⟨by rw [hn, hfail], ?_, fun later => ?_, fun time => ?_⟩
  · rw [hfail]
    exact (min_le_left _ _).trans (max_le hmax.2 hbase.2)
  · have hcount : failed.1.consecutiveFailures = consecutive calls + 1 :=
      congrArg (· + 1) (run_consecutiveFailures settings calls)
    rw [hfail, recordFailure_interval, intervalBounds_eq, hcount]
    refine min_le_min_left _ (mul_le_mul_of_nonneg_left ?_ (by linarith [hbase.1]))
    exact pow_le_pow_right₀ (by norm_num) (Nat.le_succ _)
  · rw [recoveryRun, List.foldl_append]
    change decide (time - now ≥ failed.2) = true ↔ _
    rw [decide_eq_true_iff]

end WatchdogVpn.Rotation
