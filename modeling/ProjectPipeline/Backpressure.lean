import ProjectPipeline.Python

/-!
# Backpressure

`evaluate_backpressure` (`scheduler/backpressure.py`): the load signals of the control
plane decide whether new work is admitted, and at which fraction of the lanes. Floating
point signals and thresholds are rational numbers, which every finite float is. The
records carry the ranges that their constructors check.
-/

namespace ProjectPipeline

inductive BackpressureMode where
  | normal | congested | brownout | haltNewWork
  deriving DecidableEq, Repr

def BackpressureMode.value : BackpressureMode → String
  | normal => "NORMAL"
  | congested => "CONGESTED"
  | brownout => "BROWNOUT"
  | haltNewWork => "HALT_NEW_WORK"

structure BackpressureSignals where
  queueDepth : ℕ := 0
  schedulerQueueLagSeconds : ℚ := 0
  memoryUsedPercent : Option ℚ := none
  diskFreePercent : Option ℚ := none
  retryStormCount : ℕ := 0
  lag_valid : 0 ≤ schedulerQueueLagSeconds := by decide
  memory_valid : ∀ percent ∈ memoryUsedPercent, 0 ≤ percent ∧ percent ≤ 100 := by simp
  disk_valid : ∀ percent ∈ diskFreePercent, 0 ≤ percent ∧ percent ≤ 100 := by simp

/-- The thresholds, each in its range and in order. -/
structure BackpressurePolicy where
  congestedQueueDepth : ℕ := 50
  brownoutQueueDepth : ℕ := 200
  haltQueueDepth : ℕ := 1000
  congestedLagSeconds : ℚ := 30
  brownoutLagSeconds : ℚ := 120
  memoryBrownoutPercent : ℚ := 90
  memoryHaltPercent : ℚ := 97
  diskBrownoutFreePercent : ℚ := 10
  diskHaltFreePercent : ℚ := 3
  retryStormBrownoutCount : ℕ := 8
  congestedLaneFraction : ℚ := 1 / 2
  queueDepth_valid : 1 ≤ congestedQueueDepth ∧ congestedQueueDepth < brownoutQueueDepth ∧
    brownoutQueueDepth < haltQueueDepth := by decide
  lag_valid : 0 ≤ congestedLagSeconds ∧ 0 ≤ brownoutLagSeconds := by decide
  memory_valid : 1 ≤ memoryBrownoutPercent ∧ memoryBrownoutPercent < memoryHaltPercent ∧
    memoryHaltPercent ≤ 100 := by decide
  disk_valid : 0 ≤ diskHaltFreePercent ∧ diskHaltFreePercent < diskBrownoutFreePercent ∧
    diskBrownoutFreePercent ≤ 100 := by decide
  retryStorm_valid : 1 ≤ retryStormBrownoutCount := by decide
  fraction_valid : 0 < congestedLaneFraction ∧ congestedLaneFraction ≤ 1 := by decide +kernel

structure BackpressureDecision where
  mode : BackpressureMode
  laneFraction : ℚ
  admitNewWork : Bool
  reasons : List String := []

/-- The texts of the conditions that hold. -/
def reasonsThatHold (checks : List (Bool × String)) : List String :=
  (checks.filter Prod.fst).map Prod.snd

def evaluateBackpressure (signals : BackpressureSignals) (policy : BackpressurePolicy) :
    BackpressureDecision :=
  let halt := reasonsThatHold
    [(decide (policy.haltQueueDepth ≤ signals.queueDepth), "queue_depth_halt"),
      (signals.memoryUsedPercent.any (policy.memoryHaltPercent ≤ ·), "memory_pressure_halt"),
      (signals.diskFreePercent.any (· ≤ policy.diskHaltFreePercent), "disk_pressure_halt")]
  let brownout := reasonsThatHold
    [(decide (policy.brownoutQueueDepth ≤ signals.queueDepth), "queue_depth_brownout"),
      (decide (policy.brownoutLagSeconds ≤ signals.schedulerQueueLagSeconds),
        "scheduler_lag_brownout"),
      (signals.memoryUsedPercent.any (policy.memoryBrownoutPercent ≤ ·),
        "memory_pressure_brownout"),
      (signals.diskFreePercent.any (· ≤ policy.diskBrownoutFreePercent), "disk_pressure_brownout"),
      (decide (policy.retryStormBrownoutCount ≤ signals.retryStormCount), "retry_storm_brownout")]
  let congested := reasonsThatHold
    [(decide (policy.congestedQueueDepth ≤ signals.queueDepth), "queue_depth_congested"),
      (decide (policy.congestedLagSeconds ≤ signals.schedulerQueueLagSeconds),
        "scheduler_lag_congested")]
  if !halt.isEmpty then
    { mode := .haltNewWork, laneFraction := 0, admitNewWork := false, reasons := halt }
  else if !brownout.isEmpty then
    { mode := .brownout, laneFraction := 0, admitNewWork := false, reasons := brownout }
  else if !congested.isEmpty then
    { mode := .congested, laneFraction := policy.congestedLaneFraction, admitNewWork := true,
      reasons := congested }
  else { mode := .normal, laneFraction := 1, admitNewWork := true }

end ProjectPipeline
