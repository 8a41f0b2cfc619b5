import SimLLM.CriticalPath
import SimLLM.StepRecord

namespace SimLLM

structure AdditiveVisitTotals where
  queueWaitPs : Nat := 0
  servicePs : Nat := 0
  visibilityPs : Nat := 0
  visitCount : Nat := 0
  deriving DecidableEq, Repr

def AdditiveVisitTotals.add (a b : AdditiveVisitTotals) : AdditiveVisitTotals :=
  ⟨a.queueWaitPs + b.queueWaitPs, a.servicePs + b.servicePs, a.visibilityPs + b.visibilityPs,
    a.visitCount + b.visitCount⟩

instance : Add AdditiveVisitTotals := ⟨AdditiveVisitTotals.add⟩

def QueueVisit.servicePs (visit : QueueVisit) : Nat := visit.finishedAtPs - visit.startedAtPs

def QueueVisit.visibilityPs (visit : QueueVisit) : Nat := visit.completedAtPs - visit.finishedAtPs

def visitTotals (visits : List QueueVisit) : AdditiveVisitTotals where
  queueWaitPs := (visits.map QueueVisit.queueWaitPs).sum
  servicePs := (visits.map QueueVisit.servicePs).sum
  visibilityPs := (visits.map QueueVisit.visibilityPs).sum
  visitCount := visits.length

structure MetricData where
  requestId : String
  phase : RequestPhase
  tokenIndex : Nat
  completedAtPs : Int
  latencyPs : Int
  ttftPs : Int
  tpotPs : Option ℚ
  attribution : LatencyAttribution
  additiveVisitTotals : AdditiveVisitTotals
  deriving DecidableEq

structure RequestMetric extends MetricData where
  named : nonblank requestId = true
  token_pos : 0 < tokenIndex
  completed_nonneg : 0 ≤ completedAtPs
  ttft_nonneg : 0 ≤ ttftPs
  tpot_nonneg : ∀ tpot ∈ tpotPs, 0 ≤ tpot
  conserves : (attribution.totalPs : Int) = latencyPs
  deriving DecidableEq

def RequestMetric.make (data : MetricData) : Except PyError RequestMetric :=
  if named : nonblank data.requestId = true then
    if token_pos : 0 < data.tokenIndex then
      if completed_nonneg : 0 ≤ data.completedAtPs then
        if 0 ≤ data.latencyPs then
          if ttft_nonneg : 0 ≤ data.ttftPs then
            if tpot_nonneg : ∀ tpot ∈ data.tpotPs, 0 ≤ tpot then
              if conserves : (data.attribution.totalPs : Int) = data.latencyPs then
                .ok { data with named, token_pos, completed_nonneg, ttft_nonneg, tpot_nonneg, conserves }
              else .error (valueError "request attribution does not conserve latency_ps")
            else .error (valueError "tpot_ps must be nonnegative")
          else .error (valueError "{} must be nonnegative" ["ttft_ps"])
        else .error (valueError "{} must be nonnegative" ["latency_ps"])
      else .error (valueError "{} must be nonnegative" ["completed_at_ps"])
    else .error (valueError "token_index must be positive")
  else .error (valueError "request_id must be a nonblank string")

theorem RequestMetric.make_eq_ok {data : MetricData} {metric : RequestMetric}
    (h : RequestMetric.make data = .ok metric) : metric.toMetricData = data := by
  unfold RequestMetric.make at h
  repeat' split at h
  all_goals cases h
  rfl

structure StepResult where
  stepIndex : Int
  stepLatencyPs : Int
  completedAtPs : Int
  requestMetrics : List RequestMetric := []
  additiveVisitTotals : Option AdditiveVisitTotals := none
  deriving DecidableEq

def StepResult.check (result : StepResult) : Except PyError Unit := do
  require (0 ≤ result.stepIndex) (valueError "{} must be nonnegative" ["step_index"])
  require (0 ≤ result.stepLatencyPs) (valueError "{} must be nonnegative" ["step_latency_ps"])
  require (0 ≤ result.completedAtPs) (valueError "{} must be nonnegative" ["completed_at_ps"])
  require (result.requestMetrics.map (·.requestId)).Nodup
    (valueError "request_metrics must contain at most one row per request")
  require (result.requestMetrics.all (·.completedAtPs ≤ result.completedAtPs))
    (valueError "request metric completes after its StepResult")

end SimLLM
