import SimLLM.Bottleneck

namespace SimLLM

inductive VisitOwner where
  | kernel | dma | kv
  deriving DecidableEq, Repr

def communicationKinds : List ResourceKind :=
  [.ncclChannel, .nvlink, .nic, .nicSendQueue, .nicReceiveQueue, .completionQueue]

def fabricKinds : List ResourceKind := [.nic, .nicSendQueue, .nicReceiveQueue, .completionQueue]

section Classify

variable (kernelKey : KernelEvidence → String)

structure SegmentOwner where
  kernel : Option KernelEvidence := none
  width : Nat := 1
  owner : Option VisitOwner := none
  flowTail : Option FlowTail := none

def kernelServed (context : SegmentOwner) (kind : ResourceKind) : Bool :=
  kind == .gpuWorkQueue || kind == .gpuScheduler ||
    (kind == .hbmQueue && context.owner == some .kernel)

def visitClass (context : SegmentOwner) (visit : QueueVisit) : BottleneckClass :=
  let kind := visit.resource.kind
  if kind = .hostLaunchQueue then .hostLaunch
  else if kind ∈ communicationKinds then
    if kind ∈ fabricKinds then .fabric
    else if visit.stage = some "co_critical_ps" then .coCriticalCollective
    else .intraNodeCollective
  else if kernelServed context kind then
    (context.kernel.map (·.boundClass)).getD .unclassifiedKernel
  else if kind = .copyEngine ∨ context.owner = some .dma then .dma
  else if kind = .hbmQueue ∧ context.owner = some .kv then .kv
  else .control

def queueClass : BottleneckClass → BottleneckClass
  | .hbmBound | .computeBound | .unclassifiedKernel => .deviceQueue
  | name => name

def visitWidth (context : SegmentOwner) (visit : QueueVisit) : Option Nat :=
  if visit.resource.kind ∈ communicationKinds then some context.width else none

def visitParts (context : SegmentOwner) (cursor : Nat) (visit : QueueVisit) : List RankingPart :=
  let start := max cursor visit.eligibleAtPs
  let name := visitClass context visit
  let width := visitWidth context visit
  [(.externalDependency, none, (start : Int) - cursor),
    (queueClass name, width, max 0 ((visit.startedAtPs : Int) - start)),
    (name, width, max 0 ((visit.completedAtPs : Int) - max start visit.startedAtPs))]

def selectedParts (context : SegmentOwner) (segment : RuntimeCriticalSegment) :
    Nat → List QueueVisit → Except PyError (List RankingPart)
  | cursor, [] => .ok [(.externalDependency, none, (segment.completedAtPs : Int) - cursor)]
  | cursor, visit :: rest => do
    require (visit.operationId == segment.operationId)
      (valueError "selected visit belongs to another operation")
    require (visit.completedAtPs ≤ segment.completedAtPs)
      (valueError "selected visit exceeds its segment")
    let parts ← selectedParts context segment (max cursor visit.completedAtPs) rest
    return visitParts context cursor visit ++ parts

def fabricUsed (context : SegmentOwner) : Nat → List QueueVisit → Bool
  | _, [] => false
  | cursor, visit :: rest =>
    (visitClass context visit == .fabric &&
        decide (0 < (((visitParts context cursor visit).drop 1).map (·.2.2)).sum)) ||
      fabricUsed context (max cursor visit.completedAtPs) rest

def classifySegment (segment : RuntimeCriticalSegment) (visits : List QueueVisit)
    (context : SegmentOwner) : Except PyError (BottleneckRanking kernelKey) := do
  let parts ← selectedParts context segment segment.startedAtPs visits
  let kernelUsed := visits.any (kernelServed context ·.resource.kind)
  let result ← ranking kernelKey parts
    (if kernelUsed then context.kernel.toList else [])
    (if fabricUsed context segment.startedAtPs visits then context.flowTail.toList else [])
  require (result.spanPs == segment.breakdown.operationLatencyPs)
    (valueError "classified segment does not conserve critical breakdown")
  return result

structure GpuRoof where
  name : String
  peakFlops : ℚ
  memBandwidth : ℚ

abbrev KernelCells := List ((String × List (String × ConfigScalar) × String) × KernelEvidence)

def joinKernelCell (kernel : KernelEvidence) (cells : Option KernelCells) :
    Except PyError KernelEvidence :=
  match (cells.getD []).find? (·.1 == kernel.identity) with
  | none => .ok kernel
  | some (_, candidate) => do
    candidate.check
    require (candidate.identity == kernel.identity)
      (valueError "kernel ledger join identity mismatch")
    require (candidate.flops == kernel.flops && candidate.bytesMoved == kernel.bytesMoved)
      (valueError "kernel ledger join work mismatch")
    return candidate

def computeEvidence (work : ComputeWork) (gpu : GpuRoof) (cells : Option KernelCells) :
    Except PyError KernelEvidence := do
  work.requireExecutable
  require (work.scope == "kernel-region")
    (valueError "synthetic operator work has no physical bottleneck classification")
  let kernel : KernelEvidence :=
    ⟨work.kernel, work.config, (work.flops.getD 0 : ℕ), (work.hbmBytes.getD 0 : ℕ),
      gpu.peakFlops, gpu.memBandwidth, gpu.name, none, none, "absent-by-design",
      "absent-by-design"⟩
  kernel.check
  joinKernelCell kernel cells

def segmentOwner (work : WorkPayload) (gpu : GpuRoof) (cells : Option KernelCells) :
    Except PyError SegmentOwner :=
  match work with
  | .compute work => do
    let kernel ← computeEvidence work gpu cells
    return { kernel := some kernel, owner := some .kernel }
  | .kv _ => .ok { owner := some .kv }
  | .dma _ => .ok { owner := some .dma }
  | .collective work => .ok { width := work.ranks.length }
  | .control _ => .ok {}

abbrev SelectedVisits := List ((String × Nat) × List QueueVisit)

abbrev SegmentRankings := List ((String × Nat) × BottleneckRanking kernelKey)

def classifyRecordSegment (graph : ExecutionGraph) (selected : SelectedVisits)
    (context : SegmentOwner) (segment : RuntimeCriticalSegment) :
    Except PyError ((String × Nat) × BottleneckRanking kernelKey) :=
  match selected.find? (·.1 == segment.key) with
  | none => .error (valueError "authority did not retain selected visits")
  | some (_, visits) => do
    require (visits.all (·.executionId == graph.executionId))
      (valueError "selected visit belongs to another execution")
    let breakdown ← criticalPathBreakdown segment.operationId visits segment.startedAtPs
      segment.completedAtPs
    require (breakdown == segment.breakdown)
      (valueError "selected visits disagree with segment breakdown")
    let classified ← classifySegment kernelKey segment visits context
    return (segment.key, classified)

def classifyRecord (graph : ExecutionGraph) (selected : SelectedVisits) (gpu : GpuRoof)
    (cells : Option KernelCells) (record : RuntimeOperationRecord) :
    Except PyError (SegmentRankings kernelKey) :=
  match graph.operation? record.operationId with
  | none => .error (keyError "{}" [record.operationId])
  | some operation => do
    let context ← segmentOwner operation.work gpu cells
    record.criticalSegments.mapM (classifyRecordSegment kernelKey graph selected context)

def classifyRuntime (graph : ExecutionGraph) (report : RuntimeReport) (selected : SelectedVisits)
    (gpu : GpuRoof) (cells : Option KernelCells) : Except PyError (SegmentRankings kernelKey) := do
  require (report.executionId == graph.executionId)
    (valueError "runtime report belongs to another graph")
  let rankings ← report.operations.mapM (classifyRecord kernelKey graph selected gpu cells)
  return rankings.flatten

end Classify

section History

variable {kernelKey : KernelEvidence → String}

structure RequestBottleneck (kernelKey : KernelEvidence → String) where
  requestId : String
  ttft : BottleneckRanking kernelKey
  tpot : Option (BottleneckRanking kernelKey) := none
  named : nonblank requestId = true
  undivided : ttft.divisor = 1

def RequestBottleneck.make (requestId : String) (ttft : BottleneckRanking kernelKey)
    (tpot : Option (BottleneckRanking kernelKey)) : Except PyError (RequestBottleneck kernelKey) :=
  if named : nonblank requestId = true then
    if undivided : ttft.divisor = 1 then .ok { requestId, ttft, tpot, named, undivided }
    else .error (valueError "TTFT requires an undivided ranking")
  else .error (fail "request_id" "must not be blank")

structure BottleneckReport (kernelKey : KernelEvidence → String) where
  stepIndex : Int
  step : BottleneckRanking kernelKey
  requests : List (RequestBottleneck kernelKey)
  index_nonneg : 0 ≤ stepIndex
  undivided : step.divisor = 1
  ordered : (requests.map (·.requestId)).Pairwise (· < ·)

def BottleneckReport.make (stepIndex : Int) (step : BottleneckRanking kernelKey)
    (requests : List (RequestBottleneck kernelKey)) :
    Except PyError (BottleneckReport kernelKey) :=
  if index_nonneg : 0 ≤ stepIndex then
    if undivided : step.divisor = 1 then
      if ordered : (requests.map (·.requestId)).Pairwise (· < ·) then
        .ok { stepIndex, step, requests, index_nonneg, undivided, ordered }
      else .error (valueError "request identities must be unique and canonical")
    else .error (valueError "step requires an undivided ranking")
  else .error (fail "step_index" "must be nonnegative")

def checkMetricRow (report : BottleneckReport kernelKey) (metric : RequestMetric) :
    Except PyError Unit :=
  match report.requests.find? (·.requestId == metric.requestId) with
  | none => .error (valueError "missing request bottleneck")
  | some row => do
    require (row.tpot.isNone == (metric.tokenIndex == 1) &&
        row.tpot.all (·.divisor + 1 == metric.tokenIndex))
      (valueError "TPOT divisor disagrees with completed token intervals")
    require (row.ttft.latencyPs == metric.ttftPs &&
        row.tpot.map (·.latencyPs) == metric.tpotPs)
      (valueError "request bottleneck disagrees with metric")

def BottleneckReport.validateResult (report : BottleneckReport kernelKey) (result : StepResult) :
    Except PyError Unit := do
  require (report.stepIndex == result.stepIndex && (report.step.spanPs : Int) == result.stepLatencyPs)
    (valueError "bottleneck report disagrees with StepResult")
  result.requestMetrics.forM (checkMetricRow report)

/-- The history of one request: the time accounted for, the ranking pending since its last
token, its first-token ranking, and the sum and number of its later intervals. -/
structure RankingState (kernelKey : KernelEvidence → String) where
  accountedPs : Int
  pending : BottleneckRanking kernelKey
  ttft : Option (BottleneckRanking kernelKey)
  decode : BottleneckRanking kernelKey
  count : Nat

structure BottleneckHistory (kernelKey : KernelEvidence → String) where
  states : Dict (RankingState kernelKey) := []
  reports : List (BottleneckReport kernelKey) := []

def lookupKey {α : Type} (dict : Dict α) (key : String) : Except PyError α :=
  match dict.get? key with
  | some value => .ok value
  | none => .error (keyError "{}" [key])

structure Projecting (kernelKey : KernelEvidence → String) where
  states : Dict (RankingState kernelKey)
  rows : List (RequestBottleneck kernelKey)

def movedBackward : PyError := valueError "bottleneck history moved backward"

/-- The first-token ranking, the decode ranking and the number of later intervals of a request
that closes one more interval: its first interval is its first-token ranking, the later ones add
to its decode ranking. -/
def closeInterval (state : RankingState kernelKey) (interval : BottleneckRanking kernelKey) :
    Except PyError (BottleneckRanking kernelKey × BottleneckRanking kernelKey × Nat) :=
  match state.ttft with
  | none => .ok (interval, state.decode, state.count)
  | some ttft => do
    let decode ← combine kernelKey [state.decode, interval]
    .ok (ttft, decode, state.count + 1)

def tpotRanking (decode : BottleneckRanking kernelKey) (count : Nat) :
    Except PyError (Option (BottleneckRanking kernelKey)) :=
  if count = 0 then .ok none
  else do
    let tpot ← combine kernelKey [decode] count
    .ok (some tpot)

def sampleRow (requestId : String) (state : RankingState kernelKey)
    (interval : BottleneckRanking kernelKey) (accounted : Int) :
    Except PyError (RankingState kernelKey × RequestBottleneck kernelKey) := do
  let (ttft, decode, count) ← closeInterval state interval
  let tpot ← tpotRanking decode count
  let row ← RequestBottleneck.make requestId ttft tpot
  return (⟨accounted, emptyRanking kernelKey, some ttft, decode, count⟩, row)

def projectRequest (record : StepRecord) (sampled : List String)
    (intervals : Dict (BottleneckRanking kernelKey)) (origins : Dict Int)
    (acc : Projecting kernelKey) (scheduled : ScheduledRequest) :
    Except PyError (Projecting kernelKey) := do
  let requestId := scheduled.requestId
  let origin ← lookupKey origins requestId
  let state := (acc.states.get? requestId).getD
    ⟨origin, emptyRanking kernelKey, none, emptyRanking kernelKey, 0⟩
  let gap := record.virtualTimePs - state.accountedPs
  require (0 ≤ gap) movedBackward
  let batching ← ranking kernelKey [(.batchingQueue, none, gap)] [] []
  let selected ← lookupKey intervals requestId
  let interval ← combine kernelKey [state.pending, batching, selected]
  let accounted := record.virtualTimePs + selected.spanPs
  if requestId ∈ sampled then
    let (next, row) ← sampleRow requestId state interval accounted
    return ⟨acc.states.set requestId next, acc.rows ++ [row]⟩
  else
    let next : RankingState kernelKey :=
      ⟨accounted, interval, state.ttft, state.decode, state.count⟩
    return { acc with states := acc.states.set requestId next }

def BottleneckHistory.project (history : BottleneckHistory kernelKey) (record : StepRecord)
    (result : StepResult) (step : BottleneckRanking kernelKey)
    (intervals : Dict (BottleneckRanking kernelKey)) (origins : Dict Int) :
    Except PyError (BottleneckReport kernelKey × Dict (RankingState kernelKey)) := do
  let sampled ← sampledRequestIds record
  let projected ← record.scheduled.foldlM (projectRequest record sampled intervals origins)
    ⟨history.states, []⟩
  let report ← BottleneckReport.make record.stepIndex step
    (projected.rows.insertionSort fun a b => a.requestId ≤ b.requestId)
  report.validateResult result
  return (report, projected.states)

def BottleneckHistory.commit (history : BottleneckHistory kernelKey)
    (projection : BottleneckReport kernelKey × Dict (RankingState kernelKey)) :
    BottleneckHistory kernelKey :=
  { states := projection.2, reports := history.reports ++ [projection.1] }

end History

end SimLLM
