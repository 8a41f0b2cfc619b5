import SimLLM.Projection
import SimLLM.Staging
import SimLLM.StepMetrics

namespace SimLLM

/-- The start of the segment that an operation's scalar fields describe: its causal boundary when
that is also the additive one, the release otherwise. -/
def scalarSegmentStart (report : RuntimeReport) (releasedAtPs : Nat)
    (record : RuntimeOperationRecord) : Except PyError Nat :=
  let name := record.operationId
  match record.causalPredecessorId, record.causalPredecessorCompletedAtPs with
  | none, none => do
    require record.criticalPredecessorId.isNone
      (valueError "operation {} names an additive predecessor without a causal one" [name])
    .ok releasedAtPs
  | some causalId, some boundary =>
    match report.operation? causalId with
    | none => .error (valueError "operation {} names an unknown causal predecessor" [name])
    | some predecessor => do
      require ((predecessor.criticalSegments.map (·.completedAtPs)).contains boundary)
        (valueError "operation {} causal boundary is not a participant completion of {}"
          [name, causalId])
      require (record.criticalSegments.any fun segment =>
          segment.predecessor.map Prod.fst == some causalId && segment.startedAtPs == boundary)
        (valueError "operation {} has no critical segment admitted from {} at its causal boundary"
          [name, causalId])
      let expected := if boundary = predecessor.completedAtPs then some causalId else none
      require (record.criticalPredecessorId == expected)
        (valueError ("operation {} additive predecessor disagrees with the critical segment " ++
          "that admitted it") [name])
      .ok (if expected.isSome then boundary else releasedAtPs)
  | _, _ => .error (valueError
      "operation {} causal predecessor identity and boundary disagree" [name])

def validateScalarProjection (report : RuntimeReport) (releasedAtPs : Nat)
    (record : RuntimeOperationRecord) : Except PyError Unit := do
  let name := record.operationId
  let completions := record.criticalSegments.map (·.completedAtPs)
  require (!completions.isEmpty) (valueError "operation {} has no critical segment" [name])
  require (record.physicalCompletedAtPs == maxOrDefault completions 0)
    (valueError "operation {} physical completion disagrees with its critical segments" [name])
  require (completions.contains record.completedAtPs)
    (valueError "operation {} completion is not a participant critical-segment completion" [name])
  let started ← scalarSegmentStart report releasedAtPs record
  require ((record.breakdown.operationLatencyPs : Int) == record.completedAtPs - started)
    (valueError "operation {} critical-path breakdown does not span its own projected segment"
      [name])

def checkSegment (record : RuntimeOperationRecord) (segments : List RuntimeCriticalSegment)
    (segment : RuntimeCriticalSegment) : Except PyError (List RuntimeCriticalSegment) := do
  require (segment.operationId == record.operationId)
    (valueError "critical segment operation identity disagrees")
  let completion := lastWith record.participantCompletedAtPs (·.1 == segment.participantRank)
  require (completion.map Prod.snd == some segment.completedAtPs)
    (valueError "critical segment participant completion disagrees")
  require (segment? segments segment.key).isNone
    (valueError "RuntimeReport contains duplicate critical segments")
  .ok (segments ++ [segment])

def checkRecord (graph : ExecutionGraph) (report : RuntimeReport)
    (segments : List RuntimeCriticalSegment) (record : RuntimeOperationRecord) :
    Except PyError (List RuntimeCriticalSegment) := do
  require (record.attribution.totalPs == record.breakdown.operationLatencyPs)
    (valueError "operation {} attribution does not conserve" [record.operationId])
  require (record.criticalPredecessorId.all fun id => (report.operation? id).isSome)
    (valueError "operation {} names an unknown predecessor" [record.operationId])
  match graph.operation? record.operationId with
  | none => .error (keyError "{}" [record.operationId])
  | some operation => do
    let expected := operationParticipantRanks operation
    require (record.criticalSegments.map (·.participantRank) == expected)
      (valueError "operation {} critical segments disagree with canonical participants"
        [record.operationId])
    require (sortedSet (record.participantCompletedAtPs.map Prod.fst) == expected)
      (valueError "operation {} participant completions disagree with canonical participants"
        [record.operationId])
    record.criticalSegments.foldlM (checkSegment record) segments

def checkReportChain (graph : ExecutionGraph) (report : RuntimeReport)
    (segments : List RuntimeCriticalSegment) : Except PyError Unit := do
  let keys := report.realizedCriticalPathSegments
  let chain := keys.filterMap (segment? segments)
  require (keys.all fun key => (segment? segments key).isSome)
    (valueError "RuntimeReport critical path names an unknown segment")
  require (keys.map Prod.fst == report.realizedCriticalPathOperationIds)
    (valueError "RuntimeReport critical path projections disagree")
  (keys.zip (chain.drop 1)).forM fun (predecessor, segment) =>
    require (segment.predecessor == some predecessor)
      (valueError "RuntimeReport critical segment chain is discontinuous")
  match chain.getLast? with
  | none => pure ()
  | some endpoint =>
    require (((chain.map (·.breakdown.operationLatencyPs)).sum : Int) ==
        endpoint.completedAtPs - graph.releasedAtPs)
      (valueError "RuntimeReport critical segment chain does not conserve")
  require ((chain.map (·.breakdown.criticalPathQueuePs)).sum == report.criticalPathQueuePs)
    (valueError "RuntimeReport critical-path queue total disagrees")

def checkReportVisits (graph : ExecutionGraph) (report : RuntimeReport) : Except PyError Unit := do
  require (report.visits.all (·.executionId == graph.executionId))
    (valueError "RuntimeReport visit execution ID disagrees with graph")
  require (report.visits.all fun visit => (report.operation? visit.operationId).isSome)
    (valueError "RuntimeReport visit names an unknown operation")
  require ((visitTotals report.visits).queueWaitPs == report.sumVisitWaitPs)
    (valueError "RuntimeReport additive queue-wait total disagrees")

def checkStreamEvent (graph : ExecutionGraph) (result : ExecutionResult) (report : RuntimeReport)
    (lastTimestamp : Int) (event : CompletionEvent) : Except PyError Int := do
  require (event.executionId == graph.executionId)
    (valueError "completion event execution ID disagrees with graph")
  require (report.operation? event.operationId).isSome
    (valueError "completion event names an unknown operation")
  require (lastTimestamp ≤ event.timestampPs)
    (valueError "completion events are not timestamp ordered")
  require (result.quiescedAtPs.all (event.timestampPs ≤ ·))
    (valueError "completion event occurs after physical quiescence")
  .ok event.timestampPs

def lookupRecord (report : RuntimeReport) (operationId : String) :
    Except PyError RuntimeOperationRecord :=
  match report.operation? operationId with
  | some record => .ok record
  | none => .error (keyError "{}" [operationId])

def checkLogicalEvent (result : ExecutionResult) (record : RuntimeOperationRecord) :
    Except PyError Unit :=
  require ((result.events.filter (isLogicalCompletion record.operationId)).map (·.timestampPs) ==
      [record.completedAtPs])
    (valueError "operation {} has no unique matching completion event" [record.operationId])

def checkIdentities (record : StepRecord) (graph : ExecutionGraph) (result : ExecutionResult)
    (report : RuntimeReport) (nowPs : Int) : Except PyError Unit := do
  require ((graph.stepIndex : Int) == record.stepIndex)
    (valueError "graph step index disagrees with StepRecord")
  require ((graph.releasedAtPs : Int) == record.virtualTimePs)
    (valueError "graph release disagrees with StepRecord virtual time")
  require (nowPs == record.virtualTimePs)
    (valueError "VirtualClock does not equal StepRecord virtual time")
  require (result.executionId == graph.executionId)
    (valueError "ExecutionResult execution ID disagrees with graph")
  require (report.executionId == graph.executionId)
    (valueError "RuntimeReport execution ID disagrees with graph")
  require (graph.releasedAtPs ≤ result.completedAtPs)
    (valueError "ExecutionResult completes before graph release")
  require (result.quiescedAtPs.all (result.completedAtPs ≤ ·))
    (valueError "ExecutionResult quiescence precedes completion")
  require (report.operations.map (·.operationId) == graph.operations.map (·.operationId))
    (valueError "RuntimeReport operation order or cardinality disagrees")
  require (report.operations.map (·.operationId)).Nodup
    (valueError "RuntimeReport contains duplicate operation IDs")

def validateInputs (record : StepRecord) (graph : ExecutionGraph) (result : ExecutionResult)
    (report : RuntimeReport) (nowPs : Int) : Except PyError (List RuntimeCriticalSegment) := do
  checkIdentities record graph result report nowPs
  let segments ← report.operations.foldlM (checkRecord graph report) []
  segments.forM (checkSegmentLink graph segments)
  report.operations.forM (validateScalarProjection report graph.releasedAtPs)
  checkReportChain graph report segments
  checkReportVisits graph report
  let _ ← result.events.foldlM (checkStreamEvent graph result report) (-1)
  checkCompletionEventProjection graph result report
  let required ← (requiredIds graph).mapM (lookupRecord report)
  require (maxOrDefault (required.map (·.completedAtPs)) graph.releasedAtPs == result.completedAtPs)
    (valueError "ExecutionResult boundary disagrees with required operations")
  report.operations.forM (checkLogicalEvent result)
  return segments

theorem validateInputs_eq_ok {record : StepRecord} {graph : ExecutionGraph}
    {result : ExecutionResult} {report : RuntimeReport} {nowPs : Int}
    {segments : List RuntimeCriticalSegment}
    (h : validateInputs record graph result report nowPs = .ok segments) :
    report.operations.foldlM (checkRecord graph report) [] = .ok segments ∧
      checkReportChain graph report segments = .ok () ∧
      ∃ required, (requiredIds graph).mapM (lookupRecord report) = .ok required ∧
        maxOrDefault (required.map (·.completedAtPs)) graph.releasedAtPs =
          result.completedAtPs := by
  replace h := of_check h
  obtain ⟨collected, hcollected, h⟩ := of_bind h
  replace h := of_check h
  replace h := of_check h
  obtain ⟨_, hchain, h⟩ := of_bind h
  replace h := of_check h
  obtain ⟨_, -, h⟩ := of_bind h
  replace h := of_check h
  obtain ⟨required, hrequired, h⟩ := of_bind h
  obtain ⟨_, hboundary, h⟩ := of_bind h
  replace h := of_check h
  cases h
  exact ⟨hcollected, hchain, required, hrequired, by simpa using hboundary⟩

end SimLLM
