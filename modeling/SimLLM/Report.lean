import SimLLM.CriticalPath
import SimLLM.Readiness

namespace SimLLM

open FirstExtremum

def workCompletedBytes (operation : ExecutionOperation) : Option Nat :=
  match operation.work with
  | .compute work => work.hbmBytes
  | .dma work => some work.byteCount
  | .kv work => some work.byteCount
  | .collective work =>
    some (if work.pairPayloadBytes.isEmpty then work.payloadBytes
      else (work.pairPayloadBytes.map (·.bytes)).sum)
  | .control work => some work.payloadBytes

variable (graph : ExecutionGraph)

def visitEvents (operationId : String) (subject : Option String) (visit : QueueVisit) :
    List CompletionEvent :=
  let event := fun phase timestamp bytes =>
    (⟨graph.executionId, operationId, phase, timestamp, some visit.resource, bytes, subject⟩ :
      CompletionEvent)
  [event .submitted visit.submittedAtPs none, event .queued visit.eligibleAtPs none,
    event .started visit.startedAtPs none,
    event .progress visit.finishedAtPs (some visit.serviceBytes)]

def wqeEvent (wqe : WqeLifecycleProjection) (phase : EventPhase) (timestamp : Nat)
    (resource : ResourceRef) (bytes : Option Nat) : CompletionEvent :=
  ⟨graph.executionId, wqe.operationId, phase, timestamp, some resource, bytes, some wqe.wqeId⟩

def wqeEvents (wqe : WqeLifecycleProjection) : List CompletionEvent :=
  let completed := wqeEvent graph wqe .completed wqe.completedAtPs
    ⟨.completionQueue, wqe.cqId⟩ (some wqe.payloadBytes)
  match wqe.ingress with
  | some _ =>
    (nativeWqeVisits wqe).flatMap (visitEvents graph wqe.operationId (some wqe.wqeId)) ++
      [completed]
  | none =>
    let nic : ResourceRef := ⟨.nic, wqe.rnicId⟩
    let queued := (wqe.native.map (·.networkEligibleAtPs)).getD wqe.eligibleAtPs
    let started := (wqe.native.map (·.networkStartedAtPs)).getD wqe.startedAtPs
    let finished := (wqe.native.map (·.networkFinishedAtPs)).getD wqe.finishedAtPs
    [wqeEvent graph wqe .submitted wqe.submittedAtPs ⟨.nicSendQueue, wqe.sqId⟩ none,
      wqeEvent graph wqe .queued queued nic none,
      wqeEvent graph wqe .started started nic none,
      wqeEvent graph wqe .progress finished nic (some wqe.payloadBytes),
      completed]

def finalVisit (outcome : ScheduledOperation) : Except PyError QueueVisit := do
  let index ← logicalPathIndex outcome.logicalPaths
  match outcome.logicalPaths[index]?.bind (·.getLast?) with
  | some visit => .ok visit
  | none => .error (indexError "list index out of range")

variable (scheduled : List ScheduledOperation)

variable (operation : ExecutionOperation)

def logicalEvent : Except PyError CompletionEvent := do
  let outcome ← lookupScheduled scheduled operation.operationId
  let visit ← finalVisit outcome
  .ok ⟨graph.executionId, operation.operationId, .completed, outcome.logicalCompletedAtPs,
    some visit.resource, workCompletedBytes operation, none⟩

def plainVisitEvents : Except PyError (List CompletionEvent) := do
  let outcome ← lookupScheduled scheduled operation.operationId
  .ok ((outcome.visits.filter (·.subjectObjectId.isNone)).flatMap
    (visitEvents graph operation.operationId none))

def completionEvents (wqes : List WqeLifecycleProjection) :
    Except PyError (List CompletionEvent) := do
  let visits ← graph.operations.mapM (plainVisitEvents graph scheduled)
  let logical ← graph.operations.mapM (logicalEvent graph scheduled)
  let sequenced := visits.flatten ++ wqes.flatMap (wqeEvents graph) ++ logical
  .ok (sequenced.insertionSort fun a b => a.timestampPs ≤ b.timestampPs)

structure RuntimeOperationRecord where
  operationId : String
  classLabel : Int
  submittedAtPs : Nat
  eligibleAtPs : Nat
  completedAtPs : Nat
  physicalCompletedAtPs : Nat
  participantCompletedAtPs : List (Nat × Nat)
  criticalSegments : List RuntimeCriticalSegment
  breakdown : CriticalPathBreakdown
  attribution : LatencyAttribution
  causalPredecessorId : Option String
  causalPredecessorCompletedAtPs : Option Nat
  criticalPredecessorId : Option String
  sumVisitWaitPs : Nat
  deriving DecidableEq

structure RuntimeReport where
  executionId : String
  authority : String
  operations : List RuntimeOperationRecord
  visits : List QueueVisit
  wqes : List WqeLifecycleProjection
  sumVisitWaitPs : Nat
  criticalPathQueuePs : Nat
  realizedCriticalPathOperationIds : List String
  realizedCriticalPathSegments : List (String × Nat)
  classServiceBytes : List (Int × Nat)
  randomDrawCount : Nat
  deriving DecidableEq

def RuntimeReport.operation? (report : RuntimeReport) (operationId : String) :
    Option RuntimeOperationRecord :=
  report.operations.find? (·.operationId == operationId)

def classServiceBytes : List (Int × Nat) :=
  let rows := graph.operations.filterMap fun operation =>
    match operation.work with
    | .control work =>
      some (operation.priority, work.payloadBytes * max 1 work.destinationRanks.length)
    | _ => none
  (sortedSet (rows.map Prod.fst)).map fun label =>
    (label, ((rows.filter (·.1 == label)).map Prod.snd).sum)

def RuntimeCriticalSegment.key (segment : RuntimeCriticalSegment) : String × Nat :=
  (segment.operationId, segment.participantRank)

variable (outcome : ScheduledOperation)

def participantSegment (rank : Nat) : Except PyError RuntimeCriticalSegment := do
  let path := outcome.participantPaths.get rank
  let witness := outcome.participantCausalWitnesses.get rank
  let started := (witness.map (·.completedAtPs)).getD graph.releasedAtPs
  let completed := outcome.participantCompletedAtPs.get rank
  let breakdown ← criticalPathBreakdown operation.operationId path started completed
  let attribution ← criticalPathAttribution operation path started completed
  RuntimeCriticalSegment.make operation.operationId rank started completed
    (witness.map fun w => (w.predecessorId, w.participantRank)) breakdown attribution

def operationSegments : Except PyError (List RuntimeCriticalSegment) := do
  let ranks := sortedSet outcome.participantCompletedAtPs.ranks
  require (sortedSet outcome.participantPaths.ranks == ranks)
    (runtimeError "participant completion and critical paths differ")
  require (sortedSet outcome.participantCausalWitnesses.ranks == ranks)
    (runtimeError "participant completion and causal witnesses differ")
  ranks.mapM (participantSegment graph operation outcome)

def additivePredecessor :
    Except PyError (Option String) :=
  match outcome.criticalPredecessorId, outcome.criticalPredecessorCompletedAtPs with
  | none, none => .ok none
  | some _, none => .error (runtimeError "critical predecessor is missing its causal boundary")
  | none, some _ => .error (runtimeError "causal boundary has no critical predecessor")
  | some predecessorId, some completed => do
    let predecessor ← lookupScheduled scheduled predecessorId
    .ok (if completed = predecessor.logicalCompletedAtPs then some predecessorId else none)

variable (segments : List RuntimeCriticalSegment)

def operationRecord : Except PyError RuntimeOperationRecord := do
  let index ← logicalPathIndex outcome.logicalPaths
  let path := (outcome.logicalPaths[index]?).getD []
  let additive ← additivePredecessor scheduled outcome
  let started :=
    if additive.isSome then outcome.criticalPredecessorCompletedAtPs.getD graph.releasedAtPs
    else graph.releasedAtPs
  let completed := outcome.logicalCompletedAtPs
  let breakdown ← criticalPathBreakdown operation.operationId path started completed
  let attribution ← criticalPathAttribution operation path started completed
  require (attribution.totalPs == breakdown.operationLatencyPs)
    (valueError "operation {} attribution does not conserve its critical-path segment"
      [operation.operationId])
  .ok { operationId := operation.operationId
        classLabel := operation.priority
        submittedAtPs := graph.releasedAtPs
        eligibleAtPs := outcome.eligibleAtPs
        completedAtPs := completed
        physicalCompletedAtPs := outcome.physicalCompletedAtPs
        participantCompletedAtPs := (sortedSet outcome.participantCompletedAtPs.ranks).map
          fun rank => (rank, outcome.participantCompletedAtPs.get rank)
        criticalSegments := segments
        breakdown := breakdown
        attribution := attribution
        causalPredecessorId := outcome.criticalPredecessorId
        causalPredecessorCompletedAtPs := outcome.criticalPredecessorCompletedAtPs
        criticalPredecessorId := additive
        sumVisitWaitPs := (outcome.visits.map QueueVisit.queueWaitPs).sum }

def reportOperation : Except PyError RuntimeOperationRecord := do
  let outcome ← lookupScheduled scheduled operation.operationId
  let segments ← operationSegments graph operation outcome
  operationRecord graph scheduled operation outcome segments

def segment? (key : String × Nat) :
    Option RuntimeCriticalSegment :=
  segments.find? (·.key == key)

def checkSegmentLink (segment : RuntimeCriticalSegment) : Except PyError Unit :=
  match segment.predecessor with
  | none => require (segment.startedAtPs == graph.releasedAtPs)
      (valueError "root critical segment does not start at graph release")
  | some key =>
    match segment? segments key with
    | none => .error (valueError "critical segment names an unknown predecessor segment")
    | some predecessor => require (segment.startedAtPs == predecessor.completedAtPs)
        (valueError "critical segment predecessor timestamp disagrees")

/-- Follow the predecessor keys back from an endpoint, last segment first. A key seen
before is a cycle, so as many steps as there are segments, and one more, are enough. -/
def reverseChain (segments : List RuntimeCriticalSegment) :
    Nat → List (String × Nat) → String × Nat → Except PyError (List RuntimeCriticalSegment)
  | 0, _, _ => .error (runtimeError "critical predecessor chain contains a cycle")
  | fuel + 1, seen, key => do
    require (!seen.contains key) (runtimeError "critical predecessor chain contains a cycle")
    match segment? segments key with
    | none => .error (keyError "{}" [key.1])
    | some segment =>
      match segment.predecessor with
      | none => .ok [segment]
      | some predecessor => do
        let rest ← reverseChain segments fuel (key :: seen) predecessor
        .ok (segment :: rest)

def endpointOperation (records : List RuntimeOperationRecord) (requiredIds : List String) :
    Option RuntimeOperationRecord :=
  let required := records.zipIdx.filter fun entry => requiredIds.contains entry.1.operationId
  (maxBy (fun entry => toLex (entry.1.completedAtPs, entry.2)) required).map Prod.fst

def endpointSegment (record : RuntimeOperationRecord) : Except PyError RuntimeCriticalSegment :=
  match maxBy (·.participantRank)
      (record.criticalSegments.filter (·.completedAtPs == record.completedAtPs)) with
  | some segment => .ok segment
  | none => .error (valueError "max() iterable argument is empty")

def criticalChain (records : List RuntimeOperationRecord) (segments : List RuntimeCriticalSegment)
    (requiredIds : List String) :
    Except PyError (List RuntimeCriticalSegment) :=
  match endpointOperation records requiredIds with
  | none => .ok []
  | some record => do
    let endpoint ← endpointSegment record
    let chain ← reverseChain segments (segments.length + 1) [] endpoint.key
    .ok chain.reverse

def checkChainLatency (chain : List RuntimeCriticalSegment) :
    Except PyError Unit :=
  match chain.getLast? with
  | none => .ok ()
  | some endpoint =>
    require ((chain.map (·.breakdown.operationLatencyPs)).sum + graph.releasedAtPs ==
        endpoint.completedAtPs)
      (valueError "realized critical-path segments do not conserve graph JCT")

def runtimeReport (wqes : List WqeLifecycleProjection) (requiredIds : List String)
    (authority : String) (randomDrawCount : Nat) : Except PyError RuntimeReport := do
  let records ← graph.operations.mapM (reportOperation graph scheduled)
  let segments := records.flatMap (·.criticalSegments)
  require (segments.map (·.key)).Nodup
    (runtimeError "duplicate participant critical segment")
  segments.forM (checkSegmentLink graph segments)
  let chain ← criticalChain records segments requiredIds
  checkChainLatency graph chain
  let outcomes ← graph.operations.mapM fun operation =>
    lookupScheduled scheduled operation.operationId
  let visits := outcomes.flatMap (·.visits)
  .ok { executionId := graph.executionId
        authority := authority
        operations := records
        visits := visits
        wqes := wqes
        sumVisitWaitPs := (visits.map QueueVisit.queueWaitPs).sum
        criticalPathQueuePs := (chain.map (·.breakdown.criticalPathQueuePs)).sum
        realizedCriticalPathOperationIds := chain.map (·.operationId)
        realizedCriticalPathSegments := chain.map (·.key)
        classServiceBytes := classServiceBytes graph
        randomDrawCount := randomDrawCount }

end SimLLM
