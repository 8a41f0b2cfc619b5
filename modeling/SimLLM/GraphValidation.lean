import SimLLM.PlanIdentity
import SimLLM.WorkValidation

namespace SimLLM

variable (plan : CollectivePlan)

def CollectivePlan.action? (actionId : String) :
    Option CollectivePlanAction :=
  plan.actions.find? (·.actionId == actionId)

def CollectivePlan.actionIndex? (actionId : String) : Option Nat :=
  plan.actions.findIdx? (·.actionId == actionId)

def validatePlanSemantics (path : String) (work : CollectiveWork) :
    Except PyError Unit := do
  checkString plan.operationId (path ++ ".operation_id")
  checkString plan.collective (path ++ ".collective")
  checkString plan.algorithm (path ++ ".algorithm")
  checkString plan.channelId (path ++ ".channel_id")
  require (!plan.rankOrder.isEmpty) (fail (path ++ ".rank_order") "must not be empty")
  validateUnique plan.rankOrder (path ++ ".rank_order")
  require (plan.collective == work.collective)
    (fail path "collective disagrees with semantic work")
  require (some plan.algorithm == work.algorithmHint)
    (fail path "algorithm disagrees with semantic work")
  require (plan.channelId == work.channelId)
    (fail path "channel disagrees with semantic work")
  require (plan.rankOrder == work.ranks) (fail path "rank order disagrees with semantic work")
  require (plan.payloadBytes == work.payloadBytes)
    (fail path "payload_bytes disagrees with semantic work")
  require (plan.pairPayloadBytes == work.pairPayloadBytes)
    (fail path "pair_payload_bytes disagrees with semantic work")
  require (plan.requestPairPayloadBytes == work.requestPairPayloadBytes)
    (fail path "request_pair_payload_bytes disagrees with semantic work")
  validateWork (.collective
    { collective := plan.collective, ranks := plan.rankOrder, payloadBytes := plan.payloadBytes
      algorithmHint := some plan.algorithm, channelHint := work.channelHint
      pairPayloadBytes := plan.pairPayloadBytes
      requestPairPayloadBytes := plan.requestPairPayloadBytes }) path

def validatePlanRounds (path : String) : Except PyError Unit := do
  require (!plan.rounds.isEmpty) (fail (path ++ ".rounds") "must not be empty")
  forEachIdx plan.rounds fun index round => do
    let roundPath := indexPath (path ++ ".rounds") index
    require (round.roundIndex == index)
      (fail (roundPath ++ ".round_index") "round indices must be contiguous")
    checkString round.channelId (roundPath ++ ".channel_id")
  validateUnique (plan.rounds.map (·.tag)) (path ++ ".rounds tags")

def validatePlanAction (path : String) (index : Nat) (action : CollectivePlanAction) :
    Except PyError Unit := do
  let actionPath := indexPath (path ++ ".actions") index
  checkString action.actionId (actionPath ++ ".action_id")
  require (!(plan.actions.take index).any (·.actionId == action.actionId))
    (fail (actionPath ++ ".action_id") "duplicate action ID")
  require (plan.rankOrder.contains action.rank)
    (fail (actionPath ++ ".rank") "action rank is outside rank_order")
  checkString action.extentId (actionPath ++ ".extent_id")
  checkStrings action.dependsOn (actionPath ++ ".depends_on")
  validateUnique action.dependsOn (actionPath ++ ".depends_on")

def validatePlanDependency (path : String) (index : Nat) (action : CollectivePlanAction)
    (dependency : String) : Except PyError Unit := do
  match plan.actionIndex? dependency with
  | none => .error (fail path "unknown action ID")
  | some predecessorIndex =>
    require (predecessorIndex < index)
      (fail path "internal dependencies must point to an earlier action")
  require ((plan.action? dependency).map (·.rank) == some action.rank)
    (fail path "internal dependency must stay on one rank")

def validatePlanActions (path : String) : Except PyError Unit := do
  forEachIdx plan.actions (validatePlanAction plan path)
  forEachIdx plan.actions fun index action =>
    forEachIdx action.dependsOn fun depIndex dependency =>
      validatePlanDependency plan
        (indexPath (indexPath (path ++ ".actions") index ++ ".depends_on") depIndex)
        index action dependency

def usedActionIds (extents : List CollectivePlanExtent) : List String :=
  extents.flatMap fun extent => [extent.sendActionId, extent.receiveActionId]

def validateExtentEndpoint (path : String) (extentId actionId : String)
    (kind : CollectivePlanActionKind) (rank : Nat) (used : List String) :
    Except PyError Unit := do
  checkString actionId path
  match plan.action? actionId with
  | none => .error (fail path "unknown action ID")
  | some action => do
    require (action.kind == kind && action.rank == rank)
      (fail path "action kind or rank disagrees")
    require (action.extentId == extentId) (fail path "action extent identity disagrees")
  require (!used.contains actionId) (fail path "action is reused by another extent")

def validateExtentRequests (extent : CollectivePlanExtent) (path : String) :
    Except PyError Unit := do
  forEachIdx extent.requestPayloadBytes fun index entry => do
    checkString entry.1 (indexPath (indexPath path index) 0)
    checkMinimum 1 entry.2 (indexPath (indexPath path index) 1)
  let requestIds := extent.requestPayloadBytes.map Prod.fst
  validateUnique requestIds (path ++ " request IDs")
  require (requestIds == requestIds.insertionSort (· ≤ ·))
    (fail path "entries must be request-major")
  require (extent.requestPayloadBytes.isEmpty ||
      (extent.requestPayloadBytes.map Prod.snd).sum == extent.payloadBytes)
    (fail path "partition must sum to extent payload_bytes")

def validatePlanExtent (path : String) (index : Nat) (extent : CollectivePlanExtent) :
    Except PyError Unit := do
  let extentPath := indexPath (path ++ ".extents") index
  let earlier := plan.extents.take index
  checkString extent.extentId (extentPath ++ ".extent_id")
  require (!earlier.any (·.extentId == extent.extentId))
    (fail (extentPath ++ ".extent_id") "duplicate extent ID")
  require (extent.roundIndex < plan.rounds.length)
    (fail (extentPath ++ ".round_index") "round index is outside the plan")
  require (earlier.getLast?.all (·.roundIndex ≤ extent.roundIndex))
    (fail (extentPath ++ ".round_index") "extents must be round-major")
  require (extent.sourceRank != extent.destinationRank)
    (fail extentPath "extent source and destination must differ")
  require (plan.rankOrder.contains extent.sourceRank &&
      plan.rankOrder.contains extent.destinationRank)
    (fail extentPath "extent endpoint is outside rank_order")
  checkMinimum 1 extent.payloadBytes (extentPath ++ ".payload_bytes")
  validateExtentEndpoint plan (extentPath ++ ".send_action_id") extent.extentId
    extent.sendActionId .send extent.sourceRank (usedActionIds earlier)
  validateExtentEndpoint plan (extentPath ++ ".receive_action_id") extent.extentId
    extent.receiveActionId .receive extent.destinationRank
    (usedActionIds earlier ++ [extent.sendActionId])
  validateExtentRequests extent (extentPath ++ ".request_payload_bytes")

def validatePlanExtents (path : String) : Except PyError Unit := do
  forEachIdx plan.extents (validatePlanExtent plan path)
  require (plan.actions.all fun action => (usedActionIds plan.extents).contains action.actionId)
    (fail (path ++ ".actions") "actions must be paired exactly to plan extents")

def validateRankActionIds (entries : List (Nat × List String)) (path : String)
    (plan : CollectivePlan) : Except PyError Unit := do
  require (entries.length == plan.rankOrder.length)
    (fail path "must contain one entry for every rank in rank_order")
  forEachIdx entries fun index entry => do
    let entryPath := indexPath path index
    require (plan.rankOrder[index]? == some entry.1)
      (fail entryPath "rank entries must preserve rank_order exactly")
    forEachIdx entry.2 fun actionIndex actionId => do
      let actionPath := indexPath (indexPath entryPath 1) actionIndex
      checkString actionId actionPath
      match plan.action? actionId with
      | none => .error (fail actionPath "unknown action ID")
      | some action =>
        require (action.rank == entry.1) (fail actionPath "action belongs to another rank")
    validateUnique entry.2 (indexPath entryPath 1)

def CollectivePlan.rootIds (rank : Nat) : List String :=
  (plan.actions.filter fun action => action.rank == rank && action.dependsOn.isEmpty).map
    (·.actionId)

def CollectivePlan.predecessorIds : List String :=
  plan.actions.flatMap (·.dependsOn)

def CollectivePlan.leafIds (rank : Nat) : List String :=
  (plan.actions.filter fun action =>
    action.rank == rank && !plan.predecessorIds.contains action.actionId).map (·.actionId)

def validatePlanBoundaries (path : String) : Except PyError Unit := do
  validateRankActionIds plan.entryActionIds (path ++ ".entry_action_ids") plan
  validateRankActionIds plan.terminalActionIds (path ++ ".terminal_action_ids") plan
  require (plan.entryActionIds.all fun entry => entry.2 == plan.rootIds entry.1)
    (fail (path ++ ".entry_action_ids") "does not match dependency roots")
  require (plan.terminalActionIds.all fun entry => entry.2 == plan.leafIds entry.1)
    (fail (path ++ ".terminal_action_ids") "does not match dependency terminals")

def validatePlanIntegrity (path : String) : Except PyError Unit := do
  require (isSha256Digest plan.integritySha256)
    (fail (path ++ ".integrity_sha256") "expected a lowercase SHA-256 digest")
  require (collectivePlanIntegritySha256 plan == plan.integritySha256)
    (fail (path ++ ".integrity_sha256") "collective plan integrity mismatch")

def validateCollectivePlan (path : String) (work : CollectiveWork) :
    Except PyError Unit := do
  validatePlanSemantics plan path work
  validatePlanRounds plan path
  validatePlanActions plan path
  validatePlanExtents plan path
  validatePlanBoundaries plan path
  validatePlanIntegrity plan path

variable (graph : ExecutionGraph)

def ExecutionGraph.operation? (operationId : String) :
    Option ExecutionOperation :=
  graph.operations.find? (·.operationId == operationId)

def wholeEdge (origin : DependencyOrigin) (predecessorId operationId : String) :
    EffectiveDependencyEdge :=
  ⟨predecessorId, operationId, .wholeOperation, origin, none⟩

def sharedRanks (operation predecessor : ExecutionOperation) : List Nat :=
  (operationParticipantRanks operation).filter
    (operationParticipantRanks predecessor).contains

def localEdges (operation : ExecutionOperation) (predecessorId : String) :
    List EffectiveDependencyEdge :=
  match graph.operation? predecessorId with
  | none => []
  | some predecessor => (sharedRanks operation predecessor).map fun rank =>
      ⟨predecessorId, operation.operationId, .participantLocal, .explicit, some rank⟩

def sameQueue (a b : ExecutionOperation) : Bool :=
  a.rank == b.rank && a.logicalQueue == b.logicalQueue

def queueTail (earlier : List ExecutionOperation) (operation : ExecutionOperation) :
    Option ExecutionOperation :=
  (earlier.filter (sameQueue operation)).getLast?

def operationEdges (earlier : List ExecutionOperation) (operation : ExecutionOperation) :
    List EffectiveDependencyEdge :=
  operation.dependsOn.map (wholeEdge .explicit · operation.operationId) ++
  operation.participantLocalDependsOn.flatMap (localEdges graph operation) ++
  ((queueTail earlier operation).map fun previous =>
    wholeEdge .logicalQueueFifo previous.operationId operation.operationId).toList

def effectiveDependencyEdgesUnchecked : List EffectiveDependencyEdge :=
  graph.operations.zipIdx.flatMap fun entry =>
    operationEdges graph (graph.operations.take entry.2) entry.1

def validateCorrelation (correlation : OperationCorrelation) (path : String) :
    Except PyError Unit := do
  checkStrings correlation.requestIds (path ++ ".request_ids")
  validateUnique correlation.requestIds (path ++ ".request_ids")
  checkOptionalString correlation.batchId (path ++ ".batch_id")

def validateDependencyIds (operationId : String) (values : List String) (path : String) :
    Except PyError Unit := do
  checkStrings values path
  validateUnique values path
  require (!values.contains operationId) (fail path "operation cannot depend on itself")

def validateAnchor (operation : ExecutionOperation) (path : String) : Except PyError Unit :=
  match operation.work with
  | .collective work => do
    require (work.ranks.contains operation.rank)
      (fail (path ++ ".rank") "collective anchor rank must be one of its participant ranks")
    require (work.requestPairPayloadBytes.all fun entry =>
        operation.correlation.requestIds.contains entry.requestId)
      (fail (path ++ ".work.request_pair_payload_bytes")
        "request identities are absent from operation correlation: {}"
        (sortedSet ((work.requestPairPayloadBytes.map (·.requestId)).filter
          (!operation.correlation.requestIds.contains ·))))
  | _ => .ok ()

def validateOperation (operations : List ExecutionOperation) (index : Nat)
    (operation : ExecutionOperation) : Except PyError Unit := do
  let path := indexPath "graph.operations" index
  checkString operation.operationId (path ++ ".operation_id")
  require (!(operations.take index).any (·.operationId == operation.operationId))
    (fail (path ++ ".operation_id") "duplicate operation ID {}" [operation.operationId])
  checkString operation.logicalQueue (path ++ ".logical_queue")
  validateDependencyIds operation.operationId operation.dependsOn (path ++ ".depends_on")
  validateDependencyIds operation.operationId operation.participantLocalDependsOn
    (path ++ ".participant_local_depends_on")
  require (operation.dependsOn.all (!operation.participantLocalDependsOn.contains ·))
    (fail path "dependency edges cannot have two modes: {}"
      (sortedSet (operation.dependsOn.filter operation.participantLocalDependsOn.contains)))
  validateCorrelation operation.correlation (path ++ ".correlation")
  validateWork operation.work (path ++ ".work")
  validateAnchor operation path

def ExecutionGraph.knows (operationId : String) : Bool :=
  graph.operations.any (·.operationId == operationId)

def checkKnown (path : String) (index : Nat) (operationId : String) :
    Except PyError Unit :=
  require (graph.knows operationId)
    (fail (indexPath path index) "unknown operation ID {}" [operationId])

def validateDependencies (index : Nat) (operation : ExecutionOperation) : Except PyError Unit := do
  let path := indexPath "graph.operations" index
  forEachIdx operation.dependsOn (checkKnown graph (path ++ ".depends_on"))
  forEachIdx operation.participantLocalDependsOn
    (checkKnown graph (path ++ ".participant_local_depends_on"))
  forEachIdx operation.participantLocalDependsOn fun depIndex dependency =>
    require ((graph.operation? dependency).all fun predecessor =>
        !(sharedRanks operation predecessor).isEmpty)
      (fail (indexPath (path ++ ".participant_local_depends_on") depIndex)
        "participant-local dependency has no shared rank")

def ExecutionOperation.isCollective (operation : ExecutionOperation) : Bool :=
  match operation.work with
  | .collective _ => true
  | _ => false

def validatePlanOf (index : Nat) (plan : CollectivePlan) (operation : ExecutionOperation) :
    Except PyError Unit := do
  let path := indexPath "graph.collective_plans" index
  require (plan.operationId == operation.operationId)
    (fail path "plan order or operation identity disagrees with graph")
  match operation.work with
  | .collective work => validateCollectivePlan plan path work
  | _ => .error (assertionError "")

def validateCollectivePlans : Except PyError Unit :=
  if graph.collectivePlans.isEmpty then .ok () else do
    let collectives := graph.operations.filter (·.isCollective)
    require (graph.collectivePlans.length == collectives.length)
      (fail "graph.collective_plans"
        "explicit plans must cover every collective operation exactly")
    forEachIdx (graph.collectivePlans.zip collectives) fun index entry =>
      validatePlanOf index entry.1 entry.2
    validateUnique (graph.collectivePlans.flatMap fun plan => plan.rounds.map (·.tag))
      "graph.collective_plans round tags"

theorem validateCollectivePlans_of_mem {u : Unit} {plan : CollectivePlan}
    (h : validateCollectivePlans graph = .ok u) (hplan : plan ∈ graph.collectivePlans) :
    ∃ operation ∈ graph.operations, plan.operationId = operation.operationId ∧
      ∃ work path, operation.work = .collective work ∧
        validateCollectivePlan plan path work = .ok () := by
  unfold validateCollectivePlans at h
  split at h
  next hempty =>
    rw [List.isEmpty_iff.mp hempty] at hplan
    cases hplan
  next =>
    simp only [bind_eq_ok, require_eq_ok, beq_iff_eq, forEachIdx_eq_ok] at h
    obtain ⟨-, hlength, -, hplans, -⟩ := h
    -- the plan stands at the place of its operation among the collectives
    obtain ⟨i, hi⟩ := List.getElem?_of_mem hplan
    obtain ⟨hlt, -⟩ := List.getElem?_eq_some_iff.mp hi
    obtain ⟨operation, hoperation⟩ : ∃ operation,
        (graph.operations.filter (·.isCollective))[i]? = some operation :=
      ⟨_, List.getElem?_eq_getElem (by omega)⟩
    obtain ⟨_, hsame, hbody⟩ :=
      of_bind (hplans i (plan, operation) (List.getElem?_zip_eq_some.mpr ⟨hi, hoperation⟩))
    refine ⟨operation, List.mem_of_mem_filter (List.mem_of_getElem? hoperation),
      by simpa using hsame, ?_⟩
    split at hbody
    next work hwork => exact ⟨work, _, hwork, hbody⟩
    next => cases hbody

/-- The state of the topological count: the ready queue, the open in-degree of
every operation and how many operations were visited. -/
structure TopologicalCount where
  ready : List String
  indegree : String → Nat
  visited : Nat := 0

def TopologicalCount.visit (edges : List (String × String)) (source : String) (rest : List String)
    (count : TopologicalCount) : TopologicalCount :=
  let released := (edges.filter (·.1 == source)).map Prod.snd
  let indegree := fun id => count.indegree id - (released.count id)
  ⟨rest ++ released.filter (indegree · == 0), indegree, count.visited + 1⟩

def topologicalCount (edges : List (String × String)) : Nat → TopologicalCount → TopologicalCount
  | 0, count => count
  | fuel + 1, count =>
    match count.ready with
    | [] => count
    | source :: rest => topologicalCount edges fuel (count.visit edges source rest)

/-- Kahn's count over the distinct dependency and queue edges; every operation is
enqueued at most once, so one more step than there are operations is enough fuel. -/
def validateAcyclic : Except PyError Unit :=
  let ids := graph.operations.map (·.operationId)
  let edges := ((effectiveDependencyEdgesUnchecked graph).map fun edge =>
    (edge.predecessorId, edge.operationId)).dedup
  let indegree := fun id => edges.countP (·.2 == id)
  let final := topologicalCount edges (ids.length + 1) ⟨ids.filter (indegree · == 0), indegree, 0⟩
  require (final.visited == ids.length)
    (fail "graph" "dependency and FIFO edges contain a cycle involving {}"
      (sortedSet (ids.filter (final.indegree · != 0))))

def validateExecutionGraph : Except PyError Unit := do
  checkString graph.executionId "graph.execution_id"
  forEachIdx graph.operations (validateOperation graph.operations)
  forEachIdx graph.operations (validateDependencies graph)
  forEachIdx graph.completionOperationIds fun index completionId => do
    checkString completionId (indexPath "graph.completion_operation_ids" index)
    checkKnown graph "graph.completion_operation_ids" index completionId
  validateUnique graph.completionOperationIds "graph.completion_operation_ids"
  validateCollectivePlans graph
  validateAcyclic graph

def effectiveDependencyEdges :
    Except PyError (List EffectiveDependencyEdge) := do
  validateExecutionGraph graph
  .ok (effectiveDependencyEdgesUnchecked graph)

end SimLLM
