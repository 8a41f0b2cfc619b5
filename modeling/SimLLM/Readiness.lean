import SimLLM.PlanSchedule

namespace SimLLM

open FirstExtremum

/-- The tags allocated so far: rings take consecutive blocks at once, pairwise
operations wait for the first tag after the last ring. -/
structure TagAllocation where
  nextRingTag : Nat
  tags : List (String × List Nat) := []
  pairwise : List String := []

def allocateTags (acc : TagAllocation) (operation : ExecutionOperation) :
    Except PyError TagAllocation :=
  match operation.work with
  | .collective work =>
    if work.isRing then
      let rounds := 2 * (work.ranks.length - 1)
      if rounds = 0 then .error (valueError "ring all-reduce requires at least two ranks")
      else .ok { acc with
        nextRingTag := acc.nextRingTag + rounds
        tags := acc.tags ++ [(operation.operationId, List.range' acc.nextRingTag rounds)] }
    else if work.isPairwise then
      .ok { acc with pairwise := acc.pairwise ++ [operation.operationId] }
    else .error (valueError "unsupported collective {} with algorithm {}"
      [work.collective, work.algorithmHint.getD "None"])
  | _ => .ok acc

def checkTagLimit (tags : List (String × List Nat)) (baseTag : Nat) (error : PyError) :
    Except PyError Unit :=
  require ((tags.flatMap Prod.snd).all (· < baseTag + controlGoalTagOffset)) error

def collectiveGoalTags (graph : ExecutionGraph) (baseTag : Nat) :
    Except PyError (List (String × List Nat)) := do
  validateExecutionGraph graph
  if !graph.collectivePlans.isEmpty then
    let tags := graph.collectivePlans.map fun plan => (plan.operationId, plan.rounds.map (·.tag))
    checkTagLimit tags baseTag (valueError
      "collective plan tags overlap the control-tag range reserved at base + {}"
      [toString controlGoalTagOffset])
    .ok tags
  else
    let acc ← graph.operations.foldlM allocateTags { nextRingTag := baseTag }
    let tags := acc.tags ++ acc.pairwise.zipIdx.map fun entry =>
      (entry.1, [acc.nextRingTag + entry.2])
    checkTagLimit tags baseTag (valueError
      "collective GOAL tags overlap the control-tag range reserved at base + {}"
      [toString controlGoalTagOffset])
    .ok tags

def tagsOf (tags : List (String × List Nat)) (operationId : String) : Except PyError (List Nat) :=
  match tags.find? (·.1 == operationId) with
  | some (_, tags) => .ok tags
  | none => .error (keyError "{}" [operationId])

def scheduled? (scheduled : List ScheduledOperation) (operationId : String) :
    Option ScheduledOperation :=
  scheduled.find? (·.operation.operationId == operationId)

def lookupScheduled (scheduled : List ScheduledOperation) (operationId : String) :
    Except PyError ScheduledOperation :=
  match scheduled? scheduled operationId with
  | some outcome => .ok outcome
  | none => .error (keyError "{}" [operationId])

def logicalCompletionParticipantRank (outcome : ScheduledOperation) : Except PyError Nat :=
  let ranks := outcome.participantCompletedAtPs.ranks.filter fun rank =>
    outcome.participantCompletedAtPs.get rank == outcome.logicalCompletedAtPs
  match maxBy (fun rank => rank) ranks with
  | some rank => .ok rank
  | none => .error (assertionError "logical completion has no participant segment")

def edgeConstraint (ranks : List Nat) (predecessor : ScheduledOperation)
    (edge : EffectiveDependencyEdge) : Except PyError (CausalWitness × List Nat) :=
  match edge.scope with
  | .wholeOperation => do
    let rank ← logicalCompletionParticipantRank predecessor
    .ok (⟨edge.predecessorId, rank, predecessor.logicalCompletedAtPs⟩, ranks)
  | .participantLocal =>
    match edge.participantRank with
    | none => .error (assertionError "participant-local edge has no rank")
    | some rank =>
      if rank ∈ predecessor.participantCompletedAtPs.ranks then
        .ok (⟨edge.predecessorId, rank, predecessor.participantCompletedAtPs.get rank⟩, [rank])
      else .error (keyError "{}" [toString rank])

structure ReadinessState where
  readiness : RankMap Nat
  witnesses : RankMap (Option CausalWitness)

def ReadinessState.constrain (witness : CausalWitness) (acc : ReadinessState) (rank : Nat) :
    ReadinessState where
  witnesses := acc.witnesses.set rank
    (match acc.witnesses.get rank with
    | none => some witness
    | some previous => selectCausalWitness (previous.completedAtPs, some previous)
        [(witness.completedAtPs, some witness)])
  readiness := acc.readiness.set rank (max (acc.readiness.get rank) witness.completedAtPs)

def applyEdge (ranks : List Nat) (scheduled : List ScheduledOperation) (acc : ReadinessState)
    (edge : EffectiveDependencyEdge) : Except PyError ReadinessState := do
  let predecessor ← lookupScheduled scheduled edge.predecessorId
  let (witness, constrained) ← edgeConstraint ranks predecessor edge
  .ok (constrained.foldl (ReadinessState.constrain witness) acc)

def minValue (mapping : RankMap Nat) : Nat :=
  (minBy (fun value => value) mapping.values).getD 0

def operationReadiness (operation : ExecutionOperation) (launch : QueueVisit)
    (scheduled : List ScheduledOperation) (edges : List EffectiveDependencyEdge) :
    Except PyError ReadyOperation := do
  let ranks := operationParticipantRanks operation
  let state ← edges.foldlM (applyEdge ranks scheduled)
    ⟨.const ranks launch.completedAtPs, .const ranks none⟩
  .ok ⟨state.readiness, state.witnesses, minValue state.readiness⟩

end SimLLM
