import SimLLM.Transfer

namespace SimLLM

open FirstExtremum

variable {κ σ τ : Type}

structure ReadyEntry where
  operation : ExecutionOperation
  index : Nat
  launch : QueueVisit
  ready : ReadyOperation

def ReadyEntry.id (entry : ReadyEntry) : String := entry.operation.operationId

def singleParticipant (operation : ExecutionOperation) (completed : Nat) (path : List QueueVisit)
    (witness : Option CausalWitness) (visits : List QueueVisit) (eligible : Nat) :
    ScheduledOperation where
  operation := operation
  logicalCompletedAtPs := completed
  physicalCompletedAtPs := completed
  participantCompletedAtPs := .const [operation.rank] completed
  participantPaths := .const [operation.rank] path
  participantCausalWitnesses := .const [operation.rank] witness
  visits := visits
  logicalPaths := [path]
  eligibleAtPs := eligible
  criticalPredecessorId := witness.map (·.predecessorId)
  criticalPredecessorCompletedAtPs := witness.map (·.completedAtPs)

def scheduleKvMarker (entry : ReadyEntry) : ScheduledOperation :=
  let rank := entry.operation.rank
  singleParticipant entry.operation
    (max entry.launch.completedAtPs (entry.ready.byRank.get rank)) [entry.launch]
    (entry.ready.witnesses.get rank) [entry.launch] entry.ready.eligibleAtPs

def RuntimeState.reserveHbm (state : RuntimeState) (rank finished : Nat) : RuntimeState :=
  { state with hbmAvailable := updateKey state.hbmAvailable rank finished }

variable (cfg : RuntimeConfig κ σ τ)

def kvVisitData (graph : ExecutionGraph) (entry : ReadyEntry) (demandBytes : Nat)
    (state : RuntimeState) : VisitData :=
  let rank := entry.operation.rank
  let ready := max entry.launch.completedAtPs (entry.ready.byRank.get rank)
  let started := max ready (state.hbmAvailable rank)
  let finished := started + serializationPs demandBytes cfg.profile.hbmRateBps
  { executionId := graph.executionId, operationId := entry.operation.operationId
    resource := hbmResource rank
    submittedAtPs := entry.launch.completedAtPs, eligibleAtPs := ready
    startedAtPs := started, finishedAtPs := finished
    completedAtPs := finished + cfg.profile.completionDeliveryPs, serviceBytes := demandBytes }

def scheduleKvTraffic (graph : ExecutionGraph) (entry : ReadyEntry) (demandBytes : Nat)
    (m : Machine τ) : Except PyError (ScheduledOperation × Machine τ) := do
  let rank := entry.operation.rank
  require (0 < cfg.profile.hbmRateBps) (valueError "rate_bps must be positive")
  let visit ← QueueVisit.make (kvVisitData cfg graph entry demandBytes m.state)
  .ok (singleParticipant entry.operation visit.completedAtPs [entry.launch, visit]
      (entry.ready.witnesses.get rank) [entry.launch, visit] entry.ready.eligibleAtPs,
    { m with state := m.state.reserveHbm rank visit.finishedAtPs })

def copyCandidates (direction : CopyDirection) :
    List CopyEngineServiceModel :=
  cfg.profile.copyEngines.filter (·.directions.contains direction)

structure CopyChoice where
  startedAtPs : Nat
  index : Nat
  engineId : String
  durationPs : Nat

variable (operation : ExecutionOperation)

def copyChoice (work : DmaWork) (direction : CopyDirection) (eligible : Nat) (state : RuntimeState)
    (index : Nat) (engine : CopyEngineServiceModel) :
    Except PyError CopyChoice := do
  let started := max (max eligible (state.copyAvailable (operation.rank, engine.engineId)))
    (state.hbmAvailable operation.rank)
  let duration ←
    if 0 < work.byteCount then
      engine.estimate ⟨work.descriptorId, direction, work.byteCount, work.source, work.destination⟩
    else .ok 0
  .ok ⟨started, index, engine.engineId, duration⟩

variable (graph : ExecutionGraph)

variable (entry : ReadyEntry)

def dmaVisitData (work : DmaWork) (eligible : Nat) (choice : CopyChoice) (resource : ResourceRef)
    (delivery : Nat) : VisitData :=
  { executionId := graph.executionId, operationId := entry.operation.operationId
    resource := resource
    submittedAtPs := entry.launch.completedAtPs, eligibleAtPs := eligible
    startedAtPs := choice.startedAtPs, finishedAtPs := choice.startedAtPs + choice.durationPs
    completedAtPs := choice.startedAtPs + choice.durationPs + delivery
    serviceBytes := work.byteCount }

def RuntimeState.reserveCopy (state : RuntimeState) (rank : Nat) (engineId : String)
    (finished : Nat) : RuntimeState :=
  { state with
    copyAvailable := updateKey state.copyAvailable (rank, engineId) finished
    hbmAvailable := updateKey state.hbmAvailable rank finished }

def maxValue (mapping : RankMap Nat) : Nat := mapping.values.foldl max 0

def scheduleDma (work : DmaWork) (m : Machine τ) :
    Except PyError (ScheduledOperation × Machine τ) := do
  let operation := entry.operation
  let rank := operation.rank
  let eligible := maxValue entry.ready.byRank
  let witness := completionCausalWitness entry.ready.byRank entry.ready.witnesses
  let direction ← dmaDirection work rank
  let choices ← (copyCandidates cfg direction).zipIdx.mapM fun candidate =>
    copyChoice operation work direction eligible m.state candidate.2 candidate.1
  match minBy (fun choice => toLex (choice.startedAtPs, choice.index)) choices with
  | none => .error (valueError "min() iterable argument is empty")
  | some choice => do
    let copy ← QueueVisit.make (dmaVisitData graph entry work eligible choice
      (copyResource rank choice.engineId) cfg.profile.completionDeliveryPs)
    let hbm ← QueueVisit.make (dmaVisitData graph entry work eligible choice (hbmResource rank) 0)
    let (source, destination) ← dmaEndpoints work rank
    let ranks := sortedSet (rank :: [source, destination].filterMap (·.rank?))
    let path := [entry.launch, copy]
    .ok ({ operation := operation
           logicalCompletedAtPs := copy.completedAtPs
           physicalCompletedAtPs := copy.completedAtPs
           participantCompletedAtPs := .const ranks copy.completedAtPs
           participantPaths := .const ranks path
           participantCausalWitnesses := .const ranks witness
           visits := [entry.launch, copy, hbm]
           logicalPaths := [path]
           eligibleAtPs := eligible
           criticalPredecessorId := witness.map (·.predecessorId)
           criticalPredecessorCompletedAtPs := witness.map (·.completedAtPs) },
      { m with state := m.state.reserveCopy rank choice.engineId copy.finishedAtPs })

def ExecutionOperation.compute? : Option ComputeWork :=
  match operation.work with
  | .compute work => some work
  | _ => none

def ExecutionOperation.hbmDemand : Nat :=
  (operation.compute?.bind (·.hbmBytes)).getD 0

def kernelLaunch (work : ComputeWork) :
    Except PyError κ :=
  match cfg.kernelLaunches operation.operationId <|> cfg.kernelLaunches work.kernel with
  | some launch => .ok launch
  | none => .error (keyError "no KernelLaunch mapping for operation {} or kernel {}"
      [operation.operationId, work.kernel])

def gpuTask :
    Except PyError (GpuTask κ) :=
  match operation.compute? with
  | none => .error (assertionError "")
  | some work => do
    let launch ← kernelLaunch cfg operation work
    let kind := if work.flops = some 0 ∧ 0 < operation.hbmDemand then .memory else .compute
    .ok ⟨operation.operationId, kind, launch⟩

def groupDurations (rank : Nat) (group : List ReadyEntry) :
    Except PyError (List Nat) :=
  match cfg.kernelServices rank with
  | none => group.mapM fun entry =>
      match entry.operation.compute?.bind (·.nominalDurationPs) with
      | some duration => .ok duration
      | none => .error (assertionError "")
  | some service => do
    let tasks ← group.mapM fun entry => gpuTask cfg entry.operation
    let estimates ← service.estimateConcurrent tasks
    group.mapM fun entry =>
      match estimates.find? (·.1 == entry.id) with
      | some (_, cycle) => .ok (cyclesToPs cycle service.clockHz)
      | none => .error (keyError "{}" [entry.id])

def groupStart (rank : Nat) (group : List ReadyEntry) (state : RuntimeState) : Nat :=
  let ready := (group.map (·.ready.byRank.get rank)).foldl max 0
  let started := max ready (state.gpuAvailable rank)
  if group.any (0 < ·.operation.hbmDemand) then max started (state.hbmAvailable rank) else started

def RuntimeState.reserveGroup (state : RuntimeState) (rank finished : Nat) (usesHbm : Bool) :
    RuntimeState :=
  { state with
    gpuAvailable := updateKey state.gpuAvailable rank finished
    hbmAvailable :=
      if usesHbm then updateKey state.hbmAvailable rank finished else state.hbmAvailable }

def computeVisitData (rank started duration : Nat) (resource : ResourceRef) (delivery : Nat) :
    VisitData :=
  { executionId := graph.executionId, operationId := entry.operation.operationId
    resource := resource
    submittedAtPs := entry.launch.completedAtPs, eligibleAtPs := entry.ready.byRank.get rank
    startedAtPs := started, finishedAtPs := started + duration
    completedAtPs := started + duration + delivery
    serviceBytes := entry.operation.hbmDemand }

def scheduleGroupMember (rank started : Nat) (entry : ReadyEntry) (duration : Nat) :
    Except PyError ScheduledOperation := do
  let gpu ← QueueVisit.make (computeVisitData graph entry rank started duration
    (workResource rank) cfg.profile.completionDeliveryPs)
  let hbm ←
    if 0 < entry.operation.hbmDemand then do
      let visit ← QueueVisit.make
        (computeVisitData graph entry rank started duration (hbmResource rank) 0)
      .ok [visit]
    else .ok []
  let path := [entry.launch, gpu]
  .ok (singleParticipant entry.operation gpu.completedAtPs path
    (entry.ready.witnesses.get rank) (path ++ hbm) (entry.ready.byRank.get rank))

def scheduleComputeGroup (group : List ReadyEntry) (m : Machine τ) :
    Except PyError (List ScheduledOperation × Machine τ) :=
  match group with
  | [] => .error (indexError "tuple index out of range")
  | first :: _ => do
    let rank := first.operation.rank
    require (group.all (·.operation.rank == rank))
      (assertionError "concurrent compute group crossed GPUs")
    let started := groupStart rank group m.state
    let durations ← groupDurations cfg rank group
    let finished := started + durations.foldl max 0
    let outcomes ← (group.zip durations).mapM fun member =>
      scheduleGroupMember cfg graph rank started member.1 member.2
    let usesHbm := group.any (0 < ·.operation.hbmDemand)
    .ok (outcomes, { m with state := m.state.reserveGroup rank finished usesHbm })

end SimLLM
