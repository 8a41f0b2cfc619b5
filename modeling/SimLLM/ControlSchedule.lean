import SimLLM.LocalSchedule

namespace SimLLM

variable {κ σ τ : Type} (cfg : RuntimeConfig κ σ τ) (graph : ExecutionGraph)
  (entry : ReadyEntry) (work : ControlWork)

def controlVisitData (state : RuntimeState) : VisitData :=
  let rank := entry.operation.rank
  let eligible := entry.ready.byRank.get rank
  let started := max eligible (state.controlAvailable rank)
  let finished := started + cfg.profile.controlServicePs
  { executionId := graph.executionId, operationId := entry.operation.operationId
    resource := controlResource rank
    submittedAtPs := entry.launch.completedAtPs, eligibleAtPs := eligible
    startedAtPs := started, finishedAtPs := finished, completedAtPs := finished
    serviceBytes := work.payloadBytes }

def RuntimeState.reserveControl (state : RuntimeState) (rank finished : Nat) : RuntimeState :=
  { state with controlAvailable := updateKey state.controlAvailable rank finished }

structure FanOut (τ : Type) where
  machine : Machine τ
  visits : List QueueVisit
  paths : List (List QueueVisit)
  pathWitnesses : List (Option CausalWitness)
  physicalCompletedAtPs : Nat
  completed : RankMap Nat
  participantPaths : RankMap (List QueueVisit)
  witnesses : RankMap (Option CausalWitness)
  wqes : List WqeLifecycleProjection

def controlSendRequest (control : QueueVisit) (extentIndex destination : Nat) : SendRequest where
  sourceRank := entry.operation.rank
  destinationRank := destination
  payloadBytes := work.payloadBytes
  goalTag := cfg.profile.goalBaseTag + controlGoalTagOffset +
    entry.index * controlGoalTagStride + extentIndex
  extentIndex := extentIndex
  channelId := "control:" ++ work.message
  submittedAtPs := control.completedAtPs
  eligibleAtPs := max control.completedAtPs (entry.ready.byRank.get destination)
  ncclCommandId := none

def deliverControl (control : QueueVisit) (acc : FanOut τ) (destination : Nat × Nat) :
    Except PyError (FanOut τ) :=
  let rank := entry.operation.rank
  let ready := entry.ready
  if destination.1 = rank then .ok acc else do
    let (send, machine) ← scheduleSemanticSend cfg graph entry.operation
      (controlSendRequest cfg entry work control destination.2 destination.1) acc.machine
    let witness := selectCausalWitness (control.completedAtPs, ready.witnesses.get rank)
      [(ready.byRank.get destination.1, ready.witnesses.get destination.1)]
    let path := entry.launch :: control :: send.visits
    let previous :=
      if destination.1 ∈ acc.completed.ranks then acc.completed.get destination.1 else 0
    .ok { machine := machine
          visits := acc.visits ++ send.visits
          paths := acc.paths ++ [path]
          pathWitnesses := acc.pathWitnesses ++ [witness]
          physicalCompletedAtPs := max acc.physicalCompletedAtPs send.completedAtPs
          completed := acc.completed.set destination.1 (max previous send.completedAtPs)
          participantPaths := acc.participantPaths.set destination.1 path
          witnesses := acc.witnesses.set destination.1 witness
          wqes := acc.wqes ++ send.projection.toList }

def fanOutStart (control : QueueVisit) (machine : Machine τ) : FanOut τ :=
  let rank := entry.operation.rank
  let path := [entry.launch, control]
  let witness := entry.ready.witnesses.get rank
  { machine := machine, visits := path, paths := [path], pathWitnesses := [witness]
    physicalCompletedAtPs := control.completedAtPs
    completed := .const [rank] control.completedAtPs
    participantPaths := .const [rank] path, witnesses := .const [rank] witness, wqes := [] }

/-- A synchronous message completes with its last delivery and takes the witness of the
selected path; an asynchronous one completes when the control queue releases it. -/
def controlCompletion (control : QueueVisit) (fan : FanOut τ) :
    Except PyError (Nat × List (List QueueVisit) × Option CausalWitness) :=
  match work.mode with
  | .synchronous => do
    let index ← logicalPathIndex fan.paths
    .ok (fan.physicalCompletedAtPs, fan.paths, (fan.pathWitnesses[index]?).getD none)
  | .asynchronous =>
    .ok (control.completedAtPs, [[entry.launch, control]],
      entry.ready.witnesses.get entry.operation.rank)

def scheduleControl (m : Machine τ) : Except PyError (ScheduledOperation × Machine τ) := do
  let rank := entry.operation.rank
  let control ← QueueVisit.make (controlVisitData cfg graph entry work m.state)
  let reserved := { m with state := m.state.reserveControl rank control.finishedAtPs }
  let fan ← work.destinationRanks.zipIdx.foldlM (deliverControl cfg graph entry work control)
    (fanOutStart entry control reserved)
  let (logical, paths, witness) ← controlCompletion entry work control fan
  .ok ({ operation := entry.operation
         logicalCompletedAtPs := logical
         physicalCompletedAtPs := fan.physicalCompletedAtPs
         participantCompletedAtPs := fan.completed.set rank logical
         participantPaths := fan.participantPaths
         participantCausalWitnesses := fan.witnesses
         visits := fan.visits
         logicalPaths := paths
         eligibleAtPs := entry.ready.byRank.get rank
         criticalPredecessorId := witness.map (·.predecessorId)
         criticalPredecessorCompletedAtPs := witness.map (·.completedAtPs)
         wqes := fan.wqes }, fan.machine)

end SimLLM
