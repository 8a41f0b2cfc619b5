import SimLLM.LocalSchedule

namespace SimLLM

variable {κ σ τ : Type}

structure Frontier where
  readyAtPs : Nat
  witness : Option CausalWitness

structure HopRequest where
  source : Nat
  destination : Nat
  payloadBytes : Nat
  goalTag : Nat
  extentIndex : Nat
  channel : String
  channelId : String

structure Hop where
  request : HopRequest
  channel : QueueVisit
  send : SendSchedule
  witness : Option CausalWitness

def Hop.visits (hop : Hop) : List QueueVisit := hop.channel :: hop.send.visits

def Hop.completedAtPs (hop : Hop) : Nat := hop.send.completedAtPs

def ncclCommandId (graph : ExecutionGraph) (operation : ExecutionOperation) : String :=
  "nccl-command:" ++ escapeId graph.executionId ++ ":" ++ escapeId operation.operationId

def hopSendRequest (graph : ExecutionGraph) (operation : ExecutionOperation) (request : HopRequest)
    (channel : QueueVisit) (receiveReady : Nat) : SendRequest where
  sourceRank := request.source
  destinationRank := request.destination
  payloadBytes := request.payloadBytes
  goalTag := request.goalTag
  extentIndex := request.extentIndex
  channelId := request.channelId
  submittedAtPs := channel.completedAtPs
  eligibleAtPs := max channel.completedAtPs receiveReady
  ncclCommandId := some (ncclCommandId graph operation)

variable (cfg : RuntimeConfig κ σ τ)

variable (graph : ExecutionGraph)

def scheduleHop (operation : ExecutionOperation) (launch : QueueVisit) (request : HopRequest)
    (sender receiver : Frontier) (m : Machine τ) : Except PyError (Hop × Machine τ) := do
  let (channel, m) ← scheduleNcclChannel cfg graph operation request.source request.channel
    launch.completedAtPs sender.readyAtPs m
  let (send, m) ← scheduleSemanticSend cfg graph operation
    (hopSendRequest graph operation request channel receiver.readyAtPs) m
  let witness := selectCausalWitness (channel.completedAtPs, sender.witness)
    [(receiver.readyAtPs, receiver.witness)]
  .ok (⟨request, channel, send, witness⟩, m)

/-- What every participant of a collective has reached: its completion, the witness of
it and the path that ends it. -/
structure Progress where
  completed : RankMap Nat
  witnesses : RankMap (Option CausalWitness)
  paths : RankMap (List QueueVisit)

def Progress.frontier (progress : Progress) (rank : Nat) : Frontier :=
  ⟨progress.completed.get rank, progress.witnesses.get rank⟩

def Progress.absorb (progress : Progress) (completedAtPs : Nat) (witness : Option CausalWitness)
    (path : List QueueVisit) (rank : Nat) : Progress where
  witnesses := progress.witnesses.set rank
    (selectCausalWitness (progress.completed.get rank, progress.witnesses.get rank)
      [(completedAtPs, witness)])
  completed :=
    if progress.completed.get rank ≤ completedAtPs then progress.completed.set rank completedAtPs
    else progress.completed
  paths :=
    if progress.completed.get rank ≤ completedAtPs then progress.paths.set rank path
    else progress.paths

structure Expansion (τ : Type) where
  machine : Machine τ
  visits : List QueueVisit
  wqes : List WqeLifecycleProjection

def Expansion.record (acc : Expansion τ) (hop : Hop) (machine : Machine τ) : Expansion τ where
  machine := machine
  visits := acc.visits ++ hop.visits
  wqes := acc.wqes ++ hop.send.projection.toList

def ringRequest (work : CollectiveWork) (roundIndex goalTag index source : Nat) : HopRequest where
  source := source
  destination := work.ranks.getD ((index + 1) % work.ranks.length) 0
  payloadBytes := work.payloadBytes / work.ranks.length
  goalTag := goalTag
  extentIndex := roundIndex * work.ranks.length + index
  channel := work.channelId
  channelId := work.channelId ++ ":round-" ++ toString roundIndex

variable (entry : ReadyEntry)

variable (work : CollectiveWork)

def ringSends (progress : Progress) (roundIndex goalTag : Nat) (acc : Expansion τ × List Hop)
    (member : Nat × Nat) :
    Except PyError (Expansion τ × List Hop) := do
  let request := ringRequest work roundIndex goalTag member.2 member.1
  let (hop, machine) ← scheduleHop cfg graph entry.operation entry.launch request
    (progress.frontier request.source) (progress.frontier request.destination) acc.1.machine
  .ok (acc.1.record hop machine, acc.2 ++ [hop])

/-- Source and destination of a hop move their frontier to it; the path is the source's
path of the previous round extended by the hop. -/
def ringAbsorb (before : Progress) (progress : Progress) (hop : Hop) : Progress :=
  let path := before.paths.get hop.request.source ++ hop.visits
  let progress := progress.absorb hop.completedAtPs hop.witness path hop.request.source
  progress.absorb hop.completedAtPs hop.witness path hop.request.destination

def ringRound (acc : Expansion τ × Progress) (round : Nat × Nat) :
    Except PyError (Expansion τ × Progress) := do
  let (expansion, hops) ← work.ranks.zipIdx.foldlM
    (ringSends cfg graph entry work acc.2 round.2 round.1) (acc.1, [])
  .ok (expansion, hops.foldl (ringAbsorb acc.2) acc.2)

def pairPayloads : List PairPayload :=
  if !work.pairPayloadBytes.isEmpty then work.pairPayloadBytes
  else work.ranks.flatMap fun source =>
    (work.ranks.filter (source != ·)).map fun destination =>
      ⟨source, destination, work.payloadBytes⟩

def pairRequest (goalTag : Nat) (pair : PairPayload) (index : Nat) :
    HopRequest where
  source := pair.source
  destination := pair.destination
  payloadBytes := pair.bytes
  goalTag := goalTag
  extentIndex := index
  channel := work.channelId
  channelId := work.channelId

structure Pairwise (τ : Type) where
  expansion : Expansion τ
  progress : Progress
  paths : List (List QueueVisit)
  pathWitnesses : List (Option CausalWitness)

def pairwiseSend (goalTag : Nat) (acc : Pairwise τ) (pair : PairPayload × Nat) :
    Except PyError (Pairwise τ) := do
  let ready := entry.ready
  let request := pairRequest work goalTag pair.1 pair.2
  -- every transfer waits for the readiness of its endpoints, not for earlier transfers
  let (hop, machine) ← scheduleHop cfg graph entry.operation entry.launch request
    ⟨ready.byRank.get request.source, ready.witnesses.get request.source⟩
    ⟨ready.byRank.get request.destination, ready.witnesses.get request.destination⟩
    acc.expansion.machine
  let path := entry.launch :: hop.visits
  let progress := acc.progress.absorb hop.completedAtPs hop.witness path request.source
  .ok { expansion := acc.expansion.record hop machine
        progress := progress.absorb hop.completedAtPs hop.witness path request.destination
        paths := acc.paths ++ [path]
        pathWitnesses := acc.pathWitnesses ++ [hop.witness] }

/-- The realized collective: the selected path gives the witness when it ends the
operation, and the participant completions give it otherwise. -/
def finishCollective (expansion : Expansion τ) (progress : Progress)
    (paths : List (List QueueVisit)) (pathWitnesses : List (Option CausalWitness)) :
    Except PyError ScheduledOperation := do
  let completed := maxValue progress.completed
  let completionWitness := completionCausalWitness progress.completed progress.witnesses
  let index ← logicalPathIndex paths
  let witness :=
    if (paths[index]?.bind (·.getLast?)).map (·.completedAtPs) = some completed then
      (pathWitnesses[index]?).getD none
    else completionWitness
  .ok { operation := entry.operation
        logicalCompletedAtPs := completed
        physicalCompletedAtPs := completed
        participantCompletedAtPs := progress.completed
        participantPaths := progress.paths
        participantCausalWitnesses := progress.witnesses
        visits := expansion.visits
        logicalPaths := paths
        eligibleAtPs := entry.ready.eligibleAtPs
        criticalPredecessorId := witness.map (·.predecessorId)
        criticalPredecessorCompletedAtPs := witness.map (·.completedAtPs)
        ncclCommandId := some (ncclCommandId graph entry.operation)
        wqes := expansion.wqes }

def expansionStart (m : Machine τ) : Expansion τ := ⟨m, [entry.launch], []⟩

def scheduleRing (goalTags : List Nat) (m : Machine τ) :
    Except PyError (ScheduledOperation × Machine τ) := do
  let start : Progress :=
    ⟨entry.ready.byRank, entry.ready.witnesses, .const work.ranks [entry.launch]⟩
  let (expansion, progress) ← goalTags.zipIdx.foldlM (ringRound cfg graph entry work)
    (expansionStart entry m, start)
  let outcome ← finishCollective graph entry expansion progress progress.paths.values
    progress.witnesses.values
  .ok (outcome, expansion.machine)

def schedulePairwise (goalTag : Nat) (m : Machine τ) :
    Except PyError (ScheduledOperation × Machine τ) := do
  let ready := entry.ready
  let start : Progress := ⟨ready.byRank, ready.witnesses, .const ready.byRank.ranks [entry.launch]⟩
  let done ← (pairPayloads work).zipIdx.foldlM (pairwiseSend cfg graph entry work goalTag)
    ⟨expansionStart entry m, start, [], []⟩
  let progress := done.progress
  -- a collective without any transfer still completes, on its launch
  let outcome ←
    if done.paths.isEmpty then
      finishCollective graph entry done.expansion progress [[entry.launch]]
        [completionCausalWitness progress.completed progress.witnesses]
    else finishCollective graph entry done.expansion progress done.paths done.pathWitnesses
  .ok (outcome, done.expansion.machine)

end SimLLM
