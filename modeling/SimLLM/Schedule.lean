import SimLLM.ControlSchedule
import SimLLM.Readiness

namespace SimLLM

open FirstExtremum

variable {κ π σ τ : Type}

def liftExcept {α : Type} (result : Except PyError α) : EStateM PyError π α := fun policy =>
  match result with
  | .ok value => .ok value policy
  | .error error => .error error policy

theorem liftExcept_ok {α : Type} {result : Except PyError α} {policy after : π} {value : α}
    (h : liftExcept result policy = .ok value after) : result = .ok value ∧ policy = after := by
  cases result with
  | error error => cases h
  | ok got =>
    cases h
    exact ⟨rfl, rfl⟩

def grant (policy : ArbitrationPolicy π) (candidates : List ArbitrationCandidate) :
    EStateM PyError π ArbitrationCandidate := fun state =>
  match policy.select state candidates with
  | (.error error, state) => .error error state
  | (.ok selected, state) =>
    if selected ∈ candidates then .ok selected state
    else .error
      (valueError "arbitration policy selected a candidate outside the legal set") state

def ReadyEntry.candidate (entry : ReadyEntry) : ArbitrationCandidate :=
  ⟨entry.id, entry.index, entry.ready.eligibleAtPs, entry.operation.priority⟩

def entryOf (entries : List ReadyEntry) (candidate : ArbitrationCandidate) :
    Except PyError ReadyEntry :=
  match entries.find? (·.id == candidate.operationId) with
  | some entry => .ok entry
  | none => .error (keyError "{}" [candidate.operationId])

def selectReadyOperation (policy : ArbitrationPolicy π) (entries : List ReadyEntry) :
    EStateM PyError π ReadyEntry := do
  let earliest := (minBy (fun time => time) (entries.map (·.ready.eligibleAtPs))).getD 0
  let offered := entries.filter (·.ready.eligibleAtPs == earliest)
  let granted ← grant policy (offered.map ReadyEntry.candidate)
  liftExcept (entryOf entries granted)

def arbitratedOrder (policy : ArbitrationPolicy π) :
    Nat → List ReadyEntry → EStateM PyError π (List ReadyEntry)
  | 0, _ => pure []
  | fuel + 1, remaining => do
    if remaining.isEmpty then pure [] else
      let offered := remaining.insertionSort (fun a b => a.index ≤ b.index)
      let granted ← grant policy (offered.map ReadyEntry.candidate)
      let entry ← liftExcept (entryOf remaining granted)
      let rest ← arbitratedOrder policy fuel (remaining.eraseP (·.id == entry.id))
      pure (entry :: rest)

def isGroupMember (rank start : Nat) (state : RuntimeState) (entry : ReadyEntry) : Bool :=
  entry.operation.compute?.isSome && entry.operation.rank == rank &&
    entry.ready.byRank.get rank ≤ start &&
    (entry.operation.hbmDemand == 0 || state.hbmAvailable rank ≤ start)

variable (cfg : RuntimeConfig κ σ τ)

variable (policy : ArbitrationPolicy π)

def computeGroup (selected : ReadyEntry) (entries : List ReadyEntry) (state : RuntimeState) :
    EStateM PyError π (List ReadyEntry) :=
  if cfg.serialCompute then pure [selected]
  else
    let rank := selected.operation.rank
    let start := groupStart rank [selected] state
    let members := entries.filter (isGroupMember rank start state)
    arbitratedOrder policy members.length members

structure GraphContext where
  graph : ExecutionGraph
  tags : List (String × List Nat)
  kvBytes : String → Nat

def GraphContext.plan? (context : GraphContext) (operationId : String) : Option CollectivePlan :=
  context.graph.collectivePlans.find? (·.operationId == operationId)

def scheduleNoncompute (context : GraphContext) (entry : ReadyEntry) (m : Machine τ) :
    Except PyError (ScheduledOperation × Machine τ) :=
  match entry.operation.work with
  | .dma work => scheduleDma cfg context.graph entry work m
  | .kv _ =>
    let demand := context.kvBytes entry.id
    if demand = 0 then .ok (scheduleKvMarker entry, m)
    else scheduleKvTraffic cfg context.graph entry demand m
  | .control work => scheduleControl cfg context.graph entry work m
  | .collective work => do
    let tags ← tagsOf context.tags entry.id
    scheduleCollective cfg context.graph entry work tags (context.plan? entry.id) m
  | .compute _ => .error (assertionError "preflight accepted unsupported work")

/-- One iteration of the scheduling loop: the machine before it, the operations granted
together and what became of them. -/
structure Grant (τ : Type) where
  before : Machine τ
  granted : List ReadyEntry
  outcomes : List ScheduledOperation

def grantSelected (context : GraphContext) (entries : List ReadyEntry) (selected : ReadyEntry)
    (m : Machine τ) : EStateM PyError π (Grant τ × Machine τ) :=
  match selected.operation.work with
  | .compute _ => do
    let group ← computeGroup cfg policy selected entries m.state
    let (outcomes, after) ← liftExcept (scheduleComputeGroup cfg context.graph group m)
    pure (⟨m, group, outcomes⟩, after)
  | _ => do
    let (outcome, after) ← liftExcept (scheduleNoncompute cfg context selected m)
    pure (⟨m, [selected], [outcome]⟩, after)

def launchVisitData (graph : ExecutionGraph) (operation : ExecutionOperation)
    (state : RuntimeState) : VisitData :=
  let node := nodeOf operation.rank
  let eligible := max graph.releasedAtPs operation.notBeforePs
  let started := max eligible (state.hostAvailable node)
  let finished := started + cfg.profile.launchServicePs
  { executionId := graph.executionId, operationId := operation.operationId
    resource := launchResource node
    submittedAtPs := graph.releasedAtPs, eligibleAtPs := eligible
    startedAtPs := started, finishedAtPs := finished, completedAtPs := finished }

def RuntimeState.reserveHost (state : RuntimeState) (node finished : Nat) : RuntimeState :=
  { state with hostAvailable := updateKey state.hostAvailable node finished }

structure Launched where
  operation : ExecutionOperation
  index : Nat
  launch : QueueVisit

def scheduleLaunches (graph : ExecutionGraph) (state : RuntimeState) :
    Except PyError (List Launched × RuntimeState) :=
  graph.operations.zipIdx.foldlM (fun acc entry => do
    let launch ← QueueVisit.make (launchVisitData cfg graph entry.1 acc.2)
    .ok (acc.1 ++ [⟨entry.1, entry.2, launch⟩],
      acc.2.reserveHost (nodeOf entry.1.rank) launch.finishedAtPs)) ([], state)

structure LoopState (τ : Type) where
  machine : Machine τ
  grants : List (Grant τ) := []

def LoopState.scheduled (loop : LoopState τ) : List ScheduledOperation :=
  loop.grants.flatMap (·.outcomes)

def isScheduled (scheduled : List ScheduledOperation) (operationId : String) : Bool :=
  scheduled.any (·.operation.operationId == operationId)

variable (edges : List EffectiveDependencyEdge)

def incomingEdges (operationId : String) :
    List EffectiveDependencyEdge :=
  edges.filter (·.operationId == operationId)

def readyLaunches (launched : List Launched) (scheduled : List ScheduledOperation) :
    List Launched :=
  launched.filter fun entry =>
    !isScheduled scheduled entry.operation.operationId &&
      (incomingEdges edges entry.operation.operationId).all
        (isScheduled scheduled ·.predecessorId)

def readyEntry (scheduled : List ScheduledOperation) (entry : Launched) :
    Except PyError ReadyEntry := do
  let ready ← operationReadiness entry.operation entry.launch scheduled
    (incomingEdges edges entry.operation.operationId)
  .ok ⟨entry.operation, entry.index, entry.launch, ready⟩

def scheduleStep (context : GraphContext) (edges : List EffectiveDependencyEdge)
    (launched : List Launched) (loop : LoopState τ) : EStateM PyError π (LoopState τ) := do
  let entries ← liftExcept
    ((readyLaunches edges launched loop.scheduled).mapM (readyEntry edges loop.scheduled))
  if entries.isEmpty then
    throw (runtimeError "validated graph made no scheduling progress")
  else
    let selected ← selectReadyOperation policy entries
    let (grant, machine) ← grantSelected cfg policy context entries selected loop.machine
    pure ⟨machine, loop.grants ++ [grant]⟩

/-- `while unscheduled`: every iteration schedules an operation, so as many iterations as
operations are enough. -/
def scheduleLoop (cfg : RuntimeConfig κ σ τ) (policy : ArbitrationPolicy π) (context : GraphContext)
    (edges : List EffectiveDependencyEdge) (launched : List Launched) :
    Nat → LoopState τ → EStateM PyError π (LoopState τ)
  | 0, loop =>
    if launched.all fun entry => isScheduled loop.scheduled entry.operation.operationId then
      pure loop
    else throw (runtimeError "validated graph made no scheduling progress")
  | fuel + 1, loop =>
    if launched.all fun entry => isScheduled loop.scheduled entry.operation.operationId then
      pure loop
    else do
      let next ← scheduleStep cfg policy context edges launched loop
      scheduleLoop cfg policy context edges launched fuel next

end SimLLM
