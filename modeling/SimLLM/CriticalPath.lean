import SimLLM.RuntimeState

namespace SimLLM

structure LatencyAttribution where
  queuePs : Nat := 0
  kvPs : Nat := 0
  kernelPs : Nat := 0
  dmaPs : Nat := 0
  collectivePs : Nat := 0
  nicPs : Nat := 0
  controlPs : Nat := 0
  deriving DecidableEq, Repr

def LatencyAttribution.totalPs (a : LatencyAttribution) : Nat :=
  a.queuePs + a.kvPs + a.kernelPs + a.dmaPs + a.collectivePs + a.nicPs + a.controlPs

def LatencyAttribution.add (a b : LatencyAttribution) : LatencyAttribution :=
  ⟨a.queuePs + b.queuePs, a.kvPs + b.kvPs, a.kernelPs + b.kernelPs, a.dmaPs + b.dmaPs,
    a.collectivePs + b.collectivePs, a.nicPs + b.nicPs, a.controlPs + b.controlPs⟩

instance : Add LatencyAttribution := ⟨LatencyAttribution.add⟩

theorem LatencyAttribution.add_totalPs (a b : LatencyAttribution) :
    (a + b).totalPs = a.totalPs + b.totalPs := by
  show (LatencyAttribution.add a b).totalPs = _
  simp only [LatencyAttribution.add, LatencyAttribution.totalPs]
  omega

inductive AttributionField where
  | kv | kernel | dma | collective | nic | control
  deriving DecidableEq, Repr

def AttributionField.charge (field : AttributionField) (amount : Nat) : LatencyAttribution :=
  match field with
  | .kv => { kvPs := amount }
  | .kernel => { kernelPs := amount }
  | .dma => { dmaPs := amount }
  | .collective => { collectivePs := amount }
  | .nic => { nicPs := amount }
  | .control => { controlPs := amount }

@[simp] theorem AttributionField.charge_totalPs (field : AttributionField) (amount : Nat) :
    (field.charge amount).totalPs = amount := by
  cases field <;> simp [AttributionField.charge, LatencyAttribution.totalPs]

def attributionField (operation : ExecutionOperation) (kind : ResourceKind) :
    Except PyError AttributionField :=
  match kind with
  | .hostLaunchQueue | .controlQueue | .cudaStream => .ok .control
  | .gpuWorkQueue | .gpuScheduler => .ok .kernel
  | .hbmQueue =>
    match operation.work with
    | .kv _ => .ok .kv
    | .dma _ => .ok .dma
    | .compute _ => .ok .kernel
    | _ => .error (valueError "HBM critical-path visit has no supported semantic owner")
  | .copyEngine => .ok .dma
  | .ncclChannel | .nvlink => .ok .collective
  | .nicSendQueue | .nicReceiveQueue | .nic | .completionQueue => .ok .nic

def visitQueue (cursor : Nat) (visit : QueueVisit) : Nat :=
  (visit.eligibleAtPs - cursor) + (visit.startedAtPs - max visit.eligibleAtPs cursor)

def visitService (cursor : Nat) (visit : QueueVisit) : Nat :=
  (visit.finishedAtPs - max visit.startedAtPs cursor) +
    (visit.completedAtPs - max visit.finishedAtPs cursor)

def attributePath (operation : ExecutionOperation) :
    Nat → List QueueVisit → Except PyError (LatencyAttribution × Nat)
  | cursor, [] => .ok ({}, cursor)
  | cursor, visit :: path => do
    let field ← attributionField operation visit.resource.kind
    let (rest, last) ← attributePath operation (max cursor visit.completedAtPs) path
    .ok ({ queuePs := visitQueue cursor visit } + field.charge (visitService cursor visit) + rest,
      last)

def criticalPathAttribution (operation : ExecutionOperation) (path : List QueueVisit)
    (segmentStartPs completedAtPs : Nat) : Except PyError LatencyAttribution := do
  let (attribution, cursor) ← attributePath operation segmentStartPs path
  .ok (attribution + { queuePs := completedAtPs - cursor })

structure CriticalPathBreakdown where
  launchQueuePs : Nat
  deviceQueuePs : Nat
  servicePs : Nat
  completionDeliveryPs : Nat
  externalDependencyPs : Nat
  operationLatencyPs : Nat
  criticalPathQueuePs : Nat
  conserves : launchQueuePs + deviceQueuePs + servicePs + completionDeliveryPs +
    externalDependencyPs = operationLatencyPs
  deriving DecidableEq

structure DeviceSums where
  queuePs : Nat := 0
  servicePs : Nat := 0
  deliveryPs : Nat := 0

def devicePath : Nat → List QueueVisit → DeviceSums
  | _, [] => {}
  | cursor, visit :: path =>
    let rest := devicePath (max cursor visit.completedAtPs) path
    ⟨(visit.startedAtPs - max visit.eligibleAtPs cursor) + rest.queuePs,
      (visit.finishedAtPs - max visit.startedAtPs cursor) + rest.servicePs,
      (visit.completedAtPs - max visit.finishedAtPs cursor) + rest.deliveryPs⟩

def criticalPathBreakdown (operationId : String) (path : List QueueVisit)
    (segmentStartPs completedAtPs : Nat) : Except PyError CriticalPathBreakdown :=
  match path with
  | [] => .error (valueError "critical-path accounting requires a nonempty path")
  | launch :: path =>
    let cursor := segmentStartPs
    let launchWait := launch.startedAtPs - max launch.eligibleAtPs cursor
    let launchQueue := launchWait + visitService cursor launch
    let device := devicePath (max cursor launch.completedAtPs) path
    let covered := launchQueue + device.queuePs + device.servicePs + device.deliveryPs
    -- the external dependency time may not be negative
    if h : segmentStartPs + covered ≤ completedAtPs then
      .ok { launchQueuePs := launchQueue
            deviceQueuePs := device.queuePs
            servicePs := device.servicePs
            completionDeliveryPs := device.deliveryPs
            externalDependencyPs := completedAtPs - segmentStartPs - covered
            operationLatencyPs := completedAtPs - segmentStartPs
            criticalPathQueuePs := launchWait + device.queuePs
            conserves := by omega }
    else .error (valueError
      "operation {} has overlapping visits on its selected additive critical path" [operationId])

structure RuntimeCriticalSegment where
  operationId : String
  participantRank : Nat
  startedAtPs : Nat
  completedAtPs : Nat
  predecessor : Option (String × Nat)
  breakdown : CriticalPathBreakdown
  attribution : LatencyAttribution
  started_le_completed : startedAtPs ≤ completedAtPs
  breakdown_conserves : breakdown.operationLatencyPs = completedAtPs - startedAtPs
  attribution_conserves : attribution.totalPs = completedAtPs - startedAtPs

instance : DecidableEq RuntimeCriticalSegment := fun a b =>
  decidable_of_iff (a.operationId = b.operationId ∧ a.participantRank = b.participantRank ∧
    a.startedAtPs = b.startedAtPs ∧ a.completedAtPs = b.completedAtPs ∧
    a.predecessor = b.predecessor ∧ a.breakdown = b.breakdown ∧ a.attribution = b.attribution)
    (by cases a; cases b; simp)

def RuntimeCriticalSegment.make (operationId : String) (rank started completed : Nat)
    (predecessor : Option (String × Nat)) (breakdown : CriticalPathBreakdown)
    (attribution : LatencyAttribution) : Except PyError RuntimeCriticalSegment :=
  if h₁ : started ≤ completed then
    if h₂ : breakdown.operationLatencyPs = completed - started then
      if h₃ : attribution.totalPs = completed - started then
        .ok ⟨operationId, rank, started, completed, predecessor, breakdown, attribution,
          h₁, h₂, h₃⟩
      else .error (valueError "critical segment attribution does not conserve elapsed time")
    else .error (valueError "critical segment breakdown does not conserve elapsed time")
  else .error (valueError "critical segment completes before its causal boundary")

end SimLLM
