import SimLLM.Rnic.HostMemoryAccess

namespace SimLLM.Rnic

inductive WqeState where
  | posted | doorbelled | inFlight | awaitingOrderedRetirement | retiredUnsignaled
  | completionPending | cqeVisible | reclaimed | completed | error
  deriving DecidableEq, Repr

inductive CompletionStatus where
  | success | transportError | networkRejected
  deriving DecidableEq, Repr

inductive PostStatus where
  | accepted | sqFull | fatal
  deriving DecidableEq, Repr

inductive EvidenceKind where
  | sqFull | networkRejected | networkDrop | cqOverrun
  deriving DecidableEq, Repr

inductive RnicProducerShape where
  | hostCpuDriver | cpuProxy | gpuInitiated
  deriving DecidableEq, Repr

inductive RnicSubmissionAgentKind where
  | none | hostCpuDriver | cpuProxy | gpu
  deriving DecidableEq, Repr

structure RnicSubmissionAgent where
  kind : RnicSubmissionAgentKind := .none
  id : Nat := 0
  deriving DecidableEq, Repr

inductive RnicUarMappingOwner where
  | hostCpu | gpu
  deriving DecidableEq, Repr

structure RnicSubmissionProfile where
  producerShape : RnicProducerShape := .hostCpuDriver
  producer : RnicSubmissionAgent
  descriptorWriter : Option RnicSubmissionAgent := none
  descriptorQueueAllocationId : Nat := 0
  descriptorQueueEndpoint : Option PcieEndpointKind := none
  queueEndpoint : PcieEndpointKind := .hostPinnedMemory
  uarMappingOwner : RnicUarMappingOwner := .hostCpu
  cqConsumer : RnicSubmissionAgent
  rnicRequesterId : Nat
  deriving DecidableEq, Repr

structure RnicProducerTaskLink where
  version : Nat := 1
  taskId : String
  producerShape : RnicProducerShape
  taskOwner : RnicSubmissionAgent
  submittedAtPs : Nat
  eligibleAtPs : Nat
  startedAtPs : Nat
  finishedAtPs : Nat
  completedAtPs : Nat
  deriving DecidableEq, Repr

def RnicSubmissionProfile.taskOwner (profile : RnicSubmissionProfile) :
    Except CppError RnicSubmissionAgent :=
  match profile.producerShape, profile.descriptorWriter with
  | .hostCpuDriver, _ =>
    .error (invalidArgument "RNIC host CPU submission cannot carry a GPU task link")
  | .cpuProxy, none => .error (invalidArgument "RNIC CPU proxy has no GPU descriptor writer")
  | .cpuProxy, some writer => .ok writer
  | .gpuInitiated, _ => .ok profile.producer

def validateRnicProducerTaskLink (profile : RnicSubmissionProfile) (link : RnicProducerTaskLink)
    (recordSubmittedAtPs : Nat) : Except CppError Unit := do
  require (link.version == 1) (invalidArgument "unsupported RNIC producer task-link version")
  require (!link.taskId.isEmpty)
    (invalidArgument "RNIC producer task link requires a task identity")
  require (link.producerShape == profile.producerShape)
    (invalidArgument "RNIC producer task link disagrees with the producer shape")
  let expected ← profile.taskOwner
  require (link.taskOwner == expected && link.taskOwner.kind == .gpu)
    (invalidArgument "RNIC producer task link names the wrong GPU owner")
  require (decide (link.submittedAtPs ≤ link.eligibleAtPs ∧ link.eligibleAtPs ≤ link.startedAtPs ∧
      link.startedAtPs ≤ link.finishedAtPs ∧ link.finishedAtPs ≤ link.completedAtPs ∧
      link.completedAtPs ≤ recordSubmittedAtPs))
    (invalidArgument "RNIC producer task-link timestamps are not monotonic")

structure RnicSubmissionRecord where
  sequence : Nat
  wqeId : Nat
  sqId : Nat
  qpn : Nat
  doorbellBatchId : Nat
  profile : RnicSubmissionProfile
  producerTask : Option RnicProducerTaskLink
  postedAtPs : Nat
  submittedAtPs : Nat
  visibleToRnicAtPs : Nat
  deriving DecidableEq, Repr

structure RnicCqConsumptionRecord where
  sequence : Nat
  cqeSequence : Nat
  wqeId : Nat
  cqId : Nat
  qpn : Nat
  consumer : RnicSubmissionAgent
  cqEndpoint : PcieEndpointKind
  visibleAtPs : Nat
  consumedAtPs : Nat
  deriving DecidableEq, Repr

structure WorkQueueConfig where
  sqId : Nat := 1
  cqId : Nat := 1
  source : Nat := 0
  qpn : Nat := 1
  policyContextToken : Nat := 1
  sqDepth : Nat := 64
  cqDepth : Nat := 64
  doorbellServicePs : Nat := 0
  wqeFetchServicePs : Nat := 0
  qpcLookupServicePs : Nat := 0
  schedulerServicePs : Nat := 0
  cqeWriteServicePs : Nat := 0
  deriving DecidableEq, Repr

structure WorkQueuePcieBinding where
  uarPathId : Nat := 1
  doorbellRecordPathId : Nat := 2
  sqMemoryPathId : Nat := 2
  cqMemoryPathId : Nat := 2
  submissionOrderingDomain : Nat := 0
  completionOrderingDomain : Nat := 0
  doorbellRecordBytes : Nat := 4
  uarDoorbellBytes : Nat := 8
  wqeBytes : Nat := 64
  cqeBytes : Nat := 64
  uarFirstByteOffset : Nat := 0
  doorbellRecordFirstByteOffset : Nat := 0
  sqFirstByteOffset : Nat := 0
  cqFirstByteOffset : Nat := 0
  deriving DecidableEq, Repr

structure WorkQueueHostMemoryBinding where
  qpcIcmAllocationId : Nat
  sqRingAllocationId : Nat
  rqRingAllocationId : Nat
  cqRingAllocationId : Nat
  doorbellRecordAllocationId : Nat
  qpcContextBytes : Nat := 256
  deriving DecidableEq, Repr

structure HostMemoryAttachment where
  binding : WorkQueueHostMemoryBinding
  deviceOwnerId : Nat
  deriving DecidableEq, Repr

structure PcieAttachment where
  binding : WorkQueuePcieBinding
  profile : RnicSubmissionProfile
  fabricEndpointId : Nat := 0
  hostMemory : Option HostMemoryAttachment := none
  deriving DecidableEq, Repr

/-- What a constructed queue was given. The fields at the end are the checks of the
constructor; `pcie` is `none` in scalar mode. -/
structure WorkQueueSetup where
  config : WorkQueueConfig
  capabilities : NetworkPortCapabilities
  qpcLookupEnabled : Bool := true
  pcie : Option PcieAttachment := none
  depths_pos : 0 < config.sqDepth ∧ 0 < config.cqDepth
  qpn_ne : config.qpn ≠ 0
  policy_ne : config.policyContextToken ≠ 0
  abi_known : capabilities.abiVersion = 1 ∨ capabilities.abiVersion = 2
  abi_v1_plain : capabilities.abiVersion = 1 → capabilities = {}
  services_bounded : config.doorbellServicePs < 2 ^ 63 ∧ config.wqeFetchServicePs < 2 ^ 63 ∧
    config.qpcLookupServicePs < 2 ^ 63 ∧ config.schedulerServicePs < 2 ^ 63 ∧
    config.cqeWriteServicePs < 2 ^ 63
  qpc_disabled_free : qpcLookupEnabled = false → config.qpcLookupServicePs = 0
  pcie_not_scalar : pcie.isSome → config.doorbellServicePs = 0 ∧ config.wqeFetchServicePs = 0 ∧
    config.cqeWriteServicePs = 0
  pcie_identified : ∀ attachment ∈ pcie, attachment.profile.producer.id ≠ 0 ∧
    attachment.profile.cqConsumer.id ≠ 0 ∧ attachment.profile.rnicRequesterId ≠ 0 ∧
    0 < attachment.binding.doorbellRecordBytes ∧ 0 < attachment.binding.uarDoorbellBytes ∧
    0 < attachment.binding.wqeBytes ∧ 0 < attachment.binding.cqeBytes
  memory_looks_up : ∀ attachment ∈ pcie, attachment.hostMemory.isSome →
    qpcLookupEnabled = true ∧ config.qpcLookupServicePs = 0

theorem NetworkPortCapabilities.default_known : ({} : NetworkPortCapabilities).abiVersion = 1 ∨
      ({} : NetworkPortCapabilities).abiVersion = 2 := by
  decide

theorem NetworkPortCapabilities.default_plain :
    ({} : NetworkPortCapabilities).abiVersion = 1 → ({} : NetworkPortCapabilities) = {} :=
  fun _ => rfl

def scalarSetup (sqDepth cqDepth : Nat) (depths_pos : 0 < sqDepth ∧ 0 < cqDepth) :
    WorkQueueSetup where
  config := { sqDepth := sqDepth, cqDepth := cqDepth }
  capabilities := {}
  depths_pos := depths_pos
  qpn_ne := by simp
  policy_ne := by simp
  abi_known := NetworkPortCapabilities.default_known
  abi_v1_plain := NetworkPortCapabilities.default_plain
  services_bounded := by simp
  qpc_disabled_free := by simp
  pcie_not_scalar := by simp
  pcie_identified := by simp
  memory_looks_up := by simp

structure WorkRequestDataMemory where
  version : Nat := 1
  allocationId : Nat
  mkey : Nat
  allocationOffsetBytes : Nat := 0
  peerDeviceOwnerId : Nat := 0
  deriving DecidableEq, Repr

structure WorkRequest where
  wrId : Nat := 0
  flowId : Nat := 0
  flowTag : Nat := 0
  destination : Nat := 0
  payloadBytes : Nat := 0
  trafficClass : Nat := 0
  signaled : Bool := true
  dataMemory : Option WorkRequestDataMemory := none
  deriving DecidableEq, Repr

structure WqeTimeline where
  postedAtPs : Nat := 0
  doorbelledAtPs : Option Nat := none
  doorbellSeenAtPs : Option Nat := none
  wqeFetchBeginAtPs : Option Nat := none
  wqeFetchEndAtPs : Option Nat := none
  qpcReadyAtPs : Option Nat := none
  admittedAtPs : Option Nat := none
  networkAcceptedAtPs : Option Nat := none
  networkOutcomeAtPs : Option Nat := none
  firstPacketAtPs : Option Nat := none
  lastPacketAtPs : Option Nat := none
  transportRetiredAtPs : Option Nat := none
  cqeVisibleAtPs : Option Nat := none
  polledAtPs : Option Nat := none
  sqReclaimedAtPs : Option Nat := none
  deriving DecidableEq, Repr

structure WqeRecord where
  wqeId : Nat
  sqSequence : Nat
  doorbellBatchId : Nat := 0
  request : WorkRequest
  timeline : WqeTimeline := {}
  state : WqeState := .posted
  networkToken : Option Nat := none
  completionStatus : Option CompletionStatus := none
  ecnMarked : Bool := false
  deriving DecidableEq, Repr

structure PostResult where
  status : PostStatus
  wqeId : Nat
  sqSequence : Nat
  deriving DecidableEq, Repr

structure PostBatchResult where
  status : PostStatus := .accepted
  accepted : List PostResult := []
  badWrIndex : Option Nat := none
  deriving DecidableEq, Repr

structure DoorbellBatch where
  batchId : Nat
  wqeCount : Nat
  rungAtPs : Nat
  observedAtPs : Nat
  deriving DecidableEq, Repr

structure CompletionEntry where
  cqeSequence : Nat
  cqProducerIndex : Nat := 0
  cqSlot : Nat := 0
  ownerGeneration : Nat := 0
  wrId : Nat
  wqeId : Nat
  sqSequence : Nat
  qpn : Nat
  status : CompletionStatus
  vendorSyndrome : Nat
  visibleAtPs : Nat
  polledAtPs : Nat := 0
  deriving DecidableEq, Repr

structure EvidenceEvent where
  kind : EvidenceKind
  wqeId : Nat
  wrId : Nat
  observedAtPs : Nat
  dropLocation : DropLocation
  dropReason : DropReason
  deriving DecidableEq, Repr

structure WorkQueueCounters where
  postedWqes : Nat := 0
  sqFullRejections : Nat := 0
  doorbells : Nat := 0
  doorbelledWqes : Nat := 0
  networkSubmitAttempts : Nat := 0
  networkAccepted : Nat := 0
  networkBusy : Nat := 0
  networkRejected : Nat := 0
  networkDelivered : Nat := 0
  networkDropped : Nat := 0
  cqesVisible : Nat := 0
  cqesPolled : Nat := 0
  cqOverruns : Nat := 0
  sqReclaimedWqes : Nat := 0
  sqHighWatermark : Nat := 0
  cqHighWatermark : Nat := 0
  deriving DecidableEq, Repr

structure InflightExtent where
  wqeId : Nat
  abiVersion : Nat
  extentIndex : Nat
  deriving DecidableEq, Repr

structure PacketAttemptState where
  extentToken : Nat
  started : NetworkEvent
  txFinished : Bool := false
  rxArrived : Bool := false
  deriving DecidableEq, Repr

structure PendingOutcome where
  event : NetworkEvent
  status : CompletionStatus
  deriving DecidableEq, Repr

abbrev PendingCqes := List ((Nat × Nat) × CompletionEntry)

structure WorkQueue where
  counters : WorkQueueCounters := {}
  records : List WqeRecord := []
  evidence : List EvidenceEvent := []
  memoryAccesses : List HostMemoryAccessRecord := []
  submissionRecords : List RnicSubmissionRecord := []
  cqConsumptionRecords : List RnicCqConsumptionRecord := []
  unpublished : List Nat := []
  ready : List Nat := []
  inflight : Table Nat InflightExtent := []
  packetAttempts : Table Nat PacketAttemptState := []
  completedPacketAttempts : Table Nat PacketAttemptState := []
  seenNetworkTokens : List Nat := []
  pendingOutcomes : Table Nat PendingOutcome := []
  pendingCqes : PendingCqes := []
  cq : List CompletionEntry := []
  nextWqeId : Nat := 1
  nextSqSequence : Nat := 1
  nextBatchId : Nat := 1
  nextCqeSequence : Nat := 1
  nextRetireSequence : Nat := 1
  sqReclaimedThrough : Nat := 0
  occupiedSqEntries : Nat := 0
  lastObservedTimePs : Nat := 0
  doorbellCursorPs : Nat := 0
  wqeFetchCursorPs : Nat := 0
  schedulerCursorPs : Nat := 0
  retirementCursorPs : Nat := 0
  cqeWriteCursorPs : Nat := 0
  networkBlocked : Bool := false
  networkRetryAtPs : Option Nat := none
  fatal : Bool := false
  fatalLostSqSequence : Option Nat := none
  deriving DecidableEq, Repr

structure Session (φ : Type) where
  queue : WorkQueue
  fabric : PcieFabric φ

/-- A call on the queue: a throw keeps whatever the call had already written. -/
abbrev QueueM (φ : Type) := EStateM CppError (Session φ)

variable {φ : Type}

def WorkQueue.wqe (queue : WorkQueue) (wqeId : Nat) : Except CppError WqeRecord :=
  match queue.records[wqeId - 1]? with
  | some record =>
    if wqeId = 0 then .error (outOfRange "unknown RNIC WQE ID")
    else if record.wqeId ≠ wqeId then .error (logicError "RNIC WQE index invariant failed")
    else .ok record
  | none => .error (outOfRange "unknown RNIC WQE ID")

def WorkQueue.setWqe (queue : WorkQueue) (wqeId : Nat) (record : WqeRecord) : WorkQueue :=
  { queue with records := queue.records.set (wqeId - 1) record }

def QueueM.ofExcept {α : Type} (result : Except CppError α) : QueueM φ α :=
  match result with
  | .ok value => pure value
  | .error error => throw error

def QueueM.modifyQueue (f : WorkQueue → WorkQueue) : QueueM φ Unit :=
  modify fun session => { session with queue := f session.queue }

def QueueM.updateWqe (wqeId : Nat) (f : WqeRecord → WqeRecord) : QueueM φ Unit := do
  let session ← get
  let record ← QueueM.ofExcept (session.queue.wqe wqeId)
  QueueM.modifyQueue fun queue => queue.setWqe wqeId (f record)

def WorkQueue.validateTime (queue : WorkQueue) (nowPs : Nat) : Except CppError Unit :=
  require (decide (queue.lastObservedTimePs ≤ nowPs)) (logicError "RNIC model time regressed")

def QueueM.observeTime (nowPs : Nat) : QueueM φ Unit := do
  let session ← get
  QueueM.ofExcept (session.queue.validateTime nowPs)
  QueueM.modifyQueue fun queue => { queue with lastObservedTimePs := nowPs }

def validateDataMemory (memory : VirtualHostMemory) (deviceOwnerId : Nat)
    (data : WorkRequestDataMemory) (payloadBytes : Nat) : Except CppError Unit := do
  require (data.version == 1 && data.allocationId != 0 && data.mkey != 0)
    (invalidArgument "RNIC host-memory WQE requires a valid data descriptor")
  let peer := data.peerDeviceOwnerId
  require (!(peer != 0 && peer == deviceOwnerId))
    (invalidArgument "RNIC WQE peer data descriptor names its own device")
  let allocation ← memory.allocation data.allocationId
  let expectedOwner := if peer = 0 then deviceOwnerId else peer
  require (allocation.objectKind == .dataRegion && allocation.deviceOwnerId == expectedOwner &&
      allocation.mkey == some data.mkey)
    (invalidArgument "RNIC WQE data descriptor does not match its device allocation")
  require (!(peer != 0 && !memory.peerReadGranted peer deviceOwnerId))
    (invalidArgument "RNIC WQE data descriptor names an ungranted peer region")
  require (decide (data.allocationOffsetBytes ≤ allocation.lengthBytes ∧
      payloadBytes ≤ allocation.lengthBytes - data.allocationOffsetBytes))
    (outOfRange "RNIC WQE data descriptor exceeds its allocation")

def WorkQueueSetup.hostMemory (setup : WorkQueueSetup) : Option HostMemoryAttachment :=
  setup.pcie.bind (·.hostMemory)

def validateRequestMemory (setup : WorkQueueSetup) (memory : VirtualHostMemory)
    (request : WorkRequest) : Except CppError Unit :=
  match setup.hostMemory with
  | none => require request.dataMemory.isNone
      (invalidArgument "RNIC data-memory descriptor requires host memory")
  | some attached =>
    if request.payloadBytes = 0 then
      require request.dataMemory.isNone
        (invalidArgument "zero-byte RNIC WQE cannot carry data memory")
    else
      match request.dataMemory with
      | none => .error (invalidArgument "RNIC host-memory WQE requires a valid data descriptor")
      | some data => validateDataMemory memory attached.deviceOwnerId data request.payloadBytes

def WorkQueue.rejectFull (queue : WorkQueue) (request : WorkRequest) (nowPs : Nat) : WorkQueue :=
  { queue with
    counters := { queue.counters with sqFullRejections := queue.counters.sqFullRejections + 1 }
    evidence := queue.evidence ++
      [⟨.sqFull, 0, request.wrId, nowPs, .none, .queueOverflow⟩] }

def WorkQueue.newRecord (queue : WorkQueue) (request : WorkRequest) (nowPs : Nat) : WqeRecord where
  wqeId := queue.nextWqeId
  sqSequence := queue.nextSqSequence
  request := request
  timeline := { postedAtPs := nowPs }

def WorkQueue.append (queue : WorkQueue) (request : WorkRequest) (nowPs : Nat) : WorkQueue :=
  { queue with
    records := queue.records ++ [queue.newRecord request nowPs]
    unpublished := queue.unpublished ++ [queue.nextWqeId]
    nextWqeId := queue.nextWqeId + 1
    nextSqSequence := queue.nextSqSequence + 1
    occupiedSqEntries := queue.occupiedSqEntries + 1
    counters := { queue.counters with
      postedWqes := queue.counters.postedWqes + 1
      sqHighWatermark := max queue.counters.sqHighWatermark (queue.occupiedSqEntries + 1) } }

def postSend (setup : WorkQueueSetup) (memory : VirtualHostMemory) (request : WorkRequest)
    (nowPs : Nat) : QueueM φ PostResult := do
  QueueM.ofExcept (validateRequestMemory setup memory request)
  QueueM.observeTime nowPs
  let session ← get
  if session.queue.fatal then
    return ⟨.fatal, 0, 0⟩
  else if session.queue.occupiedSqEntries = setup.config.sqDepth then do
    QueueM.modifyQueue fun queue => queue.rejectFull request nowPs
    return ⟨.sqFull, 0, 0⟩
  else do
    QueueM.modifyQueue fun queue => queue.append request nowPs
    return ⟨.accepted, session.queue.nextWqeId, session.queue.nextSqSequence⟩

def postSendFrom (setup : WorkQueueSetup) (memory : VirtualHostMemory) (nowPs index : Nat)
    (batch : PostBatchResult) : List WorkRequest → QueueM φ PostBatchResult
  | [] => pure batch
  | request :: rest => do
    let result ← postSend setup memory request nowPs
    if result.status ≠ .accepted then
      return { batch with status := result.status, badWrIndex := some index }
    else
      postSendFrom setup memory nowPs (index + 1)
        { batch with accepted := batch.accepted ++ [result] } rest

def postSendBatch (setup : WorkQueueSetup) (memory : VirtualHostMemory)
    (requests : List WorkRequest) (nowPs : Nat) : QueueM φ PostBatchResult :=
  postSendFrom setup memory nowPs 0 {} requests

end SimLLM.Rnic
