import SimLLM.Rnic.WorkQueue

namespace SimLLM.Rnic

variable {φ : Type}

def timestampOverflow : CppError := overflowError "RNIC timestamp overflow"

def ringByteOffset (baseOffset sequence depth entryBytes : Nat) : Except CppError Nat := do
  require (sequence != 0 && depth != 0) (logicError "invalid RNIC ring-offset input")
  return (baseOffset + (sequence - 1) % depth % 4096 * (entryBytes % 4096)) % 4096

def ringAllocationOffset (sequence depth entryBytes : Nat) : Except CppError Nat := do
  require (sequence != 0 && depth != 0 && entryBytes != 0)
    (logicError "invalid RNIC ring-allocation offset input")
  let slot := (sequence - 1) % depth
  require (decide (slot ≤ maxUint64 / entryBytes))
    (overflowError "RNIC ring-allocation offset overflow")
  return slot * entryBytes

structure FabricPlan (φ : Type) where
  fabric : PcieFabric φ
  accesses : List HostMemoryAccessRecord := []

def FabricPlan.transaction (service : PcieService φ) (plan : FabricPlan φ)
    (request : PcieTransactionRequest) :
    Except CppError (PcieTransactionResult × FabricPlan φ) := do
  let (result, fabric) ← plan.fabric.schedule service request {}
  return (result, { plan with fabric := fabric })

def FabricPlan.access (service : PcieService φ) (memory : VirtualHostMemory) (plan : FabricPlan φ)
    (request : HostMemoryAccessRequest) :
    Except CppError (PcieTransactionResult × FabricPlan φ) := do
  let (result, fabric) ← memory.scheduleAccess service plan.fabric request
  return (result.accessTransaction,
    { fabric := fabric, accesses := plan.accesses ++ [result.record] })

section Plan

variable (service : PcieService φ) (setup : WorkQueueSetup) (attachment : PcieAttachment)
  (memory : VirtualHostMemory)

def planDoorbellRecord (batchId nowPs : Nat) (plan : FabricPlan φ) :
    Except CppError (PcieTransactionResult × FabricPlan φ) :=
  match attachment.hostMemory with
  | some attached => plan.access service memory {
      allocationId := attached.binding.doorbellRecordAllocationId
      clientId := attachment.profile.producer.id
      requesterEndpointId := attachment.fabricEndpointId
      clientToken := batchId
      serviceClass := .doorbellRecord
      operation := .hostStore
      requestDirection := .hostToDevice
      ordering := .visibilityDependency
      orderingDomain := attachment.binding.submissionOrderingDomain
      usefulBytes := attachment.binding.doorbellRecordBytes
      transferBytes := attachment.binding.doorbellRecordBytes
      submittedAtPs := nowPs }
  | none => plan.transaction service {
      clientId := attachment.profile.producer.id
      clientToken := batchId
      serviceClass := .doorbellRecord
      operation := .hostStore
      requestDirection := .hostToDevice
      ordering := .visibilityDependency
      pathId := attachment.binding.doorbellRecordPathId
      orderingDomain := attachment.binding.submissionOrderingDomain
      usefulBytes := attachment.binding.doorbellRecordBytes
      transferBytes := attachment.binding.doorbellRecordBytes
      firstByteOffset := attachment.binding.doorbellRecordFirstByteOffset
      submittedAtPs := nowPs }

def planUarDoorbell (batchId submittedAtPs : Nat) (plan : FabricPlan φ) :
    Except CppError (PcieTransactionResult × FabricPlan φ) :=
  plan.transaction service {
    clientId := attachment.profile.producer.id
    clientToken := batchId
    serviceClass := .uarDoorbell
    operation := .postedWrite
    requestDirection := .hostToDevice
    ordering := .visibilityDependency
    pathId := attachment.binding.uarPathId
    orderingDomain := attachment.binding.submissionOrderingDomain
    usefulBytes := attachment.binding.uarDoorbellBytes
    transferBytes := attachment.binding.uarDoorbellBytes
    firstByteOffset := attachment.binding.uarFirstByteOffset
    submittedAtPs := submittedAtPs }

def planWqeRead (record : WqeRecord) (observedAtPs : Nat) (plan : FabricPlan φ) :
    Except CppError (PcieTransactionResult × FabricPlan φ) :=
  match attachment.hostMemory with
  | some attached => do
    let offset ← ringAllocationOffset record.sqSequence setup.config.sqDepth
      attachment.binding.wqeBytes
    plan.access service memory {
      allocationId := attached.binding.sqRingAllocationId
      clientId := attachment.profile.rnicRequesterId
      requesterEndpointId := attachment.fabricEndpointId
      clientToken := record.wqeId
      serviceClass := .wqeRead
      operation := .nonPostedRead
      requestDirection := .deviceToHost
      ordering := .independent
      orderingDomain := attachment.binding.submissionOrderingDomain
      allocationOffsetBytes := offset
      usefulBytes := attachment.binding.wqeBytes
      transferBytes := attachment.binding.wqeBytes
      submittedAtPs := observedAtPs }
  | none => do
    let offset ← ringByteOffset attachment.binding.sqFirstByteOffset record.sqSequence
      setup.config.sqDepth attachment.binding.wqeBytes
    plan.transaction service {
      clientId := attachment.profile.rnicRequesterId
      clientToken := record.wqeId
      serviceClass := .wqeRead
      operation := .nonPostedRead
      requestDirection := .deviceToHost
      ordering := .independent
      pathId := attachment.binding.sqMemoryPathId
      orderingDomain := attachment.binding.submissionOrderingDomain
      usefulBytes := attachment.binding.wqeBytes
      transferBytes := attachment.binding.wqeBytes
      firstByteOffset := offset
      submittedAtPs := observedAtPs }

def planQpcRead (attached : HostMemoryAttachment) (record : WqeRecord) (fetchEndPs : Nat)
    (plan : FabricPlan φ) : Except CppError (PcieTransactionResult × FabricPlan φ) :=
  plan.access service memory {
    allocationId := attached.binding.qpcIcmAllocationId
    clientId := attachment.profile.rnicRequesterId
    requesterEndpointId := attachment.fabricEndpointId
    clientToken := record.wqeId
    serviceClass := .qpcIcm
    operation := .nonPostedRead
    requestDirection := .deviceToHost
    ordering := .independent
    orderingDomain := attachment.binding.submissionOrderingDomain
    usefulBytes := attached.binding.qpcContextBytes
    transferBytes := attached.binding.qpcContextBytes
    submittedAtPs := fetchEndPs }

def payloadRead (record : WqeRecord) (data : WorkRequestDataMemory) (submittedAtPs : Nat) :
    HostMemoryAccessRequest where
  allocationId := data.allocationId
  mkey := some data.mkey
  clientId := attachment.profile.rnicRequesterId
  requesterEndpointId := attachment.fabricEndpointId
  clientToken := record.wqeId
  serviceClass := .payloadRead
  operation := .nonPostedRead
  requestDirection := .deviceToHost
  ordering := .independent
  orderingDomain := attachment.binding.submissionOrderingDomain
  allocationOffsetBytes := data.allocationOffsetBytes
  usefulBytes := record.request.payloadBytes
  transferBytes := record.request.payloadBytes
  submittedAtPs := submittedAtPs

end Plan

structure PlannedDoorbellWqe where
  wqeId : Nat
  fetchBeginPs : Nat
  fetchEndPs : Nat
  qpcReadyPs : Option Nat
  admittedPs : Nat
  deriving DecidableEq, Repr

structure DoorbellPlan (φ : Type) where
  fabricPlan : FabricPlan φ
  items : List PlannedDoorbellWqe := []
  fetchCursorPs : Nat
  schedulerCursorPs : Nat

section Plan

variable (service : PcieService φ) (setup : WorkQueueSetup) (memory : VirtualHostMemory)

def planObserved (queue : WorkQueue) (nowPs : Nat) (plan : FabricPlan φ) :
    Except CppError (Nat × FabricPlan φ) :=
  match setup.pcie with
  | some attachment => do
    let (record, plan) ← planDoorbellRecord service attachment memory queue.nextBatchId nowPs plan
    let (uar, plan) ← planUarDoorbell service attachment queue.nextBatchId record.completedAtPs plan
    return (uar.completedAtPs, plan)
  | none => do
    let observed ← checkedAdd (max nowPs queue.doorbellCursorPs) setup.config.doorbellServicePs
      timestampOverflow
    return (observed, plan)

def planFetch (record : WqeRecord) (observedAtPs : Nat) (plan : DoorbellPlan φ) :
    Except CppError ((Nat × Nat) × DoorbellPlan φ) :=
  match setup.pcie with
  | some attachment => do
    let (fetch, fabricPlan) ← planWqeRead service setup attachment memory record observedAtPs
      plan.fabricPlan
    return ((fetch.firstIssueAtPs, fetch.completedAtPs),
      { plan with
        fabricPlan := fabricPlan
        fetchCursorPs := max plan.fetchCursorPs fetch.completedAtPs })
  | none => do
    let fetchBegin := max observedAtPs plan.fetchCursorPs
    let fetchEnd ← checkedAdd fetchBegin setup.config.wqeFetchServicePs timestampOverflow
    return ((fetchBegin, fetchEnd), { plan with fetchCursorPs := fetchEnd })

def planQpc (record : WqeRecord) (fetchEndPs : Nat) (plan : DoorbellPlan φ) :
    Except CppError (Option Nat × DoorbellPlan φ) :=
  if setup.qpcLookupEnabled then
    match setup.pcie.bind fun attachment => attachment.hostMemory.map (attachment, ·) with
    | some (attachment, attached) => do
      let (lookup, fabricPlan) ← planQpcRead service attachment memory attached record fetchEndPs
        plan.fabricPlan
      return (some lookup.completedAtPs, { plan with fabricPlan := fabricPlan })
    | none => do
      let ready ← checkedAdd fetchEndPs setup.config.qpcLookupServicePs timestampOverflow
      return (some ready, plan)
  else .ok (none, plan)

def planPayload (record : WqeRecord) (dataReadyPs : Nat) (plan : DoorbellPlan φ) :
    Except CppError (Nat × DoorbellPlan φ) :=
  match setup.pcie with
  | some attachment =>
    if attachment.hostMemory.isSome && record.request.payloadBytes != 0 then
      match record.request.dataMemory with
      | some data => do
        let (read, fabricPlan) ← plan.fabricPlan.access service memory
          (payloadRead attachment record data dataReadyPs)
        return (read.completedAtPs, { plan with fabricPlan := fabricPlan })
      -- a payload posted with host memory carries a descriptor
      | none => .ok (dataReadyPs, plan)
    else .ok (dataReadyPs, plan)
  | none => .ok (dataReadyPs, plan)

def planWqe (queue : WorkQueue) (observedAtPs : Nat) (plan : DoorbellPlan φ) (wqeId : Nat) :
    Except CppError (DoorbellPlan φ) := do
  let record ← queue.wqe wqeId
  require (record.state == .posted) (logicError "unpublished RNIC WQE is not in Posted state")
  let ((fetchBegin, fetchEnd), plan) ← planFetch service setup memory record observedAtPs plan
  let (qpcReady, plan) ← planQpc service setup memory record fetchEnd plan
  let (dataReady, plan) ← planPayload service setup memory record (qpcReady.getD fetchEnd) plan
  let admitted ← checkedAdd (max dataReady plan.schedulerCursorPs) setup.config.schedulerServicePs
    timestampOverflow
  return { plan with
    items := plan.items ++ [⟨wqeId, fetchBegin, fetchEnd, qpcReady, admitted⟩]
    schedulerCursorPs := admitted }

def checkProducerTask (queue : WorkQueue) (nowPs : Nat) :
    Option RnicProducerTaskLink → Except CppError Unit
  | none => .ok ()
  | some link =>
    match setup.pcie with
    | none => .error (invalidArgument "RNIC producer task link requires a submission profile")
    | some attachment => do
      validateRnicProducerTaskLink attachment.profile link nowPs
      require (!queue.submissionRecords.any fun record =>
          record.producerTask.any fun earlier => earlier.taskId == link.taskId)
        (invalidArgument "RNIC producer task identity was already linked")

def planDoorbell (session : Session φ) (nowPs : Nat) (producerTask : Option RnicProducerTaskLink) :
    Except CppError (Nat × DoorbellPlan φ) := do
  require (!session.queue.fatal) (logicError "cannot ring RNIC doorbell after fatal error")
  checkProducerTask setup session.queue nowPs producerTask
  require (session.queue.nextBatchId != maxUint64)
    (overflowError "RNIC doorbell batch ID overflow")
  let (observedAt, fabricPlan) ← planObserved service setup memory session.queue nowPs
    { fabric := session.fabric }
  let plan ← session.queue.unpublished.foldlM
    (planWqe service setup memory session.queue observedAt)
    { fabricPlan := fabricPlan
      fetchCursorPs := session.queue.wqeFetchCursorPs
      schedulerCursorPs := session.queue.schedulerCursorPs }
  return (observedAt, plan)

def submissionRows (queue : WorkQueue) (attachment : PcieAttachment) (nowPs observedAtPs : Nat)
    (producerTask : Option RnicProducerTaskLink) (items : List PlannedDoorbellWqe) :
    Except CppError (List RnicSubmissionRecord) :=
  (items.zipIdx (queue.submissionRecords.length + 1)).mapM fun (item, sequence) => do
    let record ← queue.wqe item.wqeId
    return {
      sequence := sequence
      wqeId := record.wqeId
      sqId := setup.config.sqId
      qpn := setup.config.qpn
      doorbellBatchId := queue.nextBatchId
      profile := attachment.profile
      producerTask := producerTask
      postedAtPs := record.timeline.postedAtPs
      submittedAtPs := nowPs
      visibleToRnicAtPs := observedAtPs }

end Plan

def WqeRecord.doorbelled (record : WqeRecord) (batchId nowPs observedAtPs : Nat)
    (item : PlannedDoorbellWqe) : WqeRecord :=
  { record with
    doorbellBatchId := batchId
    timeline := { record.timeline with
      doorbelledAtPs := some nowPs
      doorbellSeenAtPs := some observedAtPs
      wqeFetchBeginAtPs := some item.fetchBeginPs
      wqeFetchEndAtPs := some item.fetchEndPs
      qpcReadyAtPs := item.qpcReadyPs
      admittedAtPs := some item.admittedPs }
    state := .doorbelled }

def WorkQueue.published (queue : WorkQueue) (plan : DoorbellPlan φ)
    (rows : List RnicSubmissionRecord) (nowPs observedAtPs : Nat) : WorkQueue :=
  { queue with
    submissionRecords := queue.submissionRecords ++ rows
    ready := queue.ready ++ queue.unpublished
    unpublished := []
    nextBatchId := queue.nextBatchId + 1
    lastObservedTimePs := nowPs
    doorbellCursorPs := observedAtPs
    wqeFetchCursorPs := plan.fetchCursorPs
    schedulerCursorPs := plan.schedulerCursorPs
    counters := { queue.counters with
      doorbells := queue.counters.doorbells + 1
      doorbelledWqes := queue.counters.doorbelledWqes + queue.unpublished.length } }

def commitDoorbell (setup : WorkQueueSetup) (session : Session φ) (plan : DoorbellPlan φ)
    (nowPs observedAtPs : Nat) (producerTask : Option RnicProducerTaskLink) :
    Except CppError (List RnicSubmissionRecord × PcieFabric φ) :=
  match setup.pcie with
  | none => .ok ([], session.fabric)
  | some attachment => do
    let rows ← submissionRows setup session.queue attachment nowPs observedAtPs producerTask
      plan.items
    let fabric ← session.fabric.commit plan.fabricPlan.fabric
    return (rows, fabric)

def ringDoorbell (service : PcieService φ) (setup : WorkQueueSetup) (memory : VirtualHostMemory)
    (nowPs : Nat) (producerTask : Option RnicProducerTaskLink) : QueueM φ DoorbellBatch := do
  let session ← get
  QueueM.ofExcept (session.queue.validateTime nowPs)
  if session.queue.unpublished.isEmpty then do
    QueueM.ofExcept (require producerTask.isNone
      (invalidArgument "RNIC producer task link requires an unpublished WQE"))
    QueueM.modifyQueue fun queue => { queue with lastObservedTimePs := nowPs }
    return ⟨0, 0, nowPs, nowPs⟩
  else do
    let (observedAt, plan) ← QueueM.ofExcept
      (planDoorbell service setup memory session nowPs producerTask)
    let (rows, fabric) ← QueueM.ofExcept
      (commitDoorbell setup session plan nowPs observedAt producerTask)
    set ({ queue := { session.queue with
             memoryAccesses := session.queue.memoryAccesses ++ plan.fabricPlan.accesses }
           fabric := fabric } : Session φ)
    plan.items.forM fun item => QueueM.updateWqe item.wqeId
      (·.doorbelled session.queue.nextBatchId nowPs observedAt item)
    QueueM.modifyQueue fun queue => queue.published plan rows nowPs observedAt
    return ⟨session.queue.nextBatchId, session.queue.unpublished.length, nowPs, observedAt⟩

end SimLLM.Rnic
