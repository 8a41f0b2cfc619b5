import SimLLM.Rnic.Progress

namespace SimLLM.Rnic

def validateAccessRecord (access : HostMemoryAccessRecord) : Except CppError Unit := do
  require (access.version == 2 && access.allocationId != 0 && access.clientId != 0 &&
      access.accessTransactionId != 0 && decide (access.submittedAtPs ≤ access.completedAtPs))
    (logicError "RNIC host-memory access record is invalid")
  require (decide (access.translationTransactionIds.length ≤ access.translationStages.length))
    (logicError "RNIC host-memory translation projection is invalid")
  require (!(access.objectKind == .qpcIcm && (!access.translationStages.isEmpty ||
      !access.translationTransactionIds.isEmpty)))
    (logicError "RNIC QPC access consumed a translation event")

def checkTaskBatch (profile : RnicSubmissionProfile) (batches : Table String Nat)
    (submission : RnicSubmissionRecord) : Except CppError (Table String Nat) :=
  match submission.producerTask with
  | none => .ok batches
  | some link => do
    match validateRnicProducerTaskLink profile link submission.submittedAtPs with
    | .ok () => .ok ()
    | .error _ => .error (logicError "RNIC submission record has an invalid producer task link")
    match batches.get? link.taskId with
    | none => .ok (batches.set link.taskId submission.doorbellBatchId)
    | some batch => do
      require (batch == submission.doorbellBatchId)
        (logicError "RNIC producer task link spans doorbell batches")
      return batches

variable (queue : WorkQueue)

variable (setup : WorkQueueSetup)

def WorkQueue.validateSubmission (attachment : PcieAttachment) (batches : Table String Nat)
    (item : RnicSubmissionRecord × Nat) : Except CppError (Table String Nat) := do
  let (submission, index) := item
  let record ← queue.wqe submission.wqeId
  require (submission.sequence == index + 1 && submission.sqId == setup.config.sqId &&
      submission.qpn == setup.config.qpn && submission.doorbellBatchId == record.doorbellBatchId &&
      submission.profile == attachment.profile &&
      submission.postedAtPs == record.timeline.postedAtPs &&
      record.timeline.doorbelledAtPs == some submission.submittedAtPs &&
      record.timeline.doorbellSeenAtPs == some submission.visibleToRnicAtPs)
    (logicError "RNIC submission record is not a faithful projection")
  checkTaskBatch attachment.profile batches submission

def WorkQueue.validateConsumption (attachment : PcieAttachment) (previous : Nat)
    (item : RnicCqConsumptionRecord × Nat) :
    Except CppError Nat := do
  let (consumption, index) := item
  let record ← queue.wqe consumption.wqeId
  require (consumption.sequence == index + 1 && decide (previous < consumption.cqeSequence) &&
      consumption.cqId == setup.config.cqId && consumption.qpn == setup.config.qpn &&
      consumption.consumer == attachment.profile.cqConsumer &&
      consumption.cqEndpoint == attachment.profile.queueEndpoint &&
      record.timeline.cqeVisibleAtPs == some consumption.visibleAtPs &&
      record.timeline.polledAtPs == some consumption.consumedAtPs)
    (logicError "RNIC CQ-consumption record is not a faithful projection")
  return consumption.cqeSequence

def WorkQueue.validateLedgers :
    Except CppError Unit :=
  match setup.pcie with
  | none => require (queue.submissionRecords.isEmpty && queue.cqConsumptionRecords.isEmpty)
      (logicError "RNIC WQ without a submission profile retained projections")
  | some attachment => do
    require (attachment.profile.producer.id != 0 && attachment.profile.cqConsumer.id != 0 &&
        attachment.profile.rnicRequesterId != 0)
      (logicError "RNIC submission profile is not live and valid")
    require (queue.submissionRecords.length == queue.counters.doorbelledWqes)
      (logicError "RNIC submission ledger disagrees with doorbelled WQEs")
    let _ ← queue.submissionRecords.zipIdx.foldlM (queue.validateSubmission setup attachment) []
    require (queue.cqConsumptionRecords.length == queue.counters.cqesPolled)
      (logicError "RNIC CQ-consumption ledger disagrees with polled CQEs")
    let _ ← queue.cqConsumptionRecords.zipIdx.foldlM (queue.validateConsumption setup attachment) 0

def WorkQueue.markOwned (expected : WqeState) (counts : List Nat) (wqeId : Nat) :
    Except CppError (List Nat) := do
  let record ← queue.wqe wqeId
  require (record.state == expected)
    (logicError "RNIC WQE state disagrees with its owner container")
  let count := counts.getD (wqeId - 1) 0 + 1
  require (count == 1) (logicError "RNIC WQE appears in multiple owner containers")
  return counts.set (wqeId - 1) count

def WorkQueue.markInflight (counts : List Nat) (item : Nat × InflightExtent) :
    Except CppError (List Nat) := do
  let record ← queue.wqe item.2.wqeId
  require (record.networkToken == some item.1)
    (logicError "RNIC in-flight token accounting mismatch")
  queue.markOwned .inFlight counts item.2.wqeId

def WorkQueue.markOutcome (counts : List Nat) (item : Nat × PendingOutcome) :
    Except CppError (List Nat) := do
  require (item.1 == item.2.event.wqeId)
    (logicError "RNIC pending outcome/WQE identity mismatch")
  queue.markOwned .awaitingOrderedRetirement counts item.1

def WorkQueue.markPendingCqe (counts : List Nat) (item : (Nat × Nat) × CompletionEntry) :
    Except CppError (List Nat) := do
  require (item.1 == (item.2.visibleAtPs, item.2.cqeSequence))
    (logicError "RNIC pending CQE key disagrees with its entry")
  queue.markOwned .completionPending counts item.2.wqeId

def WorkQueue.attemptOwned (item : Nat × PacketAttemptState) : Bool :=
  match queue.inflight.get? item.2.extentToken with
  | none => false
  | some extent =>
    item.1 == item.2.started.token && item.2.started.parentToken == item.2.extentToken &&
      item.2.started.wqeId == extent.wqeId && queue.seenNetworkTokens.contains item.1

def WorkQueue.ownerCounts : Except CppError (List Nat) := do
  let counts ← queue.unpublished.foldlM (queue.markOwned .posted)
    (List.replicate queue.records.length 0)
  let counts ← queue.ready.foldlM (queue.markOwned .doorbelled) counts
  let counts ← queue.inflight.foldlM queue.markInflight counts
  queue.packetAttempts.forM fun item => require (queue.attemptOwned item)
    (logicError "RNIC packet-attempt ownership accounting mismatch")
  queue.completedPacketAttempts.forM fun item => require
    (queue.attemptOwned item && (queue.packetAttempts.get? item.1).isNone)
    (logicError "RNIC completed packet tombstone accounting mismatch")
  let counts ← queue.pendingOutcomes.foldlM queue.markOutcome counts
  let counts ← queue.pendingCqes.foldlM queue.markPendingCqe counts
  (queue.cq.map (·.wqeId)).foldlM (queue.markOwned .cqeVisible) counts

def WqeState.needsOwner : WqeState → Bool
  | .posted | .doorbelled | .inFlight | .awaitingOrderedRetirement | .completionPending
  | .cqeVisible => true
  | .retiredUnsignaled | .reclaimed | .completed | .error => false

def WqeTimeline.packetsOrdered (timeline : WqeTimeline) : Bool :=
  match timeline.firstPacketAtPs, timeline.lastPacketAtPs with
  | none, none => true
  | some first, some last =>
    decide (first ≤ last) && timeline.networkAcceptedAtPs.any (· ≤ first)
  | _, _ => false

def validateRecord (counts : List Nat) (item : WqeRecord × Nat) : Except CppError Unit := do
  let (record, index) := item
  require (record.wqeId == index + 1 && record.sqSequence == index + 1)
    (logicError "RNIC WQE identity/sequence is not monotonic")
  require (record.timeline.sqReclaimedAtPs.isNone || record.timeline.transportRetiredAtPs.isSome)
    (logicError "RNIC reclaimed an unretired WQE")
  require record.timeline.packetsOrdered
    (logicError "RNIC packet timeline is not an ordered live projection")
  require (counts.getD index 0 == if record.state.needsOwner then 1 else 0)
    (logicError "RNIC WQE owner-container conservation failed")

def WorkQueue.validateLost : Except CppError Unit :=
  match queue.fatalLostSqSequence with
  | none => .ok ()
  | some lostSequence => do
    let lost ← queue.wqe lostSequence
    require (lost.state == .error && lost.timeline.sqReclaimedAtPs.isNone)
      (logicError "RNIC reclaimed its first lost CQE")

def WorkQueue.validateInvariants :
    Except CppError Unit := do
  require (decide (queue.occupiedSqEntries ≤ setup.config.sqDepth))
    (logicError "RNIC SQ occupancy exceeds depth")
  require (decide (queue.cq.length ≤ setup.config.cqDepth))
    (logicError "RNIC CQ occupancy exceeds depth")
  require (queue.counters.postedWqes == queue.records.length)
    (logicError "RNIC posted counter disagrees with records")
  require (setup.hostMemory.isSome || queue.memoryAccesses.isEmpty)
    (logicError "RNIC compatibility WQ retained host-memory accesses")
  queue.memoryAccesses.forM validateAccessRecord
  queue.validateLedgers setup
  let counts ← queue.ownerCounts
  queue.records.zipIdx.forM (validateRecord counts)
  let reclaimed := queue.records.countP (·.timeline.sqReclaimedAtPs.isSome)
  require (queue.records.length - reclaimed == queue.occupiedSqEntries &&
      reclaimed == queue.counters.sqReclaimedWqes)
    (logicError "RNIC SQ reclaim accounting mismatch")
  require (decide (queue.counters.cqesPolled ≤ queue.counters.cqesVisible) &&
      queue.counters.cqesVisible - queue.counters.cqesPolled == queue.cq.length)
    (logicError "RNIC CQ producer/consumer accounting mismatch")
  require (queue.fatal == queue.fatalLostSqSequence.isSome)
    (logicError "RNIC fatal CQ-overrun accounting mismatch")
  queue.validateLost

end SimLLM.Rnic
