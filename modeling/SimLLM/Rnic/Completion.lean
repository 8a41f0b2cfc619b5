import SimLLM.Rnic.Doorbell

namespace SimLLM.Rnic

variable {φ : Type}

structure CandidateOutcome where
  wqeId : Nat
  outcome : PendingOutcome
  deriving DecidableEq, Repr

structure PlannedRetirement where
  wqeId : Nat
  retiredAtPs : Nat
  status : CompletionStatus
  completionPending : Bool
  deriving DecidableEq, Repr

structure RetirementPlan (φ : Type) where
  retirements : List PlannedRetirement := []
  pendingCqes : PendingCqes := []
  fabricPlan : FabricPlan φ
  retirementCursorPs : Nat
  cqeWriteCursorPs : Nat
  nextCqeSequence : Nat
  nextRetireSequence : Nat

def PendingCqes.emplace : PendingCqes → Nat × Nat → CompletionEntry → PendingCqes
  | [], key, entry => [(key, entry)]
  | first :: rest, key, entry =>
    if key.1 < first.1.1 ∨ key.1 = first.1.1 ∧ key.2 < first.1.2 then
      (key, entry) :: first :: rest
    else if key = first.1 then first :: rest
    else first :: PendingCqes.emplace rest key entry

def PendingCqes.contains (pending : PendingCqes) (key : Nat × Nat) : Bool :=
  pending.any (·.1 == key)

def PendingCqes.merge (pending added : PendingCqes) : PendingCqes :=
  added.foldl (fun result item => result.emplace item.1 item.2) pending

def vendorSyndrome : CompletionStatus → Nat
  | .success => 0
  | .transportError => 1
  | .networkRejected => 2

section Plan

variable (service : PcieService φ) (setup : WorkQueueSetup) (memory : VirtualHostMemory)

def cqeVisibleAt (record : WqeRecord) (retiredAtPs cqeWriteCursorPs cqeSequence : Nat)
    (plan : FabricPlan φ) : Except CppError (Nat × FabricPlan φ) :=
  match setup.pcie with
  | some attachment =>
    match attachment.hostMemory with
    | some attached => do
      let offset ← ringAllocationOffset cqeSequence setup.config.cqDepth
        attachment.binding.cqeBytes
      let (write, plan) ← plan.access service memory {
        allocationId := attached.binding.cqRingAllocationId
        clientId := attachment.profile.rnicRequesterId
        requesterEndpointId := attachment.fabricEndpointId
        clientToken := record.wqeId
        serviceClass := .cqeWrite
        operation := .postedWrite
        requestDirection := .deviceToHost
        ordering := .visibilityDependency
        orderingDomain := attachment.binding.completionOrderingDomain
        allocationOffsetBytes := offset
        usefulBytes := attachment.binding.cqeBytes
        transferBytes := attachment.binding.cqeBytes
        submittedAtPs := retiredAtPs }
      return (write.completedAtPs, plan)
    | none => do
      let offset ← ringByteOffset attachment.binding.cqFirstByteOffset cqeSequence
        setup.config.cqDepth attachment.binding.cqeBytes
      let (write, plan) ← plan.transaction service {
        clientId := attachment.profile.rnicRequesterId
        clientToken := record.wqeId
        serviceClass := .cqeWrite
        operation := .postedWrite
        requestDirection := .deviceToHost
        ordering := .visibilityDependency
        pathId := attachment.binding.cqMemoryPathId
        orderingDomain := attachment.binding.completionOrderingDomain
        usefulBytes := attachment.binding.cqeBytes
        transferBytes := attachment.binding.cqeBytes
        firstByteOffset := offset
        submittedAtPs := retiredAtPs }
      return (write.completedAtPs, plan)
  | none => do
    let visible ← checkedAdd (max retiredAtPs cqeWriteCursorPs) setup.config.cqeWriteServicePs
      timestampOverflow
    return (visible, plan)

def makeCqe (record : WqeRecord) (status : CompletionStatus)
    (retiredAtPs cqeWriteCursorPs cqeSequence : Nat) (plan : FabricPlan φ) :
    Except CppError (CompletionEntry × FabricPlan φ) := do
  let (visible, plan) ← cqeVisibleAt service setup memory record retiredAtPs cqeWriteCursorPs
    cqeSequence plan
  return ({
    cqeSequence := cqeSequence
    wrId := record.request.wrId
    wqeId := record.wqeId
    sqSequence := record.sqSequence
    qpn := setup.config.qpn
    status := status
    vendorSyndrome := vendorSyndrome status
    visibleAtPs := visible }, plan)

def retiringOutcome (queue : WorkQueue) (candidate : CandidateOutcome) (record : WqeRecord) :
    Except CppError (Option PendingOutcome) :=
  if candidate.wqeId = record.wqeId then do
    require (queue.pendingOutcomes.get? record.wqeId).isNone
      (logicError "duplicate RNIC WQE network outcome")
    require record.timeline.networkOutcomeAtPs.isNone
      (logicError "candidate RNIC retirement already has an outcome")
    return some candidate.outcome
  else
    match queue.pendingOutcomes.get? record.wqeId with
    | none => .ok none
    | some outcome => do
      require (record.state == .awaitingOrderedRetirement &&
          record.timeline.networkOutcomeAtPs == some outcome.event.eventTimePs)
        (logicError "RNIC retirement lacks its recorded network outcome")
      return some outcome

def completionPending (request : WorkRequest) (status : CompletionStatus) : Bool :=
  request.signaled || status != .success

def RetirementPlan.retire (queue : WorkQueue) (plan : RetirementPlan φ) (record : WqeRecord)
    (outcome : PendingOutcome) : Except CppError (RetirementPlan φ) :=
  let retiredAt := max outcome.event.eventTimePs plan.retirementCursorPs
  let done (plan : RetirementPlan φ) : RetirementPlan φ := { plan with
    retirementCursorPs := retiredAt
    retirements := plan.retirements ++ [⟨record.wqeId, retiredAt, outcome.status,
      completionPending record.request outcome.status⟩]
    nextRetireSequence := plan.nextRetireSequence + 1 }
  if completionPending record.request outcome.status then do
    require (plan.nextCqeSequence != maxUint64) (overflowError "RNIC CQE sequence overflow")
    let (entry, fabricPlan) ← makeCqe service setup memory record outcome.status retiredAt
      plan.cqeWriteCursorPs plan.nextCqeSequence plan.fabricPlan
    let key := (entry.visibleAtPs, entry.cqeSequence)
    require (!queue.pendingCqes.contains key && !plan.pendingCqes.contains key)
      (logicError "duplicate RNIC pending CQE key")
    return done { plan with
      fabricPlan := fabricPlan
      pendingCqes := plan.pendingCqes.emplace key entry
      cqeWriteCursorPs := entry.visibleAtPs
      nextCqeSequence := plan.nextCqeSequence + 1 }
  else .ok (done plan)

def planRetirementsFrom (queue : WorkQueue) (candidate : CandidateOutcome)
    (plan : RetirementPlan φ) : List WqeRecord → Except CppError (RetirementPlan φ)
  | [] => .ok plan
  | record :: rest => do
    match ← retiringOutcome queue candidate record with
    | none => return plan
    | some outcome => do
      let plan ← plan.retire service setup memory queue record outcome
      planRetirementsFrom queue candidate plan rest

def planRetirements (session : Session φ) (candidate : CandidateOutcome) :
    Except CppError (RetirementPlan φ) :=
  planRetirementsFrom service setup memory session.queue candidate
    { fabricPlan := { fabric := session.fabric }
      retirementCursorPs := session.queue.retirementCursorPs
      cqeWriteCursorPs := session.queue.cqeWriteCursorPs
      nextCqeSequence := session.queue.nextCqeSequence
      nextRetireSequence := session.queue.nextRetireSequence }
    (session.queue.records.drop (session.queue.nextRetireSequence - 1))

end Plan

def commitRetirementPcie (setup : WorkQueueSetup) (session : Session φ) (plan : RetirementPlan φ) :
    Except CppError (Session φ) :=
  if setup.pcie.isSome && !plan.pendingCqes.isEmpty then do
    let fabric ← session.fabric.commit plan.fabricPlan.fabric
    return {
      queue := { session.queue with
        memoryAccesses := session.queue.memoryAccesses ++ plan.fabricPlan.accesses }
      fabric := fabric }
  else .ok session

def WqeRecord.retired (record : WqeRecord) (item : PlannedRetirement) : WqeRecord :=
  { record with
    timeline := { record.timeline with transportRetiredAtPs := some item.retiredAtPs }
    completionStatus := some item.status
    state := if item.completionPending then .completionPending else .retiredUnsignaled }

variable (queue : WorkQueue)

def WorkQueue.advanceCursors (plan : RetirementPlan φ) : WorkQueue :=
  { queue with
    retirementCursorPs := plan.retirementCursorPs
    cqeWriteCursorPs := plan.cqeWriteCursorPs
    nextCqeSequence := plan.nextCqeSequence
    nextRetireSequence := plan.nextRetireSequence }

def WorkQueue.dropOutcome (wqeId : Nat) : WorkQueue :=
  { queue with pendingOutcomes := queue.pendingOutcomes.erase wqeId }

def WorkQueue.addPending (added : PendingCqes) : WorkQueue :=
  { queue with pendingCqes := queue.pendingCqes.merge added }

def commitRetirements (plan : RetirementPlan φ) : QueueM φ Unit := do
  QueueM.modifyQueue fun queue => queue.addPending plan.pendingCqes
  plan.retirements.forM fun item => do
    QueueM.modifyQueue fun queue => queue.dropOutcome item.wqeId
    QueueM.updateWqe item.wqeId (·.retired item)
  QueueM.modifyQueue fun queue => queue.advanceCursors plan

def WorkQueue.overrun (entry : CompletionEntry) (record : WqeRecord) :
    WorkQueue :=
  { queue with
    fatal := true
    fatalLostSqSequence := some entry.sqSequence
    counters := { queue.counters with cqOverruns := queue.counters.cqOverruns + 1 }
    evidence := queue.evidence ++
      [⟨.cqOverrun, record.wqeId, record.request.wrId, entry.visibleAtPs, .none, .queueOverflow⟩] }

def CompletionEntry.placed (entry : CompletionEntry) (producerIndex cqDepth : Nat) :
    CompletionEntry :=
  { entry with
    cqProducerIndex := producerIndex
    cqSlot := producerIndex % cqDepth
    ownerGeneration := producerIndex / cqDepth % 2 }

def WqeRecord.visible (record : WqeRecord) (visibleAtPs : Nat) : WqeRecord :=
  { record with
    timeline := { record.timeline with cqeVisibleAtPs := some visibleAtPs }
    state := .cqeVisible }

def WorkQueue.pushCqe (entry : CompletionEntry) : WorkQueue :=
  { queue with
    cq := queue.cq ++ [entry]
    counters := { queue.counters with
      cqesVisible := queue.counters.cqesVisible + 1
      cqHighWatermark := max queue.counters.cqHighWatermark (queue.cq.length + 1) } }

def publishFrom (setup : WorkQueueSetup) (boundaryPs : Nat) (includeBoundary : Bool)
    (published : Nat) : PendingCqes → QueueM φ Nat
  | [] => pure published
  | (key, entry) :: rest =>
    if decide (boundaryPs < key.1) || (!includeBoundary && key.1 == boundaryPs) then
      pure published
    else do
      QueueM.modifyQueue fun queue => { queue with pendingCqes := rest }
      let session ← get
      let record ← QueueM.ofExcept (session.queue.wqe entry.wqeId)
      if session.queue.cq.length = setup.config.cqDepth then do
        QueueM.modifyQueue fun queue => queue.overrun entry record
        QueueM.updateWqe entry.wqeId fun record => { record with state := .error }
        return published
      else do
        QueueM.updateWqe entry.wqeId (·.visible entry.visibleAtPs)
        QueueM.modifyQueue fun queue =>
          queue.pushCqe (entry.placed queue.counters.cqesVisible setup.config.cqDepth)
        publishFrom setup boundaryPs includeBoundary (published + 1) rest

variable (setup : WorkQueueSetup)

def publishCqes (boundaryPs : Nat) (includeBoundary : Bool) :
    QueueM φ Nat := do
  let session ← get
  publishFrom setup boundaryPs includeBoundary 0 session.queue.pendingCqes

def publishDueCqes (nowPs : Nat) : QueueM φ Nat :=
  publishCqes setup nowPs true

def publishCqesBefore (nowPs : Nat) : QueueM φ Nat :=
  publishCqes setup nowPs false

variable (record : WqeRecord)

def WqeRecord.reclaim (nowPs : Nat) : WqeRecord :=
  { record with
    timeline := { record.timeline with sqReclaimedAtPs := some nowPs }
    state := if record.state = .completed then .completed else .reclaimed }

def WorkQueue.reclaimOne (nowPs : Nat) : WorkQueue :=
  if record.timeline.sqReclaimedAtPs.isNone then
    { queue with
      records := queue.records.set queue.sqReclaimedThrough (record.reclaim nowPs)
      occupiedSqEntries := queue.occupiedSqEntries - 1
      counters := { queue.counters with sqReclaimedWqes := queue.counters.sqReclaimedWqes + 1 }
      sqReclaimedThrough := queue.sqReclaimedThrough + 1 }
  else { queue with sqReclaimedThrough := queue.sqReclaimedThrough + 1 }

def WorkQueue.recordAt (index : Nat) : Except CppError WqeRecord :=
  match queue.records[index]? with
  | some record => .ok record
  | none => .error (outOfRange "records_")

def reclaimNext (nowPs : Nat) : Nat → QueueM φ Unit
  | 0 => pure ()
  | count + 1 => do
    let session ← get
    let record ← QueueM.ofExcept (session.queue.recordAt session.queue.sqReclaimedThrough)
    QueueM.ofExcept (require record.timeline.transportRetiredAtPs.isSome
      (logicError "RNIC CQE attempted to reclaim live WQE"))
    QueueM.modifyQueue fun queue => queue.reclaimOne record nowPs
    reclaimNext nowPs count

def reclaimThrough (sqSequence nowPs : Nat) : QueueM φ Unit := do
  let session ← get
  QueueM.ofExcept (require (decide (session.queue.sqReclaimedThrough ≤ sqSequence))
    (logicError "RNIC SQ reclaim sequence regressed"))
  QueueM.ofExcept (require (session.queue.fatalLostSqSequence.all (sqSequence < ·))
    (logicError "RNIC CQ poll cannot reclaim through a lost CQE"))
  reclaimNext nowPs (sqSequence - session.queue.sqReclaimedThrough)

def WorkQueue.consumption (entry : CompletionEntry) (nowPs : Nat) : List RnicCqConsumptionRecord :=
  match setup.pcie with
  | none => []
  | some attachment => [{
      sequence := queue.cqConsumptionRecords.length + 1
      cqeSequence := entry.cqeSequence
      wqeId := entry.wqeId
      cqId := setup.config.cqId
      qpn := setup.config.qpn
      consumer := attachment.profile.cqConsumer
      cqEndpoint := attachment.profile.queueEndpoint
      visibleAtPs := entry.visibleAtPs
      consumedAtPs := nowPs }]

def WorkQueue.countPolled (entry : CompletionEntry) (nowPs : Nat) : WorkQueue :=
  { queue with
    counters := { queue.counters with cqesPolled := queue.counters.cqesPolled + 1 }
    cqConsumptionRecords := queue.cqConsumptionRecords ++ queue.consumption setup entry nowPs }

def WqeRecord.polled (nowPs : Nat) : WqeRecord :=
  { record with
    timeline := { record.timeline with polledAtPs := some nowPs }
    state := .completed }

def pollOne (nowPs : Nat) (entry : CompletionEntry) (rest : List CompletionEntry) :
    QueueM φ CompletionEntry := do
  QueueM.modifyQueue fun queue => { queue with cq := rest }
  QueueM.updateWqe entry.wqeId (·.polled nowPs)
  reclaimThrough entry.sqSequence nowPs
  QueueM.modifyQueue fun queue => queue.countPolled setup entry nowPs
  return { entry with polledAtPs := nowPs }

def pollFrom (setup : WorkQueueSetup) (nowPs : Nat) (result : List CompletionEntry) :
    Nat → List CompletionEntry → QueueM φ (List CompletionEntry)
  | 0, _ => pure result
  | _ + 1, [] => pure result
  | count + 1, entry :: rest => do
    let polled ← pollOne setup nowPs entry rest
    pollFrom setup nowPs (result ++ [polled]) count rest

def pollCompletionQueue (maxEntries nowPs : Nat) :
    QueueM φ (List CompletionEntry) := do
  QueueM.observeTime nowPs
  let session ← get
  if session.queue.fatal then pure ()
  else do
    let _ ← publishCqesBefore setup nowPs
  let session ← get
  pollFrom setup nowPs [] maxEntries session.queue.cq

end SimLLM.Rnic
