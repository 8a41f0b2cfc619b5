import SimLLM.Rnic.Completion

namespace SimLLM.Rnic

variable {φ : Type}

structure RecordedOutcome where
  candidate : CandidateOutcome
  record : WqeRecord → WqeRecord
  update : WorkQueue → WorkQueue

variable (service : PcieService φ) (setup : WorkQueueSetup) (memory : VirtualHostMemory)

/-- The tail both ways of receiving an outcome share: plan, record, then commit. Nothing is
written when the plan or its fabric commit throws. -/
def recordOutcome (recorded : RecordedOutcome) : QueueM φ Unit := do
  let session ← get
  let plan ← QueueM.ofExcept (planRetirements service setup memory session recorded.candidate)
  QueueM.ofExcept (require
    (session.queue.pendingOutcomes.get? recorded.candidate.wqeId).isNone
    (logicError "duplicate RNIC WQE network outcome"))
  let session ← QueueM.ofExcept (commitRetirementPcie setup session plan)
  set session
  QueueM.modifyQueue fun queue => recorded.update { queue with
    pendingOutcomes := queue.pendingOutcomes.set recorded.candidate.wqeId
      recorded.candidate.outcome }
  QueueM.updateWqe recorded.candidate.wqeId recorded.record
  commitRetirements plan

def WorkQueueSetup.descriptor (setup : WorkQueueSetup) (record : WqeRecord) (admittedAtPs : Nat) :
    NetworkTxDescriptor where
  abiVersion := setup.capabilities.abiVersion
  wqeId := record.wqeId
  wrId := record.request.wrId
  flowId := record.request.flowId
  flowTag := record.request.flowTag
  policyContextToken := setup.config.policyContextToken
  source := setup.config.source
  destination := record.request.destination
  qpn := setup.config.qpn
  trafficClass := record.request.trafficClass
  payloadBytes := record.request.payloadBytes
  eligibleAtPs := admittedAtPs

def busyAnswer (result : NetworkSubmitResult) (nowPs : Nat) : QueueM φ Unit := do
  QueueM.ofExcept (require (result.hasRetryTime && decide (nowPs < result.retryAtPs))
    (logicError "busy RNIC network port must provide a future retry time"))
  QueueM.ofExcept (require (result.token == 0 && result.rejectionLocation == .none &&
      result.rejectionReason == .none)
    (logicError "busy RNIC network result carries contradictory fields"))
  QueueM.modifyQueue fun queue => { queue with
    counters := { queue.counters with networkBusy := queue.counters.networkBusy + 1 }
    networkBlocked := true
    networkRetryAtPs := some result.retryAtPs }

def WqeRecord.accepted (record : WqeRecord) (token nowPs : Nat) : WqeRecord :=
  { record with
    networkToken := some token
    timeline := { record.timeline with networkAcceptedAtPs := some nowPs }
    state := .inFlight }

def acceptedAnswer (result : NetworkSubmitResult) (descriptor : NetworkTxDescriptor)
    (rest : List Nat) (nowPs : Nat) : QueueM φ Unit := do
  QueueM.ofExcept (require (!result.hasRetryTime && result.rejectionLocation == .none &&
      result.rejectionReason == .none)
    (logicError "accepted RNIC network result carries contradictory fields"))
  let session ← get
  QueueM.ofExcept (require (result.token != 0 &&
      (session.queue.inflight.get? result.token).isNone &&
      !session.queue.seenNetworkTokens.contains result.token)
    (logicError "RNIC network port returned an invalid or duplicate token"))
  QueueM.modifyQueue fun queue => { queue with ready := rest }
  QueueM.updateWqe descriptor.wqeId (·.accepted result.token nowPs)
  QueueM.modifyQueue fun queue => { queue with
    inflight := queue.inflight.set result.token
      ⟨descriptor.wqeId, descriptor.abiVersion, descriptor.extentIndex⟩
    seenNetworkTokens := result.token :: queue.seenNetworkTokens
    counters := { queue.counters with networkAccepted := queue.counters.networkAccepted + 1 } }

def WqeRecord.outcomeAt (record : WqeRecord) (atPs : Nat) : WqeRecord :=
  { record with
    timeline := { record.timeline with networkOutcomeAtPs := some atPs }
    state := .awaitingOrderedRetirement }

def rejectedAnswer (result : NetworkSubmitResult) (record : WqeRecord) (rest : List Nat) (nowPs : Nat) :
    QueueM φ Unit := do
  QueueM.ofExcept (require (result.token == 0 && !result.hasRetryTime &&
      validDropLocation result.rejectionLocation && validDropReason result.rejectionReason &&
      result.rejectionLocation != .none && result.rejectionReason != .none)
    (logicError "rejected RNIC network result lacks controlled evidence"))
  recordOutcome service setup memory {
    candidate := ⟨record.wqeId, {
      event := {
        kind := .dropped
        wqeId := record.wqeId
        eventTimePs := nowPs
        dropLocation := result.rejectionLocation
        dropReason := result.rejectionReason }
      status := .networkRejected }⟩
    record := (·.outcomeAt nowPs)
    update := fun queue => { queue with
      ready := rest
      counters := { queue.counters with networkRejected := queue.counters.networkRejected + 1 }
      evidence := queue.evidence ++ [⟨.networkRejected, record.wqeId, record.request.wrId, nowPs,
        result.rejectionLocation, result.rejectionReason⟩] } }

variable (queue : WorkQueue)

def WorkQueue.countAttempt : WorkQueue :=
  { queue with counters := { queue.counters with
    networkSubmitAttempts := queue.counters.networkSubmitAttempts + 1 } }

/-- The answer to one submission. The head leaves the ready WQEs when it was accepted or
rejected and stays when the port is busy. -/
def takeAnswer (result : NetworkSubmitResult) (record : WqeRecord) (admittedAtPs : Nat) (rest : List Nat)
    (nowPs : Nat) : QueueM φ Bool :=
  match result.status with
  | .busy => do
    busyAnswer result nowPs
    return false
  | .accepted => do
    acceptedAnswer result (setup.descriptor record admittedAtPs) rest nowPs
    return true
  | .rejected => do
    rejectedAnswer service setup memory result record rest nowPs
    return true
  | .invalid => throw (logicError "invalid RNIC network submit status")

def WqeRecord.admittedAt (record : WqeRecord) : Except CppError Nat :=
  match record.timeline.admittedAtPs with
  | some admitted => .ok admitted
  | none => .error (logicError "doorbelled WQE has no admission time")

def submitReady (service : PcieService φ) (setup : WorkQueueSetup) (memory : VirtualHostMemory)
    (port : NetworkPort) (nowPs changes : Nat) : List Nat → QueueM φ Nat
  | [] => pure changes
  | wqeId :: rest => do
    let session ← get
    let record ← QueueM.ofExcept (session.queue.wqe wqeId)
    let admitted ← QueueM.ofExcept record.admittedAt
    if nowPs < admitted then pure changes
    else do
      QueueM.modifyQueue WorkQueue.countAttempt
      let left ← takeAnswer service setup memory
        (port.trySubmit session.queue.counters.networkSubmitAttempts
          (setup.descriptor record admitted) nowPs) record admitted rest nowPs
      if left then submitReady service setup memory port nowPs (changes + 1) rest
      else pure changes

def WorkQueue.stillBlocked (nowPs : Nat) : Bool :=
  queue.networkBlocked && queue.networkRetryAtPs.all (nowPs < ·)

def WorkQueue.unblocked : WorkQueue :=
  if queue.networkBlocked then { queue with networkBlocked := false, networkRetryAtPs := none }
  else queue

def progress (port : NetworkPort) (nowPs : Nat) : QueueM φ Nat := do
  QueueM.observeTime nowPs
  let session ← get
  if session.queue.fatal then return 0
  else do
    let changes ← publishDueCqes setup nowPs
    let session ← get
    if session.queue.fatal then return changes
    else if session.queue.stillBlocked nowPs then return changes
    else do
      QueueM.modifyQueue WorkQueue.unblocked
      let changes ← submitReady service setup memory port nowPs changes session.queue.ready
      let more ← publishDueCqes setup nowPs
      return changes + more

def sooner (next : Option Nat) (atPs : Nat) : Option Nat :=
  if next.all (atPs < ·) then some atPs else next

def WorkQueue.nextEventTime : Except CppError (Option Nat) :=
  if queue.fatal then return none
  else
    let next := queue.pendingCqes.head?.map fun item => max item.1.1 queue.lastObservedTimePs
    match queue.ready with
    | [] => return next
    | wqeId :: _ => do
      let record ← queue.wqe wqeId
      match record.timeline.admittedAtPs with
      | none => .error (logicError "ready RNIC WQE has no admission time")
      | some admitted =>
        let readyAt := max admitted queue.lastObservedTimePs
        if queue.networkBlocked then
          match queue.networkRetryAtPs with
          | none => return next
          | some retryAt => return sooner next (max readyAt retryAt)
        else return sooner next readyAt

def WorkQueue.requireInflightExtent (token wqeId : Nat) :
    Except CppError InflightExtent :=
  match queue.inflight.get? token with
  | none => .error (logicError "unknown or duplicate RNIC network token")
  | some extent => do
    require (extent.wqeId == wqeId) (logicError "RNIC network token/WQE mismatch")
    return extent

variable (event : NetworkEvent)

def WorkQueue.validateEventAfterAcceptance (extent : InflightExtent) : Except CppError Unit := do
  require (event.abiVersion == extent.abiVersion && event.extentIndex == extent.extentIndex)
    (invalidArgument "RNIC network event changed its negotiated extent identity")
  let record ← queue.wqe extent.wqeId
  require (record.timeline.networkAcceptedAtPs.any (· ≤ event.eventTimePs))
    (logicError "RNIC network event predates acceptance")

def NetworkEvent.noDropEvidence : Bool :=
  event.dropLocation == .none && event.dropReason == .none && event.dropEvidence == .none &&
    event.dropResourceId == 0

def checkFlowExtentEvent : Except CppError Unit :=
  match decide (event.parentToken = 0), event.kind with
  | true, .delivered => require event.noDropEvidence
      (invalidArgument "delivered RNIC network event carries drop evidence")
  | true, .dropped => require (event.dropLocation != .none && event.dropReason != .none &&
        !(event.abiVersion == 2 && (event.dropEvidence == .none || event.dropResourceId == 0)))
      (invalidArgument "dropped RNIC network event lacks typed evidence")
  | _, _ => .error (invalidArgument "RNIC flow extent requires one terminal event")

def onFlowExtentEvent (event : NetworkEvent) : QueueM φ Unit := do
  QueueM.ofExcept (checkFlowExtentEvent event)
  let session ← get
  let queue := session.queue
  let extent ← QueueM.ofExcept (queue.requireInflightExtent event.token event.wqeId)
  QueueM.ofExcept (queue.validateEventAfterAcceptance event extent)
  QueueM.ofExcept (require (!queue.packetAttempts.any fun item => item.2.extentToken == event.token)
    (logicError "RNIC extent terminated with a live packet attempt"))
  let record ← QueueM.ofExcept (queue.wqe event.wqeId)
  let dropped := event.kind == .dropped
  recordOutcome service setup memory {
    candidate := ⟨record.wqeId, event, if dropped then .transportError else .success⟩
    record := fun record =>
      { record.outcomeAt event.eventTimePs with ecnMarked := record.ecnMarked || event.ecnMarked }
    update := fun queue => { queue with
      inflight := queue.inflight.erase event.token
      completedPacketAttempts :=
        queue.completedPacketAttempts.filter (·.2.extentToken != event.token)
      counters := if dropped then
          { queue.counters with networkDropped := queue.counters.networkDropped + 1 }
        else { queue.counters with networkDelivered := queue.counters.networkDelivered + 1 }
      evidence := if dropped then
          queue.evidence ++ [⟨.networkDrop, record.wqeId, record.request.wrId, event.eventTimePs,
            event.dropLocation, event.dropReason⟩]
        else queue.evidence } }

def samePacketAttempt (event started : NetworkEvent) : Bool :=
  event.token == started.token && event.parentToken == started.parentToken &&
    event.wqeId == started.wqeId && event.extentIndex == started.extentIndex &&
    event.packetIndex == started.packetIndex &&
    event.transmissionAttempt == started.transmissionAttempt &&
    event.payloadOffsetBytes == started.payloadOffsetBytes &&
    event.payloadBytes == started.payloadBytes && event.wireBytes == started.wireBytes &&
    event.packetKind == started.packetKind

variable (setup : WorkQueueSetup)

def WorkQueue.validatePacketAttemptEnvelope (event : NetworkEvent) (extent : InflightExtent) :
    Except CppError Unit := do
  require (event.abiVersion == 2 && setup.capabilities.packetAttemptEvents && event.token != 0 &&
      event.parentToken != 0 && event.token != event.parentToken &&
      validNetworkPacketKind event.packetKind && event.wireBytes != 0 &&
      decide (event.payloadBytes ≤ event.wireBytes))
    (invalidArgument "RNIC packet attempt has an invalid ABI-v2 envelope")
  queue.validateEventAfterAcceptance event extent
  let record ← queue.wqe event.wqeId
  require (decide (event.payloadOffsetBytes ≤ record.request.payloadBytes ∧
      event.payloadBytes ≤ record.request.payloadBytes - event.payloadOffsetBytes))
    (outOfRange "RNIC packet attempt exceeds its WQE payload")

def WqeTimeline.packetSeen (timeline : WqeTimeline) (atPs : Nat) : WqeTimeline :=
  { timeline with
    firstPacketAtPs := some (timeline.firstPacketAtPs.getD atPs)
    lastPacketAtPs := some atPs }

def startAttempt : QueueM φ Unit := do
  let session ← get
  QueueM.ofExcept (require (!session.queue.seenNetworkTokens.contains event.token &&
      (session.queue.packetAttempts.get? event.token).isNone &&
      (session.queue.completedPacketAttempts.get? event.token).isNone)
    (logicError "RNIC packet attempt token was reused in one session"))
  QueueM.modifyQueue fun queue => { queue with
    seenNetworkTokens := event.token :: queue.seenNetworkTokens
    packetAttempts := queue.packetAttempts.set event.token ⟨event.parentToken, event, false, false⟩ }
  if event.packetKind = .data ∨ event.packetKind = .retransmission then
    QueueM.updateWqe event.wqeId fun record =>
      { record with timeline := record.timeline.packetSeen event.eventTimePs }
  else pure ()

def completeAttempt (attempt : PacketAttemptState) (message : String) :
    QueueM φ Unit := do
  let session ← get
  QueueM.ofExcept (require (session.queue.completedPacketAttempts.get? event.token).isNone
    (logicError message))
  QueueM.modifyQueue fun queue => { queue with
    completedPacketAttempts := queue.completedPacketAttempts.set event.token attempt
    packetAttempts := queue.packetAttempts.erase event.token }

def advanceAttempt (attempt : PacketAttemptState) : QueueM φ Unit :=
  match event.kind with
  | .packetTxFinished => do
    QueueM.ofExcept (require (!attempt.txFinished)
      (logicError "RNIC packet attempt finished TX more than once"))
    QueueM.modifyQueue fun queue => { queue with
      packetAttempts := queue.packetAttempts.set event.token { attempt with txFinished := true } }
  | .packetRxArrived => do
    QueueM.ofExcept (require (attempt.txFinished && !attempt.rxArrived)
      (logicError "RNIC packet RX arrival violated attempt order"))
    QueueM.modifyQueue fun queue => { queue with
      packetAttempts := queue.packetAttempts.set event.token { attempt with rxArrived := true } }
  | .delivered => do
    QueueM.ofExcept (require (attempt.rxArrived && event.noDropEvidence)
      (invalidArgument "RNIC packet delivery has an invalid lifecycle"))
    completeAttempt event attempt "RNIC packet delivery repeated a completed token"
  | .dropped => do
    QueueM.ofExcept (require (event.dropLocation != .none && event.dropReason != .none &&
        event.dropEvidence != .none && event.dropResourceId != 0)
      (invalidArgument "RNIC packet drop lacks stable evidence"))
    completeAttempt event attempt "RNIC packet drop repeated a completed token"
  | _ => throw (invalidArgument "invalid RNIC packet-attempt event kind")

def onPacketAttemptEvent (event : NetworkEvent) : QueueM φ Unit := do
  let session ← get
  let queue := session.queue
  let extent ← QueueM.ofExcept (queue.requireInflightExtent event.parentToken event.wqeId)
  QueueM.ofExcept (queue.validatePacketAttemptEnvelope setup event extent)
  let terminal := event.kind == .delivered || event.kind == .dropped
  QueueM.ofExcept (require (terminal || event.noDropEvidence)
    (invalidArgument "intermediate RNIC packet event carries drop evidence"))
  if event.kind = .packetTxStarted then startAttempt event
  else
    match queue.packetAttempts.get? event.token with
    | none => throw (logicError "unknown or duplicate RNIC packet attempt token")
    | some attempt => do
      QueueM.ofExcept (require (samePacketAttempt event attempt.started &&
          decide (attempt.started.eventTimePs ≤ event.eventTimePs))
        (logicError "RNIC packet attempt observation changed identity or time"))
      advanceAttempt event attempt

def WorkQueue.controlExtent : Except CppError Bool :=
  if event.parentToken = 0 then .ok false
  else do
    let extent ← queue.requireInflightExtent event.parentToken event.wqeId
    queue.validateEventAfterAcceptance event extent
    let _ ← queue.wqe event.wqeId
    return true

def WorkQueue.retainsPacket : Bool :=
  match (queue.packetAttempts.get? event.token).or
      (queue.completedPacketAttempts.get? event.token) with
  | none => false
  | some attempt =>
    attempt.extentToken == event.parentToken && attempt.started.wqeId == event.wqeId

def onTransportControlEvent (event : NetworkEvent) : QueueM φ Unit := do
  QueueM.ofExcept (require (event.abiVersion == 2)
    (invalidArgument "RNIC transport control requires NetworkPort ABI v2"))
  let session ← get
  let hasRecord ← QueueM.ofExcept (session.queue.controlExtent event)
  match event.kind with
  | .ecnMarked | .cnpReceived => do
    QueueM.ofExcept (require (setup.capabilities.ecnCnpEvents && hasRecord && event.token != 0)
      (invalidArgument "RNIC ECN or CNP event lacks packet correlation"))
    QueueM.ofExcept (require (session.queue.retainsPacket event)
      (invalidArgument "RNIC ECN or CNP token is not retained by its extent"))
    if event.kind = .ecnMarked then
      QueueM.updateWqe event.wqeId fun record => { record with ecnMarked := true }
    else pure ()
  | .eligibilityUpdated | .rateUpdated =>
    QueueM.ofExcept (require (setup.capabilities.policyUpdateEvents && hasRecord &&
        event.policyContextToken == setup.config.policyContextToken &&
        decide (event.eventTimePs ≤ event.effectiveAtPs) &&
        !(event.kind == .rateUpdated && (!event.hasEffectiveRate || event.effectiveRateBps == 0)))
      (invalidArgument "RNIC policy update has an invalid effective payload"))
  | .pfcFrameSubmitted | .pfcPaused | .pfcResumed =>
    QueueM.ofExcept (require (setup.capabilities.pfcEvents &&
        !(event.linkId == 0 && event.source == event.destination) &&
        !(event.kind == .pfcPaused && event.pauseQuanta == 0 && !event.hasPauseDuration) &&
        !(event.kind == .pfcResumed && (event.pauseQuanta != 0 || event.hasPauseDuration)))
      (invalidArgument "RNIC PFC event has an invalid control payload"))
  | .linkStateChanged =>
    QueueM.ofExcept (require (setup.capabilities.dynamicLinkEvents && event.linkId != 0 &&
        (event.linkState == .up || event.linkState == .down) &&
        !(event.hasEffectiveRate && event.effectiveRateBps == 0))
      (invalidArgument "RNIC link-state event has an invalid transition payload"))
  | _ => throw (invalidArgument "invalid RNIC transport-control event kind")

def onNetworkEvent (service : PcieService φ) (setup : WorkQueueSetup) (memory : VirtualHostMemory)
    (event : NetworkEvent) : QueueM φ Unit := do
  QueueM.ofExcept (require (event.abiVersion == setup.capabilities.abiVersion)
    (invalidArgument "unsupported RNIC network event ABI"))
  QueueM.ofExcept (require (validDropLocation event.dropLocation &&
      validDropReason event.dropReason && validDropEvidence event.dropEvidence)
    (invalidArgument "RNIC network event carries an invalid evidence enum"))
  let session ← get
  QueueM.ofExcept (session.queue.validateTime event.eventTimePs)
  match event.scope with
  | .flowExtent => onFlowExtentEvent service setup memory event
  | .packetAttempt => onPacketAttemptEvent setup event
  | .transportControl => onTransportControlEvent setup event
  | .invalid => throw (invalidArgument "invalid RNIC network event scope")
  QueueM.modifyQueue fun queue => { queue with lastObservedTimePs := event.eventTimePs }

end SimLLM.Rnic
