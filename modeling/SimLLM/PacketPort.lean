import SimLLM.Table
import SimLLM.Schedule

namespace SimLLM

inductive PacketEventKind where
  | txStarted | txFinished | rxArrived | delivered | dropped
  deriving DecidableEq, Repr

inductive PacketKind where
  | data | retransmission | ack | nak | cnp | pfc | otherControl
  deriving DecidableEq, Repr

def PacketKind.isData : PacketKind → Bool
  | .data | .retransmission => true
  | _ => false

inductive TxStartBoundary where
  | producerIssue | linkGrant
  deriving DecidableEq, Repr

inductive OrderEvidence where
  | liveCallbacks | separateArrays
  deriving DecidableEq, Repr

structure PacketPortContext where
  sessionId : String
  portId : String
  abiVersion : Nat := 2
  packetAttemptEvents : Bool := true
  txStartBoundary : TxStartBoundary := .producerIssue
  clockId : String := "simulation"
  linkIds : List String := []
  eventOrderEvidence : OrderEvidence := .liveCallbacks
  packetKinds : List PacketKind := [.data, .retransmission, .ack, .nak, .otherControl]
  named : nonblank sessionId = true ∧ nonblank portId = true ∧ nonblank clockId = true
  abi_known : abiVersion = 1 ∨ abiVersion = 2
  links_named : ∀ link ∈ linkIds, nonblank link = true
  links_distinct : linkIds.Nodup
  kinds_declared : packetKinds ≠ []
  kinds_distinct : packetKinds.Nodup

def PacketPortContext.supported (context : PacketPortContext) (capability : String) : Bool :=
  if capability = "packet_attempt_events" then context.packetAttemptEvents
  else if capability = "priority_flow_control" then
    context.packetAttemptEvents && context.packetKinds.contains .pfc
  else if capability = "congestion_notification" then
    context.packetAttemptEvents && context.packetKinds.contains .cnp
  else false

def PacketPortContext.requires (context : PacketPortContext) (capabilities : List String) :
    Except PyError Unit := do
  require (context.abiVersion == 2)
    (packetPortError "packet consumer requires explicit ABI version 2")
  capabilities.forM fun capability => require (context.supported capability)
    (packetPortError "port {} does not support {}" [context.portId, capability])

structure PacketExtentAdmission where
  extentToken : Nat
  producerId : Nat
  payloadBytes : Nat
  eligibleAtPs : Nat
  extentIndex : Nat := 0
  positive : 1 ≤ extentToken ∧ 1 ≤ producerId ∧ 1 ≤ payloadBytes
  bounded : extentToken < 2 ^ 64 ∧ producerId < 2 ^ 64 ∧ payloadBytes < 2 ^ 64 ∧
    eligibleAtPs < 2 ^ 64 ∧ extentIndex < 2 ^ 32

structure PacketAttemptEvent where
  attemptToken : Nat
  extentToken : Nat
  wqeId : Nat
  eventKind : PacketEventKind
  eventTimePs : Nat
  extentIndex : Nat
  packetIndex : Nat
  transmissionAttempt : Nat
  payloadOffsetBytes : Nat
  payloadBytes : Nat
  wireBytes : Nat
  packetKind : PacketKind
  positive : 1 ≤ attemptToken ∧ 1 ≤ extentToken ∧ 1 ≤ wqeId ∧ 1 ≤ wireBytes
  bounded : attemptToken < 2 ^ 64 ∧ extentToken < 2 ^ 64 ∧ wqeId < 2 ^ 64 ∧ wireBytes < 2 ^ 64 ∧
    eventTimePs < 2 ^ 64 ∧ packetIndex < 2 ^ 64 ∧ payloadOffsetBytes < 2 ^ 64 ∧
    payloadBytes < 2 ^ 64 ∧ extentIndex < 2 ^ 32 ∧ transmissionAttempt < 2 ^ 32
  no_alias : attemptToken ≠ extentToken
  wire_covers : payloadBytes ≤ wireBytes

def PacketAttemptEvent.attemptId (event : PacketAttemptEvent) : Nat × Nat × Nat :=
  (event.extentToken, event.packetIndex, event.transmissionAttempt)

def PacketAttemptEvent.logicalId (event : PacketAttemptEvent) : Nat × Nat :=
  (event.extentToken, event.packetIndex)

def PacketAttemptEvent.geometry (event : PacketAttemptEvent) :
    Nat × Nat × Nat × Nat × Nat × Nat × Nat × Nat × PacketKind :=
  (event.extentToken, event.wqeId, event.extentIndex, event.packetIndex, event.transmissionAttempt,
    event.payloadOffsetBytes, event.payloadBytes, event.wireBytes, event.packetKind)

inductive ExtentOutcome where
  | delivered | dropped
  deriving DecidableEq, Repr

structure PacketExtentTerminal where
  extentToken : Nat
  producerId : Nat
  kind : ExtentOutcome
  atPs : Nat
  positive : 1 ≤ extentToken ∧ 1 ≤ producerId
  bounded : extentToken < 2 ^ 64 ∧ producerId < 2 ^ 64 ∧ atPs < 2 ^ 64

structure PacketAttempt where
  first : PacketAttemptEvent
  lastKind : PacketEventKind
  lastTimePs : Nat
  terminal : Bool := false

structure PacketPortLedger where
  context : PacketPortContext
  admissions : Table Nat PacketExtentAdmission := []
  terminals : Table Nat PacketExtentTerminal := []
  attempts : Table Nat PacketAttempt := []
  attemptIds : List (Nat × Nat × Nat) := []
  logicalGeometry : Table (Nat × Nat) (Nat × Nat) := []
  events : List PacketAttemptEvent := []
  lastCallbackAtPs : Nat := 0

def PacketPortLedger.new (context : PacketPortContext) : Except PyError PacketPortLedger := do
  context.requires ["packet_attempt_events"]
  return { context := context }

def PacketPortLedger.checkCallbackTime (ledger : PacketPortLedger) (atPs : Nat) :
    Except PyError Unit :=
  require (ledger.context.eventOrderEvidence != .liveCallbacks || ledger.lastCallbackAtPs ≤ atPs)
    (packetPortError "live callback time moved backwards")

def PacketPortLedger.admitExtent (value : PacketExtentAdmission) :
    EStateM PyError PacketPortLedger Unit := do
  let ledger ← get
  liftExcept (require ((ledger.admissions.get? value.extentToken).isNone &&
      (ledger.attempts.get? value.extentToken).isNone)
    (packetPortError "extent token was already used in this session"))
  modify fun ledger =>
    { ledger with admissions := ledger.admissions.set value.extentToken value }

def checkPayload (admission : PacketExtentAdmission) (event : PacketAttemptEvent) :
    Except PyError Unit :=
  if event.packetKind.isData then do
    require (0 < event.payloadBytes) (packetPortError "data packet has no payload")
    require (event.payloadOffsetBytes + event.payloadBytes ≤ admission.payloadBytes)
      (packetPortError "packet range exceeds admitted payload")
  else
    require (event.payloadBytes == 0)
      (packetPortError "control packets cannot carry logical extent payload")

def PacketPortLedger.startAttempt (ledger : PacketPortLedger) (event : PacketAttemptEvent) :
    Except PyError PacketAttempt := do
  require (event.eventKind == .txStarted)
    (packetPortError "new attempt must start before other events")
  require (ledger.admissions.get? event.attemptToken).isNone
    (packetPortError "attempt token aliases an extent")
  require (!ledger.attemptIds.contains event.attemptId)
    (packetPortError "attempt identity has a second token")
  require ((ledger.logicalGeometry.get? event.logicalId).all
      (· == (event.payloadOffsetBytes, event.payloadBytes)))
    (packetPortError "retry changed its logical packet range")
  return { first := event, lastKind := event.eventKind, lastTimePs := event.eventTimePs }

def PacketEventKind.allowedNext : PacketEventKind → List PacketEventKind
  | .txStarted => [.txFinished, .dropped]
  | .txFinished => [.rxArrived, .dropped]
  | .rxArrived => [.delivered, .dropped]
  | .delivered | .dropped => []

def continueAttempt (attempt : PacketAttempt) (event : PacketAttemptEvent) :
    Except PyError PacketAttempt := do
  require (!attempt.terminal) (packetPortError "packet has a duplicate or post-terminal event")
  require (attempt.first.geometry == event.geometry)
    (packetPortError "packet attempt geometry changed")
  require (attempt.lastTimePs ≤ event.eventTimePs)
    (packetPortError "packet event time moved backwards")
  require (attempt.lastKind.allowedNext.contains event.eventKind)
    (packetPortError "packet lifecycle order is invalid")
  return { attempt with
    lastKind := event.eventKind
    lastTimePs := event.eventTimePs
    terminal := event.eventKind == .delivered || event.eventKind == .dropped }

def PacketPortLedger.checkObservation (ledger : PacketPortLedger) (event : PacketAttemptEvent) :
    Except PyError PacketAttempt := do
  require (ledger.context.packetKinds.contains event.packetKind)
    (packetPortError "port does not advertise this packet kind")
  ledger.checkCallbackTime event.eventTimePs
  require (ledger.events.getLast?.all (·.eventTimePs ≤ event.eventTimePs))
    (packetPortError "packet event array time moved backwards")
  match ledger.admissions.get? event.extentToken with
  | none => .error (packetPortError "packet has no admitted parent")
  | some admission => do
    require (ledger.terminals.get? event.extentToken).isNone
      (packetPortError "packet follows parent transport retirement")
    require (event.wqeId == admission.producerId && event.extentIndex == admission.extentIndex)
      (packetPortError "packet changed its producer or extent identity")
    require (admission.eligibleAtPs ≤ event.eventTimePs)
      (packetPortError "packet precedes extent eligibility")
    checkPayload admission event
    match ledger.attempts.get? event.attemptToken with
    | none => ledger.startAttempt event
    | some attempt => continueAttempt attempt event

def PacketPortLedger.observe (event : PacketAttemptEvent) :
    EStateM PyError PacketPortLedger Unit := do
  let ledger ← get
  let updated ← liftExcept (ledger.checkObservation event)
  modify fun ledger =>
    { ledger with attempts := ledger.attempts.set event.attemptToken updated }
  modify fun ledger => { ledger with attemptIds := ledger.attemptIds.insert event.attemptId }
  if event.packetKind.isData then
    modify fun ledger => { ledger with
      logicalGeometry := ledger.logicalGeometry.set event.logicalId
        (event.payloadOffsetBytes, event.payloadBytes) }
  modify fun ledger => { ledger with events := ledger.events ++ [event] }
  modify fun ledger =>
    { ledger with lastCallbackAtPs := max ledger.lastCallbackAtPs event.eventTimePs }

abbrev PacketRange := Nat × Nat × Nat

def deliveredRanges (children : List PacketAttempt) : List PacketRange :=
  ((children.filter fun child => child.lastKind == .delivered && child.first.packetKind.isData).map
    fun child => (child.first.packetIndex, child.first.payloadOffsetBytes,
      child.first.payloadBytes)).dedup

def coverFrom (cursor : Nat) (range : PacketRange) : Except PyError Nat := do
  require (range.2.1 == cursor)
    (packetPortError "successful payload ranges contain a gap or conflicting overlap")
  return cursor + range.2.2

def checkCoverage (admission : PacketExtentAdmission) (children : List PacketAttempt) :
    Except PyError Unit := do
  let ranges := (deliveredRanges children).insertionSort fun a b =>
    toLex (a.2.1, a.1) ≤ toLex (b.2.1, b.1)
  let cursor ← ranges.foldlM coverFrom 0
  require (cursor == admission.payloadBytes)
    (packetPortError "delivered extent lacks complete successful payload coverage")

def PacketPortLedger.children (ledger : PacketPortLedger) (extentToken : Nat) :
    List PacketAttempt :=
  ledger.attempts.values.filter (·.first.extentToken == extentToken)

def PacketPortLedger.checkRetirement (ledger : PacketPortLedger) (terminal : PacketExtentTerminal) :
    Except PyError Unit := do
  ledger.checkCallbackTime terminal.atPs
  match ledger.admissions.get? terminal.extentToken with
  | none => .error (packetPortError "extent terminal has no admitted owner")
  | some admission => do
    require (ledger.terminals.get? terminal.extentToken).isNone
      (packetPortError "duplicate extent terminal")
    require (terminal.producerId == admission.producerId)
      (packetPortError "terminal changed its producer identity")
    require (admission.eligibleAtPs ≤ terminal.atPs)
      (packetPortError "terminal precedes eligibility")
    let children := ledger.children terminal.extentToken
    require (children.all fun child => child.terminal && child.lastTimePs ≤ terminal.atPs)
      (packetPortError "parent retires before an outstanding child")
    if terminal.kind = .delivered then checkCoverage admission children else pure ()

def PacketPortLedger.retire (terminal : PacketExtentTerminal) :
    EStateM PyError PacketPortLedger Unit := do
  let ledger ← get
  liftExcept (ledger.checkRetirement terminal)
  modify fun ledger =>
    { ledger with terminals := ledger.terminals.set terminal.extentToken terminal }
  modify fun ledger =>
    { ledger with lastCallbackAtPs := max ledger.lastCallbackAtPs terminal.atPs }

inductive PortCall where
  | admission (value : PacketExtentAdmission)
  | observe (event : PacketAttemptEvent)
  | retire (terminal : PacketExtentTerminal)

def PortCall.apply : PortCall → EStateM PyError PacketPortLedger Unit
  | .admission value => PacketPortLedger.admitExtent value
  | .observe event => PacketPortLedger.observe event
  | .retire terminal => PacketPortLedger.retire terminal

end SimLLM
