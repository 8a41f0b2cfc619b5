import SimLLM.Rnic.NetworkPort
import SimLLM.StateRules
import SimLLM.Table

namespace SimLLM.Rnic

def picosecondsPerSecond : Nat := 10 ^ 12
def ackWireBytes : Nat := 64
def cnpWireBytes : Nat := 64
def byteCreditDenominator : Nat := 8 * picosecondsPerSecond

def wrapAdd (lhs rhs : Nat) : Nat := (lhs + rhs) % 2 ^ 64

def ceilDivide (numerator denominator : Nat) : Nat :=
  numerator / denominator + if numerator % denominator != 0 then 1 else 0

inductive RnicRxServiceMode where
  | fluid | serializedPacketBeats | invalid
  deriving DecidableEq, Repr

inductive RnicRxReadySemantics where
  | continuouslyReady | invalid
  deriving DecidableEq, Repr

structure RnicRxServiceConfig where
  version : Nat := 1
  mode : RnicRxServiceMode := .fluid
  ready : RnicRxReadySemantics := .continuouslyReady
  beatBytes : Nat := 0
  periodPs : Nat := 0
  phasePs : Nat := 0
  tokenCapacityBytes : Nat := 0
  deriving DecidableEq, Repr

inductive RnicTransportService where
  | reliableConnected | unreliable
  deriving DecidableEq, Repr

structure RnicCcNotificationConfig where
  enabled : Bool := false
  thresholdBytes : Nat := 0
  cnpMinIntervalPs : Nat := 0
  deriving DecidableEq, Repr

structure RnicRxPipelineConfig where
  version : Nat := 1
  enabled : Bool := false
  ingressBytes : Nat := 0
  drainBps : Nat := 0
  rcPpsPerQp : Nat := 0
  udPpsPerQp : Nat := 0
  ppsPerNic : Nat := 0
  pauseDiscardInterval : Nat := 64
  notification : RnicCcNotificationConfig := {}
  service : RnicRxServiceConfig := {}
  deriving DecidableEq, Repr

def validateRxService (config : RnicRxPipelineConfig) : Except CppError Unit :=
  let service := config.service
  match service.mode with
  | .fluid =>
    require (service.beatBytes == 0 && service.periodPs == 0 && service.phasePs == 0 &&
        service.tokenCapacityBytes == 0)
      (invalidArgument "fluid receive service has no beat geometry")
  | .serializedPacketBeats => do
    require (service.beatBytes != 0 && service.periodPs != 0 &&
        decide (service.phasePs < service.periodPs) && config.drainBps != 0 &&
        decide (service.beatBytes ≤ service.tokenCapacityBytes))
      (invalidArgument "invalid RNIC serialized receive geometry")
    require (decide (service.tokenCapacityBytes ≤ maxUint64 / byteCreditDenominator))
      (overflowError "RNIC receive token capacity overflow")
    require (decide (config.drainBps ≤
        (maxUint64 - byteCreditDenominator * service.tokenCapacityBytes) / service.periodPs))
      (overflowError "RNIC receive clock refill overflow")
  | .invalid => .error (invalidArgument "unknown RNIC receive service mode")

def validateRnicRxPipelineConfig (config : RnicRxPipelineConfig) : Except CppError Unit := do
  require (config.version == 1)
    (invalidArgument "unsupported RNIC receive pipeline config version")
  require config.enabled (invalidArgument "RNIC receive pipeline config is not enabled")
  require (!(config.ingressBytes != 0 && config.drainBps == 0))
    (invalidArgument "a bounded RNIC ingress buffer needs a positive drain rate")
  require (config.service.version == 1 && config.service.ready == .continuouslyReady)
    (invalidArgument "unsupported RNIC receive service configuration")
  validateRxService config
  require (config.pauseDiscardInterval != 0)
    (invalidArgument "RNIC ingress pause interval must be positive")
  require (!(config.notification.enabled && config.ingressBytes != 0 &&
      decide (config.ingressBytes < config.notification.thresholdBytes)))
    (invalidArgument
      "an RNIC notification threshold above the ingress buffer can never be reached")

structure RateGate where
  rate : Nat := 0
  freeAtPs : Nat := 0
  remainder : Nat := 0
  deriving DecidableEq, Repr

def RateGate.admits (gate : RateGate) (nowPs : Nat) : Bool :=
  gate.rate == 0 || decide (gate.freeAtPs ≤ nowPs)

/-- A charge that overflows the clock has already moved the remainder. -/
def RateGate.charge (nowPs units : Nat) : EStateM CppError RateGate Unit := do
  let gate ← get
  if gate.rate = 0 ∨ units = 0 then pure ()
  else if maxUint64 / picosecondsPerSecond < units then
    throw (overflowError "RNIC receive rate gate unit overflow")
  else if maxUint64 - gate.remainder < picosecondsPerSecond * units then
    throw (overflowError "RNIC receive rate gate remainder overflow")
  else do
    let numerator := picosecondsPerSecond * units + gate.remainder
    let delay := numerator / gate.rate
    let base := max gate.freeAtPs (nowPs - delay)
    set { gate with remainder := numerator % gate.rate }
    if maxUint64 - delay < base then
      throw (overflowError "RNIC receive rate gate timestamp overflow")
    else set { gate with remainder := numerator % gate.rate, freeAtPs := base + delay }

structure QpState where
  service : RnicTransportService := .reliableConnected
  expectedPsn : Nat := 0
  inRecovery : Bool := false
  rate : RateGate := {}
  deriving DecidableEq, Repr

structure SameTimeCredit where
  timestampPs : Nat
  numerator : Nat
  deriving DecidableEq, Repr

structure RnicRxPipelineCounters where
  packetsOffered : Nat := 0
  packetsAdmitted : Nat := 0
  packetsDelivered : Nat := 0
  packetsDiscardedMeter : Nat := 0
  packetsDiscardedRate : Nat := 0
  packetsDiscardedSequence : Nat := 0
  packetsDiscardedDuplicate : Nat := 0
  payloadBytesDelivered : Nat := 0
  wireBytesOffered : Nat := 0
  wireBytesAdmitted : Nat := 0
  acks : Nat := 0
  naks : Nat := 0
  ingressOccupancyBytes : Nat := 0
  ingressHighWatermarkBytes : Nat := 0
  cnpsSent : Nat := 0
  cnpsSuppressed : Nat := 0
  congestionObservations : Nat := 0
  deriving DecidableEq, Repr

structure RnicNicCounters where
  rxPacketsPhy : Nat := 0
  rxBytesPhy : Nat := 0
  rxDiscardsPhy : Nat := 0
  rxPrio0Discards : Nat := 0
  txPauseCtrlPhy : Nat := 0
  txGlobalPause : Nat := 0
  npCnpSent : Nat := 0
  txPacketsPhy : Nat := 0
  txBytesPhy : Nat := 0
  rxWriteRequests : Nat := 0
  duplicateRequest : Nat := 0
  outOfSequence : Nat := 0
  deriving DecidableEq, Repr

structure RnicCcNotificationPoint where
  reopenPs : Table (Nat × Nat) Nat := []
  sent : Nat := 0
  suppressed : Nat := 0
  observed : Nat := 0
  deriving DecidableEq, Repr

structure RnicRxPipeline where
  lastNowPs : Nat := 0
  occupancyBytes : Nat := 0
  drainRemainder : Nat := 0
  serviceRecords : List Nat := []
  nextTickPs : Option Nat := none
  serviceCredit : Nat := 0
  sameTimeCredit : Option SameTimeCredit := none
  serviceBytes : Nat := 0
  discardsSincePause : Nat := 0
  nicRate : RateGate := {}
  notification : RnicCcNotificationPoint := {}
  qps : Table (Nat × Nat) QpState := []
  counters : RnicRxPipelineCounters := {}
  nicCounters : RnicNicCounters := {}
  deriving DecidableEq, Repr

structure RnicRxPacket where
  qpn : Nat := 0
  source : Nat := 0
  psn : Nat := 0
  payloadBytes : Nat := 0
  wireBytes : Nat := 0
  service : RnicTransportService := .reliableConnected
  kind : NetworkPacketKind := .data
  lastOfMessage : Bool := false
  deriving DecidableEq, Repr

def RnicRxPacket.key (packet : RnicRxPacket) : Nat × Nat := (packet.source, packet.qpn)

inductive RnicRxOutcome where
  | delivered | discardedSilently | discardedOutOfSequence | discardedDuplicate
  deriving DecidableEq, Repr

structure RxReply where
  kind : NetworkPacketKind
  psn : Nat
  wireBytes : Nat := ackWireBytes
  deriving DecidableEq, Repr

structure RnicRxResult where
  outcome : RnicRxOutcome
  reply : Option RxReply
  ingressOccupancyBytes : Nat
  cnp : Option (Nat × Nat)
  deriving DecidableEq, Repr

abbrev RxM := EStateM CppError RnicRxPipeline

def rxRequire (holds : Bool) (error : CppError) : RxM Unit :=
  if holds then pure () else throw error

def RnicRxPipeline.make (config : RnicRxPipelineConfig) : Except CppError RnicRxPipeline := do
  validateRnicRxPipelineConfig config
  return { nicRate := { rate := config.ppsPerNic }
           nextTickPs := if config.service.mode = .serializedPacketBeats then
             some config.service.phasePs else none }

section Pipeline

variable (config : RnicRxPipelineConfig)

def serviceCap : Nat := byteCreditDenominator * config.service.tokenCapacityBytes
def serviceRefill : Nat := config.drainBps * config.service.periodPs

def earnedBits (elapsed remainder : Nat) : Nat := wrapAdd (elapsed * config.drainBps) remainder

def drainFluid (nowPs : Nat) (pipeline : RnicRxPipeline) : RnicRxPipeline :=
  let elapsed := nowPs - pipeline.lastNowPs
  let pipeline := { pipeline with lastNowPs := nowPs }
  if config.drainBps = 0 ∨ pipeline.occupancyBytes = 0 then { pipeline with drainRemainder := 0 }
  else if maxUint64 / config.drainBps < elapsed then
    { pipeline with occupancyBytes := 0, drainRemainder := 0 }
  else
    let bitsNumerator := earnedBits config elapsed pipeline.drainRemainder
    let drainedBits := bitsNumerator / picosecondsPerSecond
    let drainedBytes := drainedBits / 8
    if pipeline.occupancyBytes ≤ drainedBytes then
      { pipeline with occupancyBytes := 0, drainRemainder := 0 }
    else
      { pipeline with
        occupancyBytes := pipeline.occupancyBytes - drainedBytes
        drainRemainder := bitsNumerator % picosecondsPerSecond +
          picosecondsPerSecond * (drainedBits % 8) }

def clockAfter (nowPs : Nat) (pipeline : RnicRxPipeline) : RnicRxPipeline :=
  let phase := config.service.phasePs
  let period := config.service.periodPs
  if nowPs < phase then { pipeline with nextTickPs := some phase }
  else
    let distance := period - (nowPs - phase) % period
    if maxUint64 - nowPs < distance then { pipeline with nextTickPs := none }
    else { pipeline with nextTickPs := some (nowPs + distance) }

def accrueServiceCredit (ticks : Nat) (pipeline : RnicRxPipeline) : RnicRxPipeline :=
  let room := serviceCap config - pipeline.serviceCredit
  if ceilDivide room (serviceRefill config) ≤ ticks then
    { pipeline with serviceCredit := serviceCap config }
  else { pipeline with serviceCredit := pipeline.serviceCredit + ticks * serviceRefill config }

def nextServiceTime (pipeline : RnicRxPipeline) (front tick : Nat) : Except CppError Nat := do
  let cost := byteCreditDenominator * min config.service.beatBytes front
  let owed := cost - pipeline.serviceCredit
  let ticks := max 1 (ceilDivide owed (serviceRefill config))
  require (decide (ticks - 1 ≤ (maxUint64 - tick) / config.service.periodPs))
    (overflowError "RNIC receive service timestamp horizon exhausted")
  return tick + (ticks - 1) * config.service.periodPs

def serveBeat (nowPs next tick front : Nat) (rest : List Nat) (pipeline : RnicRxPipeline) :
    RnicRxPipeline :=
  let ticks := (next - tick) / config.service.periodPs + 1
  let credited := accrueServiceCredit config ticks pipeline
  let bytes := min config.service.beatBytes front
  let credit := credited.serviceCredit - byteCreditDenominator * bytes
  let occupancy := credited.occupancyBytes - bytes
  let records := if front - bytes = 0 then rest else (front - bytes) :: rest
  let served := { credited with
    serviceCredit := credit
    occupancyBytes := occupancy
    counters := { credited.counters with ingressOccupancyBytes := occupancy }
    serviceBytes := credited.serviceBytes + bytes
    serviceRecords := records }
  let kept := if records.isEmpty && next == nowPs && credit != 0 then
    { served with sameTimeCredit := some ⟨nowPs, credit⟩ } else served
  clockAfter config next kept

def serveBeats (nowPs : Nat) : Nat → RxM Bool
  | 0 => pure true
  | fuel + 1 => do
    let pipeline ← get
    match pipeline.serviceRecords, pipeline.nextTickPs with
    | front :: rest, some tick =>
      if nowPs < tick then pure true
      else
        match nextServiceTime config pipeline front tick with
        | .error error => throw error
        | .ok next =>
          if nowPs < next then do
            let ticks := (nowPs - tick) / config.service.periodPs + 1
            modify fun pipeline => clockAfter config nowPs (accrueServiceCredit config ticks pipeline)
            pure false
          else do
            modify (serveBeat config nowPs next tick front rest)
            serveBeats nowPs fuel
    | _, _ => pure true

def drainSerializedTo (nowPs : Nat) : RxM Unit := do
  modify fun pipeline => { pipeline with
    sameTimeCredit := pipeline.sameTimeCredit.filter fun credit => !decide (credit.timestampPs < nowPs) }
  let pipeline ← get
  let ended ← serveBeats config nowPs (pipeline.serviceRecords.sum + 1)
  if ended then do
    let pipeline ← get
    rxRequire (pipeline.serviceRecords.isEmpty || pipeline.nextTickPs.isSome)
      (overflowError "RNIC receive service timestamp horizon exhausted")
    if pipeline.serviceRecords.isEmpty then
      modify fun pipeline => clockAfter config nowPs { pipeline with serviceCredit := 0 }
    else pure ()
  else pure ()

def drainTo (nowPs : Nat) : RxM Unit := do
  let pipeline ← get
  rxRequire (decide (pipeline.lastNowPs ≤ nowPs)) (logicError "RNIC receive pipeline time regressed")
  match config.service.mode with
  | .serializedPacketBeats => do
    drainSerializedTo config nowPs
    modify fun pipeline => { pipeline with lastNowPs := nowPs }
  | _ => modify (drainFluid config nowPs)

def rxProgress (nowPs : Nat) : RxM Unit := do
  drainTo config nowPs
  modify fun pipeline => { pipeline with
    counters := { pipeline.counters with ingressOccupancyBytes := pipeline.occupancyBytes } }

def qpState (pipeline : RnicRxPipeline) (packet : RnicRxPacket) : QpState :=
  (pipeline.qps.get? packet.key).getD
    { service := packet.service
      expectedPsn := packet.psn
      rate := { rate := if packet.service = .unreliable then config.udPpsPerQp
        else config.rcPpsPerQp } }

def notePause (pipeline : RnicRxPipeline) : RnicRxPipeline :=
  let discarded := { pipeline with nicCounters := { pipeline.nicCounters with
    rxDiscardsPhy := pipeline.nicCounters.rxDiscardsPhy + 1
    rxPrio0Discards := pipeline.nicCounters.rxPrio0Discards + 1 } }
  let discards := pipeline.discardsSincePause + 1
  if discards < config.pauseDiscardInterval then { discarded with discardsSincePause := discards }
  else { discarded with
    discardsSincePause := 0
    nicCounters := { discarded.nicCounters with
      txPauseCtrlPhy := discarded.nicCounters.txPauseCtrlPhy + 1
      txGlobalPause := discarded.nicCounters.txGlobalPause + 1 } }

def observeNotification (key : Nat × Nat) (occupancyBytes nowPs : Nat) : RxM Bool := do
  let pipeline ← get
  if occupancyBytes < config.notification.thresholdBytes then pure false
  else do
    modify fun pipeline => { pipeline with notification := { pipeline.notification with
      observed := pipeline.notification.observed + 1 } }
    if (pipeline.notification.reopenPs.get? key).any fun reopen => decide (nowPs < reopen) then do
      modify fun pipeline => { pipeline with notification := { pipeline.notification with
        suppressed := pipeline.notification.suppressed + 1 } }
      pure false
    else do
      rxRequire (decide (config.notification.cnpMinIntervalPs ≤ maxUint64 - nowPs))
        (overflowError "RNIC congestion notification timestamp overflow")
      modify fun pipeline => { pipeline with notification := { pipeline.notification with
        reopenPs := pipeline.notification.reopenPs.set key
          (nowPs + config.notification.cnpMinIntervalPs)
        sent := pipeline.notification.sent + 1 } }
      pure true

variable (packet : RnicRxPacket)

def observeCongestion (occupancyBytes nowPs : Nat) :
    RxM (Option (Nat × Nat)) :=
  if config.notification.enabled then do
    let raised ← observeNotification config packet.key occupancyBytes nowPs
    modify fun pipeline => { pipeline with counters := { pipeline.counters with
      cnpsSent := pipeline.notification.sent
      cnpsSuppressed := pipeline.notification.suppressed
      congestionObservations := pipeline.notification.observed } }
    if raised then do
      modify fun pipeline => { pipeline with nicCounters := { pipeline.nicCounters with
        npCnpSent := pipeline.nicCounters.npCnpSent + 1
        txPacketsPhy := pipeline.nicCounters.txPacketsPhy + 1
        txBytesPhy := pipeline.nicCounters.txBytesPhy + cnpWireBytes } }
      pure (some packet.key)
    else pure none
  else pure none

variable (pipeline : RnicRxPipeline)

def noteOffered : RnicRxPipeline :=
  { pipeline with
    counters := { pipeline.counters with
      packetsOffered := pipeline.counters.packetsOffered + 1
      wireBytesOffered := pipeline.counters.wireBytesOffered + packet.wireBytes }
    nicCounters := { pipeline.nicCounters with
      rxPacketsPhy := pipeline.nicCounters.rxPacketsPhy + 1
      rxBytesPhy := pipeline.nicCounters.rxBytesPhy + packet.wireBytes } }

def checkPacket : Except CppError Unit := do
  require (packet.wireBytes != 0 && decide (packet.payloadBytes ≤ packet.wireBytes))
    (invalidArgument "RNIC receive packet has no wire envelope")
  require (!(config.service.mode == .serializedPacketBeats) || (pipeline.nextTickPs.isSome &&
      decide (packet.wireBytes ≤ maxUint64 - pipeline.occupancyBytes) &&
      decide (packet.wireBytes ≤ maxUint64 - pipeline.counters.wireBytesOffered)))
    (overflowError "RNIC serialized receive packet arithmetic overflow")

def meterRefuses : Bool :=
  config.ingressBytes != 0 &&
    decide (config.ingressBytes < wrapAdd pipeline.occupancyBytes packet.wireBytes)

variable (nowPs : Nat)

def ceilingsAdmit (pipeline : RnicRxPipeline) : Bool :=
  (qpState config pipeline packet).rate.admits nowPs && pipeline.nicRate.admits nowPs

def chargeCeilings : RxM Unit := do
  let pipeline ← get
  let qp := qpState config pipeline packet
  let charged := RateGate.charge nowPs 1 qp.rate
  set { pipeline with qps := pipeline.qps.set packet.key { qp with rate := charged.state } }
  match charged with
  | .error error _ => throw error
  | .ok _ _ => do
    let nic := RateGate.charge nowPs 1 pipeline.nicRate
    modify fun pipeline => { pipeline with nicRate := nic.state }
    match nic with
    | .error error _ => throw error
    | .ok _ _ => pure ()

def enterBuffer (pipeline : RnicRxPipeline) :
    RnicRxPipeline :=
  let queued := if config.service.mode = .serializedPacketBeats then
      let pushed := { pipeline with
        serviceRecords := pipeline.serviceRecords ++ [packet.wireBytes] }
      match pipeline.sameTimeCredit with
      | some credit =>
        if credit.timestampPs = nowPs then
          { pushed with serviceCredit := credit.numerator, sameTimeCredit := none }
        else pushed
      | none => pushed
    else pipeline
  let occupancy := wrapAdd pipeline.occupancyBytes packet.wireBytes
  { queued with
    occupancyBytes := occupancy
    counters := { queued.counters with
      ingressHighWatermarkBytes := max queued.counters.ingressHighWatermarkBytes occupancy
      ingressOccupancyBytes := occupancy
      packetsAdmitted := queued.counters.packetsAdmitted + 1
      wireBytesAdmitted := queued.counters.wireBytesAdmitted + packet.wireBytes } }

def sequenceCheck (qp : QpState) : QpState × RnicRxOutcome × Option RxReply :=
  if packet.service = .unreliable then (qp, .delivered, none)
  else if packet.psn = qp.expectedPsn then
    ({ qp with expectedPsn := (qp.expectedPsn + 1) % 2 ^ 32, inRecovery := false }, .delivered,
      some { kind := .ack, psn := packet.psn })
  else if packet.psn < qp.expectedPsn then
    (qp, .discardedDuplicate, some { kind := .ack, psn := qp.expectedPsn - 1 })
  else if !qp.inRecovery || packet.kind == .retransmission then
    ({ qp with inRecovery := true }, .discardedOutOfSequence,
      some { kind := .nak, psn := qp.expectedPsn })
  else (qp, .discardedOutOfSequence, none)

def noteOutcome (outcome : RnicRxOutcome) (reply : Option RxReply) (pipeline : RnicRxPipeline) :
    RnicRxPipeline :=
  let counters := pipeline.counters
  let nic := pipeline.nicCounters
  let counted := match outcome with
    | .delivered => { counters with
        packetsDelivered := counters.packetsDelivered + 1
        payloadBytesDelivered := counters.payloadBytesDelivered + packet.payloadBytes }
    | .discardedDuplicate => { counters with
        packetsDiscardedDuplicate := counters.packetsDiscardedDuplicate + 1 }
    | .discardedOutOfSequence => { counters with
        packetsDiscardedSequence := counters.packetsDiscardedSequence + 1 }
    | .discardedSilently => counters
  let seen := match outcome with
    | .delivered => if packet.lastOfMessage then
        { nic with rxWriteRequests := nic.rxWriteRequests + 1 } else nic
    | .discardedDuplicate => { nic with duplicateRequest := nic.duplicateRequest + 1 }
    | .discardedOutOfSequence => if reply.isSome then
        { nic with outOfSequence := nic.outOfSequence + 1 } else nic
    | .discardedSilently => nic
  match reply with
  | none => { pipeline with counters := counted, nicCounters := seen }
  | some reply => { pipeline with
      counters := if reply.kind = .nak then { counted with naks := counted.naks + 1 }
        else { counted with acks := counted.acks + 1 }
      nicCounters := { seen with
        txPacketsPhy := seen.txPacketsPhy + 1, txBytesPhy := seen.txBytesPhy + ackWireBytes } }

structure IngressVerdict where
  refused : Bool
  occupancyBytes : Nat
  cnp : Option (Nat × Nat)
  deriving DecidableEq, Repr

def ingress : RxM IngressVerdict := do
  drainTo config nowPs
  let pipeline ← get
  match checkPacket config packet pipeline with
  | .error error => throw error
  | .ok _ => do
    modify (noteOffered packet)
    let cnp ← observeCongestion config packet
      (wrapAdd pipeline.occupancyBytes packet.wireBytes) nowPs
    pure ⟨meterRefuses config packet pipeline, pipeline.occupancyBytes, cnp⟩

def openQp : RnicRxPipeline :=
  { pipeline with qps := pipeline.qps.set packet.key (qpState config pipeline packet) }

def acceptPacket (cnp : Option (Nat × Nat)) :
    RxM RnicRxResult := do
  modify (enterBuffer config packet nowPs)
  let pipeline ← get
  let (qp, outcome, reply) := sequenceCheck packet (qpState config pipeline packet)
  set (noteOutcome packet outcome reply { pipeline with qps := pipeline.qps.set packet.key qp })
  pure ⟨outcome, reply, pipeline.occupancyBytes, cnp⟩

def receiveProcessor (cnp : Option (Nat × Nat)) :
    RxM RnicRxResult := do
  modify (openQp config packet)
  let pipeline ← get
  if ceilingsAdmit config packet nowPs pipeline then do
    chargeCeilings config packet nowPs
    acceptPacket config packet nowPs cnp
  else do
    modify fun pipeline => notePause config { pipeline with counters := { pipeline.counters with
      packetsDiscardedRate := pipeline.counters.packetsDiscardedRate + 1 } }
    pure ⟨.discardedSilently, none, pipeline.occupancyBytes, cnp⟩

def onPacket : RxM RnicRxResult := do
  let verdict ← ingress config packet nowPs
  if verdict.refused then do
    modify fun pipeline => notePause config { pipeline with counters := { pipeline.counters with
      packetsDiscardedMeter := pipeline.counters.packetsDiscardedMeter + 1 } }
    pure ⟨.discardedSilently, none, verdict.occupancyBytes, verdict.cnp⟩
  else receiveProcessor config packet nowPs verdict.cnp

end Pipeline

end SimLLM.Rnic
