import SimLLM.FluidMeter
import SimLLM.Rnic.ReliableReceive

namespace SimLLM.Rnic

open List EStateM

variable {config : RnicRxPipelineConfig} {packet : RnicRxPacket} {nowPs : Nat}
variable {pipeline : RnicRxPipeline}

def notificationHolds (config : RnicRxPipelineConfig) (packet : RnicRxPacket)
    (occupancyBytes nowPs : Nat) (pipeline : RnicRxPipeline) : Bool :=
  !config.notification.enabled || decide (occupancyBytes < config.notification.thresholdBytes) ||
    (pipeline.notification.reopenPs.get? packet.key).any (fun reopen => decide (nowPs < reopen)) ||
    decide (config.notification.cnpMinIntervalPs ≤ maxUint64 - nowPs)

def Offered (config : RnicRxPipelineConfig) (packet : RnicRxPacket) (occupancyBytes nowPs : Nat)
    (pipeline : RnicRxPipeline) : Prop :=
  (packet.wireBytes ≠ 0 ∧ packet.payloadBytes ≤ packet.wireBytes) ∧
    notificationHolds config packet occupancyBytes nowPs pipeline = true

variable {occupancyBytes : Nat}

theorem observeNotification_ends (henabled : config.notification.enabled) :
    (observeNotification config packet.key occupancyBytes nowPs pipeline).Ends
      (fun _ _ => notificationHolds config packet occupancyBytes nowPs pipeline = true)
      (fun _ => notificationHolds config packet occupancyBytes nowPs pipeline = false) := by
  apply ends_get_bind
  split
  next hbelow => exact ends_pure (by simp [notificationHolds, hbelow])
  next hreached =>
    apply ends_bind
    apply ends_modify
    split
    next hclosed =>
      apply ends_bind
      apply ends_modify
      exact ends_pure (by simp [notificationHolds, hclosed])
    next hopen =>
      apply ends_bind
      unfold rxRequire
      split
      next hclock =>
        apply ends_pure
        apply ends_bind
        apply ends_modify
        exact ends_pure (by simp [notificationHolds, of_decide_eq_true hclock])
      next hclock =>
        refine ends_throw ?_
        simp only [notificationHolds, henabled, decide_eq_false hreached, hclock,
          Bool.not_eq_true _ ▸ hopen]
        rfl

theorem observeCongestion_ends :
    (observeCongestion config packet occupancyBytes nowPs pipeline).Ends
      (fun _ _ => notificationHolds config packet occupancyBytes nowPs pipeline = true)
      (fun _ => notificationHolds config packet occupancyBytes nowPs pipeline = false) := by
  unfold observeCongestion
  split
  next henabled =>
    refine (observeNotification_ends henabled).bind ?_
    intro raised _ hholds
    apply ends_bind
    apply ends_modify
    split
    · apply ends_bind
      apply ends_modify
      exact ends_pure hholds
    · exact ends_pure hholds
  next hdisabled => exact ends_pure (by simp [notificationHolds, hdisabled])

inductive MeterEffect (config : RnicRxPipelineConfig) (drained : RnicRxPipeline)
    (packet : RnicRxPacket) (nowPs : Nat) (after : RnicRxPipeline) :
    Option RnicRxResult → Prop where
  | unoffered
      (offered : ¬ Offered config packet (wrapAdd drained.occupancyBytes packet.wireBytes) nowPs
        drained)
      (kept : after.metered = drained.metered) :
      MeterEffect config drained packet nowPs after none
  | refused {answer : RnicRxResult}
      (offered : Offered config packet (wrapAdd drained.occupancyBytes packet.wireBytes) nowPs
        drained)
      (refuses : meterRefuses config packet drained = true)
      (kept : after.metered = { drained.metered with
        discardedMeter := drained.metered.discardedMeter + 1 })
      (silent : answer.outcome = .discardedSilently)
      (seen : answer.ingressOccupancyBytes = drained.occupancyBytes) :
      MeterEffect config drained packet nowPs after (some answer)
  | limited {answer : RnicRxResult}
      (offered : Offered config packet (wrapAdd drained.occupancyBytes packet.wireBytes) nowPs
        drained)
      (passes : meterRefuses config packet drained = false)
      (ceilings : ceilingsAdmit config packet nowPs drained = false)
      (kept : after.metered = { drained.metered with
        discardedRate := drained.metered.discardedRate + 1 })
      (silent : answer.outcome = .discardedSilently)
      (seen : answer.ingressOccupancyBytes = drained.occupancyBytes) :
      MeterEffect config drained packet nowPs after (some answer)
  | overcharged
      (offered : Offered config packet (wrapAdd drained.occupancyBytes packet.wireBytes) nowPs
        drained)
      (passes : meterRefuses config packet drained = false)
      (ceilings : ceilingsAdmit config packet nowPs drained = true)
      (charges : chargesHold config packet nowPs drained = false)
      (kept : after.metered = drained.metered) :
      MeterEffect config drained packet nowPs after none
  | admitted {answer : RnicRxResult}
      (offered : Offered config packet (wrapAdd drained.occupancyBytes packet.wireBytes) nowPs
        drained)
      (passes : meterRefuses config packet drained = false)
      (ceilings : ceilingsAdmit config packet nowPs drained = true)
      (charges : chargesHold config packet nowPs drained = true)
      (kept : after.metered = { drained.metered with
        occupancyBytes := wrapAdd drained.occupancyBytes packet.wireBytes
        highWatermarkBytes := max drained.metered.highWatermarkBytes
          (wrapAdd drained.occupancyBytes packet.wireBytes) })
      (entered : answer.outcome ≠ .discardedSilently)
      (seen : answer.ingressOccupancyBytes = wrapAdd drained.occupancyBytes packet.wireBytes) :
      MeterEffect config drained packet nowPs after (some answer)

theorem notePause_metered : (notePause config pipeline).metered = pipeline.metered := by
  simp only [notePause]
  split <;> rfl

theorem noteOutcome_metered {outcome : RnicRxOutcome} {reply : Option RxReply} :
    (noteOutcome packet outcome reply pipeline).metered = pipeline.metered := by
  cases outcome <;> cases reply <;> simp only [noteOutcome] <;> first | rfl | (split <;> rfl)

theorem sequenceCheck_entered {qp : QpState} :
    (sequenceCheck packet qp).2.1 ≠ .discardedSilently := by
  unfold sequenceCheck
  split
  · simp
  · split
    · simp
    · split
      · simp
      · split <;> simp

section

variable (hmode : config.service.mode = .fluid)

include hmode

variable {cnp : Option (Nat × Nat)}

theorem acceptPacket_metered :
    ∃ answer after, acceptPacket config packet nowPs cnp pipeline = .ok answer after ∧
      after.metered = { pipeline.metered with
        occupancyBytes := wrapAdd pipeline.occupancyBytes packet.wireBytes
        highWatermarkBytes := max pipeline.metered.highWatermarkBytes
          (wrapAdd pipeline.occupancyBytes packet.wireBytes) } ∧
      answer.outcome ≠ .discardedSilently ∧
      answer.ingressOccupancyBytes = wrapAdd pipeline.occupancyBytes packet.wireBytes := by
  refine ⟨_, _, rfl, ?_, sequenceCheck_entered, rfl⟩
  rw [noteOutcome_metered]
  simp [enterBuffer, hmode, RnicRxPipeline.metered]

theorem drainTo_fluid (hnow : pipeline.lastNowPs ≤ nowPs) :
    drainTo config nowPs pipeline = .ok () (drainFluid config nowPs pipeline) := by
  show (if decide (pipeline.lastNowPs ≤ nowPs) then _ else _ : RxM Unit).bind _ pipeline = _
  rw [if_pos (decide_eq_true hnow), hmode]
  rfl

theorem checkPacket_fluid : checkPacket config packet pipeline = .ok () ↔
      packet.wireBytes ≠ 0 ∧ packet.payloadBytes ≤ packet.wireBytes := by
  unfold checkPacket
  rw [Except.bind_eq_ok]
  simp [hmode, require_eq_ok]

theorem receiveProcessor_metered {noticed : RnicRxPipeline}
    (hnoticed : noticed.standing = pipeline.standing)
    (hoffered : Offered config packet (wrapAdd pipeline.occupancyBytes packet.wireBytes)
      nowPs pipeline)
    (hpasses : meterRefuses config packet pipeline = false) :
    MeterEffect config pipeline packet nowPs
      (receiveProcessor config packet nowPs cnp noticed).state
      (answerOf (receiveProcessor config packet nowPs cnp noticed)) := by
  obtain ⟨hqps, hrest⟩ := Prod.mk.inj hnoticed
  obtain ⟨hnic, hmetered⟩ := Prod.mk.inj hrest
  let opened := openQp config packet noticed
  have hopened : opened.metered = pipeline.metered := hmetered
  have hoccupancy := congrArg MeteredPart.occupancyBytes hmetered
  have hqp : qpState config opened packet = qpState config pipeline packet := by
    rw [qpState_of_get? openQp_get?, qpState_congr hqps]
  obtain ⟨hceilings, hcharges⟩ : ceilingsAdmit config packet nowPs opened =
        ceilingsAdmit config packet nowPs pipeline ∧
      chargesHold config packet nowPs opened = chargesHold config packet nowPs pipeline := by
    unfold ceilingsAdmit chargesHold
    rw [hqp, show opened.nicRate = pipeline.nicRate from hnic]
    exact ⟨rfl, rfl⟩
  by_cases hadmits : ceilingsAdmit config packet nowPs opened = true
  · rw [receiveProcessor_admitted hadmits]
    have hends := @chargeCeilings_ends config packet nowPs opened
    cases hcharge : chargeCeilings config packet nowPs opened with
    | error error failed =>
      rw [hcharge] at hends
      rw [bind_of_error hcharge]
      exact .overcharged hoffered hpasses (hceilings ▸ hadmits) (hcharges ▸ hends.1)
        (hends.2.1.trans hopened)
    | ok _ charged =>
      rw [hcharge] at hends
      obtain ⟨hholds, hkept, -⟩ := hends
      rw [bind_of_ok hcharge]
      obtain ⟨answer, after, haccept, hafter, hentered, hseen⟩ :=
        @acceptPacket_metered config packet nowPs charged hmode cnp
      have hcharged := hkept.trans hopened
      have hbytes : charged.occupancyBytes = pipeline.occupancyBytes :=
        congrArg MeteredPart.occupancyBytes hcharged
      rw [hcharged, hbytes] at hafter
      rw [hbytes] at hseen
      rw [haccept]
      exact .admitted hoffered hpasses (hceilings ▸ hadmits) (hcharges ▸ hholds)
        hafter hentered hseen
  · rw [receiveProcessor_limited hadmits]
    refine .limited hoffered hpasses (hceilings ▸ Bool.not_eq_true _ ▸ hadmits) ?_ rfl hoccupancy
    show (notePause config _).metered = _
    rw [notePause_metered, ← hopened]
    rfl

theorem onPacket_metered (hnow : pipeline.lastNowPs ≤ nowPs) :
    MeterEffect config (drainFluid config nowPs pipeline) packet nowPs
      (onPacket config packet nowPs pipeline).state
      (answerOf (onPacket config packet nowPs pipeline)) := by
  let drained := drainFluid config nowPs pipeline
  let sum := wrapAdd drained.occupancyBytes packet.wireBytes
  have hdrain := drainTo_fluid hmode hnow
  have hget : (get : RxM RnicRxPipeline) drained = .ok drained drained := rfl
  cases hcheck : checkPacket config packet drained with
  | error error =>
    have hingress : ingress config packet nowPs pipeline = .error error drained := by
      unfold ingress
      rw [bind_of_ok hdrain, bind_of_ok hget]
      simp only [hcheck]
      rfl
    rw [onPacket_thrown hingress]
    refine .unoffered (fun hoffered => ?_) rfl
    rw [(checkPacket_fluid hmode).mpr hoffered.1] at hcheck
    cases hcheck
  | ok _ =>
    have henvelope := (checkPacket_fluid hmode).mp hcheck
    let counted := noteOffered packet drained
    have hingress : ingress config packet nowPs pipeline =
        (observeCongestion config packet sum nowPs >>= fun cnp =>
          pure ⟨meterRefuses config packet drained, drained.occupancyBytes, cnp⟩ :
          RxM IngressVerdict) counted := by
      unfold ingress
      rw [bind_of_ok hdrain, bind_of_ok hget]
      simp only [hcheck]
      rfl
    have hends := @observeCongestion_ends config packet nowPs counted sum
    have hkeeps := @keeps_observeCongestion config packet nowPs sum counted
    cases hobserve : observeCongestion config packet sum nowPs counted with
    | error error failed =>
      rw [hobserve] at hends hkeeps
      rw [bind_of_error hobserve] at hingress
      rw [onPacket_thrown hingress]
      refine .unoffered (fun hoffered => ?_) (congrArg (·.2.2) hkeeps)
      have hclock : notificationHolds config packet sum nowPs drained = false := hends
      rw [hoffered.2] at hclock
      cases hclock
    | ok cnp noticed =>
      rw [hobserve] at hends hkeeps
      rw [bind_of_ok hobserve] at hingress
      have hoffered : Offered config packet sum nowPs drained := ⟨henvelope, hends⟩
      by_cases hrefuses : meterRefuses config packet drained = true
      · rw [onPacket_refused hingress hrefuses]
        refine .refused hoffered hrefuses ?_ rfl rfl
        show (notePause config _).metered = _
        rw [notePause_metered]
        have hmetered : noticed.metered = drained.metered := congrArg (·.2.2) hkeeps
        rw [← hmetered]
        rfl
      · rw [onPacket_passed hingress hrefuses]
        exact receiveProcessor_metered hmode hkeeps hoffered (Bool.not_eq_true _ ▸ hrefuses)

end

def RnicRxPipeline.carried (pipeline : RnicRxPipeline) : CarriedMeter :=
  ⟨pipeline.occupancyBytes, pipeline.drainRemainder, pipeline.lastNowPs⟩

def MeteredPart.carried (part : MeteredPart) : CarriedMeter :=
  ⟨part.occupancyBytes, part.drainRemainder, part.lastNowPs⟩

def earnedSince (config : RnicRxPipelineConfig) (pipeline : RnicRxPipeline) (nowPs : Nat) : Nat :=
  pipeline.carried.earned config.drainBps nowPs

def leftBytes (config : RnicRxPipelineConfig) (pipeline : RnicRxPipeline) (nowPs : Nat) : Nat :=
  pipeline.occupancyBytes - earnedSince config pipeline nowPs / byteCreditDenominator

/-- The drain stays in 64 bits, or the gap that does not empties the buffer at the configured rate
as well. -/
def DrainFits (config : RnicRxPipelineConfig) (pipeline : RnicRxPipeline) (nowPs : Nat) : Prop :=
  config.drainBps = 0 ∨ pipeline.occupancyBytes = 0 ∨ earnedSince config pipeline nowPs ≤ maxUint64 ∨
    maxUint64 / config.drainBps < nowPs - pipeline.lastNowPs ∧ leftBytes config pipeline nowPs = 0

theorem byteCreditDenominator_pos : 0 < byteCreditDenominator := by decide

theorem drainFluid_last : (drainFluid config nowPs pipeline).lastNowPs = nowPs := by
  obtain ⟨level, -, owed, h⟩ := @drainFluid_eq config nowPs pipeline
  rw [h]

theorem drainFluid_carried (hrate : config.drainBps ≠ 0) (hbusy : pipeline.occupancyBytes ≠ 0)
    (hsmall : earnedSince config pipeline nowPs ≤ maxUint64) :
    (drainFluid config nowPs pipeline).carried =
      pipeline.carried.advance config.drainBps byteCreditDenominator nowPs := by
  have hearned : earnedSince config pipeline nowPs =
      (nowPs - pipeline.lastNowPs) * config.drainBps + pipeline.drainRemainder := rfl
  have hgap : ¬ maxUint64 / config.drainBps < nowPs - pipeline.lastNowPs := by
    rw [Nat.not_lt, Nat.le_div_iff_mul_le (Nat.pos_of_ne_zero hrate)]
    omega
  have hbits : earnedBits config (nowPs - pipeline.lastNowPs) pipeline.drainRemainder =
      earnedSince config pipeline nowPs := by
    exact Nat.mod_eq_of_lt (by have : maxUint64 < 2 ^ 64 := by decide
                               omega)
  have hbytes : earnedSince config pipeline nowPs / picosecondsPerSecond / 8 =
      earnedSince config pipeline nowPs / byteCreditDenominator := by
    rw [Nat.div_div_eq_div_mul, Nat.mul_comm]
    rfl
  have howed : earnedSince config pipeline nowPs % picosecondsPerSecond +
      picosecondsPerSecond * (earnedSince config pipeline nowPs / picosecondsPerSecond % 8) =
      earnedSince config pipeline nowPs % byteCreditDenominator := by
    rw [← Nat.mod_mul, Nat.mul_comm]
    rfl
  unfold CarriedMeter.advance
  rw [show pipeline.carried.earned config.drainBps nowPs =
    earnedSince config pipeline nowPs from rfl,
    show pipeline.carried.level = pipeline.occupancyBytes from rfl]
  simp only [drainFluid]
  rw [if_neg (by simp [hrate, hbusy]), if_neg hgap, hbits, hbytes, howed]
  split <;> rfl

section Drain

variable {meter : FluidMeter}
  (h : pipeline.carried.Tracks config.drainBps byteCreditDenominator meter)
  (hnow : pipeline.lastNowPs ≤ nowPs)

include h hnow

theorem leftBytes_eq :
    leftBytes config pipeline nowPs = meter.level config.drainBps byteCreditDenominator nowPs :=
  (h.level_at byteCreditDenominator_pos hnow).symm

theorem drainFluid_tracks (hfits : DrainFits config pipeline nowPs) :
    (drainFluid config nowPs pipeline).carried.Tracks config.drainBps byteCreditDenominator
      meter := by
  have hadvance := h.advance byteCreditDenominator_pos hnow
  by_cases hidle : config.drainBps = 0 ∨ pipeline.occupancyBytes = 0
  · -- an idle meter, or one without a rate, owes nothing
    have howed : pipeline.drainRemainder = 0 := by
      by_cases hlevel : pipeline.carried.level = 0
      · exact (h.empty hlevel).1
      · have howes := (h.busy hlevel).2
        rw [hidle.resolve_right hlevel, Nat.zero_mul, Nat.zero_mod] at howes
        exact howes
    have hcarried : (drainFluid config nowPs pipeline).carried =
        pipeline.carried.advance config.drainBps byteCreditDenominator nowPs := by
      simp only [drainFluid, RnicRxPipeline.carried, CarriedMeter.advance,
        CarriedMeter.earned, howed]
      by_cases hempty : pipeline.occupancyBytes = 0
      · simp [hempty]
      · simp [hempty, hidle.resolve_right hempty]
    rw [hcarried]
    exact hadvance
  obtain ⟨hrate, hempty⟩ := not_or.mp hidle
  rcases hfits with hzero | hzero | hsmall | ⟨hgap, hnone⟩
  · exact absurd hzero hrate
  · exact absurd hzero hempty
  · rw [drainFluid_carried hrate hempty hsmall]
    exact hadvance
  · have hdrained : (drainFluid config nowPs pipeline).carried = { last := nowPs } := by
      simp only [drainFluid]
      rw [if_neg (by simp [hrate, hempty]), if_pos hgap]
      rfl
    have hcarried : pipeline.carried.advance config.drainBps byteCreditDenominator nowPs =
        { last := nowPs } := by
      exact if_pos (Nat.sub_eq_zero_iff_le.mp hnone)
    rw [hdrained, ← hcarried]
    exact hadvance

theorem drainFluid_level_iff : (drainFluid config nowPs pipeline).occupancyBytes =
      meter.level config.drainBps byteCreditDenominator nowPs ↔
      DrainFits config pipeline nowPs := by
  constructor
  · intro hlevel
    rw [← leftBytes_eq h hnow] at hlevel
    by_contra hfits
    simp only [DrainFits, not_or, not_and] at hfits
    obtain ⟨hrate, hempty, hlarge, hgap⟩ := hfits
    simp only [drainFluid] at hlevel
    rw [if_neg (by simp [hrate, hempty])] at hlevel
    by_cases hlong : maxUint64 / config.drainBps < nowPs - pipeline.lastNowPs
    · rw [if_pos hlong] at hlevel
      exact hgap hlong hlevel.symm
    · -- the sum wraps to less than one byte, so nothing is drained
      have howed : pipeline.drainRemainder < byteCreditDenominator := by
        have howes := (h.busy hempty).2
        have hlt := Nat.mod_lt (config.drainBps * (pipeline.carried.last - meter.busySince))
          byteCreditDenominator_pos
        rw [← howes] at hlt
        exact hlt
      have hproduct := (Nat.le_div_iff_mul_le (Nat.pos_of_ne_zero hrate)).mp (Nat.not_lt.mp hlong)
      have hearned : earnedSince config pipeline nowPs =
          (nowPs - pipeline.lastNowPs) * config.drainBps + pipeline.drainRemainder := rfl
      have hbits : earnedBits config (nowPs - pipeline.lastNowPs) pipeline.drainRemainder =
          earnedSince config pipeline nowPs - 2 ^ 64 := by
        unfold earnedBits wrapAdd
        simp only [maxUint64, byteCreditDenominator, picosecondsPerSecond] at *
        omega
      have hnothing : (earnedSince config pipeline nowPs - 2 ^ 64)
        / picosecondsPerSecond / 8 = 0 := by
        apply Nat.div_eq_of_lt
        simp only [maxUint64, byteCreditDenominator, picosecondsPerSecond] at *
        omega
      have hsome : 0 < earnedSince config pipeline nowPs / byteCreditDenominator := by
        apply Nat.div_pos _ byteCreditDenominator_pos
        simp only [maxUint64, byteCreditDenominator, picosecondsPerSecond] at *
        omega
      rw [if_neg hlong, hbits, hnothing, if_neg (by omega)] at hlevel
      have hleft : pipeline.occupancyBytes - 0 = leftBytes config pipeline nowPs := hlevel
      unfold leftBytes at hleft
      omega
  · intro hfits
    have htracks := drainFluid_tracks h hnow hfits
    have hlevel := htracks.level_eq
    rw [show (drainFluid config nowPs pipeline).carried.last = nowPs from drainFluid_last] at hlevel
    exact hlevel

end Drain

def RxCall.time : RxCall → Nat
  | .packet _ nowPs => nowPs
  | .progress nowPs => nowPs

def entered (answer : Option RnicRxResult) : Bool :=
  answer.any fun answer => answer.outcome != .discardedSilently

structure MeterEntry where
  call : RxCall
  before : RnicRxPipeline
  meter : FluidMeter
  after : RnicRxPipeline
  meterAfter : FluidMeter
  answer : Option RnicRxResult
  deriving DecidableEq, Repr

structure MeterRun where
  pipeline : RnicRxPipeline
  meter : FluidMeter := {}
  log : List MeterEntry := []

namespace MeterRun

def entry (config : RnicRxPipelineConfig) (run : MeterRun) : RxCall → MeterEntry
  | .packet packet nowPs =>
    let ended := onPacket config packet nowPs run.pipeline
    ⟨.packet packet nowPs, run.pipeline, run.meter, ended.state,
      if entered (answerOf ended) then
        run.meter.add config.drainBps byteCreditDenominator nowPs packet.wireBytes
      else run.meter, answerOf ended⟩
  | .progress nowPs =>
    ⟨.progress nowPs, run.pipeline, run.meter, (rxProgress config nowPs run.pipeline).state,
      run.meter, none⟩

def step (config : RnicRxPipelineConfig) (run : MeterRun) (call : RxCall) : MeterRun :=
  let entry := run.entry config call
  ⟨entry.after, entry.meterAfter, run.log ++ [entry]⟩

def after (config : RnicRxPipelineConfig) (start : RnicRxPipeline) (calls : List RxCall) :
    MeterRun :=
  calls.foldl (step config) { pipeline := start }

end MeterRun

def meterFull (config : RnicRxPipelineConfig) (meter : FluidMeter) (packet : RnicRxPacket)
    (nowPs : Nat) : Bool :=
  config.ingressBytes != 0 && decide (config.ingressBytes <
    meter.level config.drainBps byteCreditDenominator nowPs + packet.wireBytes)

theorem meterFull_eq_false {meter : FluidMeter} : meterFull config meter packet nowPs = false ↔
    config.ingressBytes = 0 ∨
      meter.level config.drainBps byteCreditDenominator nowPs + packet.wireBytes ≤
        config.ingressBytes := by
  rw [meterFull, Bool.and_eq_false_iff, bne_eq_false_iff_eq, decide_eq_false_iff_not, Nat.not_lt]

theorem meterRefuses_eq_false : meterRefuses config packet pipeline = false ↔
    config.ingressBytes = 0 ∨
      (pipeline.occupancyBytes + packet.wireBytes) % 2 ^ 64 ≤ config.ingressBytes := by
  rw [meterRefuses, Bool.and_eq_false_iff, bne_eq_false_iff_eq, decide_eq_false_iff_not, Nat.not_lt]
  rfl

structure ArrivalExact (config : RnicRxPipelineConfig) (entry : MeterEntry) (packet : RnicRxPacket)
    (nowPs : Nat) (answer : RnicRxResult) : Prop where
  seen : answer.ingressOccupancyBytes =
    entry.meterAfter.level config.drainBps byteCreditDenominator nowPs
  admission : answer.outcome ≠ .discardedSilently ↔
    meterFull config entry.meter packet nowPs = false ∧
      ceilingsAdmit config packet nowPs entry.before = true
  meterDiscards : entry.after.counters.packetsDiscardedMeter =
    entry.before.counters.packetsDiscardedMeter +
      if meterFull config entry.meter packet nowPs then 1 else 0
  rateDiscards : entry.after.counters.packetsDiscardedRate =
    entry.before.counters.packetsDiscardedRate +
      if !meterFull config entry.meter packet nowPs &&
        !ceilingsAdmit config packet nowPs entry.before then 1 else 0

structure MeterEntry.Exact (config : RnicRxPipelineConfig) (entry : MeterEntry) : Prop where
  occupancy : entry.after.occupancyBytes =
    entry.meterAfter.level config.drainBps byteCreditDenominator entry.call.time
  highWatermark : entry.after.counters.ingressHighWatermarkBytes = entry.meterAfter.highWatermark
  arrival : ∀ packet nowPs, entry.call = .packet packet nowPs → ∀ answer,
    entry.answer = some answer → ArrivalExact config entry packet nowPs answer

/-- The bytes of a packet that has to be summed stay in 64 bits. A packet is not summed into the
buffer when it is thrown out before the meter, when the wrapped sum is over the bound as well, or
when a ceiling stops a packet the meter rightly passed. -/
def SumFits (config : RnicRxPipelineConfig) (pipeline : RnicRxPipeline) (packet : RnicRxPacket)
    (nowPs : Nat) : Prop :=
  let sum := leftBytes config pipeline nowPs + packet.wireBytes
  sum ≤ maxUint64 ∨
    ¬ Offered config packet (sum % 2 ^ 64) nowPs pipeline ∨
    config.ingressBytes ≠ 0 ∧ config.ingressBytes < sum % 2 ^ 64 ∨
    ceilingsAdmit config packet nowPs pipeline = false ∧
      ¬ (config.ingressBytes ≠ 0 ∧ config.ingressBytes < sum) ∨
    ceilingsAdmit config packet nowPs pipeline = true ∧
      chargesHold config packet nowPs pipeline = false

def CallFits (config : RnicRxPipelineConfig) (pipeline : RnicRxPipeline) : RxCall → Prop
  | .packet packet nowPs =>
    DrainFits config pipeline nowPs ∧ SumFits config pipeline packet nowPs
  | .progress nowPs => DrainFits config pipeline nowPs

structure MeterRun.Ok (config : RnicRxPipelineConfig) (run : MeterRun) : Prop where
  tracks : run.pipeline.carried.Tracks config.drainBps byteCreditDenominator run.meter
  watermark : run.pipeline.counters.ingressHighWatermarkBytes = run.meter.highWatermark
  small : run.pipeline.occupancyBytes ≤ maxUint64

/-- One more call shows what the exact meter shows exactly when it fits, and the run goes on then. -/
structure MeterRun.Settles (config : RnicRxPipelineConfig) (run : MeterRun) (entry : MeterEntry) :
    Prop where
  exact_iff : entry.Exact config ↔ CallFits config run.pipeline entry.call
  ok : CallFits config run.pipeline entry.call →
    MeterRun.Ok config ⟨entry.after, entry.meterAfter, run.log ++ [entry]⟩

structure Drained (config : RnicRxPipelineConfig) (run : MeterRun) (nowPs : Nat)
    (drained : RnicRxPipeline) : Prop where
  left : leftBytes config run.pipeline nowPs =
    run.meter.level config.drainBps byteCreditDenominator nowPs
  level : drained.occupancyBytes = leftBytes config run.pipeline nowPs ↔
    DrainFits config run.pipeline nowPs
  tracks : DrainFits config run.pipeline nowPs →
    drained.carried.Tracks config.drainBps byteCreditDenominator run.meter
  last : drained.lastNowPs = nowPs
  counters : drained.counters = run.pipeline.counters
  offered : ∀ {packet occupancyBytes}, Offered config packet occupancyBytes nowPs drained ↔
    Offered config packet occupancyBytes nowPs run.pipeline
  ceilings : ∀ {packet}, ceilingsAdmit config packet nowPs drained =
    ceilingsAdmit config packet nowPs run.pipeline
  charges : ∀ {packet}, chargesHold config packet nowPs drained =
    chargesHold config packet nowPs run.pipeline
  le : drained.occupancyBytes ≤ run.pipeline.occupancyBytes

variable {run : MeterRun}

theorem MeterRun.Ok.drained (h : run.Ok config) (hnow : run.pipeline.lastNowPs ≤ nowPs) :
    Drained config run nowPs (drainFluid config nowPs run.pipeline) := by
  have hleft := leftBytes_eq h.tracks hnow
  have hlevel := drainFluid_level_iff h.tracks hnow
  have htracks := drainFluid_tracks h.tracks hnow
  rw [← hleft] at hlevel
  obtain ⟨level, hle, owed, hdrained⟩ := @drainFluid_eq config nowPs run.pipeline
  rw [hdrained] at hlevel htracks ⊢
  exact ⟨hleft, hlevel, htracks, rfl, rfl, Iff.rfl, rfl, rfl, hle⟩

section Step

variable {drained after : RnicRxPipeline} {log : List MeterEntry}
  (h : run.Ok config) (hd : Drained config run nowPs drained)

include h hd

theorem MeterRun.Ok.kept (hcarried : after.carried = drained.carried)
    (hwatermark : after.counters.ingressHighWatermarkBytes =
      drained.counters.ingressHighWatermarkBytes) (hfits : DrainFits config run.pipeline nowPs) :
    MeterRun.Ok config ⟨after, run.meter, log⟩ := by
  refine ⟨?_, ?_, ?_⟩
  · show after.carried.Tracks _ _ _
    rw [hcarried]
    exact hd.tracks hfits
  · show after.counters.ingressHighWatermarkBytes = _
    rw [hwatermark, hd.counters]
    exact h.watermark
  · show after.carried.level ≤ maxUint64
    rw [hcarried]
    exact Nat.le_trans hd.le h.small

theorem MeterRun.Ok.silent {answer : Option RnicRxResult} {meterCount rateCount : Nat}
    (hkept : after.metered = { drained.metered with
      discardedMeter := meterCount
      discardedRate := rateCount }) (harrival : DrainFits config run.pipeline nowPs →
      ((∀ told, answer = some told → ArrivalExact config
        ⟨.packet packet nowPs, run.pipeline, run.meter, after, run.meter, answer⟩ packet nowPs
        told) ↔ SumFits config run.pipeline packet nowPs)) : run.Settles config
      ⟨.packet packet nowPs, run.pipeline, run.meter, after, run.meter, answer⟩ := by
  have hoccupancy := congrArg (·.occupancyBytes) hkept
  have hwatermark := congrArg (·.highWatermarkBytes) hkept
  have hcarried := congrArg MeteredPart.carried hkept
  refine ⟨⟨fun hexact => ?_, fun hfits => ⟨?_, ?_, ?_⟩⟩, fun hfits => ?_⟩
  · have hfits := hd.level.mp (hoccupancy.symm.trans (hexact.occupancy.trans hd.left.symm))
    exact ⟨hfits, (harrival hfits).mp (hexact.arrival packet nowPs rfl)⟩
  · exact hoccupancy.trans ((hd.level.mpr hfits.1).trans hd.left)
  · exact (hwatermark.trans (hd.counters ▸ rfl)).trans h.watermark
  · intro other time hcall told htold
    cases hcall
    exact (harrival hfits.1).mpr hfits.2 told htold
  · exact h.kept hd hcarried hwatermark hfits.1

theorem MeterRun.Ok.admitted {told : RnicRxResult}
    (hoffered : Offered config packet (wrapAdd drained.occupancyBytes packet.wireBytes)
      nowPs drained)
    (hpasses : meterRefuses config packet drained = false)
    (hceilings : ceilingsAdmit config packet nowPs drained = true)
    (hcharges : chargesHold config packet nowPs drained = true)
    (hkept : after.metered = { drained.metered with
      occupancyBytes := wrapAdd drained.occupancyBytes packet.wireBytes
      highWatermarkBytes := max drained.metered.highWatermarkBytes
        (wrapAdd drained.occupancyBytes packet.wireBytes) })
    (hentered : told.outcome ≠ .discardedSilently)
    (hseen : told.ingressOccupancyBytes = wrapAdd drained.occupancyBytes packet.wireBytes) :
    run.Settles config ⟨.packet packet nowPs, run.pipeline, run.meter, after,
      run.meter.add config.drainBps byteCreditDenominator nowPs packet.wireBytes, some told⟩ := by
  let meterAfter := run.meter.add config.drainBps byteCreditDenominator nowPs packet.wireBytes
  have hafter : meterAfter.level config.drainBps byteCreditDenominator nowPs =
      leftBytes config run.pipeline nowPs + packet.wireBytes := by
    rw [hd.left]
    exact FluidMeter.level_add _ _ _
  have hoccupancy : after.occupancyBytes = wrapAdd drained.occupancyBytes packet.wireBytes :=
    congrArg (·.occupancyBytes) hkept
  rw [hd.offered] at hoffered
  rw [hd.ceilings] at hceilings
  rw [hd.charges] at hcharges
  -- what the wrapped sum says of the drain and of the true sum
  have hexact : after.occupancyBytes = leftBytes config run.pipeline nowPs + packet.wireBytes ↔
      CallFits config run.pipeline (.packet packet nowPs) := by
    have hle := hd.le
    have hsmall := h.small
    rw [hoccupancy]
    constructor
    · intro heq
      simp only [wrapAdd, maxUint64] at heq hsmall
      exact ⟨hd.level.mp (by omega), .inl (by simp only [maxUint64]; omega)⟩
    · rintro ⟨hfits, hsum⟩
      rw [hd.level.mpr hfits] at hoffered ⊢
      rw [meterRefuses_eq_false, hd.level.mpr hfits] at hpasses
      rcases hsum with hsum | hunoffered | hover | ⟨hlimited, _⟩ | ⟨_, hovercharged⟩
      · exact Nat.mod_eq_of_lt (by simp only [maxUint64] at hsum; omega)
      · exact absurd hoffered hunoffered
      · omega
      · rw [hceilings] at hlimited
        cases hlimited
      · rw [hcharges] at hovercharged
        cases hovercharged
  have hwatermark : after.occupancyBytes = leftBytes config run.pipeline nowPs + packet.wireBytes →
      after.counters.ingressHighWatermarkBytes = meterAfter.highWatermark := by
    intro hsum
    have hmax : after.counters.ingressHighWatermarkBytes =
        max drained.counters.ingressHighWatermarkBytes after.occupancyBytes :=
      hoccupancy ▸ congrArg (·.highWatermarkBytes) hkept
    rw [hmax, hd.counters, hsum, h.watermark, FluidMeter.highWatermark_add, ← hd.left]
  refine ⟨⟨fun hentry => ?_, fun hfits => ?_⟩, fun hfits => ?_⟩
  · exact hexact.mp (hentry.occupancy.trans hafter)
  · have hsum := hexact.mpr hfits
    have hroom : meterFull config run.meter packet nowPs = false := by
      rw [hoccupancy, hd.level.mpr hfits.1] at hsum
      rw [meterRefuses_eq_false, hd.level.mpr hfits.1] at hpasses
      rw [meterFull_eq_false, ← hd.left, ← hsum]
      exact hpasses
    refine ⟨hsum.trans hafter.symm, hwatermark hsum, ?_⟩
    intro other time hcall answer hanswer
    cases hcall
    cases hanswer
    refine ⟨?_, ?_, ?_, ?_⟩
    · show told.ingressOccupancyBytes = meterAfter.level _ _ _
      rw [hseen, ← hoccupancy, hsum, hafter]
    · simp [hentered, hroom, hceilings]
    · rw [hroom, ← hd.counters]
      exact congrArg (·.discardedMeter) hkept
    · rw [hroom, hceilings, ← hd.counters]
      exact congrArg (·.discardedRate) hkept
  · have hsum := hexact.mpr hfits
    have htracks := (hd.tracks hfits.1).add hoffered.1.1
    have hcarried : after.carried = { drained.carried with
        level := drained.carried.level + packet.wireBytes } := by
      have howed : after.drainRemainder = _ := congrArg (·.drainRemainder) hkept
      have hlast : after.lastNowPs = _ := congrArg (·.lastNowPs) hkept
      simp only [RnicRxPipeline.carried, hsum, howed, hlast, hd.level.mpr hfits.1]
      rfl
    refine ⟨?_, hwatermark hsum, ?_⟩
    · show after.carried.Tracks _ _ meterAfter
      have hlast : drained.carried.last = nowPs := hd.last
      rw [hcarried]
      dsimp only
      rw [hlast] at htracks ⊢
      exact htracks
    · show after.occupancyBytes ≤ maxUint64
      rw [hoccupancy]
      simp only [wrapAdd, maxUint64]
      omega

theorem MeterRun.Ok.effect {answer : Option RnicRxResult}
    (heffect : MeterEffect config drained packet nowPs after answer) :
    run.Settles config ⟨.packet packet nowPs, run.pipeline, run.meter, after,
      if entered answer then
        run.meter.add config.drainBps byteCreditDenominator nowPs packet.wireBytes
      else run.meter, answer⟩ := by
  cases heffect with
  | unoffered hoffered hkept =>
    refine h.silent hd hkept fun hfits => iff_of_true nofun (.inr (.inl fun h' => hoffered ?_))
    rw [hd.offered, hd.level.mpr hfits]
    exact h'
  | @refused told hoffered hrefuses hkept hsilent hseen =>
    have hnone : entered (some told) = false := by simp [entered, hsilent]
    rw [hnone]
    refine h.silent hd hkept fun hfits => ?_
    have hlevel := hd.level.mpr hfits
    rw [meterRefuses, hlevel, Bool.and_eq_true, decide_eq_true_iff, bne_iff_ne] at hrefuses
    have hover := Nat.lt_of_lt_of_le hrefuses.2 (Nat.mod_le _ _)
    have hfull : meterFull config run.meter packet nowPs = true := by
      simp [meterFull, hrefuses.1, ← hd.left, hover]
    refine iff_of_true ?_ (.inr (.inr (.inl hrefuses)))
    rintro _ ⟨⟩
    refine ⟨hseen.trans (hlevel.trans hd.left), by simp [hsilent, hfull], ?_, ?_⟩
    · rw [hfull, if_pos rfl, ← hd.counters]
      exact congrArg (·.discardedMeter) hkept
    · rw [hfull, ← hd.counters]
      exact congrArg (·.discardedRate) hkept
  | @limited told hoffered hpasses hceilings hkept hsilent hseen =>
    have hnone : entered (some told) = false := by simp [entered, hsilent]
    rw [hnone]
    refine h.silent hd hkept fun hfits => ?_
    have hlevel := hd.level.mpr hfits
    rw [hd.offered, hlevel] at hoffered
    rw [hd.ceilings] at hceilings
    rw [meterRefuses_eq_false, hlevel] at hpasses
    have hmeterCount : after.counters.packetsDiscardedMeter =
        drained.counters.packetsDiscardedMeter := congrArg (·.discardedMeter) hkept
    constructor
    · -- the packet is counted against the ceilings, so the exact meter must have room
      intro harrival
      have hcount := (harrival told rfl).meterDiscards
      have hroom : meterFull config run.meter packet nowPs = false := by
        by_contra hfull
        rw [if_pos (by simpa using hfull), ← hd.counters] at hcount
        simp only at hcount
        omega
      rw [meterFull_eq_false, ← hd.left] at hroom
      exact .inr (.inr (.inr (.inl ⟨hceilings, by omega⟩)))
    · intro hsum
      have hroom : meterFull config run.meter packet nowPs = false := by
        rw [meterFull_eq_false, ← hd.left]
        rcases hsum with hsmall | hunoffered | hover | ⟨_, hroom⟩ | ⟨hadmits, _⟩
        · simp only [maxUint64] at hsmall
          omega
        · exact absurd hoffered hunoffered
        · omega
        · omega
        · rw [hceilings] at hadmits
          cases hadmits
      rintro _ ⟨⟩
      refine ⟨hseen.trans (hlevel.trans hd.left), by simp [hsilent, hceilings], ?_, ?_⟩
      · rw [hroom, ← hd.counters]
        exact hmeterCount
      · rw [hroom, hceilings, ← hd.counters]
        exact congrArg (·.discardedRate) hkept
  | overcharged hoffered hpasses hceilings hcharges hkept =>
    refine h.silent hd hkept fun _ => iff_of_true nofun (.inr (.inr (.inr (.inr ⟨?_, ?_⟩))))
    · exact hd.ceilings ▸ hceilings
    · exact hd.charges ▸ hcharges
  | @admitted told hoffered hpasses hceilings hcharges hkept hentered hseen =>
    have hsome : entered (some told) = true := by simp [entered, hentered]
    rw [hsome, if_pos rfl]
    exact h.admitted hd hoffered hpasses hceilings hcharges hkept hentered hseen

end Step

section Call

variable (h : run.Ok config) (hmode : config.service.mode = .fluid)

include h hmode

theorem MeterRun.Ok.progress (hnow : run.pipeline.lastNowPs ≤ nowPs) :
    run.Settles config (run.entry config (.progress nowPs)) := by
  have hd := h.drained hnow
  have hcall : (rxProgress config nowPs run.pipeline).state.metered =
      (drainFluid config nowPs run.pipeline).metered := by
    unfold rxProgress
    rw [bind_of_ok (drainTo_fluid hmode hnow)]
    rfl
  have hoccupancy := congrArg (·.occupancyBytes) hcall
  have hwatermark := congrArg (·.highWatermarkBytes) hcall
  refine ⟨⟨fun hexact => ?_, fun hfits => ⟨?_, ?_, nofun⟩⟩, fun hfits => ?_⟩
  · exact hd.level.mp (hoccupancy.symm.trans (hexact.occupancy.trans hd.left.symm))
  · exact hoccupancy.trans ((hd.level.mpr hfits).trans hd.left)
  · exact (hwatermark.trans (hd.counters ▸ rfl)).trans h.watermark
  · exact h.kept hd (congrArg MeteredPart.carried hcall) hwatermark hfits

theorem MeterRun.Ok.call (call : RxCall) (hnow : run.pipeline.lastNowPs ≤ call.time) :
    run.Settles config (run.entry config call) := by
  cases call with
  | packet packet nowPs => exact h.effect (h.drained hnow) (onPacket_metered hmode hnow)
  | progress nowPs => exact h.progress hmode hnow

end Call

theorem MeterEffect.last {drained after : RnicRxPipeline} {answer : Option RnicRxResult}
    (h : MeterEffect config drained packet nowPs after answer) :
    after.lastNowPs = drained.lastNowPs := by
  cases h with
  | unoffered _ hkept | refused _ _ hkept | limited _ _ _ hkept | overcharged _ _ _ _ hkept
  | admitted _ _ _ _ hkept =>
    exact congrArg (·.lastNowPs) hkept

theorem MeterRun.step_last (hmode : config.service.mode = .fluid) (call : RxCall)
    (hnow : run.pipeline.lastNowPs ≤ call.time) :
    (run.step config call).pipeline.lastNowPs = call.time := by
  cases call with
  | packet packet nowPs => exact (onPacket_metered hmode hnow).last.trans drainFluid_last
  | progress nowPs =>
    have hdrain : drainTo config nowPs run.pipeline = _ := drainTo_fluid hmode hnow
    show (rxProgress config nowPs run.pipeline).state.lastNowPs = nowPs
    unfold rxProgress
    rw [bind_of_ok hdrain]
    exact drainFluid_last

theorem MeterRun.ok_start {start : RnicRxPipeline}
    (hmake : RnicRxPipeline.make config = .ok start) :
    start.lastNowPs = 0 ∧ MeterRun.Ok config { pipeline := start } := by
  obtain ⟨_, _, hstart⟩ := of_bind hmake
  cases hstart
  refine ⟨rfl, ⟨⟨Nat.le_refl 0, fun _ => ⟨rfl, Nat.zero_sub _⟩, fun hbusy => absurd rfl hbusy⟩,
    rfl, Nat.zero_le _⟩⟩

/-- **The fluid ingress meter.** In a run at nondecreasing times the pipeline shows what the exact
meter shows at every call, exactly when every call fits: its drain stays in 64 bits or empties the
buffer anyway, and so does the sum of a packet that is added to the buffer. -/
theorem fluid_meter_exact_iff {start : RnicRxPipeline} (calls : List RxCall)
    (hmake : RnicRxPipeline.make config = .ok start) (hmode : config.service.mode = .fluid)
    (hordered : (calls.map RxCall.time).Pairwise (· ≤ ·)) :
    (∀ entry ∈ (MeterRun.after config start calls).log, entry.Exact config) ↔
      ∀ entry ∈ (MeterRun.after config start calls).log, CallFits config entry.before entry.call := by
  obtain ⟨hzero, hok⟩ := MeterRun.ok_start hmake
  -- along the run the clock is at the last call, and the meter is right while every call fits
  suffices hrun : (∀ time, (∀ call ∈ calls, call.time ≤ time) →
        (MeterRun.after config start calls).pipeline.lastNowPs ≤ time) ∧
      ((∀ entry ∈ (MeterRun.after config start calls).log, entry.Exact config) ↔
        ∀ entry ∈ (MeterRun.after config start calls).log,
          CallFits config entry.before entry.call) ∧
      ((∀ entry ∈ (MeterRun.after config start calls).log,
          CallFits config entry.before entry.call) →
        (MeterRun.after config start calls).Ok config) from hrun.2.1
  induction calls using List.reverseRecOn with
  | nil =>
    have hempty : (MeterRun.after config start []).log = [] := rfl
    refine ⟨fun time _ => ?_, by rw [hempty]; simp, fun _ => hok⟩
    show start.lastNowPs ≤ time
    omega
  | append_singleton calls call ih =>
    rw [map_append, pairwise_append] at hordered
    obtain ⟨hearlier, _, hlater⟩ := hordered
    obtain ⟨hclock, hiff, hfine⟩ := ih hearlier
    let run := MeterRun.after config start calls
    have hnow : run.pipeline.lastNowPs ≤ call.time := by
      apply hclock
      intro earlier hmem
      exact hlater _ (mem_map_of_mem hmem) _ (by simp)
    have hafter : MeterRun.after config start (calls ++ [call]) = run.step config call :=
      foldl_append
    have hbefore : (run.entry config call).before = run.pipeline := by cases call <;> rfl
    rw [hafter]
    refine ⟨fun time hbound => ?_, ?_⟩
    · rw [MeterRun.step_last hmode call hnow]
      exact hbound call (by simp)
    · have hlog : (run.step config call).log = run.log ++ [run.entry config call] := rfl
      rw [hlog]
      simp only [forall_mem_append, forall_mem_singleton, hbefore]
      refine ⟨⟨?_, ?_⟩, ?_⟩
      · rintro ⟨hexact, hlast⟩
        have hfits := hiff.mp hexact
        exact ⟨hfits, ((hfine hfits).call hmode call hnow).exact_iff.mp hlast⟩
      · rintro ⟨hfits, hlast⟩
        exact ⟨hiff.mpr hfits, ((hfine hfits).call hmode call hnow).exact_iff.mpr hlast⟩
      · rintro ⟨hfits, hlast⟩
        exact ((hfine hfits).call hmode call hnow).ok hlast

def terabitConfig : RnicRxPipelineConfig := { enabled := true, drainBps := 10 ^ 12 }

def bulkPacket (wireBytes : Nat) : RnicRxPacket := { qpn := 1, source := 2, wireBytes := wireBytes }

/-- Two packets and a call between them, near enough for 64 bits. -/
theorem fluid_meter_exact_short_gap :
    terabitConfig.service.mode = .fluid ∧ ∀ entry ∈ (MeterRun.after terabitConfig {}
      [.packet (bulkPacket 1000) 0, .progress 20, .packet (bulkPacket 16) 800]).log,
      entry.Exact terabitConfig := by
  refine ⟨rfl, (fluid_meter_exact_iff _ (by decide) rfl (by decide)).mpr ?_⟩
  intro entry hentry
  simp only [MeterRun.after, List.foldl, MeterRun.step, nil_append, cons_append,
    mem_cons, not_mem_nil, or_false] at hentry
  rcases hentry with rfl | rfl | rfl
  · exact ⟨.inr (.inl rfl), .inl (by decide)⟩
  · exact .inr (.inr (.inl (by decide)))
  · exact ⟨.inr (.inr (.inl (by decide))), .inl (by decide)⟩

/-- Three million bytes and a gap of 18.4 µs, which drains 2305843 of them: a single call empties
the buffer, one more call in the middle of the gap does not. -/
theorem long_gap_empties_buffer :
    RnicRxPipeline.make terabitConfig = .ok {} ∧
      (let unpolled := MeterRun.after terabitConfig {}
        [.packet (bulkPacket 3000000) 0, .packet (bulkPacket 16) 18446745]
      let polled := MeterRun.after terabitConfig {}
        [.packet (bulkPacket 3000000) 0, .progress 9000000, .packet (bulkPacket 16) 18446745]
      unpolled.log.map (fun entry => entry.answer.map (·.ingressOccupancyBytes)) =
        [some 3000000, some 16] ∧
      polled.log.map (fun entry => entry.answer.map (·.ingressOccupancyBytes)) =
        [some 3000000, none, some 694173] ∧
      ¬ ∀ entry ∈ unpolled.log, entry.Exact terabitConfig) := by
  refine ⟨by decide, by decide, by decide, fun hexact => ?_⟩
  have hlast : ∃ entry ∈ (MeterRun.after terabitConfig {}
      [.packet (bulkPacket 3000000) 0, .packet (bulkPacket 16) 18446745]).log,
      entry.after.occupancyBytes ≠
        entry.meterAfter.level terabitConfig.drainBps byteCreditDenominator entry.call.time := by
    decide
  obtain ⟨entry, hentry, hdiffers⟩ := hlast
  exact hdiffers (hexact entry hentry).occupancy

end SimLLM.Rnic
