import SimLLM.Rnic.RxPipeline

namespace SimLLM.Rnic

open EStateM

variable {config : RnicRxPipelineConfig} {packet : RnicRxPacket} {nowPs : Nat}
variable {pipeline : RnicRxPipeline}

theorem keeps_require {γ : Type} {part : RnicRxPipeline → γ} (holds : Bool) (error : CppError) :
    Keeps part (rxRequire holds error) := by
  unfold rxRequire
  split
  · exact .pure ()
  · exact .throw error

theorem drainFluid_eq : ∃ level ≤ pipeline.occupancyBytes, ∃ owed,
      drainFluid config nowPs pipeline =
    { pipeline with occupancyBytes := level, drainRemainder := owed, lastNowPs := nowPs } := by
  simp only [drainFluid]
  split
  · exact ⟨_, Nat.le_refl _, 0, rfl⟩
  · split
    · exact ⟨0, Nat.zero_le _, 0, rfl⟩
    · split
      · exact ⟨0, Nat.zero_le _, 0, rfl⟩
      · exact ⟨_, Nat.sub_le _ _, _, rfl⟩

theorem drainFluid_qps : (drainFluid config nowPs pipeline).qps = pipeline.qps := by
  obtain ⟨level, -, owed, h⟩ := @drainFluid_eq config nowPs pipeline
  rw [h]

theorem clockAfter_qps : (clockAfter config nowPs pipeline).qps = pipeline.qps := by
  unfold clockAfter
  dsimp only
  split
  · rfl
  · split <;> rfl

theorem accrueServiceCredit_qps {ticks : Nat} :
    (accrueServiceCredit config ticks pipeline).qps = pipeline.qps := by
  simp only [accrueServiceCredit]
  split
  · rfl
  · rfl

theorem serveBeat_qps {next tick front : Nat} {rest : List Nat} :
    (serveBeat config nowPs next tick front rest pipeline).qps = pipeline.qps := by
  simp [serveBeat, clockAfter_qps, apply_ite RnicRxPipeline.qps, accrueServiceCredit_qps]

theorem keepsQps_serveBeats (fuel : Nat) :
    Keeps RnicRxPipeline.qps (serveBeats config nowPs fuel) := by
  induction fuel with
  | zero => exact .pure true
  | succ fuel ih =>
    refine .get fun pipeline => ?_
    cases pipeline.serviceRecords with
    | nil => exact .pure true
    | cons front rest =>
      cases pipeline.nextTickPs with
      | none => exact .pure true
      | some tick =>
        dsimp only
        split
        · exact .pure true
        · cases nextServiceTime config pipeline front tick with
          | error error => exact .throw error
          | ok next =>
            dsimp only
            split
            · refine .bind (.modify fun s => ?_) fun _ => .pure false
              rw [clockAfter_qps, accrueServiceCredit_qps]
            · exact .bind (.modify fun _ => serveBeat_qps) fun _ => ih

theorem keepsQps_drainTo : Keeps RnicRxPipeline.qps (drainTo config nowPs) := by
  refine .get fun pipeline => .bind (keeps_require _ _) fun _ => ?_
  split
  · refine .bind ?_ fun _ => .modify fun _ => rfl
    refine .bind (.modify fun _ => rfl) fun _ => .get fun pipeline => ?_
    refine .bind (keepsQps_serveBeats _) fun ended => ?_
    split
    · refine .get fun pipeline => .bind (keeps_require _ _) fun _ => ?_
      split
      · exact .modify fun _ => clockAfter_qps
      · exact .pure ()
    · exact .pure ()
  · exact .modify fun _ => drainFluid_qps

structure MeteredPart where
  lastNowPs : Nat
  occupancyBytes : Nat
  drainRemainder : Nat
  highWatermarkBytes : Nat
  discardedMeter : Nat
  discardedRate : Nat
  deriving DecidableEq, Repr

def RnicRxPipeline.metered (pipeline : RnicRxPipeline) : MeteredPart :=
  ⟨pipeline.lastNowPs, pipeline.occupancyBytes, pipeline.drainRemainder,
    pipeline.counters.ingressHighWatermarkBytes, pipeline.counters.packetsDiscardedMeter,
    pipeline.counters.packetsDiscardedRate⟩

def RnicRxPipeline.standing (pipeline : RnicRxPipeline) :
    Table (Nat × Nat) QpState × RateGate × MeteredPart :=
  (pipeline.qps, pipeline.nicRate, pipeline.metered)

theorem keeps_observeCongestion {occupancyBytes : Nat} :
    Keeps RnicRxPipeline.standing (observeCongestion config packet occupancyBytes nowPs) := by
  unfold observeCongestion
  split
  · refine .bind ?_ fun raised => .bind (.modify fun _ => rfl) fun _ => ?_
    · unfold observeNotification
      refine .get fun pipeline => ?_
      split
      · exact .pure false
      · refine .bind (.modify fun _ => rfl) fun _ => ?_
        split
        · exact .bind (.modify fun _ => rfl) fun _ => .pure false
        · exact .bind (keeps_require _ _) fun _ => .bind (.modify fun _ => rfl) fun _ => .pure true
    · split
      · exact .bind (.modify fun _ => rfl) fun _ => .pure _
      · exact .pure none
  · exact .pure none

theorem keepsQps_ingress : Keeps RnicRxPipeline.qps (ingress config packet nowPs) := by
  refine .bind keepsQps_drainTo fun _ => .get fun pipeline => ?_
  cases checkPacket config packet pipeline with
  | error error => exact .throw error
  | ok _ =>
    exact .bind (.modify fun _ => rfl) fun _ => .bind (keeps_observeCongestion.map Prod.fst)
      fun _ => .pure _

theorem keepsQps_rxProgress : Keeps RnicRxPipeline.qps (rxProgress config nowPs) :=
  .bind keepsQps_drainTo fun _ => .modify fun _ => rfl

theorem notePause_qps : (notePause config pipeline).qps = pipeline.qps := by
  simp only [notePause]
  split <;> rfl

theorem enterBuffer_qps : (enterBuffer config packet nowPs pipeline).qps = pipeline.qps := by
  simp only [enterBuffer]
  split
  · cases pipeline.sameTimeCredit with
    | none => rfl
    | some credit =>
      dsimp only
      split <;> rfl
  · rfl

theorem noteOutcome_qps {outcome : RnicRxOutcome} {reply : Option RxReply} :
    (noteOutcome packet outcome reply pipeline).qps = pipeline.qps := by
  cases reply <;> rfl

section Reach

variable {cnp : Option (Nat × Nat)} {verdict : IngressVerdict} {metered : RnicRxPipeline}

theorem onPacket_thrown {error : CppError}
    (h : ingress config packet nowPs pipeline = .error error metered) :
    onPacket config packet nowPs pipeline = .error error metered := by
  exact bind_of_error h

section

variable (h : ingress config packet nowPs pipeline = .ok verdict metered)

include h

theorem onPacket_refused (hrefused : verdict.refused = true) :
    onPacket config packet nowPs pipeline =
      .ok ⟨.discardedSilently, none, verdict.occupancyBytes, verdict.cnp⟩
        (notePause config { metered with counters := { metered.counters with
          packetsDiscardedMeter := metered.counters.packetsDiscardedMeter + 1 } }) := by
  unfold onPacket
  rw [bind_of_ok h, if_pos hrefused]
  rfl

theorem onPacket_passed (hpasses : ¬ verdict.refused = true) :
    onPacket config packet nowPs pipeline =
      receiveProcessor config packet nowPs verdict.cnp metered := by
  unfold onPacket
  rw [bind_of_ok h, if_neg hpasses]

end

theorem receiveProcessor_admitted
    (h : ceilingsAdmit config packet nowPs (openQp config packet pipeline) = true) :
    receiveProcessor config packet nowPs cnp pipeline =
      (chargeCeilings config packet nowPs >>= fun _ => acceptPacket config packet nowPs cnp)
        (openQp config packet pipeline) := by
  show (if ceilingsAdmit config packet nowPs (openQp config packet pipeline) then _ else _ :
    RxM RnicRxResult) _ = _
  rw [if_pos h]

theorem receiveProcessor_limited
    (h : ¬ ceilingsAdmit config packet nowPs (openQp config packet pipeline) = true) :
    receiveProcessor config packet nowPs cnp pipeline =
      .ok ⟨.discardedSilently, none, pipeline.occupancyBytes, cnp⟩
        (notePause config { openQp config packet pipeline with counters := { pipeline.counters with
          packetsDiscardedRate := pipeline.counters.packetsDiscardedRate + 1 } }) := by
  show (if ceilingsAdmit config packet nowPs (openQp config packet pipeline) then _ else _ :
    RxM RnicRxResult) _ = _
  rw [if_neg h]
  rfl

end Reach

def RateGate.holds (gate : RateGate) (nowPs : Nat) : Bool :=
  match RateGate.charge nowPs 1 gate with
  | .ok _ _ => true
  | .error _ _ => false

def chargesHold (config : RnicRxPipelineConfig) (packet : RnicRxPacket) (nowPs : Nat)
    (pipeline : RnicRxPipeline) : Bool :=
  (qpState config pipeline packet).rate.holds nowPs && pipeline.nicRate.holds nowPs

theorem chargeCeilings_ends :
    let charged := fun after : RnicRxPipeline => after.metered = pipeline.metered ∧
      ∃ rate, after.qps =
        pipeline.qps.set packet.key { qpState config pipeline packet with rate := rate }
    (chargeCeilings config packet nowPs pipeline).Ends
      (fun _ after => chargesHold config packet nowPs pipeline = true ∧ charged after)
      (fun after => chargesHold config packet nowPs pipeline = false ∧ charged after) := by
  intro charged
  apply ends_get_bind
  apply ends_bind
  apply ends_set
  cases hqp : RateGate.charge nowPs 1 (qpState config pipeline packet).rate with
  | error error gate =>
    exact ends_throw ⟨by simp [chargesHold, RateGate.holds, hqp], rfl, gate, rfl⟩
  | ok _ gate =>
    apply ends_bind
    apply ends_modify
    cases hnic : RateGate.charge nowPs 1 pipeline.nicRate with
    | error error nic =>
      exact ends_throw ⟨by simp [chargesHold, RateGate.holds, hqp, hnic], rfl, gate, rfl⟩
    | ok _ nic => exact ends_pure ⟨by simp [chargesHold, RateGate.holds, hqp, hnic], rfl, gate, rfl⟩

end SimLLM.Rnic
