import SimLLM.PlanFacts

namespace SimLLM

variable {κ : Type} (options : RuntimeOptions κ) (graph : ExecutionGraph)
  (operation : ExecutionOperation)

theorem QueueVisit.make_total (data : VisitData) (h₁ : data.submittedAtPs ≤ data.eligibleAtPs)
    (h₂ : data.eligibleAtPs ≤ data.startedAtPs) (h₃ : data.startedAtPs ≤ data.finishedAtPs)
    (h₄ : data.finishedAtPs ≤ data.completedAtPs) : ∃ visit, QueueVisit.make data = .ok visit :=
  ⟨⟨data, h₁, h₂, h₃, h₄⟩, QueueVisit.make_eq_ok.mpr rfl⟩

theorem scheduleNcclChannel_total {σ τ : Type} (cfg : RuntimeConfig κ σ τ) (rank : Nat)
    (channel : String) {submittedAtPs eligibleAtPs : Nat} (h : submittedAtPs ≤ eligibleAtPs)
    (m : Machine τ) : ∃ visit m', scheduleNcclChannel cfg graph operation rank channel
      submittedAtPs eligibleAtPs m = .ok (visit, m') := by
  obtain ⟨visit, hvisit⟩ := QueueVisit.make_total
    (ncclVisitData cfg graph operation rank channel submittedAtPs eligibleAtPs m.state)
    h (le_max_left _ _) (Nat.le_add_right _ _) (le_refl _)
  exact ⟨visit, _, bind_eq_ok.mpr ⟨visit, hvisit, rfl⟩⟩

variable {submission : SemanticWqeSubmission}

section

variable (ledger : AtlahsWqeLedger) (ordered : submission.submittedAtPs ≤ submission.eligibleAtPs)

include ledger ordered

theorem bypass_projection_valid
    (remote : nodeOf submission.sourceRank ≠ nodeOf submission.destinationRank) :
    validateWqeProjection options.bypass submission
      (ledger.record options.profile options.receiverIngress submission ordered) = .ok () := by
  have hactive : ingressActive options.receiverIngress submission = options.receiverIngress := by
    simp [ingressActive, remote]
  cases hingress : options.receiverIngress with
  | false =>
    rw [hingress] at hactive
    simp [validateWqeProjection, projectionField, AtlahsWqeLedger.record, hactive, hingress,
      RuntimeOptions.bypass, bypassAuthority, require]
  | true =>
    rw [hingress] at hactive
    simp [validateWqeProjection, projectionField, ingressIdentity, AtlahsWqeLedger.record, hactive,
      hingress, RuntimeOptions.bypass, bypassAuthority, require]

theorem bypass_submit : options.bypass.authority.submit ledger submission =
      .ok (ledger.record options.profile options.receiverIngress submission ordered,
        ledger.append (ledger.record options.profile options.receiverIngress submission ordered)) :=
  dif_pos ordered

end

theorem scheduleSemanticSend_total {request : SendRequest}
    (ordered : request.submittedAtPs ≤ request.eligibleAtPs) (m : Machine AtlahsWqeLedger) :
    ∃ send m', scheduleSemanticSend options.bypass graph operation request m = .ok (send, m') := by
  unfold scheduleSemanticSend
  by_cases hnode : nodeOf request.sourceRank = nodeOf request.destinationRank
  · rw [if_pos hnode]
    obtain ⟨visit, hvisit⟩ := QueueVisit.make_total
      (nvlinkVisitData options.bypass graph operation request m.state) ordered
      (le_max_left _ _) (Nat.le_add_right _ _) (Nat.le_add_right _ _)
    exact ⟨_, _, bind_eq_ok.mpr ⟨visit, hvisit, rfl⟩⟩
  · rw [if_neg hnode]
    have hranks : request.sourceRank ≠ request.destinationRank := fun h => hnode (h ▸ rfl)
    have hcheck : (request.submission graph operation).check = .ok () := by
      simp [SemanticWqeSubmission.check, SendRequest.submission, hranks, ordered, require]
    have hordered : (request.submission graph operation).submittedAtPs ≤
        (request.submission graph operation).eligibleAtPs := ordered
    have hsubmit := bypass_submit options m.wqe hordered
    have hvalid := bypass_projection_valid options m.wqe hordered hnode
    exact ⟨_, _, bind_eq_ok.mpr ⟨(), hcheck, bind_eq_ok.mpr
      ⟨_, hsubmit, bind_eq_ok.mpr ⟨(), hvalid, rfl⟩⟩⟩⟩

theorem scheduleHop_total {launch : QueueVisit} (request : HopRequest) {sender : Frontier}
    (receiver : Frontier) (h : launch.completedAtPs ≤ sender.readyAtPs)
    (m : Machine AtlahsWqeLedger) :
    ∃ hop m', scheduleHop options.bypass graph operation launch request sender receiver m =
      .ok (hop, m') := by
  obtain ⟨channel, m₁, hchannel⟩ := scheduleNcclChannel_total graph operation options.bypass
    request.source request.channel h m
  have hordered : (hopSendRequest graph operation request channel receiver.readyAtPs).submittedAtPs
      ≤ (hopSendRequest graph operation request channel receiver.readyAtPs).eligibleAtPs :=
    le_max_left _ _
  obtain ⟨send, m₂, hsend⟩ := scheduleSemanticSend_total options graph operation hordered m₁
  exact ⟨_, m₂, bind_eq_ok.mpr ⟨_, hchannel, bind_eq_ok.mpr ⟨_, hsend, rfl⟩⟩⟩

end SimLLM
