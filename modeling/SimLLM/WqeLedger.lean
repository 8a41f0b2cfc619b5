import SimLLM.Visit

namespace SimLLM

def wqeVisitData (wqe : WqeLifecycleProjection) (resource : ResourceRef)
    (eligible started finished completed : Nat) : VisitData :=
  { executionId := wqe.executionId, operationId := wqe.operationId, resource := resource
    submittedAtPs := wqe.submittedAtPs, eligibleAtPs := eligible, startedAtPs := started
    finishedAtPs := finished, completedAtPs := completed, subjectObjectId := some wqe.wqeId }

def ingressVisits (wqe : WqeLifecycleProjection) (port : ReceiverIngress) (h : port ∈ wqe.ingress) :
    List QueueVisit :=
  have hb := wqe.ingress_between port h
  [{ wqeVisitData wqe ⟨.nicSendQueue, wqe.sqId⟩ wqe.eligibleAtPs port.sourceReadyAtPs
        port.sourceReadyAtPs port.sourceReadyAtPs with
      stage := some "coarse_source_admission"
      submitted_le_eligible := wqe.submitted_le_eligible
      eligible_le_started := hb.1
      started_le_finished := le_refl _
      finished_le_completed := le_refl _ },
    { wqeVisitData wqe ⟨.nicReceiveQueue, wqe.rqId⟩ port.sourceReadyAtPs wqe.startedAtPs
        wqe.finishedAtPs wqe.completedAtPs with
      serviceBytes := wqe.payloadBytes
      stage := some "coarse_receiver_service"
      submitted_le_eligible := le_trans wqe.submitted_le_eligible hb.1
      eligible_le_started := hb.2.1
      started_le_finished := wqe.started_le_finished
      finished_le_completed := wqe.finished_le_completed }]

def nativeStageVisits (wqe : WqeLifecycleProjection) (stages : NativeStages)
    (h : stages ∈ wqe.native) : List QueueVisit :=
  have hm := wqe.native_monotone stages h
  [{ wqeVisitData wqe ⟨.nic, wqe.rnicId⟩ stages.doorbellStartedAtPs stages.doorbellStartedAtPs
        stages.doorbellCompletedAtPs stages.doorbellCompletedAtPs with
      stage := some "native_doorbell"
      submitted_le_eligible := hm.1
      eligible_le_started := le_refl _
      started_le_finished := hm.2.1
      finished_le_completed := le_refl _ },
    { wqeVisitData wqe ⟨.nic, wqe.rnicId⟩ stages.networkEligibleAtPs stages.networkStartedAtPs
        stages.networkFinishedAtPs wqe.completedAtPs with
      serviceBytes := wqe.payloadBytes
      stage := some "native_network"
      submitted_le_eligible := le_trans hm.1 (le_trans hm.2.1 hm.2.2.1)
      eligible_le_started := hm.2.2.2.1
      started_le_finished := hm.2.2.2.2.1 ▸ hm.2.2.2.2.2 ▸ wqe.started_le_finished
      finished_le_completed := hm.2.2.2.2.2 ▸ wqe.finished_le_completed }]

def coarseNicVisit (wqe : WqeLifecycleProjection) : QueueVisit :=
  { wqeVisitData wqe ⟨.nic, wqe.rnicId⟩ wqe.eligibleAtPs wqe.startedAtPs wqe.finishedAtPs
      wqe.completedAtPs with
    serviceBytes := wqe.payloadBytes
    submitted_le_eligible := wqe.submitted_le_eligible
    eligible_le_started := wqe.eligible_le_started
    started_le_finished := wqe.started_le_finished
    finished_le_completed := wqe.finished_le_completed }

def nativeWqeVisits (wqe : WqeLifecycleProjection) : List QueueVisit :=
  match hi : wqe.ingress with
  | some port => ingressVisits wqe port (by simp [hi])
  | none =>
    match hn : wqe.native with
    | some stages => nativeStageVisits wqe stages (by simp [hn])
    | none => [coarseNicVisit wqe]

theorem nativeWqeVisits_spec (wqe : WqeLifecycleProjection) :
    (∀ visit ∈ nativeWqeVisits wqe, visit.executionId = wqe.executionId ∧
      visit.operationId = wqe.operationId ∧ visit.subjectObjectId = some wqe.wqeId ∧
      visit.submittedAtPs = wqe.submittedAtPs ∧ visit.completedAtPs ≤ wqe.completedAtPs ∧
      visit.resource.kind ∈ [ResourceKind.nic, .nicSendQueue, .nicReceiveQueue]) ∧
    ∃ visit, (nativeWqeVisits wqe).getLast? = some visit ∧
      visit.completedAtPs = wqe.completedAtPs := by
  have horder := wqe.started_le_finished
  have hdone := wqe.finished_le_completed
  unfold nativeWqeVisits
  split
  next port hi =>
    have hb := wqe.ingress_between port hi
    refine ⟨?_, _, rfl, rfl⟩
    intro visit hv
    simp only [ingressVisits, List.mem_cons, List.not_mem_nil, or_false] at hv
    rcases hv with rfl | rfl <;> (simp [wqeVisitData]; try omega)
  next hi =>
    split
    next stages hn =>
      have hm := wqe.native_monotone stages hn
      refine ⟨?_, _, rfl, rfl⟩
      intro visit hv
      simp only [nativeStageVisits, List.mem_cons, List.not_mem_nil, or_false] at hv
      rcases hv with rfl | rfl <;> (simp [wqeVisitData]; try omega)
    next hn =>
      refine ⟨?_, _, rfl, rfl⟩
      intro visit hv
      cases List.mem_singleton.mp hv
      simp [coarseNicVisit, wqeVisitData]

structure AtlahsWqeLedger where
  availableAtPs : String → Nat := fun _ => 0
  receiverAvailableAtPs : String → Nat := fun _ => 0
  sqSequences : String → Nat := fun _ => 0
  cqSequences : String → Nat := fun _ => 0
  records : List WqeLifecycleProjection := []

def updateKey {κ : Type} [DecidableEq κ] (mapping : κ → Nat) (key : κ) (value : Nat) : κ → Nat :=
  fun k => if k = key then value else mapping k

def atlahsAuthorityName : String := "AtlahsWqeLedger"

def atlahsName (rank : Nat) : String := "atlahs:" ++ gpuName rank

def ledgerWqeId (submission : SemanticWqeSubmission) : String :=
  "atlahs-wqe:" ++ escapeId submission.executionId ++ ":" ++ escapeId submission.operationId ++
    ":" ++ toString submission.extentIndex

def AtlahsWqeLedger.sourceReady (ledger : AtlahsWqeLedger) (submission : SemanticWqeSubmission) :
    Nat :=
  max submission.eligibleAtPs (ledger.availableAtPs (rnicId submission.sourceRank))

def ingressActive (receiverIngress : Bool) (submission : SemanticWqeSubmission) : Bool :=
  receiverIngress && nodeOf submission.sourceRank != nodeOf submission.destinationRank

def AtlahsWqeLedger.start (ledger : AtlahsWqeLedger) (receiverIngress : Bool)
    (submission : SemanticWqeSubmission) : Nat :=
  if ingressActive receiverIngress submission then
    max (ledger.sourceReady submission)
      (ledger.receiverAvailableAtPs (rnicId submission.destinationRank))
  else ledger.sourceReady submission

theorem AtlahsWqeLedger.sourceReady_le_start (ledger : AtlahsWqeLedger) (receiverIngress : Bool)
    (submission : SemanticWqeSubmission) :
    ledger.sourceReady submission ≤ ledger.start receiverIngress submission := by
  unfold AtlahsWqeLedger.start
  split
  next => exact le_max_left _ _
  next => exact le_refl _

def AtlahsWqeLedger.record (ledger : AtlahsWqeLedger) (profile : CoarseDeviceProfile)
    (receiverIngress : Bool) (submission : SemanticWqeSubmission)
    (ordered : submission.submittedAtPs ≤ submission.eligibleAtPs) : WqeLifecycleProjection :=
  let started := ledger.start receiverIngress submission
  let finished := started + serializationPs submission.payloadBytes profile.rnicRateBps
  let sqId := atlahsName submission.sourceRank ++ ":sq"
  let cqId := atlahsName submission.sourceRank ++ ":cq"
  let qpId := atlahsName submission.sourceRank ++ ":qp"
  have hready := ledger.sourceReady_le_start receiverIngress submission
  have heligible : submission.eligibleAtPs ≤ ledger.sourceReady submission := le_max_left _ _
  { authority := atlahsAuthorityName
    executionId := submission.executionId
    operationId := submission.operationId
    wqeId := ledgerWqeId submission
    nativeWqeId := qpId ++ ":post-" ++ toString (ledger.sqSequences sqId + 1)
    sqId := sqId
    rqId := atlahsName submission.destinationRank ++ ":rq"
    cqId := cqId
    qpId := qpId
    rnicId := SimLLM.rnicId submission.sourceRank
    sourceRank := submission.sourceRank
    destinationRank := submission.destinationRank
    payloadBytes := submission.payloadBytes
    goalTag := submission.goalTag
    extentIndex := submission.extentIndex
    sqPostSequence := ledger.sqSequences sqId + 1
    cqPostSequence := ledger.cqSequences cqId + 1
    submittedAtPs := submission.submittedAtPs
    eligibleAtPs := submission.eligibleAtPs
    startedAtPs := started
    finishedAtPs := finished
    completedAtPs := finished + profile.completionDeliveryPs
    channelId := submission.channelId
    ncclCommandId := submission.ncclCommandId
    ingress :=
      if ingressActive receiverIngress submission then
        some ⟨ledger.sourceReady submission, SimLLM.rnicId submission.destinationRank⟩
      else none
    sqPostSequence_pos := Nat.succ_pos _
    cqPostSequence_pos := Nat.succ_pos _
    submitted_le_eligible := ordered
    eligible_le_started := le_trans heligible hready
    started_le_finished := Nat.le_add_right _ _
    finished_le_completed := Nat.le_add_right _ _
    native_monotone := by simp
    ingress_between := by
      intro port hport
      split at hport
      next => cases Option.some.inj hport; exact ⟨heligible, hready, rfl⟩
      next => cases hport }

def AtlahsWqeLedger.append (ledger : AtlahsWqeLedger) (wqe : WqeLifecycleProjection) :
    AtlahsWqeLedger where
  availableAtPs := updateKey ledger.availableAtPs wqe.rnicId wqe.finishedAtPs
  receiverAvailableAtPs :=
    match wqe.ingress with
    | some port => updateKey ledger.receiverAvailableAtPs port.destinationRnicId wqe.finishedAtPs
    | none => ledger.receiverAvailableAtPs
  sqSequences := updateKey ledger.sqSequences wqe.sqId wqe.sqPostSequence
  cqSequences := updateKey ledger.cqSequences wqe.cqId wqe.cqPostSequence
  records := ledger.records ++ [wqe]

def AtlahsWqeLedger.submit (profile : CoarseDeviceProfile) (receiverIngress : Bool)
    (ledger : AtlahsWqeLedger) (submission : SemanticWqeSubmission) :
    Except PyError (WqeLifecycleProjection × AtlahsWqeLedger) :=
  if ordered : submission.submittedAtPs ≤ submission.eligibleAtPs then
    let wqe := ledger.record profile receiverIngress submission ordered
    .ok (wqe, ledger.append wqe)
  else .error (valueError "WQE becomes eligible before submission")

end SimLLM
