import SimLLM.RuntimeState

namespace SimLLM

structure RuntimeConfig (κ σ τ : Type) where
  profile : CoarseDeviceProfile
  authority : WqeAuthority σ τ
  receiverIngress : Bool := false
  serialCompute : Bool := false
  kernelServices : Nat → Option (KernelService κ) := fun _ => none
  kernelLaunches : String → Option κ := fun _ => none

structure RuntimeOptions (κ : Type) where
  profile : CoarseDeviceProfile := {}
  receiverIngress : Bool := false
  serialCompute : Bool := false
  kernelServices : Nat → Option (KernelService κ) := fun _ => none
  kernelLaunches : String → Option κ := fun _ => none

def RuntimeOptions.bypass {κ : Type} (options : RuntimeOptions κ) :
    RuntimeConfig κ AtlahsWqeLedger AtlahsWqeLedger where
  profile := options.profile
  authority := bypassAuthority options.profile options.receiverIngress
  receiverIngress := options.receiverIngress
  serialCompute := options.serialCompute
  kernelServices := options.kernelServices
  kernelLaunches := options.kernelLaunches

structure Machine (τ : Type) where
  state : RuntimeState
  wqe : τ

structure SendSchedule where
  visits : List QueueVisit
  projection : Option WqeLifecycleProjection
  visits_ne : visits ≠ []

def SendSchedule.completedAtPs (send : SendSchedule) : Nat :=
  (send.visits.getLast send.visits_ne).completedAtPs

structure SendRequest where
  sourceRank : Nat
  destinationRank : Nat
  payloadBytes : Nat
  goalTag : Nat
  extentIndex : Nat
  channelId : String
  submittedAtPs : Nat
  eligibleAtPs : Nat
  ncclCommandId : Option String

variable {κ σ τ : Type}

section

variable (cfg : RuntimeConfig κ σ τ) (graph : ExecutionGraph) (operation : ExecutionOperation)

def ncclVisitData (rank : Nat) (channel : String) (submittedAtPs eligibleAtPs : Nat) (state : RuntimeState) : VisitData :=
  let started := max eligibleAtPs (state.ncclAvailable (rank, channel))
  let finished := started + cfg.profile.ncclChannelServicePs
  { executionId := graph.executionId, operationId := operation.operationId
    resource := ncclResource rank channel
    submittedAtPs := submittedAtPs, eligibleAtPs := eligibleAtPs
    startedAtPs := started, finishedAtPs := finished, completedAtPs := finished }

def RuntimeState.reserveNccl (state : RuntimeState) (rank : Nat) (channel : String)
    (finished : Nat) : RuntimeState :=
  { state with ncclAvailable := updateKey state.ncclAvailable (rank, channel) finished }

def scheduleNcclChannel (rank : Nat) (channel : String) (submittedAtPs eligibleAtPs : Nat)
    (m : Machine τ) :
    Except PyError (QueueVisit × Machine τ) := do
  let visit ← QueueVisit.make
    (ncclVisitData cfg graph operation rank channel submittedAtPs eligibleAtPs m.state)
  .ok (visit, { m with state := m.state.reserveNccl rank channel visit.finishedAtPs })

def projectionField (name : String) (agrees : Bool) : Except PyError Unit :=
  require agrees (valueError "WQE projection {} disagrees with semantic submission" [name])

def ingressIdentity (name : String) (agrees : Bool) : Except PyError Unit :=
  require agrees (valueError "WQE receiver ingress {} disagrees with its endpoint" [name])

def validateWqeProjection (submission : SemanticWqeSubmission)
    (wqe : WqeLifecycleProjection) : Except PyError Unit := do
  projectionField "execution_id" (wqe.executionId == submission.executionId)
  projectionField "operation_id" (wqe.operationId == submission.operationId)
  projectionField "source_rank" (wqe.sourceRank == submission.sourceRank)
  projectionField "destination_rank" (wqe.destinationRank == submission.destinationRank)
  projectionField "payload_bytes" (wqe.payloadBytes == submission.payloadBytes)
  projectionField "goal_tag" (wqe.goalTag == submission.goalTag)
  projectionField "extent_index" (wqe.extentIndex == submission.extentIndex)
  projectionField "channel_id" (wqe.channelId == submission.channelId)
  projectionField "nccl_command_id" (wqe.ncclCommandId == submission.ncclCommandId)
  require (wqe.authority == cfg.authority.name)
    (valueError "WQE projection authority does not match the selected session")
  require (wqe.submittedAtPs == submission.submittedAtPs)
    (valueError "WQE projection changed logical submission time")
  require (wqe.eligibleAtPs == submission.eligibleAtPs)
    (valueError "WQE projection changed external eligibility time")
  require (wqe.ingress.isSome == cfg.receiverIngress)
    (valueError "WQE receiver ingress disagrees with the selected authority")
  match wqe.ingress with
  | none => .ok ()
  | some port => do
    let source := atlahsName submission.sourceRank
    ingressIdentity "rnic_id" (wqe.rnicId == rnicId submission.sourceRank)
    ingressIdentity "destination_rnic_id"
      (port.destinationRnicId == rnicId submission.destinationRank)
    ingressIdentity "sq_id" (wqe.sqId == source ++ ":sq")
    ingressIdentity "rq_id" (wqe.rqId == atlahsName submission.destinationRank ++ ":rq")
    ingressIdentity "cq_id" (wqe.cqId == source ++ ":cq")
    ingressIdentity "qp_id" (wqe.qpId == source ++ ":qp")

theorem nativeWqeVisits_ne (wqe : WqeLifecycleProjection) : nativeWqeVisits wqe ≠ [] := by
  obtain ⟨visit, hlast, -⟩ := (nativeWqeVisits_spec wqe).2
  intro hnil
  simp [hnil] at hlast

def nvlinkVisitData (request : SendRequest) (state : RuntimeState) : VisitData :=
  let started := max request.eligibleAtPs (state.nvlinkAvailable request.sourceRank)
  let finished := started + serializationPs request.payloadBytes cfg.profile.nvlinkRateBps
  { executionId := graph.executionId, operationId := operation.operationId
    resource := nvlinkResource request.sourceRank
    submittedAtPs := request.submittedAtPs, eligibleAtPs := request.eligibleAtPs
    startedAtPs := started, finishedAtPs := finished
    completedAtPs := finished + cfg.profile.completionDeliveryPs
    serviceBytes := request.payloadBytes }

def RuntimeState.reserveNvlink (state : RuntimeState) (rank finished : Nat) : RuntimeState :=
  { state with nvlinkAvailable := updateKey state.nvlinkAvailable rank finished }

def scheduleNvlinkSend (request : SendRequest) (m : Machine τ) :
    Except PyError (SendSchedule × Machine τ) := do
  let visit ← QueueVisit.make (nvlinkVisitData cfg graph operation request m.state)
  .ok (⟨[visit], none, by simp⟩,
    { m with state := m.state.reserveNvlink request.sourceRank visit.finishedAtPs })

def SendRequest.submission (request : SendRequest) (graph : ExecutionGraph)
    (operation : ExecutionOperation) : SemanticWqeSubmission :=
  { executionId := graph.executionId, operationId := operation.operationId
    sourceRank := request.sourceRank, destinationRank := request.destinationRank
    payloadBytes := request.payloadBytes, goalTag := request.goalTag
    extentIndex := request.extentIndex, channelId := request.channelId
    submittedAtPs := request.submittedAtPs, eligibleAtPs := request.eligibleAtPs
    classLabel := operation.priority, ncclCommandId := request.ncclCommandId }

def scheduleWqeSend (request : SendRequest) (m : Machine τ) :
    Except PyError (SendSchedule × Machine τ) := do
  let submission := request.submission graph operation
  submission.check
  let (wqe, transaction) ← cfg.authority.submit m.wqe submission
  validateWqeProjection cfg submission wqe
  .ok (⟨nativeWqeVisits wqe, some wqe, nativeWqeVisits_ne wqe⟩, { m with wqe := transaction })

def scheduleSemanticSend (request : SendRequest) (m : Machine τ) :
    Except PyError (SendSchedule × Machine τ) :=
  if nodeOf request.sourceRank = nodeOf request.destinationRank then
    scheduleNvlinkSend cfg graph operation request m
  else scheduleWqeSend cfg graph operation request m

end

variable {cfg : RuntimeConfig κ σ τ} {graph : ExecutionGraph} {operation : ExecutionOperation}
  {m m' : Machine τ}

theorem scheduleNcclChannel_eq_ok {rank : Nat} {channel : String} {submittedAtPs eligibleAtPs : Nat}
    {visit : QueueVisit}
    (h : scheduleNcclChannel cfg graph operation rank channel submittedAtPs eligibleAtPs m =
      .ok (visit, m')) : visit.toVisitData =
        ncclVisitData cfg graph operation rank channel submittedAtPs eligibleAtPs m.state ∧
      m' = { m with state := m.state.reserveNccl rank channel visit.finishedAtPs } := by
  obtain ⟨v, hv, h⟩ := of_bind h
  cases h
  exact ⟨QueueVisit.make_eq_ok.mp hv, rfl⟩

structure ProjectionAgrees (cfg : RuntimeConfig κ σ τ) (submission : SemanticWqeSubmission)
    (wqe : WqeLifecycleProjection) : Prop where
  executionId : wqe.executionId = submission.executionId
  operationId : wqe.operationId = submission.operationId
  sourceRank : wqe.sourceRank = submission.sourceRank
  destinationRank : wqe.destinationRank = submission.destinationRank
  payloadBytes : wqe.payloadBytes = submission.payloadBytes
  extentIndex : wqe.extentIndex = submission.extentIndex
  submittedAtPs : wqe.submittedAtPs = submission.submittedAtPs
  eligibleAtPs : wqe.eligibleAtPs = submission.eligibleAtPs
  ingress : wqe.ingress.isSome = cfg.receiverIngress

theorem validateWqeProjection_agrees {submission : SemanticWqeSubmission}
    {wqe : WqeLifecycleProjection} {u : Unit}
    (h : validateWqeProjection cfg submission wqe = .ok u) :
    ProjectionAgrees cfg submission wqe := by
  simp only [validateWqeProjection, projectionField, bind_eq_ok, require_eq_ok,
    beq_iff_eq, exists_const_iff] at h
  constructor <;> tauto

variable {request : SendRequest} {send : SendSchedule}

def OwnedBy (graph : ExecutionGraph) (operation : ExecutionOperation) (visit : QueueVisit) : Prop :=
  visit.executionId = graph.executionId ∧ visit.operationId = operation.operationId

def transferKinds : List ResourceKind := [.nvlink, .nic, .nicSendQueue, .nicReceiveQueue]

/-- The timing contract of a send: it starts after its submission, ends after its
eligibility, and its last visit ends it. -/
structure SendFacts (graph : ExecutionGraph) (operation : ExecutionOperation)
    (request : SendRequest) (send : SendSchedule) : Prop where
  owned : ∀ visit ∈ send.visits, OwnedBy graph operation visit
  kinds : ∀ visit ∈ send.visits, visit.resource.kind ∈ transferKinds
  after : ∀ visit ∈ send.visits, request.submittedAtPs ≤ visit.eligibleAtPs
  within : ∀ visit ∈ send.visits, visit.completedAtPs ≤ send.completedAtPs
  eligible_le : request.eligibleAtPs ≤ send.completedAtPs
  submitted_le : request.submittedAtPs ≤ request.eligibleAtPs
  subjects : send.visits.filter (·.subjectObjectId.isSome) =
    send.projection.toList.flatMap nativeWqeVisits
  plain : ∀ visit ∈ send.visits, visit.subjectObjectId = none →
    visit.resource = nvlinkResource request.sourceRank
  wqes : ∀ wqe ∈ send.projection, wqe.sourceRank = request.sourceRank ∧
    wqe.submittedAtPs = request.submittedAtPs ∧ wqe.extentIndex = request.extentIndex ∧
    wqe.executionId = graph.executionId ∧ wqe.operationId = operation.operationId

theorem nativeWqeVisits_filter (wqe : WqeLifecycleProjection) :
    (nativeWqeVisits wqe).filter (·.subjectObjectId.isSome) = nativeWqeVisits wqe := by
  refine List.filter_eq_self.mpr fun visit hv => ?_
  simp [((nativeWqeVisits_spec wqe).1 visit hv).2.2.1]

section

variable (h : scheduleSemanticSend cfg graph operation request m = .ok (send, m'))

include h

theorem scheduleSemanticSend_cases :
    (nodeOf request.sourceRank = nodeOf request.destinationRank ∧ ∃ visit : QueueVisit,
      visit.toVisitData = nvlinkVisitData cfg graph operation request m.state ∧
      send.visits = [visit] ∧ send.projection = none ∧
      m' = { m with state := m.state.reserveNvlink request.sourceRank visit.finishedAtPs }) ∨
    (nodeOf request.sourceRank ≠ nodeOf request.destinationRank ∧ ∃ wqe transaction,
      cfg.authority.submit m.wqe (request.submission graph operation) = .ok (wqe, transaction) ∧
      ProjectionAgrees cfg (request.submission graph operation) wqe ∧
      send.visits = nativeWqeVisits wqe ∧ send.projection = some wqe ∧
      m' = { m with wqe := transaction }) := by
  unfold scheduleSemanticSend at h
  split at h
  next hnode =>
    obtain ⟨v, hv, h⟩ := of_bind h
    cases h
    exact .inl ⟨hnode, v, QueueVisit.make_eq_ok.mp hv, rfl, rfl, rfl⟩
  next hnode =>
    obtain ⟨⟨⟩, -, h⟩ := of_bind h
    obtain ⟨⟨wqe, transaction⟩, hsubmit, h⟩ := of_bind h
    obtain ⟨u, hvalid, h⟩ := of_bind h
    cases h
    exact .inr ⟨hnode, wqe, transaction, hsubmit, validateWqeProjection_agrees hvalid,
      rfl, rfl, rfl⟩

theorem scheduleSemanticSend_facts : SendFacts graph operation request send := by
  rcases scheduleSemanticSend_cases h with
    ⟨-, visit, hdata, hvisits, hproj, -⟩ | ⟨-, wqe, t, -, agrees, hvisits, hproj, -⟩
  · obtain ⟨visits, projection, hne⟩ := send
    obtain rfl : visits = [visit] := hvisits
    obtain rfl : projection = none := hproj
    have hsub := visit.submitted_le_eligible
    have hstart := visit.eligible_le_started
    have hfin := visit.started_le_finished
    have hdone := visit.finished_le_completed
    simp only [hdata, nvlinkVisitData] at hsub hstart hfin hdone
    refine ⟨?_, ?_, ?_, ?_, ?_, hsub, ?_, ?_, by simp⟩ <;>
      simp [OwnedBy, transferKinds, SendSchedule.completedAtPs, hdata, nvlinkVisitData,
        nvlinkResource] <;> omega
  · obtain ⟨visits, projection, hne⟩ := send
    obtain rfl : visits = nativeWqeVisits wqe := hvisits
    obtain rfl : projection = some wqe := hproj
    obtain ⟨hspec, last, hlast, hcompleted⟩ := nativeWqeVisits_spec wqe
    have hdone : (⟨nativeWqeVisits wqe, some wqe, hne⟩ : SendSchedule).completedAtPs =
        wqe.completedAtPs := by
      have hl := List.getLast?_eq_some_getLast hne
      rw [hlast] at hl
      rw [← hcompleted, Option.some.inj hl]
      rfl
    have hs := wqe.eligible_le_started
    have hf := wqe.started_le_finished
    have hc := wqe.finished_le_completed
    have helig : wqe.eligibleAtPs = request.eligibleAtPs := agrees.eligibleAtPs
    have hsubm : wqe.submittedAtPs = request.submittedAtPs := agrees.submittedAtPs
    have hle := wqe.submitted_le_eligible
    refine ⟨?_, ?_, ?_, ?_, by omega, by omega, ?_, ?_, ?_⟩
    · exact fun v hv => ⟨(hspec v hv).1.trans agrees.executionId,
        (hspec v hv).2.1.trans agrees.operationId⟩
    · intro v hv
      have hk := (hspec v hv).2.2.2.2.2
      tauto
    · intro v hv
      have := (hspec v hv).2.2.2.1
      have := v.submitted_le_eligible
      omega
    · intro v hv
      rw [hdone]
      exact (hspec v hv).2.2.2.2.1
    · simpa using nativeWqeVisits_filter wqe
    · intro v hv hnone
      rw [(hspec v hv).2.2.1] at hnone
      cases hnone
    · rintro w ⟨⟩
      exact ⟨agrees.sourceRank, agrees.submittedAtPs, agrees.extentIndex, agrees.executionId,
        agrees.operationId⟩

end

end SimLLM
