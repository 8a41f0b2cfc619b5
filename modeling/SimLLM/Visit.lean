import SimLLM.ExceptRules
import SimLLM.Profile

namespace SimLLM

structure VisitData where
  executionId : String
  operationId : String
  resource : ResourceRef
  submittedAtPs : Nat
  eligibleAtPs : Nat
  startedAtPs : Nat
  finishedAtPs : Nat
  completedAtPs : Nat
  serviceBytes : Nat := 0
  subjectObjectId : Option String := none
  stage : Option String := none
  deriving DecidableEq, Repr

structure QueueVisit extends VisitData where
  submitted_le_eligible : submittedAtPs ≤ eligibleAtPs
  eligible_le_started : eligibleAtPs ≤ startedAtPs
  started_le_finished : startedAtPs ≤ finishedAtPs
  finished_le_completed : finishedAtPs ≤ completedAtPs
  deriving DecidableEq

def QueueVisit.make (data : VisitData) : Except PyError QueueVisit :=
  if h₁ : data.submittedAtPs ≤ data.eligibleAtPs then
    if h₂ : data.eligibleAtPs ≤ data.startedAtPs then
      if h₃ : data.startedAtPs ≤ data.finishedAtPs then
        if h₄ : data.finishedAtPs ≤ data.completedAtPs then
          .ok { data with
            submitted_le_eligible := h₁, eligible_le_started := h₂
            started_le_finished := h₃, finished_le_completed := h₄ }
        else .error (valueError "queue visit completes before resource release")
      else .error (valueError "queue visit finishes before service starts")
    else .error (valueError "queue visit starts before eligibility")
  else .error (valueError "queue visit becomes eligible before submission")

theorem QueueVisit.make_eq_ok {data : VisitData} {visit : QueueVisit} :
    QueueVisit.make data = .ok visit ↔ visit.toVisitData = data := by
  constructor
  · intro h
    unfold QueueVisit.make at h
    repeat' split at h
    all_goals cases h
    rfl
  · rintro rfl
    unfold QueueVisit.make
    rw [dif_pos visit.submitted_le_eligible, dif_pos visit.eligible_le_started,
      dif_pos visit.started_le_finished, dif_pos visit.finished_le_completed]

theorem QueueVisit.eligible_le_completed (visit : QueueVisit) :
    visit.eligibleAtPs ≤ visit.completedAtPs :=
  visit.eligible_le_started.trans (visit.started_le_finished.trans visit.finished_le_completed)

def QueueVisit.queueWaitPs (visit : QueueVisit) : Nat := visit.startedAtPs - visit.eligibleAtPs

structure SemanticWqeSubmission where
  executionId : String
  operationId : String
  sourceRank : Nat
  destinationRank : Nat
  payloadBytes : Nat
  goalTag : Nat
  extentIndex : Nat
  channelId : String
  submittedAtPs : Nat
  eligibleAtPs : Nat
  classLabel : Int := 0
  ncclCommandId : Option String := none
  deriving DecidableEq, Repr

def SemanticWqeSubmission.check (submission : SemanticWqeSubmission) : Except PyError Unit := do
  require (submission.sourceRank != submission.destinationRank)
    (valueError "semantic WQE source and destination must differ")
  require (submission.submittedAtPs ≤ submission.eligibleAtPs)
    (valueError "semantic WQE becomes eligible before submission")

structure NativeStages where
  doorbellStartedAtPs : Nat
  doorbellCompletedAtPs : Nat
  networkEligibleAtPs : Nat
  networkStartedAtPs : Nat
  networkFinishedAtPs : Nat
  deriving DecidableEq, Repr

structure ReceiverIngress where
  sourceReadyAtPs : Nat
  destinationRnicId : String
  deriving DecidableEq, Repr

/-- One projected WQE. A projection that breaks the timestamp contract cannot be built. -/
structure WqeLifecycleProjection where
  authority : String
  executionId : String
  operationId : String
  wqeId : String
  nativeWqeId : String
  sqId : String
  rqId : String
  cqId : String
  qpId : String
  rnicId : String
  sourceRank : Nat
  destinationRank : Nat
  payloadBytes : Nat
  goalTag : Nat
  extentIndex : Nat
  sqPostSequence : Nat
  cqPostSequence : Nat
  submittedAtPs : Nat
  eligibleAtPs : Nat
  startedAtPs : Nat
  finishedAtPs : Nat
  completedAtPs : Nat
  channelId : String
  ncclCommandId : Option String
  native : Option NativeStages := none
  ingress : Option ReceiverIngress := none
  sqPostSequence_pos : 0 < sqPostSequence
  cqPostSequence_pos : 0 < cqPostSequence
  submitted_le_eligible : submittedAtPs ≤ eligibleAtPs
  eligible_le_started : eligibleAtPs ≤ startedAtPs
  started_le_finished : startedAtPs ≤ finishedAtPs
  finished_le_completed : finishedAtPs ≤ completedAtPs
  native_monotone : ∀ stages ∈ native, submittedAtPs ≤ stages.doorbellStartedAtPs ∧
    stages.doorbellStartedAtPs ≤ stages.doorbellCompletedAtPs ∧
    stages.doorbellCompletedAtPs ≤ stages.networkEligibleAtPs ∧
    stages.networkEligibleAtPs ≤ stages.networkStartedAtPs ∧
    startedAtPs = stages.networkStartedAtPs ∧ finishedAtPs = stages.networkFinishedAtPs
  ingress_between : ∀ port ∈ ingress, eligibleAtPs ≤ port.sourceReadyAtPs ∧
    port.sourceReadyAtPs ≤ startedAtPs ∧ native = none
  deriving DecidableEq

end SimLLM
