import SimLLM.RuntimeState

namespace SimLLM

def replaceChar (c : Char) (text value : String) : String :=
  String.ofList (value.toList.flatMap fun d => if d = c then text.toList else [d])

structure ComposedWqeObservation where
  nativeWqeId : Nat
  eligibleAtPs : Nat
  networkStartedAtPs : Nat
  networkFinishedAtPs : Nat
  completedAtPs : Nat
  nativeWqeId_pos : 0 < nativeWqeId
  eligible_le_started : eligibleAtPs ≤ networkStartedAtPs
  started_le_finished : networkStartedAtPs ≤ networkFinishedAtPs
  finished_le_completed : networkFinishedAtPs ≤ completedAtPs

structure ComposedRnicCell where
  payloadBytes : Nat
  doorbellServicePs : Nat
  wqes : List ComposedWqeObservation
  payload_pos : 0 < payloadBytes
  wqe_count : wqes.length = 1 ∨ wqes.length = 2
  eligible : ∀ wqe ∈ wqes, wqe.eligibleAtPs = doorbellServicePs

structure ComposedRnicSession where
  cell : ComposedRnicCell
  sessionId : String
  committedTransactions : Nat := 0
  committedWqes : Nat := 0

structure ComposedRnicTransaction where
  session : ComposedRnicSession
  projections : List WqeLifecycleProjection := []

def nativeAuthority : String := "SimllmNativeRnicSession"

namespace ComposedRnicTransaction

variable (transaction : ComposedRnicTransaction) (submission : SemanticWqeSubmission)

/-- Unlike `_escape_id`, the session leaves the percent sign as it is. -/
def wqeId : String :=
  "native-wqe:" ++ replaceChar ':' "%3A" submission.executionId ++ ":" ++
    replaceChar ':' "%3A" submission.operationId ++ ":" ++ toString submission.extentIndex

def project (observed : ComposedWqeObservation)
    (ordered : submission.submittedAtPs ≤ submission.eligibleAtPs) : WqeLifecycleProjection :=
  let session := transaction.session
  let offset := submission.eligibleAtPs
  let endpoint := session.sessionId ++ ":rank-" ++ toString submission.sourceRank
  let sequence := session.committedWqes + transaction.projections.length + 1
  have hstart := observed.eligible_le_started
  have hfinish := observed.started_le_finished
  have hdone := observed.finished_le_completed
  { authority := nativeAuthority
    executionId := submission.executionId
    operationId := submission.operationId
    wqeId := wqeId submission
    nativeWqeId := session.sessionId ++ ":transaction-" ++
      toString session.committedTransactions ++ ":wqe-" ++ toString observed.nativeWqeId
    sqId := endpoint ++ ":sq"
    rqId := session.sessionId ++ ":rank-" ++ toString submission.destinationRank ++ ":rq"
    cqId := endpoint ++ ":cq"
    qpId := endpoint ++ ":qp"
    rnicId := endpoint ++ ":rnic"
    sourceRank := submission.sourceRank
    destinationRank := submission.destinationRank
    payloadBytes := submission.payloadBytes
    goalTag := submission.goalTag
    extentIndex := submission.extentIndex
    sqPostSequence := sequence
    cqPostSequence := sequence
    submittedAtPs := submission.submittedAtPs
    eligibleAtPs := submission.eligibleAtPs
    startedAtPs := offset + observed.networkStartedAtPs
    finishedAtPs := offset + observed.networkFinishedAtPs
    completedAtPs := offset + observed.completedAtPs
    channelId := submission.channelId
    ncclCommandId := submission.ncclCommandId
    native := some ⟨offset, offset + observed.eligibleAtPs, offset + observed.eligibleAtPs,
      offset + observed.networkStartedAtPs, offset + observed.networkFinishedAtPs⟩
    sqPostSequence_pos := Nat.succ_pos _
    cqPostSequence_pos := Nat.succ_pos _
    submitted_le_eligible := ordered
    eligible_le_started := Nat.le_add_right _ _
    started_le_finished := Nat.add_le_add_left hfinish _
    finished_le_completed := Nat.add_le_add_left hdone _
    native_monotone := by
      rintro stages ⟨⟩
      exact ⟨ordered, Nat.le_add_right _ _, le_rfl, Nat.add_le_add_left hstart _, rfl, rfl⟩
    ingress_between := by simp }

def submit : Except PyError (WqeLifecycleProjection × ComposedRnicTransaction) :=
  match transaction.session.cell.wqes[transaction.projections.length]? with
  | none => .error (valueError "graph submitted more WQEs than the selected native cell")
  | some observed => do
    require (submission.payloadBytes == transaction.session.cell.payloadBytes)
      (valueError "semantic payload disagrees with the selected native cell")
    if ordered : submission.submittedAtPs ≤ submission.eligibleAtPs then
      let wqe := transaction.project submission observed ordered
      .ok (wqe, { transaction with projections := transaction.projections ++ [wqe] })
    else .error (valueError "WQE becomes eligible before submission")

end ComposedRnicTransaction

def composedAuthority : WqeAuthority ComposedRnicSession ComposedRnicTransaction where
  name := nativeAuthority
  begin session := .ok ⟨session, []⟩
  transactionName _ := nativeAuthority
  submit := ComposedRnicTransaction.submit
  randomDrawCount _ := 0
  prepare transaction := require
    (transaction.projections.length == transaction.session.cell.wqes.length)
    (valueError "graph did not consume every WQE in the selected native cell")
  commit session _ := { session with
    committedTransactions := session.committedTransactions + 1
    committedWqes := session.committedWqes + session.cell.wqes.length }

end SimLLM
