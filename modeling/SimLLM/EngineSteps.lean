import SimLLM.Clock
import SimLLM.Table
import SimLLM.Schedule
import SimLLM.StepMetrics

namespace SimLLM

open FirstExtremum

/-- The identity and timing of a submitted step. `object` tells two receipts with the same fields
apart: a receipt is compared by identity. -/
structure EngineStepReceipt where
  engineId : String
  stepIndex : Int
  sequence : Nat
  submittedAtPs : Int
  completedAtPs : Int
  object : Nat
  deriving DecidableEq, Repr

def EngineStepReceipt.order (receipt : EngineStepReceipt) : Int ×ₗ Nat :=
  toLex (receipt.completedAtPs, receipt.sequence)

/-- A step that was submitted and has not retired: the token its completion is scheduled under,
the publishers bound to it, those its publish callback claims, and those that have claimed. -/
structure PendingStep where
  receipt : EngineStepReceipt
  result : StepResult
  token : Nat
  publications : List Nat
  claims : List Nat
  publishers : List Nat := []

structure EngineEvent where
  executionId : String
  operationId : String
  phase : EventPhase
  timestampPs : Int
  resource : ResourceRef

structure EngineStepRuntime where
  clock : VirtualClock Nat
  nowPs : Int
  pending : Dict PendingStep := []
  used : List (String × Int) := []
  sequence : Nat := 0
  events : List EngineEvent := []
  visits : List QueueVisit := []
  results : List (EngineStepReceipt × StepResult) := []
  retiring : Option PendingStep := none
  failure : Option PyError := none
  closed : Bool := false

def EngineStepRuntime.new (clock : VirtualClock Nat) : Except PyError EngineStepRuntime := do
  require clock.heap.isEmpty
    (valueError "independent engine completion requires an empty event clock")
  return { clock := clock, nowPs := clock.nowPs }

abbrev EngineM := EStateM PyError EngineStepRuntime

variable (runtime : EngineStepRuntime)

def EngineStepRuntime.invalidate (reason : PyError) :
    EngineStepRuntime :=
  { runtime with failure := runtime.failure.or (some reason) }

def reject {α : Type} (message : String) : EngineM α := fun runtime =>
  .error (runtimeError message) (runtime.invalidate (runtimeError message))

def guarded {α : Type} (body : EngineM α) : EngineM α := fun runtime =>
  match body runtime with
  | .ok value after => .ok value after
  | .error error after => .error error (after.invalidate error)

def EngineStepRuntime.active : List PendingStep :=
  runtime.pending.values.filter fun item => runtime.retiring.all (·.token != item.token)

def EngineStepRuntime.earliest : Option Int :=
  minBy (fun atPs => atPs) (runtime.active.map (·.receipt.completedAtPs))

def checkLive : EngineM Unit := fun runtime =>
  match runtime.failure with
  | some reason =>
    .error (runtimeError "independent engine runtime is poisoned: {}" [reason.template]) runtime
  | none =>
    if runtime.closed then .error (runtimeError "independent engine runtime is closed") runtime
    else if runtime.clock.nowPs ≠ runtime.nowPs then
      reject "engine clock advanced outside its completion authority" runtime
    else if runtime.clock.heap.length ≠ runtime.active.length ∨
        runtime.clock.peekNextTime ≠ runtime.earliest then
      reject "engine event queue changed outside its completion authority" runtime
    else .ok () runtime

def checkAction : EngineM Unit := do
  checkLive
  let runtime ← get
  if runtime.retiring.isSome then
    reject "engine submission or clock movement during retirement is forbidden"
  else pure ()

structure Submission where
  engineId : String
  record : StepRecord
  result : StepResult
  publications : List Nat := []
  claims : List Nat := []

def StepRecord.totalNewTokens (record : StepRecord) : Int :=
  (record.scheduled.map (·.numNewTokens)).sum

def checkService (record : StepRecord) (result : StepResult) : Except PyError Unit :=
  if record.scheduled ≠ [] then
    require (0 < record.totalNewTokens && 0 < result.stepLatencyPs)
      (valueError "scheduled engine work must have positive service")
  else
    require (result.stepLatencyPs == 0 &&
        (!record.finishedRequestIds.isEmpty || !record.preemptedRequestIds.isEmpty))
      (valueError "zero-service drain requires native completion identities")

def EngineStepRuntime.checkSubmission (submission : Submission) :
    Except PyError Unit := do
  let record := submission.record
  let result := submission.result
  require (runtime.clock.peekNextTime != some runtime.nowPs)
    (valueError "existing due completions must retire before submission")
  require (nonblank submission.engineId) (valueError "engine_id must be a nonblank string")
  require (runtime.pending.get? submission.engineId).isNone
    (valueError "engine already has a pending step")
  require (!runtime.used.contains (submission.engineId, record.stepIndex))
    (valueError "engine step identity was already submitted")
  require (0 ≤ record.stepIndex && record.virtualTimePs == runtime.nowPs)
    (valueError "step must be released at the current engine clock")
  result.check
  require (result.stepIndex == record.stepIndex &&
      result.completedAtPs == runtime.nowPs + result.stepLatencyPs)
    (valueError "engine price disagrees with its input or release")
  checkService record result
  require submission.publications.Nodup (valueError "engine publisher was bound twice")

def scheduleClock (atPs : Int) (token : Nat) : EngineM Unit := fun runtime =>
  match runtime.clock.schedule atPs token with
  | .ok clock => .ok () { runtime with clock := clock }
  | .error error => .error error runtime

variable (receipt : EngineStepReceipt)

def engineEvent (phase : EventPhase) (atPs : Int) : EngineEvent :=
  ⟨"engine-service:" ++ receipt.engineId, "step-" ++ toString receipt.stepIndex, phase, atPs,
    ⟨.gpuWorkQueue, receipt.engineId⟩⟩

def recordEvents (phases : List EventPhase) (atPs : Int) :
    EngineM Unit :=
  modify fun runtime =>
    { runtime with events := runtime.events ++ phases.map (engineEvent receipt · atPs) }

def EngineStepRuntime.receiptFor (submission : Submission) :
    EngineStepReceipt :=
  ⟨submission.engineId, submission.record.stepIndex, runtime.sequence, runtime.nowPs,
    submission.result.completedAtPs, runtime.sequence⟩

def submit (submission : Submission) : EngineM EngineStepReceipt := do
  checkAction
  guarded do
    let runtime ← get
    liftExcept (runtime.checkSubmission submission)
    let receipt := runtime.receiptFor submission
    let pending : PendingStep := ⟨receipt, submission.result, runtime.sequence,
      submission.publications, submission.claims, []⟩
    checkAction
    modify fun runtime =>
      { runtime with pending := runtime.pending.set submission.engineId pending }
    modify fun runtime =>
      { runtime with used := runtime.used ++ [(submission.engineId, submission.record.stepIndex)] }
    modify fun runtime => { runtime with sequence := runtime.sequence + 1 }
    scheduleClock submission.result.completedAtPs pending.token
    recordEvents receipt [.submitted, .queued, .started] runtime.nowPs
    return receipt

def advanceEngine (atPs : Int) : EngineM Unit := do
  checkAction
  let runtime ← get
  if atPs < runtime.nowPs ∨ (runtime.clock.peekNextTime.any (· < atPs)) = true then
    reject "engine clock cannot rewind or skip a completion"
  else
    match runtime.clock.advanceTo atPs with
    | .error error => throw error
    | .ok clock => set { runtime with clock := clock, nowPs := atPs }

def claimPublication (publisher : Nat) : EngineM Unit := do
  checkLive
  let runtime ← get
  match runtime.retiring with
  | none => reject "publication is outside its owned engine retirement"
  | some pending =>
    if pending.receipt ≠ receipt then
      reject "publication is outside its owned engine retirement"
    else if publisher ∈ pending.publishers then
      reject "engine owner already published this receipt"
    else if publisher ∉ pending.publications then
      reject "engine publisher or prepared payload is not bound to this receipt"
    else
      let claimed := { pending with publishers := pending.publishers ++ [publisher] }
      set { runtime with retiring := some claimed }

def popClock : EngineM (ClockEvent Nat) := fun runtime =>
  match runtime.clock.popNext with
  | .ok (event, clock) => .ok event { runtime with clock := clock }
  | .error error => .error error runtime

def foreignEvent : PyError := valueError "foreign engine completion event"

def engineVisit (atPs : Int) : Except PyError QueueVisit := do
  require (0 ≤ receipt.submittedAtPs) (valueError "{} must be nonnegative" ["submitted_at_ps"])
  require (0 ≤ atPs) (valueError "{} must be nonnegative" ["finished_at_ps"])
  let submitted := receipt.submittedAtPs.toNat
  QueueVisit.make
    { executionId := "engine-service:" ++ receipt.engineId
      operationId := "step-" ++ toString receipt.stepIndex
      resource := ⟨.gpuWorkQueue, receipt.engineId⟩
      submittedAtPs := submitted
      eligibleAtPs := submitted
      startedAtPs := submitted
      finishedAtPs := atPs.toNat
      completedAtPs := atPs.toNat
      stage := some "declared-whole-engine-service" }

def EngineStepRuntime.claimed : Nat :=
  (runtime.retiring.map (·.publishers.length)).getD 0

def retirePending (pending : PendingStep) : EngineM Unit := do
  checkAction
  let event ← popClock
  let popped ← get
  if event.payload ≠ pending.token ∨ event.atPs ≠ popped.nowPs then throw foreignEvent
  else do
    modify fun runtime => { runtime with retiring := some pending }
    pending.claims.forM (claimPublication pending.receipt)
    checkLive
    let published ← get
    liftExcept (require (published.claimed == pending.publications.length)
      (valueError "engine retirement omitted a bound publication"))
    let visit ← liftExcept (engineVisit pending.receipt event.atPs)
    modify fun runtime => { runtime with visits := runtime.visits ++ [visit] }
    recordEvents pending.receipt [.progress, .completed] event.atPs
    modify fun runtime =>
      { runtime with results := runtime.results ++ [(pending.receipt, pending.result)] }
    modify fun runtime =>
      { runtime with pending := runtime.pending.erase pending.receipt.engineId }
    modify fun runtime => { runtime with retiring := none }

def EngineStepRuntime.nextPending : Option PendingStep :=
  minBy (·.receipt.order) runtime.pending.values

def complete : EngineM Unit := do
  checkAction
  let runtime ← get
  match runtime.pending.get? receipt.engineId with
  | none => reject "foreign or already consumed engine receipt"
  | some pending =>
    if pending.receipt ≠ receipt then reject "foreign or already consumed engine receipt"
    else if runtime.nextPending.map (·.token) ≠ some pending.token ∨
        receipt.completedAtPs ≠ runtime.nowPs then
      reject "engine retirement is early or out of due order"
    else guarded (retirePending pending)

def EngineStepRuntime.due : List EngineStepReceipt :=
  ((runtime.pending.values.map (·.receipt)).filter (·.completedAtPs == runtime.nowPs)).insertionSort
    fun a b => a.sequence ≤ b.sequence

def completeDue : EngineM (List EngineStepReceipt) := do
  checkAction
  let runtime ← get
  runtime.due.forM complete
  return runtime.due

inductive EngineCall where
  | submit (submission : Submission)
  | advanceTo (atPs : Int)
  | complete (receipt : EngineStepReceipt)
  | completeDue

def EngineCall.apply : EngineCall → EngineM Unit
  | .submit submission => do
    let _ ← SimLLM.submit submission
    pure ()
  | .advanceTo atPs => advanceEngine atPs
  | .complete receipt => SimLLM.complete receipt
  | .completeDue => do
    let _ ← SimLLM.completeDue
    pure ()

end SimLLM
