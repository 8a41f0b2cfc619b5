import SimLLM.Preflight
import SimLLM.Report

namespace SimLLM

open FirstExtremum

variable {κ π σ τ : Type}

def validateCompletionEvent (event : CompletionEvent) (path : String) : Except PyError Unit := do
  checkString event.executionId (path ++ ".execution_id")
  checkString event.operationId (path ++ ".operation_id")
  match event.resource with
  | none => .ok ()
  | some resource => checkString resource.resourceId (path ++ ".resource.resource_id")
  checkOptionalString event.subjectObjectId (path ++ ".subject_object_id")

def validateResultEvent (result : ExecutionResult) (previous : Option Nat)
    (entry : CompletionEvent × Nat) : Except PyError (Option Nat) := do
  let path := indexPath "result.events" entry.2
  validateCompletionEvent entry.1 path
  require (entry.1.executionId == result.executionId)
    (fail path "execution_id does not match result.execution_id")
  require (previous.all (· ≤ entry.1.timestampPs))
    (fail path "event timestamps must be nondecreasing")
  .ok (some entry.1.timestampPs)

def validateExecutionResult (result : ExecutionResult) : Except PyError Unit := do
  checkString result.executionId "result.execution_id"
  let last ← result.events.zipIdx.foldlM (validateResultEvent result) none
  require (result.quiescedAtPs.all (result.completedAtPs ≤ ·))
    (fail "result.quiesced_at_ps" "must not precede completed_at_ps")
  require (last.all (· ≤ result.quiescedAtPs.getD result.completedAtPs))
    (fail "result.events" "event timestamp exceeds the reported result boundary")

structure Runtime (σ π : Type) where
  state : RuntimeState := {}
  session : σ
  policy : π
  kvLedger : Option KvLifecycleLedger := none
  lastReport : Option RuntimeReport := none
  lastKvReport : Option KvAccountingReport := none
  selectedCriticalVisits : List ((String × Nat) × List QueueVisit) := []

def Runtime.fresh (policy : π) : Runtime AtlahsWqeLedger π := { session := {}, policy := policy }

def requiredIds (graph : ExecutionGraph) : List String :=
  if graph.completionOperationIds.isEmpty then graph.operations.map (·.operationId)
  else graph.completionOperationIds

def maxOrDefault (values : List Nat) (default : Nat) : Nat :=
  (maxBy (fun value => value) values).getD default

def completionBoundary (graph : ExecutionGraph) (scheduled : List ScheduledOperation) :
    Except PyError Nat := do
  let required ← (requiredIds graph).mapM (lookupScheduled scheduled)
  .ok (maxOrDefault (required.map (·.logicalCompletedAtPs)) graph.releasedAtPs)

def executionResult (graph : ExecutionGraph) (scheduled : List ScheduledOperation) :
    Except PyError ExecutionResult := do
  let completed ← completionBoundary graph scheduled
  let events ← completionEvents graph scheduled (scheduled.flatMap (·.wqes))
  .ok { executionId := graph.executionId
        completedAtPs := completed
        events := events
        quiescedAtPs := some
          (maxOrDefault (scheduled.map (·.physicalCompletedAtPs)) graph.releasedAtPs) }

def summarize (cfg : RuntimeConfig κ σ τ) (graph : ExecutionGraph) (loop : LoopState τ) :
    Except PyError (ExecutionResult × RuntimeReport) := do
  let scheduled := loop.scheduled
  let result ← executionResult graph scheduled
  validateExecutionResult result
  let report ← runtimeReport graph scheduled (scheduled.flatMap (·.wqes)) (requiredIds graph)
    (cfg.authority.transactionName loop.machine.wqe)
    (cfg.authority.randomDrawCount loop.machine.wqe)
  .ok (result, report)

structure ScheduledGraph (τ : Type) where
  pendingKv : Option PendingKvAccounting
  launched : List Launched
  start : Machine τ
  loop : LoopState τ

def scheduleGraph (cfg : RuntimeConfig κ σ τ) (policy : ArbitrationPolicy π) (runtime : Runtime σ π)
    (graph : ExecutionGraph) : EStateM PyError π (ScheduledGraph τ) := do
  liftExcept (validateExecutionGraph graph)
  let pending ← liftExcept (preflight cfg runtime.kvLedger graph)
  liftExcept (require (!runtime.state.executionIds.contains graph.executionId)
    (valueError "execution ID {} was already executed" [graph.executionId]))
  let transaction ← liftExcept (cfg.authority.begin runtime.session)
  liftExcept (require (cfg.authority.transactionName transaction == cfg.authority.name)
    (valueError "native transaction authority does not match its session"))
  let tags ← liftExcept (collectiveGoalTags graph cfg.profile.goalBaseTag)
  let edges ← liftExcept (effectiveDependencyEdges graph)
  let (launched, state) ← liftExcept (scheduleLaunches cfg graph runtime.state)
  let start : Machine τ := ⟨state, transaction⟩
  let context : GraphContext := ⟨graph, tags, kvDemandBytes pending⟩
  let loop ← scheduleLoop cfg policy context edges launched graph.operations.length ⟨start, []⟩
  pure ⟨pending, launched, start, loop⟩

structure Staged (τ : Type) extends ScheduledGraph τ where
  result : ExecutionResult
  report : RuntimeReport

def stageExecution (cfg : RuntimeConfig κ σ τ) (policy : ArbitrationPolicy π)
    (runtime : Runtime σ π) (graph : ExecutionGraph) : EStateM PyError π (Staged τ) := do
  let scheduled ← scheduleGraph cfg policy runtime graph
  let (result, report) ← liftExcept (summarize cfg graph scheduled.loop)
  pure ⟨scheduled, result, report⟩

end SimLLM
