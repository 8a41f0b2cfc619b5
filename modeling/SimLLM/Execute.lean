import SimLLM.Projection
import SimLLM.Staging

namespace SimLLM

variable {κ π σ τ : Type}

structure ObjectAdditions where
  existing : Dict CreatedObjectRecord
  additions : List CreatedObjectRecord := []

def ObjectAdditions.add (acc : ObjectAdditions) (record : CreatedObjectRecord) :
    Except PyError ObjectAdditions :=
  match acc.existing.get? record.ref.objectId with
  | some prior => do
    require (prior.ref == record.ref && prior.nativeId == record.nativeId)
      (valueError "runtime object {} conflicts with bookkeeping" [record.ref.objectId])
    .ok acc
  | none => .ok ⟨acc.existing.set record.ref.objectId record, acc.additions ++ [record]⟩

def ledgerObjects (entries : List BookkeepingEntry) : Dict CreatedObjectRecord :=
  entries.foldl (fun objects entry =>
    match entry.fact with
    | .object record => objects.set record.ref.objectId record
    | _ => objects) []

variable (graph : ExecutionGraph)

def ncclCommandObject (operation : ExecutionOperation) (work : CollectiveWork)
    (commandId : String) : CreatedObjectRecord where
  ref := ⟨.ncclCommand, commandId⟩
  owner := .nccl
  createdAtPs := graph.releasedAtPs
  scope := operationScope graph operation
  nativeId := some operation.operationId
  parentRefs := [operationObjectRef graph.executionId operation.operationId]
  metadata := [("channel", .str work.channelId), ("collective", .str work.collective),
    ("algorithm", .str (match work.algorithmHint with
      | none => "unspecified"
      | some hint => if hint = "" then "unspecified" else hint))]

variable (scheduled : List ScheduledOperation)

def addCommandObject (acc : ObjectAdditions) (operation : ExecutionOperation) :
    Except PyError ObjectAdditions := do
  let outcome ← lookupScheduled scheduled operation.operationId
  match outcome.ncclCommandId, operation.work with
  | some commandId, .collective work => acc.add (ncclCommandObject graph operation work commandId)
  | _, _ => .ok acc

def queueObject (wqe : WqeLifecycleProjection) (kind : CreatedObjectKind)
    (queueId queueKind : String) : CreatedObjectRecord where
  ref := ⟨kind, queueId⟩
  owner := .networkBackend
  createdAtPs := graph.releasedAtPs
  nativeId := some queueId
  metadata := [("authority", .str wqe.authority), ("queue_kind", .str queueKind)]

def queueRefs (wqe : WqeLifecycleProjection) : List CreatedObjectRef :=
  [⟨.sendQueue, wqe.sqId⟩, ⟨.receiveQueue, wqe.rqId⟩, ⟨.completionQueue, wqe.cqId⟩]

def qpObject (wqe : WqeLifecycleProjection) : CreatedObjectRecord where
  ref := ⟨.dcqcnQp, wqe.qpId⟩
  owner := .networkBackend
  createdAtPs := graph.releasedAtPs
  nativeId := some wqe.qpId
  parentRefs := queueRefs wqe
  metadata := [("authority", .str wqe.authority), ("compatibility_qp", .bool true)]

def wqeObject (operation : ExecutionOperation) (wqe : WqeLifecycleProjection) :
    CreatedObjectRecord where
  ref := ⟨.networkWqe, wqe.wqeId⟩
  owner := .networkBackend
  createdAtPs := wqe.submittedAtPs
  scope := operationScope graph operation
  nativeId := some wqe.nativeWqeId
  parentRefs := (wqe.ncclCommandId.map (⟨.ncclCommand, ·⟩)).toList ++ queueRefs wqe ++
    [⟨.dcqcnQp, wqe.qpId⟩]
  metadata := [("authority", .str wqe.authority), ("bytes", .int wqe.payloadBytes),
    ("channel", .str wqe.channelId), ("cq_post_sequence", .int wqe.cqPostSequence),
    ("destination_rank", .int wqe.destinationRank), ("extent_index", .int wqe.extentIndex),
    ("goal_tag", .int wqe.goalTag), ("graph_operation_id", .str wqe.operationId),
    ("source_rank", .int wqe.sourceRank), ("sq_post_sequence", .int wqe.sqPostSequence),
    ("transport_kind", .str "compatibility-qp")]

def addWqeObjects (acc : ObjectAdditions) (wqe : WqeLifecycleProjection) :
    Except PyError ObjectAdditions :=
  match graph.operation? wqe.operationId with
  | none => .error (keyError "{}" [wqe.operationId])
  | some operation =>
    [queueObject graph wqe .sendQueue wqe.sqId "sq",
      queueObject graph wqe .receiveQueue wqe.rqId "rq",
      queueObject graph wqe .completionQueue wqe.cqId "cq",
      qpObject graph wqe, wqeObject graph operation wqe].foldlM ObjectAdditions.add acc

def bookkeepingObjects (entries : List BookkeepingEntry) (graph : ExecutionGraph)
    (scheduled : List ScheduledOperation) (wqes : List WqeLifecycleProjection) :
    Except PyError (List CreatedObjectRecord) := do
  let commands ← graph.operations.foldlM (addCommandObject graph scheduled)
    ⟨ledgerObjects entries, []⟩
  let acc ← wqes.foldlM (addWqeObjects graph) commands
  .ok acc.additions

def completionStage (completedAtPs : Nat) : BookkeepingFact :=
  .stage { stage := .completion, phase := .completed, timestampPs := completedAtPs
           scope := { stepIndex := some graph.stepIndex, executionId := some graph.executionId } }

def extendUnlessEmpty (facts : List BookkeepingFact) : EStateM PyError RequestBookkeeper Unit :=
  if facts.isEmpty then pure () else extendLedger facts

def appendBookkeeping (wqes : List WqeLifecycleProjection) (events : List CompletionEvent) :
    EStateM PyError RequestBookkeeper Unit := do
  registerGraph graph
  let bookkeeper ← get
  let objects ← liftExcept (bookkeepingObjects bookkeeper.entries graph scheduled wqes)
  extendUnlessEmpty (objects.map .object)
  extendUnlessEmpty (events.map .event)
  let completed ← liftExcept (completionBoundary graph scheduled)
  extendLedger [completionStage graph completed]

def Staged.append (staged : Staged τ) (graph : ExecutionGraph) :
    EStateM PyError RequestBookkeeper Unit :=
  appendBookkeeping graph staged.loop.scheduled (staged.loop.scheduled.flatMap (·.wqes))
    staged.result.events

def validateBookkeepingAppend (bookkeeper : RequestBookkeeper) (graph : ExecutionGraph)
    (staged : Staged τ) : Except PyError Unit := do
  let copy ← RequestBookkeeper.ofLedger bookkeeper.entries
  match staged.append graph copy with
  | .error error _ => .error error
  | .ok () appended =>
    checkBookkeepingProjection appended.entries graph staged.result staged.report

def approve (cfg : RuntimeConfig κ σ τ) (graph : ExecutionGraph)
    (bookkeeper : Option RequestBookkeeper) (staged : Staged τ) : Except PyError Unit := do
  if cfg.receiverIngress then
    checkCompletionEventProjection graph staged.result staged.report
  match bookkeeper with
  | none => .ok ()
  | some bookkeeper => validateBookkeepingAppend bookkeeper graph staged
  cfg.authority.prepare staged.loop.machine.wqe

def participantVisits :
    List ((String × Nat) × List QueueVisit) :=
  scheduled.flatMap fun outcome => outcome.participantPaths.ranks.map fun rank =>
    ((outcome.operation.operationId, rank), outcome.participantPaths.get rank)

def Runtime.commit (cfg : RuntimeConfig κ σ τ) (runtime : Runtime σ π) (graph : ExecutionGraph)
    (staged : Staged τ) (policy : π) : Runtime σ π where
  state := { staged.loop.machine.state with
    executionIds := runtime.state.executionIds ++ [graph.executionId] }
  session := cfg.authority.commit runtime.session staged.loop.machine.wqe
  policy := policy
  kvLedger := (staged.pendingKv.map (·.ledger)) <|> runtime.kvLedger
  lastReport := some staged.report
  lastKvReport :=
    match staged.pendingKv with
    | none => runtime.lastKvReport
    | some pending => some (pending.ledger.report pending.demands)
  selectedCriticalVisits := participantVisits staged.loop.scheduled

structure Executed (σ π : Type) where
  answer : Except PyError ExecutionResult
  runtime : Runtime σ π
  bookkeeper : Option RequestBookkeeper

/-- A refused call: the staged work is dropped, but the policy has been consulted. -/
def refused (runtime : Runtime σ π) (bookkeeper : Option RequestBookkeeper) (error : PyError)
    (policy : π) : Executed σ π :=
  ⟨.error error, { runtime with policy := policy }, bookkeeper⟩

def execute (cfg : RuntimeConfig κ σ τ) (policy : ArbitrationPolicy π) (runtime : Runtime σ π)
    (graph : ExecutionGraph) (bookkeeper : Option RequestBookkeeper) : Executed σ π :=
  match stageExecution cfg policy runtime graph runtime.policy with
  | .error error after => refused runtime bookkeeper error after
  | .ok staged after =>
    match approve cfg graph bookkeeper staged with
    | .error error => refused runtime bookkeeper error after
    | .ok () =>
      match bookkeeper with
      | none => ⟨.ok staged.result, runtime.commit cfg graph staged after, none⟩
      | some ledger =>
        match staged.append graph ledger with
        | .error error ledger => refused runtime (some ledger) error after
        | .ok () ledger =>
          ⟨.ok staged.result, runtime.commit cfg graph staged after, some ledger⟩

end SimLLM
