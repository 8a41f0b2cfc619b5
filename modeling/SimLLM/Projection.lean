import SimLLM.Bookkeeping
import SimLLM.Report

namespace SimLLM

open FirstExtremum

structure EventKey where
  operationId : String
  subjectObjectId : Option String
  phase : EventPhase
  resource : Option ResourceRef
  timestampPs : Nat
  completedBytes : Option Nat
  deriving DecidableEq, Repr

def eventKey (event : CompletionEvent) : EventKey :=
  ⟨event.operationId, event.subjectObjectId, event.phase, event.resource, event.timestampPs,
    event.completedBytes⟩

def EventKey.joins (a b : EventKey) : Bool :=
  a.operationId == b.operationId && a.subjectObjectId == b.subjectObjectId &&
    a.phase == b.phase && a.resource == b.resource

def EventPhase.value : EventPhase → String
  | .submitted => "submitted"
  | .queued => "queued"
  | .started => "started"
  | .progress => "progress"
  | .completed => "completed"

def ResourceKind.value : ResourceKind → String
  | .hostLaunchQueue => "host-launch-queue"
  | .cudaStream => "cuda-stream"
  | .gpuWorkQueue => "gpu-work-queue"
  | .gpuScheduler => "gpu-scheduler"
  | .hbmQueue => "hbm-queue"
  | .copyEngine => "copy-engine"
  | .nvlink => "nvlink"
  | .ncclChannel => "nccl-channel"
  | .nicSendQueue => "nic-send-queue"
  | .nicReceiveQueue => "nic-receive-queue"
  | .nic => "nic"
  | .completionQueue => "completion-queue"
  | .controlQueue => "control-queue"

def quoted (value : String) : String := "'" ++ value ++ "'"

def EventKey.describe (key : EventKey) : String :=
  let subject := match key.subjectObjectId with
    | none => ""
    | some id => " object " ++ quoted id
  let place := match key.resource with
    | none => ""
    | some resource => " on " ++ resource.kind.value ++ " " ++ quoted resource.resourceId
  let payload := match key.completedBytes with
    | none => ""
    | some bytes => " carrying " ++ toString bytes ++ " bytes"
  key.phase.value ++ " event of operation " ++ quoted key.operationId ++ subject ++ place ++
    " at " ++ toString key.timestampPs ++ " ps" ++ payload

def phaseKeys (operationId : String) (subject : Option String) (resource : ResourceRef)
    (submitted queued started finished bytes : Nat) : List EventKey :=
  let key := fun phase timestamp bytes =>
    (⟨operationId, subject, phase, some resource, timestamp, bytes⟩ : EventKey)
  [key .submitted submitted none, key .queued queued none, key .started started none,
    key .progress finished (some bytes)]

def visitEventKeys (report : RuntimeReport) : List EventKey :=
  (report.visits.filter (·.subjectObjectId.isNone)).flatMap fun visit =>
    phaseKeys visit.operationId none visit.resource visit.submittedAtPs visit.eligibleAtPs
      visit.startedAtPs visit.finishedAtPs visit.serviceBytes

def wqeKeys (wqe : WqeLifecycleProjection) : List EventKey :=
  let subject := some wqe.wqeId
  let sendQueue : ResourceRef := ⟨.nicSendQueue, wqe.sqId⟩
  let completed : EventKey :=
    ⟨wqe.operationId, subject, .completed, some ⟨.completionQueue, wqe.cqId⟩, wqe.completedAtPs,
      some wqe.payloadBytes⟩
  match wqe.ingress with
  | some port =>
    phaseKeys wqe.operationId subject sendQueue wqe.submittedAtPs wqe.eligibleAtPs
        port.sourceReadyAtPs port.sourceReadyAtPs 0 ++
      phaseKeys wqe.operationId subject ⟨.nicReceiveQueue, wqe.rqId⟩ wqe.submittedAtPs
        port.sourceReadyAtPs wqe.startedAtPs wqe.finishedAtPs wqe.payloadBytes ++ [completed]
  | none =>
    let nic : ResourceRef := ⟨.nic, wqe.rnicId⟩
    let key := fun phase timestamp resource bytes =>
      (⟨wqe.operationId, subject, phase, some resource, timestamp, bytes⟩ : EventKey)
    [key .submitted wqe.submittedAtPs sendQueue none,
      key .queued ((wqe.native.map (·.networkEligibleAtPs)).getD wqe.eligibleAtPs) nic none,
      key .started ((wqe.native.map (·.networkStartedAtPs)).getD wqe.startedAtPs) nic none,
      key .progress ((wqe.native.map (·.networkFinishedAtPs)).getD wqe.finishedAtPs) nic
        (some wqe.payloadBytes),
      completed]

def wqeEventKeys (report : RuntimeReport) : List EventKey := report.wqes.flatMap wqeKeys

def receiverVisitData (wqe : WqeLifecycleProjection) : List VisitData :=
  match wqe.ingress with
  | none => []
  | some port =>
    let visit := fun kind resourceId stage eligible started finished completed size =>
      ({ executionId := wqe.executionId, operationId := wqe.operationId
         resource := ⟨kind, resourceId⟩, submittedAtPs := wqe.submittedAtPs
         eligibleAtPs := eligible, startedAtPs := started, finishedAtPs := finished
         completedAtPs := completed, serviceBytes := size, subjectObjectId := some wqe.wqeId
         stage := some stage } : VisitData)
    let ready := port.sourceReadyAtPs
    [visit .nicSendQueue wqe.sqId "coarse_source_admission" wqe.eligibleAtPs ready ready ready 0,
      visit .nicReceiveQueue wqe.rqId "coarse_receiver_service" ready wqe.startedAtPs
        wqe.finishedAtPs wqe.completedAtPs wqe.payloadBytes]

def receiverStages : List String := ["coarse_source_admission", "coarse_receiver_service"]

def checkReceiverVisits (report : RuntimeReport) : Except PyError Unit := do
  let ingressIds := (report.wqes.filter (·.ingress.isSome)).map (·.wqeId)
  require ingressIds.Nodup (valueError "duplicate receiver ingress WQE identity")
  let actual := report.visits.filter fun visit =>
    visit.subjectObjectId.any ingressIds.contains || visit.stage.any receiverStages.contains
  require (decide ((actual.map (·.toVisitData)).Perm (report.wqes.flatMap receiverVisitData)))
    (valueError "receiver ingress visits disagree with their WQE authority")

def lastWith {α : Type} (entries : List α) (matches? : α → Bool) : Option α :=
  entries.reverse.find? matches?

def isLogicalCompletion (operationId : String) (event : CompletionEvent) : Bool :=
  event.operationId == operationId && event.subjectObjectId.isNone && event.phase == .completed

def logicalCompletionKey (result : ExecutionResult) (report : RuntimeReport)
    (operation : ExecutionOperation) : Except PyError EventKey :=
  let name := operation.operationId
  match lastWith report.operations (·.operationId == name) with
  | none =>
    .error (valueError "operation {} has no runtime record to project a completion from" [name])
  | some record =>
    match result.events.filter (isLogicalCompletion name) with
    | [event] => do
      require (event.timestampPs == record.completedAtPs)
        (valueError ("operation {} logical completion event at {} ps disagrees with the " ++
          "runtime record's {} ps")
          [name, toString event.timestampPs, toString record.completedAtPs])
      require (event.completedBytes == workCompletedBytes operation)
        (valueError "operation {} logical completion event carries {} bytes, the graph declares {}"
          [name, toString event.completedBytes, toString (workCompletedBytes operation)])
      let candidates := (report.visits.filter fun visit =>
        visit.operationId == name && visit.completedAtPs == record.completedAtPs).map
          fun visit => some visit.resource
      require (candidates.contains event.resource)
        (valueError ("operation {} logical completion event names {}, which is not a visit of " ++
          "that operation completing at {} ps")
          [name, (event.resource.map (·.resourceId)).getD "None", toString record.completedAtPs])
      .ok (eventKey event)
    | events => .error (valueError
        "operation {} projects exactly one logical completion event, the stream carries {}"
        [name, toString events.length])

def logicalCompletionKeys (graph : ExecutionGraph) (result : ExecutionResult)
    (report : RuntimeReport) : Except PyError (List EventKey) :=
  graph.operations.mapM (logicalCompletionKey result report)

def counterDifference (first second : List EventKey) : List EventKey :=
  first.reverse.dedup.reverse.filter fun key => second.count key < first.count key

def rejectMissing (key : EventKey) (extra : List EventKey) : PyError :=
  match extra.find? key.joins with
  | none => valueError "completion stream lost a projection: no {}" [key.describe]
  | some rival =>
    if rival.timestampPs ≠ key.timestampPs then
      valueError ("completion stream disagrees with the runtime authority: expected {}, the " ++
        "stream reports {} ps") [key.describe, toString rival.timestampPs]
    else
      valueError ("completion stream disagrees with the runtime authority: expected {}, the " ++
        "stream reports {} bytes") [key.describe, toString rival.completedBytes]

def rejectDifference (expected actual : List EventKey) : Except PyError Unit :=
  let missing := counterDifference expected actual
  let extra := counterDifference actual expected
  match minBy EventKey.describe missing with
  | some key => .error (rejectMissing key extra)
  | none =>
    match minBy EventKey.describe extra with
    | some key => .error (valueError
        "completion stream carries a projection the runtime authority does not: {}"
        [key.describe])
    | none => .ok ()

def checkCreatedObjects (report : RuntimeReport) : Except PyError Unit :=
  let subjects := report.visits.filterMap (·.subjectObjectId)
  let wqes := report.wqes.map (·.wqeId)
  let unowned := sortedSet (subjects.filter (!wqes.contains ·))
  let unvisited := sortedSet (wqes.filter (!subjects.contains ·))
  require (unowned.isEmpty && unvisited.isEmpty)
    (valueError ("runtime visit ledger and WQE authority disagree on created objects: visits " ++
      "without a WQE {}, WQEs without a visit {}") [toString unowned, toString unvisited])

def checkCompletionEventProjection (graph : ExecutionGraph) (result : ExecutionResult)
    (report : RuntimeReport) : Except PyError Unit := do
  report.wqes.forM fun wqe => require (wqe.executionId == graph.executionId)
    (valueError "WQE {} names execution {}, not {}"
      [wqe.wqeId, wqe.executionId, graph.executionId])
  checkReceiverVisits report
  checkCreatedObjects report
  require (report.classServiceBytes == classServiceBytes graph)
    (valueError ("report class service bytes {} disagree with the graph's control-work " ++
      "reduction {}") [toString report.classServiceBytes, toString (classServiceBytes graph)])
  let logical ← logicalCompletionKeys graph result report
  rejectDifference (visitEventKeys report ++ wqeEventKeys report ++ logical)
    (result.events.map eventKey)

def wqeMetadata (wqe : WqeLifecycleProjection) : List (String × ConfigScalar) :=
  [("bytes", .int wqe.payloadBytes), ("goal_tag", .int wqe.goalTag),
    ("source_rank", .int wqe.sourceRank), ("destination_rank", .int wqe.destinationRank),
    ("extent_index", .int wqe.extentIndex), ("sq_post_sequence", .int wqe.sqPostSequence),
    ("cq_post_sequence", .int wqe.cqPostSequence), ("channel", .str wqe.channelId),
    ("graph_operation_id", .str wqe.operationId), ("authority", .str wqe.authority)]

def scalarText : Option ConfigScalar → String
  | none => "None"
  | some (.str value) => quoted value
  | some (.int value) => toString value
  | some (.bool value) => if value then "True" else "False"
  | some (.float value) => "float:" ++ toString value.bits.toNat

variable (entries : List BookkeepingEntry)

def ledgerWqeObjects (executionId : String) :
    List CreatedObjectRecord :=
  entries.filterMap fun entry =>
    match entry.fact with
    | .object record =>
      if record.ref.kind == .networkWqe && record.scope.executionId == some executionId then
        some record
      else none
    | _ => none

def joinWqeObject (objects : List CreatedObjectRecord) (wqe : WqeLifecycleProjection) :
    Except PyError (List CreatedObjectRecord) :=
  match objects.find? (·.ref.objectId == wqe.wqeId) with
  | none => .error (valueError
      "bookkeeping ledger lost WQE {}, which the runtime authority reports" [wqe.wqeId])
  | some record => do
    require (record.createdAtPs == wqe.submittedAtPs)
      (valueError "bookkeeping ledger creates WQE {} at {} ps, the WQE authority submits it at {} ps"
        [wqe.wqeId, toString record.createdAtPs, toString wqe.submittedAtPs])
    require (record.nativeId == some wqe.nativeWqeId)
      (valueError "bookkeeping ledger names WQE {} natively {}, the WQE authority names it {}"
        [wqe.wqeId, record.nativeId.getD "None", wqe.nativeWqeId])
    (wqeMetadata wqe).forM fun owned =>
      require (metadataValue record.metadata owned.1 == some owned.2)
        (valueError "bookkeeping ledger records {}={} for WQE {}, the WQE authority owns {}"
          [owned.1, scalarText (metadataValue record.metadata owned.1), wqe.wqeId,
            scalarText (some owned.2)])
    .ok (objects.filter (·.ref.objectId != wqe.wqeId))

def ledgerEventKeys (executionId : String) : List EventKey :=
  entries.filterMap fun entry =>
    match entry.fact with
    | .event event => if event.executionId == executionId then some (eventKey event) else none
    | _ => none

def completionStages (executionId : String) : List StageRecord :=
  entries.filterMap fun entry =>
    match entry.fact with
    | .stage record =>
      if record.stage == .completion && record.phase == .completed &&
          record.scope.executionId == some executionId then some record
      else none
    | _ => none

def checkLedgerEvents (graph : ExecutionGraph) (result : ExecutionResult) : Except PyError Unit :=
  let ledger := ledgerEventKeys entries graph.executionId
  let events := result.events.map eventKey
  match minBy EventKey.describe (counterDifference events ledger) with
  | some key => .error (valueError "bookkeeping ledger lost a completion event: no {}"
      [key.describe])
  | none =>
    match minBy EventKey.describe (counterDifference ledger events) with
    | some key => .error (valueError
        "bookkeeping ledger carries a completion event the execution result does not: {}"
        [key.describe])
    | none => .ok ()

def checkBookkeepingProjection (graph : ExecutionGraph) (result : ExecutionResult)
    (report : RuntimeReport) : Except PyError Unit := do
  let objects := ledgerWqeObjects entries graph.executionId
  let ids := objects.map (·.ref.objectId)
  require ids.Nodup
    (valueError "bookkeeping ledger carries more than one object for WQE {}"
      (ids.filter fun id => 1 < ids.count id))
  let invented ← report.wqes.foldlM joinWqeObject objects
  require invented.isEmpty
    (valueError "bookkeeping ledger invents WQE objects the runtime authority does not report: {}"
      [toString (sortedSet (invented.map (·.ref.objectId)))])
  checkLedgerEvents entries graph result
  match completionStages entries graph.executionId with
  | [stage] =>
    require (stage.timestampPs == result.completedAtPs)
      (valueError "bookkeeping ledger completes execution {} at {} ps, the execution result completes at {} ps"
        [graph.executionId, toString stage.timestampPs, toString result.completedAtPs])
  | stages => .error (valueError
      "bookkeeping ledger projects exactly one completion stage for execution {}, it carries {}"
      [graph.executionId, toString stages.length])

end SimLLM
