import SimLLM.Wire
import SimLLM.Projection

namespace SimLLM

def ProcessingStage.value : ProcessingStage → String
  | .request => "request"
  | .scheduler => "scheduler"
  | .frameworkMemory => "framework-memory"
  | .execution => "execution"
  | .collective => "collective"
  | .network => "network"
  | .completion => "completion"

def StagePhase.value : StagePhase → String
  | .entered => "entered"
  | .completed => "completed"

def CreatedObjectKind.value : CreatedObjectKind → String
  | .frameworkRequest => "framework-request"
  | .vramAllocation => "vram-allocation"
  | .executionOperation => "execution-operation"
  | .ncclCommand => "nccl-command"
  | .sendQueue => "send-queue"
  | .receiveQueue => "receive-queue"
  | .completionQueue => "completion-queue"
  | .networkWqe => "network-wqe"
  | .dcqcnQp => "dcqcn-qp"
  | .rnicCnLinkPair => "rnic-cn-link-pair"

def ObjectOwner.value : ObjectOwner → String
  | .framework => "framework"
  | .core => "core"
  | .nccl => "nccl"
  | .deviceRuntime => "device-runtime"
  | .networkBackend => "network-backend"

instance : WireEnum ProcessingStage where
  members := [.request, .scheduler, .frameworkMemory, .execution, .collective, .network,
    .completion]
  value := ProcessingStage.value
  complete := by rintro ⟨⟩ <;> decide
  distinct := by decide
  named := by rintro ⟨⟩ <;> decide

instance : WireEnum StagePhase where
  members := [.entered, .completed]
  value := StagePhase.value
  complete := by rintro ⟨⟩ <;> decide
  distinct := by decide
  named := by rintro ⟨⟩ <;> decide

instance : WireEnum CreatedObjectKind where
  members := [.frameworkRequest, .vramAllocation, .executionOperation, .ncclCommand, .sendQueue,
    .receiveQueue, .completionQueue, .networkWqe, .dcqcnQp, .rnicCnLinkPair]
  value := CreatedObjectKind.value
  complete := by rintro ⟨⟩ <;> decide
  distinct := by decide
  named := by rintro ⟨⟩ <;> decide

instance : WireEnum ObjectOwner where
  members := [.framework, .core, .nccl, .deviceRuntime, .networkBackend]
  value := ObjectOwner.value
  complete := by rintro ⟨⟩ <;> decide
  distinct := by decide
  named := by rintro ⟨⟩ <;> decide

instance : WireEnum EventPhase where
  members := [.submitted, .queued, .started, .progress, .completed]
  value := EventPhase.value
  complete := by rintro ⟨⟩ <;> decide
  distinct := by decide
  named := by rintro ⟨⟩ <;> decide

instance : WireEnum ResourceKind where
  members := [.hostLaunchQueue, .cudaStream, .gpuWorkQueue, .gpuScheduler, .hbmQueue,
    .copyEngine, .nvlink, .ncclChannel, .nicSendQueue, .nicReceiveQueue, .nic, .completionQueue,
    .controlQueue]
  value := ResourceKind.value
  complete := by rintro ⟨⟩ <;> decide
  distinct := by decide
  named := by rintro ⟨⟩ <;> decide

open Wire

def scopeToJson (scope : BookkeepingScope) : JsonValue :=
  .obj [("correlation", correlationToJson scope.correlation),
    ("step_index", optionToJson naturalToJson scope.stepIndex),
    ("execution_id", optionToJson .str scope.executionId),
    ("operation_id", optionToJson .str scope.operationId)]

def scopeFields : List String := ["correlation", "step_index", "execution_id", "operation_id"]

def scopeFromJson (value : JsonValue) (path : String) : Except PyError BookkeepingScope := do
  let obj ← object value path
  fields obj path scopeFields
  let correlation ← field correlationFromJson obj path "correlation"
  let stepIndex ← field (optional natural) obj path "step_index"
  let executionId ← field (optional string) obj path "execution_id"
  let operationId ← field (optional string) obj path "operation_id"
  .ok ⟨correlation, stepIndex, executionId, operationId⟩

def refToJson (ref : CreatedObjectRef) : JsonValue :=
  .obj [("kind", .str ref.kind.value), ("object_id", .str ref.objectId)]

def refFromJson (value : JsonValue) (path : String) : Except PyError CreatedObjectRef := do
  let obj ← object value path
  fields obj path ["kind", "object_id"]
  let kind ← field enumValue obj path "kind"
  let objectId ← field string obj path "object_id"
  .ok ⟨kind, objectId⟩

def metadataToJson (metadata : List (String × ConfigScalar)) : JsonValue :=
  .arr (metadata.map fun entry => .arr [.str entry.1, scalarToJson entry.2])

def metadataFromJson : JsonValue → String → Except PyError (List (String × ConfigScalar)) :=
  tuple scalarPair

def resourceToJson (resource : ResourceRef) : JsonValue :=
  .obj [("kind", .str resource.kind.value), ("resource_id", .str resource.resourceId)]

def resourceFromJson (value : JsonValue) (path : String) : Except PyError ResourceRef := do
  let obj ← object value path
  fields obj path ["kind", "resource_id"]
  let kind ← field enumValue obj path "kind"
  let resourceId ← field string obj path "resource_id"
  .ok ⟨kind, resourceId⟩

def factToJson : BookkeepingFact → JsonValue
  | .object record => .obj [("kind", .str "object"), ("ref", refToJson record.ref),
      ("owner", .str record.owner.value), ("created_at_ps", naturalToJson record.createdAtPs),
      ("scope", scopeToJson record.scope), ("native_id", optionToJson .str record.nativeId),
      ("parent_refs", .arr (record.parentRefs.map refToJson)),
      ("metadata", metadataToJson record.metadata)]
  | .stage record => .obj [("kind", .str "stage"), ("stage", .str record.stage.value),
      ("phase", .str record.phase.value), ("timestamp_ps", naturalToJson record.timestampPs),
      ("scope", scopeToJson record.scope),
      ("object_refs", .arr (record.objectRefs.map refToJson))]
  | .event event => .obj [("kind", .str "completion"), ("execution_id", .str event.executionId),
      ("operation_id", .str event.operationId), ("phase", .str event.phase.value),
      ("timestamp_ps", naturalToJson event.timestampPs),
      ("resource", optionToJson resourceToJson event.resource),
      ("completed_bytes", optionToJson naturalToJson event.completedBytes),
      ("subject_object_id", optionToJson .str event.subjectObjectId)]

def objectFactFields : List String :=
  ["kind", "ref", "owner", "created_at_ps", "scope", "native_id", "parent_refs", "metadata"]

def objectFactFromJson (obj : Dict JsonValue) (path : String) :
    Except PyError CreatedObjectRecord := do
  fields obj path objectFactFields
  let ref ← field refFromJson obj path "ref"
  let owner ← field enumValue obj path "owner"
  let createdAtPs ← field natural obj path "created_at_ps"
  let scope ← field scopeFromJson obj path "scope"
  let nativeId ← field (optional string) obj path "native_id"
  let parentRefs ← field (tuple refFromJson) obj path "parent_refs"
  let metadata ← field metadataFromJson obj path "metadata"
  .ok ⟨ref, owner, createdAtPs, scope, nativeId, parentRefs, metadata⟩

def stageFactFields : List String :=
  ["kind", "stage", "phase", "timestamp_ps", "scope", "object_refs"]

def stageFactFromJson (obj : Dict JsonValue) (path : String) : Except PyError StageRecord := do
  fields obj path stageFactFields
  let stage ← field enumValue obj path "stage"
  let phase ← field enumValue obj path "phase"
  let timestampPs ← field natural obj path "timestamp_ps"
  let scope ← field scopeFromJson obj path "scope"
  let objectRefs ← field (tuple refFromJson) obj path "object_refs"
  .ok ⟨stage, phase, timestampPs, scope, objectRefs⟩

def completionFactFields : List String :=
  ["kind", "execution_id", "operation_id", "phase", "timestamp_ps", "resource",
    "completed_bytes", "subject_object_id"]

def completionFactFromJson (obj : Dict JsonValue) (path : String) :
    Except PyError CompletionEvent := do
  fields obj path completionFactFields
  let executionId ← field string obj path "execution_id"
  let operationId ← field string obj path "operation_id"
  let phase ← field enumValue obj path "phase"
  let timestampPs ← field natural obj path "timestamp_ps"
  let resource ← field (optional resourceFromJson) obj path "resource"
  let completedBytes ← field (optional natural) obj path "completed_bytes"
  let subjectObjectId ← field (optional string) obj path "subject_object_id"
  .ok ⟨executionId, operationId, phase, timestampPs, resource, completedBytes, subjectObjectId⟩

def factFromJson (value : JsonValue) (path : String) : Except PyError BookkeepingFact := do
  let obj ← object value path
  match obj.get? "kind" with
  | none => .error (fail path "missing fields ['kind']")
  | some entry => do
    let kind ← string entry (path ++ ".kind")
    if kind == "object" then BookkeepingFact.object <$> objectFactFromJson obj path
    else if kind == "stage" then BookkeepingFact.stage <$> stageFactFromJson obj path
    else if kind == "completion" then BookkeepingFact.event <$> completionFactFromJson obj path
    else .error (fail (path ++ ".kind")
      "unknown entry kind; expected one of ['object', 'stage', 'completion']")

def bookkeepingSchema : String := "simllm-request-bookkeeping-v1"

def entryToJson (entry : BookkeepingEntry) : JsonValue :=
  .obj [("sequence", naturalToJson entry.sequence), ("fact", factToJson entry.fact)]

def entryFromJson (value : JsonValue) (path : String) : Except PyError BookkeepingEntry := do
  let entry ← object value path
  fields entry path ["sequence", "fact"]
  let sequence ← field natural entry path "sequence"
  let fact ← field factFromJson entry path "fact"
  .ok ⟨sequence, fact⟩

def validateBookkeepingLedger (entries : List BookkeepingEntry) : Except PyError Unit := do
  let _ ← validateLedgerState entries
  .ok ()

def bookkeepingLedgerToJson (entries : List BookkeepingEntry) : Except PyError JsonValue := do
  validateBookkeepingLedger entries
  .ok (.obj [("schema", .str bookkeepingSchema), ("entries", .arr (entries.map entryToJson))])

def bookkeepingLedgerFromJson (value : JsonValue) : Except PyError (List BookkeepingEntry) := do
  let obj ← object value "ledger"
  fields obj "ledger" ["schema", "entries"]
  let schema ← field string obj "ledger" "schema"
  require (schema == bookkeepingSchema)
    (fail "ledger.schema" "expected {}, got {}" [bookkeepingSchema, schema])
  let entries ← field (tuple entryFromJson) obj "ledger" "entries"
  validateBookkeepingLedger entries
  .ok entries

end SimLLM
