import SimLLM.Wire
import SimLLM.KvLedger

namespace SimLLM

def ControlMode.value : ControlMode → String
  | .asynchronous => "asynchronous"
  | .synchronous => "synchronous"

instance : WireEnum ControlMode where
  members := [.asynchronous, .synchronous]
  value := ControlMode.value
  complete := by rintro ⟨⟩ <;> decide
  distinct := by decide
  named := by rintro ⟨⟩ <;> decide

instance : WireEnum KvCacheAction where
  members := [.reserve, .allocate, .bindPrefix, .touch, .read, .write, .retain, .release, .evict,
    .free, .swap, .transfer, .recompute]
  value := KvCacheAction.value
  complete := by rintro ⟨⟩ <;> decide
  distinct := by decide
  named := by rintro ⟨⟩ <;> decide

instance : WireEnum CollectivePlanActionKind where
  members := [.send, .receive]
  value := CollectivePlanActionKind.value
  complete := by rintro ⟨⟩ <;> decide
  distinct := by decide
  named := by rintro ⟨⟩ <;> decide

open Wire

def configToJson (config : List (String × ConfigScalar)) : JsonValue :=
  .arr (config.map fun entry => .arr [.str entry.1, scalarToJson entry.2])

def pairToJson (pair : PairPayload) : JsonValue :=
  .arr [naturalToJson pair.source, naturalToJson pair.destination, naturalToJson pair.bytes]

def requestPairToJson (entry : RequestPairPayload) : JsonValue :=
  .arr [.str entry.requestId, naturalToJson entry.source, naturalToJson entry.destination,
    naturalToJson entry.bytes]

def workToJson : WorkPayload → JsonValue
  | .compute work => .obj ([("kind", .str "compute"), ("kernel", .str work.kernel),
      ("config", configToJson work.config), ("flops", optionToJson naturalToJson work.flops),
      ("hbm_bytes", optionToJson naturalToJson work.hbmBytes),
      ("nominal_duration_ps", optionToJson naturalToJson work.nominalDurationPs),
      ("uncertainty_fraction", optionToJson .float work.uncertaintyFraction)] ++
      if work.scope != "kernel-region" then [("scope", .str work.scope)] else [])
  | .kv work => .obj [("kind", .str "kv-cache"), ("action", .str work.action.value),
      ("pool_id", .str work.poolId), ("request_id", optionToJson .str work.requestId),
      ("block_ids", .arr (work.blockIds.map .str)),
      ("token_start", optionToJson naturalToJson work.tokenStart),
      ("token_end", optionToJson naturalToJson work.tokenEnd),
      ("layer", optionToJson naturalToJson work.layer), ("dtype", optionToJson .str work.dtype),
      ("byte_count", naturalToJson work.byteCount),
      ("placement_epoch", naturalToJson work.placementEpoch),
      ("reference_count", optionToJson naturalToJson work.referenceCount),
      ("cause", optionToJson .str work.cause),
      ("correlation_id", optionToJson .str work.correlationId)]
  | .dma work => .obj [("kind", .str "dma"), ("descriptor_id", .str work.descriptorId),
      ("source", .str work.source), ("destination", .str work.destination),
      ("byte_count", naturalToJson work.byteCount)]
  | .collective work => .obj ([("kind", .str "collective"), ("collective", .str work.collective),
      ("ranks", .arr (work.ranks.map naturalToJson)),
      ("payload_bytes", naturalToJson work.payloadBytes),
      ("algorithm_hint", optionToJson .str work.algorithmHint),
      ("channel_hint", optionToJson .str work.channelHint)] ++
      (if !work.pairPayloadBytes.isEmpty then
        [("pair_payload_bytes", .arr (work.pairPayloadBytes.map pairToJson))] else []) ++
      if !work.requestPairPayloadBytes.isEmpty then
        [("request_pair_payload_bytes", .arr (work.requestPairPayloadBytes.map requestPairToJson))]
      else [])
  | .control work => .obj [("kind", .str "control"), ("message", .str work.message),
      ("destination_ranks", .arr (work.destinationRanks.map naturalToJson)),
      ("payload_bytes", naturalToJson work.payloadBytes), ("mode", .str work.mode.value)]

def configFromJson (value : JsonValue) (path : String) :
    Except PyError (List (String × ConfigScalar)) := do
  let result ← tuple scalarPair value path
  validateConfig result path
  .ok result

def pairFromJson (value : JsonValue) (path : String) : Except PyError PairPayload := do
  match ← array value path with
  | [source, destination, bytes] => do
    let source ← natural source (indexPath path 0)
    let destination ← natural destination (indexPath path 1)
    let bytes ← naturalFrom 1 bytes (indexPath path 2)
    .ok ⟨source, destination, bytes⟩
  | _ => .error (fail path "expected a three-item array")

def requestPairFromJson (value : JsonValue) (path : String) :
    Except PyError RequestPairPayload := do
  match ← array value path with
  | [requestId, source, destination, bytes] => do
    let requestId ← string requestId (indexPath path 0)
    let source ← natural source (indexPath path 1)
    let destination ← natural destination (indexPath path 2)
    let bytes ← naturalFrom 1 bytes (indexPath path 3)
    .ok ⟨requestId, source, destination, bytes⟩
  | _ => .error (fail path "expected a four-item array")

def computeWorkFromJson (payload : Dict JsonValue) (path : String) :
    Except PyError ComputeWork := do
  fields payload path ["kind", "kernel"] ["config", "flops", "hbm_bytes", "nominal_duration_ps",
    "uncertainty_fraction", "scope"]
  let kernel ← field string payload path "kernel"
  let config ← fieldD configFromJson payload path "config" (.arr [])
  let flops ← fieldD (optional natural) payload path "flops" (.int 0)
  let hbmBytes ← fieldD (optional natural) payload path "hbm_bytes" (.int 0)
  let scope ← fieldD string payload path "scope" (.str "kernel-region")
  let nominalDurationPs ← fieldD (optional natural) payload path "nominal_duration_ps"
  let uncertaintyFraction ← fieldD (optional number) payload path "uncertainty_fraction"
  .ok ⟨kernel, config, flops, hbmBytes, nominalDurationPs, uncertaintyFraction, scope⟩

def kvCacheWorkFromJson (payload : Dict JsonValue) (path : String) :
    Except PyError KvCacheWork := do
  fields payload path ["kind", "action", "pool_id"] ["request_id", "block_ids", "token_start",
    "token_end", "layer", "dtype", "byte_count", "placement_epoch", "reference_count", "cause",
    "correlation_id"]
  let action ← field enumValue payload path "action"
  let poolId ← field string payload path "pool_id"
  let requestId ← fieldD (optional string) payload path "request_id"
  let blockIds ← fieldD (tuple string) payload path "block_ids" (.arr [])
  let tokenStart ← fieldD (optional natural) payload path "token_start"
  let tokenEnd ← fieldD (optional natural) payload path "token_end"
  let layer ← fieldD (optional natural) payload path "layer"
  let dtype ← fieldD (optional string) payload path "dtype"
  let byteCount ← fieldD natural payload path "byte_count" (.int 0)
  let placementEpoch ← fieldD natural payload path "placement_epoch" (.int 0)
  let referenceCount ← fieldD (optional natural) payload path "reference_count"
  let cause ← fieldD (optional string) payload path "cause"
  let correlationId ← fieldD (optional string) payload path "correlation_id"
  let work : KvCacheWork := ⟨action, poolId, requestId, blockIds, tokenStart, tokenEnd, layer, dtype,
    byteCount, placementEpoch, referenceCount, cause, correlationId⟩
  validateWork (.kv work) path
  .ok work

def dmaWorkFromJson (payload : Dict JsonValue) (path : String) : Except PyError DmaWork := do
  fields payload path ["kind", "descriptor_id", "source", "destination", "byte_count"]
  let descriptorId ← field string payload path "descriptor_id"
  let source ← field string payload path "source"
  let destination ← field string payload path "destination"
  let byteCount ← field natural payload path "byte_count"
  .ok ⟨descriptorId, source, destination, byteCount⟩

def collectiveWorkFromJson (payload : Dict JsonValue) (path : String) :
    Except PyError CollectiveWork := do
  fields payload path ["kind", "collective", "ranks", "payload_bytes"] ["algorithm_hint",
    "channel_hint", "pair_payload_bytes", "request_pair_payload_bytes"]
  let pairPayloads ← fieldD (tuple pairFromJson) payload path "pair_payload_bytes" (.arr [])
  let requestPairPayloads ←
    fieldD (tuple requestPairFromJson) payload path "request_pair_payload_bytes" (.arr [])
  let collective ← field string payload path "collective"
  let ranks ← field (tuple natural) payload path "ranks"
  let payloadBytes ← field natural payload path "payload_bytes"
  let algorithmHint ← fieldD (optional string) payload path "algorithm_hint"
  let channelHint ← fieldD (optional string) payload path "channel_hint"
  let work : CollectiveWork := ⟨collective, ranks, payloadBytes, algorithmHint, channelHint,
    pairPayloads, requestPairPayloads⟩
  validateWork (.collective work) path
  .ok work

def controlWorkFromJson (payload : Dict JsonValue) (path : String) :
    Except PyError ControlWork := do
  fields payload path ["kind", "message"] ["destination_ranks", "payload_bytes", "mode"]
  let message ← field string payload path "message"
  let destinationRanks ← fieldD (tuple natural) payload path "destination_ranks" (.arr [])
  let payloadBytes ← fieldD natural payload path "payload_bytes" (.int 0)
  let mode ← fieldD enumValue payload path "mode" (.str ControlMode.asynchronous.value)
  let work : ControlWork := ⟨message, destinationRanks, payloadBytes, mode⟩
  validateWork (.control work) path
  .ok work

def workFromJson (value : JsonValue) (path : String) : Except PyError WorkPayload := do
  let payload ← object value path
  match payload.get? "kind" with
  | none => .error (fail path "missing fields ['kind']")
  | some entry => do
    let kind ← string entry (path ++ ".kind")
    if kind == "compute" then WorkPayload.compute <$> computeWorkFromJson payload path
    else if kind == "kv-cache" then WorkPayload.kv <$> kvCacheWorkFromJson payload path
    else if kind == "dma" then WorkPayload.dma <$> dmaWorkFromJson payload path
    else if kind == "collective" then
      WorkPayload.collective <$> collectiveWorkFromJson payload path
    else if kind == "control" then WorkPayload.control <$> controlWorkFromJson payload path
    else .error (fail (path ++ ".kind") "unknown work kind {}" [kind])

mutual

def Json.value : Json → JsonValue
  | .str value => .str value
  | .num value => naturalToJson value
  | .arr entries => .arr (valueAll entries)
  | .obj fields => .obj (valueFields fields)

def valueAll : List Json → List JsonValue
  | [] => []
  | entry :: rest => entry.value :: valueAll rest

def valueFields : List (String × Json) → Dict JsonValue
  | [] => []
  | (name, entry) :: rest => (name, entry.value) :: valueFields rest

end

def Json.payload : Json → Dict JsonValue
  | .obj fields => valueFields fields
  | _ => []

def collectivePlanToJson (plan : CollectivePlan) : JsonValue :=
  let payload := (collectivePlanIdentityToJson plan).payload
  .obj (payload.set "integrity_sha256" (.str plan.integritySha256))

variable (value : JsonValue)

variable (path : String)

def rankActionIdsEntryFromJson :
    Except PyError (Nat × List String) := do
  match ← array value path with
  | [rank, actionIds] => do
    let rank ← natural rank (indexPath path 0)
    let actionIds ← tuple string actionIds (indexPath path 1)
    .ok (rank, actionIds)
  | _ => .error (fail path "expected a two-item array")

def rankActionIdsFromJson : JsonValue → String → Except PyError (List (Nat × List String)) :=
  tuple rankActionIdsEntryFromJson

def roundFromJson : Except PyError CollectivePlanRound := do
  let payload ← object value path
  fields payload path ["round_index", "tag", "channel_id"]
  let roundIndex ← field natural payload path "round_index"
  let tag ← field natural payload path "tag"
  let channelId ← field string payload path "channel_id"
  .ok ⟨roundIndex, tag, channelId⟩

def actionFromJson : Except PyError CollectivePlanAction := do
  let payload ← object value path
  fields payload path ["action_id", "rank", "kind", "extent_id", "depends_on"]
  let actionId ← field string payload path "action_id"
  let rank ← field natural payload path "rank"
  let kind ← field enumValue payload path "kind"
  let extentId ← field string payload path "extent_id"
  let dependsOn ← field (tuple string) payload path "depends_on"
  .ok ⟨actionId, rank, kind, extentId, dependsOn⟩

def extentRequestFromJson : Except PyError (String × Nat) := do
  match ← array value path with
  | [requestId, bytes] => do
    let requestId ← string requestId (indexPath path 0)
    let bytes ← naturalFrom 1 bytes (indexPath path 1)
    .ok (requestId, bytes)
  | _ => .error (fail path "expected a two-item array")

def extentFromJson : Except PyError CollectivePlanExtent := do
  let payload ← object value path
  fields payload path ["extent_id", "round_index", "source_rank", "destination_rank",
    "payload_bytes", "send_action_id", "receive_action_id", "request_payload_bytes"]
  let requestPayloads ←
    field (tuple extentRequestFromJson) payload path "request_payload_bytes"
  let extentId ← field string payload path "extent_id"
  let roundIndex ← field natural payload path "round_index"
  let sourceRank ← field natural payload path "source_rank"
  let destinationRank ← field natural payload path "destination_rank"
  let payloadBytes ← field (naturalFrom 1) payload path "payload_bytes"
  let sendActionId ← field string payload path "send_action_id"
  let receiveActionId ← field string payload path "receive_action_id"
  .ok ⟨extentId, roundIndex, sourceRank, destinationRank, payloadBytes, sendActionId,
    receiveActionId, requestPayloads⟩

def collectivePlanSchema : String := "simllm-collective-plan-v1"

def planFields : List String :=
  ["schema", "operation_id", "collective", "algorithm", "channel_id", "rank_order",
    "payload_bytes", "pair_payload_bytes", "request_pair_payload_bytes", "rounds", "actions",
    "extents", "entry_action_ids", "terminal_action_ids", "integrity_sha256"]

def collectivePlanFromJson :
    Except PyError CollectivePlan := do
  let payload ← object value path
  fields payload path planFields
  let schema ← field string payload path "schema"
  require (schema == collectivePlanSchema)
    (fail (path ++ ".schema") "unsupported schema {}; expected {}" [schema, collectivePlanSchema])
  let pairPayloads ← field (tuple pairFromJson) payload path "pair_payload_bytes"
  let requestPairPayloads ←
    field (tuple requestPairFromJson) payload path "request_pair_payload_bytes"
  let rounds ← field (tuple roundFromJson) payload path "rounds"
  let actions ← field (tuple actionFromJson) payload path "actions"
  let extents ← field (tuple extentFromJson) payload path "extents"
  let operationId ← field string payload path "operation_id"
  let collective ← field string payload path "collective"
  let algorithm ← field string payload path "algorithm"
  let channelId ← field string payload path "channel_id"
  let rankOrder ← field (tuple natural) payload path "rank_order"
  let payloadBytes ← field natural payload path "payload_bytes"
  let entryActionIds ← field rankActionIdsFromJson payload path "entry_action_ids"
  let terminalActionIds ← field rankActionIdsFromJson payload path "terminal_action_ids"
  let integritySha256 ← field string payload path "integrity_sha256"
  .ok ⟨operationId, collective, algorithm, channelId, rankOrder, payloadBytes, pairPayloads,
    requestPairPayloads, rounds, actions, extents, entryActionIds, terminalActionIds,
    integritySha256⟩

def operationToJson (operation : ExecutionOperation) : JsonValue :=
  .obj [("operation_id", .str operation.operationId), ("rank", naturalToJson operation.rank),
    ("logical_queue", .str operation.logicalQueue), ("work", workToJson operation.work),
    ("depends_on", .arr (operation.dependsOn.map .str)),
    ("participant_local_depends_on", .arr (operation.participantLocalDependsOn.map .str)),
    ("not_before_ps", naturalToJson operation.notBeforePs), ("priority", .int operation.priority),
    ("correlation", correlationToJson operation.correlation),
    ("placement_epoch", naturalToJson operation.placementEpoch)]

def operationFromJson :
    Except PyError ExecutionOperation := do
  let operation ← object value path
  fields operation path ["operation_id", "rank", "logical_queue", "work"] ["depends_on",
    "participant_local_depends_on", "not_before_ps", "priority", "correlation", "placement_epoch"]
  let operationId ← field string operation path "operation_id"
  let rank ← field natural operation path "rank"
  let logicalQueue ← field string operation path "logical_queue"
  let work ← field workFromJson operation path "work"
  let dependsOn ← fieldD (tuple string) operation path "depends_on" (.arr [])
  let notBeforePs ← fieldD natural operation path "not_before_ps" (.int 0)
  let priority ← fieldD integer operation path "priority" (.int 0)
  let correlation ← fieldD correlationFromJson operation path "correlation" (.obj [])
  let placementEpoch ← fieldD natural operation path "placement_epoch" (.int 0)
  let participantLocalDependsOn ←
    fieldD (tuple string) operation path "participant_local_depends_on" (.arr [])
  .ok ⟨operationId, rank, logicalQueue, work, dependsOn, notBeforePs, priority, correlation,
    placementEpoch, participantLocalDependsOn⟩

def executionGraphSchema : String := "simllm-execution-graph-v1"

def executionGraphToJson (graph : ExecutionGraph) : Except PyError JsonValue := do
  validateExecutionGraph graph
  .ok (.obj ([("schema", .str executionGraphSchema), ("execution_id", .str graph.executionId),
    ("step_index", naturalToJson graph.stepIndex),
    ("released_at_ps", naturalToJson graph.releasedAtPs),
    ("operations", .arr (graph.operations.map operationToJson)),
    ("completion_operation_ids", .arr (graph.completionOperationIds.map .str))] ++
    if !graph.collectivePlans.isEmpty then
      [("collective_plans", .arr (graph.collectivePlans.map collectivePlanToJson))]
    else []))

def graphPayloadFromJson (payload : Dict JsonValue) : Except PyError ExecutionGraph := do
  fields payload "graph" ["schema", "execution_id", "step_index", "released_at_ps"]
    ["operations", "completion_operation_ids", "collective_plans"]
  let operations ← fieldD (tuple operationFromJson) payload "graph" "operations" (.arr [])
  let executionId ← field string payload "graph" "execution_id"
  let stepIndex ← field natural payload "graph" "step_index"
  let releasedAtPs ← field natural payload "graph" "released_at_ps"
  let completionOperationIds ←
    fieldD (tuple string) payload "graph" "completion_operation_ids" (.arr [])
  let collectivePlans ←
    fieldD (tuple collectivePlanFromJson) payload "graph" "collective_plans" (.arr [])
  let graph : ExecutionGraph := ⟨executionId, stepIndex, releasedAtPs, operations,
    completionOperationIds, collectivePlans⟩
  validateExecutionGraph graph
  .ok graph

def executionGraphFromJson : Except PyError ExecutionGraph := do
  let payload ← object value "graph"
  match payload.get? "schema" with
  | none => .error (fail "graph" "missing fields ['schema']")
  | some entry => do
    let schema ← string entry "graph.schema"
    require (schema == executionGraphSchema)
      (fail "graph.schema" "unsupported schema {}; expected {}" [schema, executionGraphSchema])
    graphPayloadFromJson payload

end SimLLM
