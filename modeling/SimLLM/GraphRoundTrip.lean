import SimLLM.GraphWire

namespace SimLLM

open List Wire

variable {path : String} {work : CollectiveWork} {value : JsonValue} {i : Nat}
variable {extent : CollectivePlanExtent} {plan : CollectivePlan} {graph : ExecutionGraph}

theorem configFromJson_toJson {config : List (String × ConfigScalar)}
    (h : validateConfig config path = .ok ()) :
    configFromJson (configToJson config) path = .ok config := by
  have htexts : ∀ entry ∈ config, ScalarPairText entry := by
    obtain ⟨_, hentries, _⟩ := of_bind h
    rw [forEachIdx_eq_ok] at hentries
    intro entry hentry
    obtain ⟨i, hi⟩ := mem_iff_getElem?.mp hentry
    obtain ⟨_, hname, hscalar⟩ := of_bind (hentries i entry hi)
    refine ⟨require_eq_ok.mp hname, fun x hx => ?_⟩
    rw [hx] at hscalar
    exact require_eq_ok.mp hscalar
  have htuple : tuple scalarPair (configToJson config) path = .ok config :=
    (tuple_eq_ok_map _ ScalarPairText fun _ _ _ => scalarPair_eq_ok).mpr ⟨rfl, htexts⟩
  exact bind_eq_ok.mpr ⟨config, htuple, bind_eq_ok.mpr ⟨(), h, rfl⟩⟩

theorem optionalNumber_toJson {x : Option PyFloat}
    (h : ∀ y, x = some y → y.isFinite = true ∧ y.isNegative = false) :
    optional number (optionToJson .float x) path = .ok x := by
  cases x with
  | none => rfl
  | some y =>
    obtain ⟨hfinite, hsign⟩ := h y rfl
    show some <$> number (.float y) path = .ok (some y)
    rw [number_float hfinite hsign]
    rfl

theorem validateComputeWork_facts {work : ComputeWork}
    (h : validateComputeWork work path = .ok ()) :
    nonblank work.kernel = true ∧ validateConfig work.config (path ++ ".config") = .ok () ∧
      nonblank work.scope = true ∧
      ∀ y, work.uncertaintyFraction = some y → y.isFinite = true ∧ y.isNegative = false := by
  simp only [validateComputeWork, checkString, bind_eq_ok, require_eq_ok] at h
  obtain ⟨_, hkernel, _, hconfig, _, hscope, _, -, _, -, hfraction⟩ := h
  refine ⟨hkernel, hconfig, ?_, fun y hy => ?_⟩
  · simp only [contains_iff_mem, mem_cons, not_mem_nil, or_false] at hscope
    rcases hscope with hscope | hscope | hscope <;> rw [hscope] <;> decide
  · rw [hy] at hfraction
    obtain ⟨_, hfinite, hsign⟩ := of_bind hfraction
    exact ⟨require_eq_ok.mp hfinite, by simpa using hsign⟩

theorem computeWorkFromJson_toJson {work : ComputeWork}
    (h : validateComputeWork work path = .ok ()) :
    ∃ payload : Dict JsonValue, workToJson (.compute work) = .obj payload ∧
      payload.get? "kind" = some (.str "compute") ∧
      computeWorkFromJson payload path = .ok work := by
  obtain ⟨hkernel, hconfig, hscope, hfraction⟩ := validateComputeWork_facts h
  have hpath : path ++ "." ++ "config" = path ++ ".config" := String.append_assoc ..
  refine ⟨_, rfl, rfl, ?_⟩
  simp only [computeWorkFromJson, fieldD, bind_eq_ok, fields_eq_ok, field_string,
    optionalNatural_eq_ok, string_eq_ok, Except.ok.injEq]
  refine ⟨(), ?_, work.kernel, ⟨rfl, hkernel⟩, work.config, ?_, work.flops, rfl, work.hbmBytes, rfl,
    work.scope, ⟨?_, hscope⟩, work.nominalDurationPs, rfl, work.uncertaintyFraction,
    optionalNumber_toJson hfraction, rfl⟩
  · by_cases hdefault : work.scope = "kernel-region" <;> simp [Table.keys, hdefault]
  · rw [hpath]
    exact configFromJson_toJson hconfig
  · by_cases hdefault : work.scope = "kernel-region"
    · simp [Wire.get, Table.get?_cons, hdefault]
    · simp [Wire.get, Table.get?_cons, hdefault]

theorem kvCacheWorkFromJson_toJson {work : KvCacheWork}
    (h : validateKvCacheWork work path = .ok ()) :
    ∃ payload : Dict JsonValue, workToJson (.kv work) = .obj payload ∧
      payload.get? "kind" = some (.str "kv-cache") ∧
      kvCacheWorkFromJson payload path = .ok work := by
  have hvalid := h
  simp only [validateKvCacheWork, checkString, checkOptionalString_eq_ok, checkStrings_eq_ok,
    bind_eq_ok, require_eq_ok] at h
  obtain ⟨_, hpool, _, hrequest, _, hdtype, _, hcause, _, hcorrelation, _, hblocks, _⟩ := h
  refine ⟨_, rfl, rfl, ?_⟩
  simp only [kvCacheWorkFromJson, fieldD, bind_eq_ok, fields_eq_ok, field_enumValue,
    field_string, optionalString_eq_ok, stringTuple_eq_ok, optionalNatural_eq_ok, natural_eq_ok,
    Except.ok.injEq]
  exact ⟨(), by simp [Table.keys], work.action, rfl, work.poolId, ⟨rfl, hpool⟩, work.requestId,
    ⟨rfl, hrequest⟩, work.blockIds, ⟨rfl, hblocks⟩, work.tokenStart, rfl, work.tokenEnd, rfl,
    work.layer, rfl, work.dtype, ⟨rfl, hdtype⟩, work.byteCount, rfl, work.placementEpoch, rfl,
    work.referenceCount, rfl, work.cause, ⟨rfl, hcause⟩, work.correlationId, ⟨rfl, hcorrelation⟩,
    (), hvalid, rfl⟩

theorem dmaWorkFromJson_toJson {work : DmaWork} (h : validateDmaWork work path = .ok ()) :
    ∃ payload : Dict JsonValue, workToJson (.dma work) = .obj payload ∧
      payload.get? "kind" = some (.str "dma") ∧ dmaWorkFromJson payload path = .ok work := by
  simp only [validateDmaWork, checkString, bind_eq_ok, require_eq_ok] at h
  obtain ⟨_, hdescriptor, _, hsource, hdestination⟩ := h
  refine ⟨_, rfl, rfl, ?_⟩
  simp only [dmaWorkFromJson, bind_eq_ok, fields_eq_ok, field_string, field_natural,
    Except.ok.injEq]
  exact ⟨(), by simp [Table.keys], work.descriptorId, ⟨rfl, hdescriptor⟩, work.source,
    ⟨rfl, hsource⟩, work.destination, ⟨rfl, hdestination⟩, work.byteCount, rfl, rfl⟩

theorem controlWorkFromJson_toJson {work : ControlWork}
    (h : validateControlWork work path = .ok ()) :
    ∃ payload : Dict JsonValue, workToJson (.control work) = .obj payload ∧
      payload.get? "kind" = some (.str "control") ∧
      controlWorkFromJson payload path = .ok work := by
  have hvalid := h
  obtain ⟨_, hmessage, _⟩ := of_bind h
  refine ⟨_, rfl, rfl, ?_⟩
  simp only [controlWorkFromJson, fieldD, bind_eq_ok, fields_eq_ok, field_string,
    intTuple_eq_ok, natural_eq_ok, enumValue_eq_ok, Except.ok.injEq]
  exact ⟨(), by simp [Table.keys], work.message, ⟨rfl, require_eq_ok.mp hmessage⟩,
    work.destinationRanks, rfl, work.payloadBytes, rfl, work.mode, rfl, (), hvalid, rfl⟩

theorem pairFromJson_toJson {pair : PairPayload} (h : 1 ≤ pair.bytes) :
    pairFromJson (pairToJson pair) path = .ok pair := by
  refine bind_eq_ok.mpr ⟨_, rfl, ?_⟩
  simp only [bind_eq_ok, natural_eq_ok, naturalFrom_eq_ok, Except.ok.injEq]
  exact ⟨pair.source, rfl, pair.destination, rfl, pair.bytes, ⟨rfl, h⟩, rfl⟩

theorem requestPairFromJson_toJson {entry : RequestPairPayload}
    (h : nonblank entry.requestId = true ∧ 1 ≤ entry.bytes) :
    requestPairFromJson (requestPairToJson entry) path = .ok entry := by
  refine bind_eq_ok.mpr ⟨_, rfl, ?_⟩
  simp only [bind_eq_ok, string_eq_ok, natural_eq_ok, naturalFrom_eq_ok, Except.ok.injEq]
  exact ⟨entry.requestId, ⟨rfl, h.1⟩, entry.source, rfl, entry.destination, rfl, entry.bytes,
    ⟨rfl, h.2⟩, rfl⟩

theorem pairsFromJson_toJson {pairs : List PairPayload} (h : ∀ pair ∈ pairs, 1 ≤ pair.bytes)
    (hvalue : value = .arr (pairs.map pairToJson)) : tuple pairFromJson value path = .ok pairs :=
  tuple_map hvalue fun _ _ hpair => pairFromJson_toJson (h _ (mem_of_getElem? hpair))

theorem requestPairsFromJson_toJson {entries : List RequestPairPayload}
    (h : ∀ entry ∈ entries, nonblank entry.requestId = true ∧ 1 ≤ entry.bytes)
    (hvalue : value = .arr (entries.map requestPairToJson)) :
    tuple requestPairFromJson value path = .ok entries :=
  tuple_map hvalue fun _ _ hentry => requestPairFromJson_toJson (h _ (mem_of_getElem? hentry))

structure CollectiveWork.Written (work : CollectiveWork) : Prop where
  collective : nonblank work.collective = true
  pairs : ∀ pair ∈ work.pairPayloadBytes, 1 ≤ pair.bytes
  requestPairs : ∀ entry ∈ work.requestPairPayloadBytes,
    nonblank entry.requestId = true ∧ 1 ≤ entry.bytes
  algorithm : ∀ text, work.algorithmHint = some text → nonblank text = true
  channel : ∀ text, work.channelHint = some text → nonblank text = true

theorem validateCollectiveWork_written (h : validateCollectiveWork work path = .ok ()) :
    work.Written := by
  simp only [validateCollectiveWork, checkString, bind_eq_ok, require_eq_ok,
    checkOptionalString_eq_ok] at h
  obtain ⟨_, hcollective, _, -, _, -, _, hpairs, _, hrequests, _, halgorithm, hchannel⟩ := h
  obtain ⟨_, hpairs, -⟩ := of_bind hpairs
  obtain ⟨_, hrequests, -⟩ := of_bind hrequests
  rw [forEachIdx_eq_ok] at hpairs hrequests
  refine ⟨hcollective, fun pair hpair => ?_, fun entry hentry => ?_, halgorithm, hchannel⟩
  · obtain ⟨i, hi⟩ := mem_iff_getElem?.mp hpair
    obtain ⟨_, hbytes, -⟩ := of_bind (hpairs i pair hi)
    simpa [checkMinimum] using hbytes
  · obtain ⟨i, hi⟩ := mem_iff_getElem?.mp hentry
    obtain ⟨_, hid, hrest⟩ := of_bind (hrequests i entry hi)
    obtain ⟨_, hbytes, -⟩ := of_bind hrest
    exact ⟨require_eq_ok.mp hid, by simpa [checkMinimum] using hbytes⟩

theorem collectiveWorkFromJson_toJson (h : validateCollectiveWork work path = .ok ()) :
    ∃ payload : Dict JsonValue, workToJson (.collective work) = .obj payload ∧
      payload.get? "kind" = some (.str "collective") ∧
      collectiveWorkFromJson payload path = .ok work := by
  have hwritten := validateCollectiveWork_written h
  refine ⟨_, rfl, rfl, ?_⟩
  simp only [collectiveWorkFromJson, fieldD, bind_eq_ok, fields_eq_ok, field_string,
    field_intTuple, field_natural, optionalString_eq_ok, Except.ok.injEq]
  refine ⟨(), ?_, work.pairPayloadBytes, pairsFromJson_toJson hwritten.pairs ?_,
    work.requestPairPayloadBytes, requestPairsFromJson_toJson hwritten.requestPairs ?_,
    work.collective, ⟨rfl, hwritten.collective⟩, work.ranks, rfl, work.payloadBytes, rfl,
      work.algorithmHint,
    ⟨rfl, hwritten.algorithm⟩, work.channelHint, ⟨rfl, hwritten.channel⟩, (), h, rfl⟩
  -- a table that is empty is left out and read back as its default
  all_goals
    by_cases hpairs : work.pairPayloadBytes = [] <;>
      by_cases hrequests : work.requestPairPayloadBytes = [] <;>
      simp [Table.keys, Wire.get, Table.get?_cons, hpairs, hrequests]

theorem workFromJson_toJson {work : WorkPayload} (h : validateWork work path = .ok ()) :
    workFromJson (workToJson work) path = .ok work := by
  cases work with
  | compute work =>
    obtain ⟨payload, hpayload, hkind, hwork⟩ := computeWorkFromJson_toJson h
    simp +decide [workFromJson, hpayload, object, hkind, string, require, hwork]
  | kv work =>
    obtain ⟨payload, hpayload, hkind, hwork⟩ := kvCacheWorkFromJson_toJson h
    simp +decide [workFromJson, hpayload, object, hkind, string, require, hwork]
  | dma work =>
    obtain ⟨payload, hpayload, hkind, hwork⟩ := dmaWorkFromJson_toJson h
    simp +decide [workFromJson, hpayload, object, hkind, string, require, hwork]
  | collective work =>
    obtain ⟨payload, hpayload, hkind, hwork⟩ := collectiveWorkFromJson_toJson h
    simp +decide [workFromJson, hpayload, object, hkind, string, require, hwork]
  | control work =>
    obtain ⟨payload, hpayload, hkind, hwork⟩ := controlWorkFromJson_toJson h
    simp +decide [workFromJson, hpayload, object, hkind, string, require, hwork]

theorem operationFromJson_toJson {operations : List ExecutionOperation}
    {operation : ExecutionOperation} (h : validateOperation operations i operation = .ok ()) :
    operationFromJson (operationToJson operation) (indexPath "graph.operations" i) =
      .ok operation := by
  simp only [validateOperation, validateDependencyIds, checkString, checkStrings_eq_ok,
    bind_eq_ok, require_eq_ok, validateCorrelation_eq_ok] at h
  obtain ⟨_, hid, _, -, _, hqueue, _, ⟨_, hdeps, -⟩, _, ⟨_, hlocal, -⟩, _, -, _, hcorrelation, _,
    hwork, -⟩ := h
  have hpath : indexPath "graph.operations" i ++ "." ++ "work" =
      indexPath "graph.operations" i ++ ".work" := String.append_assoc ..
  simp only [operationToJson, operationFromJson, object, ok_bind, fieldD,
    bind_eq_ok, fields_eq_ok, field_string, field_natural, stringTuple_eq_ok,
    natural_eq_ok, integer_eq_ok, correlationFromJson_eq_ok, Except.ok.injEq]
  refine ⟨(), by simp [Table.keys], operation.operationId, ⟨rfl, hid⟩, operation.rank, rfl,
    operation.logicalQueue, ⟨rfl, hqueue⟩, operation.work, ?_, operation.dependsOn, ⟨rfl, hdeps⟩,
    operation.notBeforePs, rfl, operation.priority, rfl, operation.correlation,
    ⟨correlationForm_toJson _, hcorrelation⟩, operation.placementEpoch, rfl,
    operation.participantLocalDependsOn, ⟨rfl, hlocal⟩, rfl⟩
  refine field_eq_ok.mpr ⟨_, rfl, ?_⟩
  rw [hpath]
  exact workFromJson_toJson hwork

@[simp] theorem valueAll_map {α : Type} (encode : α → Json) (values : List α) :
    valueAll (values.map encode) = values.map fun a => (encode a).value := by
  induction values with
  | nil => rfl
  | cons a values ih => rw [map_cons, map_cons, valueAll, ih]

theorem value_pairs (pairs : List PairPayload) :
    (pairsToJson pairs).value = .arr (pairs.map pairToJson) := by
  simp [pairsToJson, Json.value, valueAll, pairToJson]

theorem value_requestPairs (entries : List RequestPairPayload) :
    (requestPairsToJson entries).value = .arr (entries.map requestPairToJson) := by
  simp [requestPairsToJson, Json.value, valueAll, requestPairToJson]

def rankActionToJson (entry : Nat × List String) : JsonValue :=
  .arr [naturalToJson entry.1, .arr (entry.2.map .str)]

theorem value_rankActions (entries : List (Nat × List String)) :
    (rankActionsToJson entries).value = .arr (entries.map rankActionToJson) := by
  simp [rankActionsToJson, Json.value, valueAll, rankActionToJson]

def planPayload (plan : CollectivePlan) : Dict JsonValue :=
  [("schema", .str collectivePlanSchema), ("operation_id", .str plan.operationId),
    ("collective", .str plan.collective), ("algorithm", .str plan.algorithm),
    ("channel_id", .str plan.channelId),
    ("rank_order", .arr (plan.rankOrder.map naturalToJson)),
    ("payload_bytes", naturalToJson plan.payloadBytes),
    ("pair_payload_bytes", .arr (plan.pairPayloadBytes.map pairToJson)),
    ("request_pair_payload_bytes", .arr (plan.requestPairPayloadBytes.map requestPairToJson)),
    ("rounds", .arr (plan.rounds.map fun round => (roundToJson round).value)),
    ("actions", .arr (plan.actions.map fun action => (actionToJson action).value)),
    ("extents", .arr (plan.extents.map fun extent => (extentToJson extent).value)),
    ("entry_action_ids", .arr (plan.entryActionIds.map rankActionToJson)),
    ("terminal_action_ids", .arr (plan.terminalActionIds.map rankActionToJson)),
    ("integrity_sha256", .str plan.integritySha256)]

theorem collectivePlanToJson_eq (plan : CollectivePlan) :
    collectivePlanToJson plan = .obj (planPayload plan) := by
  simp only [collectivePlanToJson, collectivePlanIdentityToJson, Json.payload, valueFields,
    Json.value, value_pairs, value_requestPairs, value_rankActions, valueAll_map]
  rfl

theorem roundFromJson_value {round : CollectivePlanRound} (h : nonblank round.channelId = true) :
    roundFromJson (roundToJson round).value path = .ok round := by
  simp only [roundToJson, Json.value, valueFields, roundFromJson, object, ok_bind,
    bind_eq_ok, fields_eq_ok, field_natural, field_string, Except.ok.injEq]
  exact ⟨(), by simp [Table.keys], round.roundIndex, rfl, round.tag, rfl, round.channelId,
    ⟨rfl, h⟩, rfl⟩

theorem actionFromJson_value {action : CollectivePlanAction} (hid : nonblank action.actionId = true)
    (hextent : nonblank action.extentId = true)
    (hdeps : ∀ text ∈ action.dependsOn, nonblank text = true) :
    actionFromJson (actionToJson action).value path = .ok action := by
  simp only [actionToJson, Json.value, valueFields, valueAll_map, actionFromJson, object,
    ok_bind, bind_eq_ok, fields_eq_ok, field_natural, field_string,
    field_enumValue, field_stringTuple, Except.ok.injEq]
  exact ⟨(), by simp [Table.keys], action.actionId, ⟨rfl, hid⟩, action.rank, rfl, action.kind, rfl,
    action.extentId, ⟨rfl, hextent⟩, action.dependsOn, ⟨rfl, hdeps⟩, rfl⟩

def extentRequestToJson (entry : String × Nat) : JsonValue :=
  .arr [.str entry.1, naturalToJson entry.2]

theorem extentRequestFromJson_toJson {entry : String × Nat}
    (h : nonblank entry.1 = true ∧ 1 ≤ entry.2) :
    extentRequestFromJson (extentRequestToJson entry) path = .ok entry := by
  refine bind_eq_ok.mpr ⟨_, rfl, ?_⟩
  simp only [bind_eq_ok, string_eq_ok, naturalFrom_eq_ok, Except.ok.injEq]
  exact ⟨entry.1, ⟨rfl, h.1⟩, entry.2, ⟨rfl, h.2⟩, rfl⟩

theorem rankActionIdsEntryFromJson_toJson {entry : Nat × List String}
    (h : ∀ text ∈ entry.2, nonblank text = true) :
    rankActionIdsEntryFromJson (rankActionToJson entry) path = .ok entry := by
  refine bind_eq_ok.mpr ⟨_, rfl, ?_⟩
  simp only [bind_eq_ok, natural_eq_ok, stringTuple_eq_ok, Except.ok.injEq]
  exact ⟨entry.1, rfl, entry.2, ⟨rfl, h⟩, rfl⟩

structure CollectivePlanExtent.Written (extent : CollectivePlanExtent) : Prop where
  identity : nonblank extent.extentId = true
  payload : 1 ≤ extent.payloadBytes
  send : nonblank extent.sendActionId = true
  receive : nonblank extent.receiveActionId = true
  requests : ∀ entry ∈ extent.requestPayloadBytes, nonblank entry.1 = true ∧ 1 ≤ entry.2

theorem extentFromJson_value (h : extent.Written) :
    extentFromJson (extentToJson extent).value path = .ok extent := by
  simp only [extentToJson, Json.value, valueFields, valueAll_map, valueAll, extentFromJson, object,
    ok_bind, bind_eq_ok, fields_eq_ok, field_natural, field_string, Except.ok.injEq]
  refine ⟨(), by simp [Table.keys], extent.requestPayloadBytes, field_eq_ok.mpr ⟨_, rfl, ?_⟩,
    extent.extentId, ⟨rfl, h.identity⟩, extent.roundIndex, rfl, extent.sourceRank, rfl,
    extent.destinationRank, rfl, extent.payloadBytes, field_eq_ok.mpr ⟨_, rfl, ?_⟩,
    extent.sendActionId, ⟨rfl, h.send⟩, extent.receiveActionId, ⟨rfl, h.receive⟩, rfl⟩
  · exact tuple_map rfl fun _ _ hi =>
      extentRequestFromJson_toJson (h.requests _ (mem_of_getElem? hi))
  · exact naturalFrom_eq_ok.mpr ⟨rfl, h.payload⟩

structure CollectivePlan.Written (plan : CollectivePlan) : Prop where
  operation : nonblank plan.operationId = true
  collective : nonblank plan.collective = true
  algorithm : nonblank plan.algorithm = true
  channel : nonblank plan.channelId = true
  pairs : ∀ pair ∈ plan.pairPayloadBytes, 1 ≤ pair.bytes
  requestPairs : ∀ entry ∈ plan.requestPairPayloadBytes,
    nonblank entry.requestId = true ∧ 1 ≤ entry.bytes
  rounds : ∀ round ∈ plan.rounds, nonblank round.channelId = true
  actions : ∀ action ∈ plan.actions, nonblank action.actionId = true ∧
    nonblank action.extentId = true ∧ ∀ text ∈ action.dependsOn, nonblank text = true
  extents : ∀ extent ∈ plan.extents, extent.Written
  entries : ∀ entry ∈ plan.entryActionIds, ∀ text ∈ entry.2, nonblank text = true
  terminals : ∀ entry ∈ plan.terminalActionIds, ∀ text ∈ entry.2, nonblank text = true
  integrity : nonblank plan.integritySha256 = true

theorem collectivePlanFromJson_toJson (h : plan.Written) :
    collectivePlanFromJson (collectivePlanToJson plan) path = .ok plan := by
  rw [collectivePlanToJson_eq]
  have hrankActions : ∀ {name entries}, (∀ entry ∈ entries, ∀ text ∈ entry.2,
    nonblank text = true) →
      (planPayload plan).get? name = some (.arr (entries.map rankActionToJson)) →
      field rankActionIdsFromJson (planPayload plan) path name = .ok entries := fun hentries hget =>
    field_eq_ok.mpr ⟨_, hget, tuple_map rfl fun _ _ hi =>
      rankActionIdsEntryFromJson_toJson (hentries _ (mem_of_getElem? hi))⟩
  have hpairs : field (tuple pairFromJson) (planPayload plan) path "pair_payload_bytes" =
      .ok plan.pairPayloadBytes := field_eq_ok.mpr ⟨_, rfl, pairsFromJson_toJson h.pairs rfl⟩
  have hrequestPairs : field (tuple requestPairFromJson) (planPayload plan) path
      "request_pair_payload_bytes" = .ok plan.requestPairPayloadBytes :=
    field_eq_ok.mpr ⟨_, rfl, requestPairsFromJson_toJson h.requestPairs rfl⟩
  have hrounds : field (tuple roundFromJson) (planPayload plan) path "rounds" =
      .ok plan.rounds :=
    field_eq_ok.mpr ⟨_, rfl, tuple_map rfl fun i round hround =>
      roundFromJson_value (h.rounds round (mem_of_getElem? hround))⟩
  have hactions : field (tuple actionFromJson) (planPayload plan) path "actions" =
      .ok plan.actions := by
    refine field_eq_ok.mpr ⟨_, rfl, tuple_map rfl fun i action haction => ?_⟩
    obtain ⟨hid, hextent, hdeps⟩ := h.actions action (mem_of_getElem? haction)
    exact actionFromJson_value hid hextent hdeps
  have hextents : field (tuple extentFromJson) (planPayload plan) path "extents" =
      .ok plan.extents :=
    field_eq_ok.mpr ⟨_, rfl, tuple_map rfl fun i extent hextent =>
      extentFromJson_value (h.extents extent (mem_of_getElem? hextent))⟩
  have hkeys : fields (planPayload plan) path planFields = .ok () :=
    fields_eq_ok.mpr (by simp [planPayload, planFields, Table.keys])
  simp only [collectivePlanFromJson, object, ok_bind, hkeys, hpairs, hrequestPairs, hrounds,
    hactions, hextents, bind_eq_ok, field_natural, field_string,
    field_intTuple, require_eq_ok, beq_iff_eq, Except.ok.injEq]
  exact ⟨collectivePlanSchema, ⟨rfl, by decide⟩, (), rfl, plan.operationId, ⟨rfl, h.operation⟩,
    plan.collective, ⟨rfl, h.collective⟩, plan.algorithm, ⟨rfl, h.algorithm⟩, plan.channelId,
    ⟨rfl, h.channel⟩, plan.rankOrder, rfl, plan.payloadBytes, rfl, plan.entryActionIds,
    hrankActions h.entries rfl, plan.terminalActionIds, hrankActions h.terminals rfl,
    plan.integritySha256, ⟨rfl, h.integrity⟩, rfl⟩

theorem nonblank_of_isSha256Digest {text : String} (h : isSha256Digest text = true) :
    nonblank text = true := by
  have hspace : ∀ c ∈ Sha256.hexDigits, isSpace c = false := by
    have hall : Sha256.hexDigits.all (fun c => !isSpace c) = true := by decide
    simpa using hall
  unfold isSha256Digest at h
  simp only [Bool.and_eq_true, decide_eq_true_eq, all_eq_true, contains_iff_mem] at h
  obtain ⟨hlength, hdigits⟩ := h
  unfold nonblank
  rw [any_eq_true]
  cases hchars : text.toList with
  | nil => simp [hchars] at hlength
  | cons c rest =>
    have hc := hspace c (hdigits c (by simp [hchars]))
    exact ⟨c, by simp, by simp [hc]⟩

theorem validateExtent_written (h : validatePlanExtent plan path i extent = .ok ()) :
    extent.Written := by
  simp only [validatePlanExtent, validateExtentEndpoint, validateExtentRequests, checkString,
    checkMinimum, bind_eq_ok, require_eq_ok, forEachIdx_eq_ok, forall_getElem?_iff,
    decide_eq_true_eq] at h
  obtain ⟨_, hid, _, -, _, -, _, -, _, -, _, -, _, hpayload, _, ⟨_, hsend, -⟩, _,
    ⟨_, hreceive, -⟩, _, hrequests, -⟩ := h
  refine ⟨hid, hpayload, hsend, hreceive, fun entry hentry => ?_⟩
  obtain ⟨_, htext, hbytes⟩ := hrequests entry hentry
  exact ⟨htext, hbytes⟩

theorem validateRankActionIds_written {entries : List (Nat × List String)}
    (h : validateRankActionIds entries path plan = .ok ()) :
    ∀ entry ∈ entries, ∀ text ∈ entry.2, nonblank text = true := by
  obtain ⟨_, -, hentries⟩ := of_bind h
  rw [forEachIdx_eq_ok] at hentries
  intro entry hentry text htext
  obtain ⟨i, hi⟩ := mem_iff_getElem?.mp hentry
  obtain ⟨_, -, hbody⟩ := of_bind (hentries i entry hi)
  obtain ⟨_, hids, -⟩ := of_bind hbody
  rw [forEachIdx_eq_ok] at hids
  obtain ⟨j, hj⟩ := mem_iff_getElem?.mp htext
  obtain ⟨_, hname, -⟩ := of_bind (hids j text hj)
  exact require_eq_ok.mp hname

theorem validateCollectivePlan_written (h : validateCollectivePlan plan path work = .ok ()) :
    plan.Written := by
  simp only [validateCollectivePlan, validatePlanSemantics, validatePlanRounds,
    validatePlanActions, validatePlanAction, validatePlanExtents, validatePlanBoundaries,
    validatePlanIntegrity, checkString, checkStrings_eq_ok, bind_eq_ok, require_eq_ok,
    forEachIdx_eq_ok] at h
  obtain ⟨_, ⟨_, hoperation, _, hcollective, _, halgorithm, _, hchannel, _, -, _, -, _, -,
    _, -, _, -,
      _, -, _, -, _, -, _, -, hcopy⟩, _, ⟨_, -, _, hrounds, -⟩, _, ⟨_, hactions, -⟩, _,
      ⟨_, hextents, -⟩, _, ⟨_, hentries, _, hterminals, -⟩, _, hdigest, -⟩ := h
  have hwritten := validateCollectiveWork_written hcopy
  refine ⟨hoperation, hcollective, halgorithm, hchannel, hwritten.pairs, hwritten.requestPairs,
    fun round hround => ?_, fun action haction => ?_, fun extent hextent => ?_,
    validateRankActionIds_written hentries, validateRankActionIds_written hterminals,
    nonblank_of_isSha256Digest hdigest⟩
  · obtain ⟨i, hi⟩ := mem_iff_getElem?.mp hround
    obtain ⟨_, -, hname⟩ := hrounds i round hi
    exact hname
  · obtain ⟨i, hi⟩ := mem_iff_getElem?.mp haction
    obtain ⟨_, hid, _, -, _, -, _, hextent, _, hdeps, -⟩ := hactions i action hi
    exact ⟨hid, hextent, hdeps⟩
  · obtain ⟨i, hi⟩ := mem_iff_getElem?.mp hextent
    exact validateExtent_written (hextents i extent hi)

theorem validateCollectivePlans_written (h : validateCollectivePlans graph = .ok ()) :
    ∀ plan ∈ graph.collectivePlans, plan.Written := by
  intro plan hplan
  obtain ⟨operation, -, -, work, path, -, hvalid⟩ := validateCollectivePlans_of_mem _ h hplan
  exact validateCollectivePlan_written hvalid

theorem graphPayloadFromJson_toJson (h : validateExecutionGraph graph = .ok ()) :
    ∃ payload : Dict JsonValue, executionGraphToJson graph = .ok (.obj payload) ∧
      payload.get? "schema" = some (.str executionGraphSchema) ∧
      graphPayloadFromJson payload = .ok graph := by
  have hvalid := h
  simp only [validateExecutionGraph, checkString, bind_eq_ok, require_eq_ok,
    forEachIdx_eq_ok] at h
  obtain ⟨_, hid, _, hoperations, _, -, _, hcompletions, _, -, _, hplans, -⟩ := h
  have hwritten := validateCollectivePlans_written hplans
  have htexts : ∀ text ∈ graph.completionOperationIds, nonblank text = true := by
    intro text htext
    obtain ⟨i, hi⟩ := mem_iff_getElem?.mp htext
    obtain ⟨_, hname, -⟩ := hcompletions i text hi
    exact hname
  refine ⟨_, bind_eq_ok.mpr ⟨(), hvalid, rfl⟩, rfl, ?_⟩
  simp only [graphPayloadFromJson, fieldD, bind_eq_ok, fields_eq_ok, field_string,
    field_natural, stringTuple_eq_ok, Except.ok.injEq]
  refine ⟨(), ?_, graph.operations, ?_, graph.executionId, ⟨rfl, hid⟩, graph.stepIndex, rfl,
    graph.releasedAtPs, rfl, graph.completionOperationIds, ⟨rfl, htexts⟩, graph.collectivePlans, ?_,
    (), hvalid, rfl⟩
  · by_cases hempty : graph.collectivePlans = [] <;> simp [Table.keys, hempty]
  · exact tuple_map rfl fun i operation hi => operationFromJson_toJson (hoperations i operation hi)
  · have hplan : ∀ i plan, graph.collectivePlans[i]? = some plan → collectivePlanFromJson
        (collectivePlanToJson plan) (indexPath ("graph" ++ "." ++ "collective_plans") i) =
          .ok plan :=
      fun i plan hi => collectivePlanFromJson_toJson (hwritten plan (mem_of_getElem? hi))
    refine tuple_map ?_ hplan
    -- no plans are written as an absent field
    by_cases hempty : graph.collectivePlans = [] <;>
      simp [Wire.get, Table.get?_cons, hempty]

theorem executionGraphFromJson_toJson (h : validateExecutionGraph graph = .ok ()) :
    (executionGraphToJson graph >>= executionGraphFromJson) = .ok graph := by
  obtain ⟨payload, hpayload, hschema, hgraph⟩ := graphPayloadFromJson_toJson h
  have htext : nonblank executionGraphSchema = true := by decide
  rw [hpayload, ok_bind]
  simp only [executionGraphFromJson, object, ok_bind, hschema, string, htext, require,
    beq_self_eq_true, if_true, hgraph]

theorem executionGraphFromJson_valid (h : executionGraphFromJson value = .ok graph) :
    validateExecutionGraph graph = .ok () := by
  obtain ⟨payload, -, h⟩ := of_bind h
  split at h
  next => cases h
  next entry hentry =>
    obtain ⟨_, -, h⟩ := of_bind h
    replace h := of_check h
    simp only [graphPayloadFromJson, bind_eq_ok, Except.ok.injEq] at h
    obtain ⟨_, -, _, -, _, -, _, -, _, -, _, -, _, -, _, hvalid, rfl⟩ := h
    exact hvalid

theorem graph_wire_round_trip (graph : ExecutionGraph) :
    (validateExecutionGraph graph = .ok () →
      (executionGraphToJson graph >>= executionGraphFromJson) = .ok graph) ∧
    ∀ value, executionGraphFromJson value = .ok graph →
      (executionGraphToJson graph >>= executionGraphFromJson) = .ok graph :=
  ⟨executionGraphFromJson_toJson,
    fun _ h => executionGraphFromJson_toJson (executionGraphFromJson_valid h)⟩

def everyKindGraph : ExecutionGraph where
  executionId := "step-0"
  stepIndex := 0
  releasedAtPs := 10
  operations := [
    { operationId := "compute", rank := 0, logicalQueue := "stream", priority := -1
      work := .compute
        { kernel := "gemm", config := [("m", .int 4), ("fused", .bool true)],
          scope := "synthetic-operator", uncertaintyFraction := some ⟨0x3fe0000000000000#64⟩ } },
    { operationId := "cache", rank := 0, logicalQueue := "kv", dependsOn := ["compute"]
      work := .kv
        { action := .write, poolId := "pool", blockIds := ["b0"], tokenStart := some 0,
          tokenEnd := some 4 } },
    { operationId := "copy", rank := 0, logicalQueue := "dma"
      work := .dma ⟨"d0", "cpu", "gpu:0", 64⟩ },
    { operationId := "exchange", rank := 0, logicalQueue := "nccl"
      participantLocalDependsOn := ["copy"], correlation := { requestIds := ["a"] }
      work := .collective
        { collective := "all-to-allv", ranks := [0, 1], payloadBytes := 0,
          algorithmHint := some "pairwise", pairPayloadBytes := [⟨0, 1, 8⟩],
          requestPairPayloadBytes := [⟨"a", 0, 1, 8⟩] } },
    { operationId := "notify", rank := 1, logicalQueue := "control"
      work := .control { message := "done", destinationRanks := [0], mode := .synchronous } }]
  completionOperationIds := ["notify"]

theorem every_kind_round_trip : validateExecutionGraph everyKindGraph = .ok () ∧
    (executionGraphToJson everyKindGraph >>= executionGraphFromJson) = .ok everyKindGraph := by
  have hvalid : validateExecutionGraph everyKindGraph = .ok () := by
    have hok : (validateExecutionGraph everyKindGraph).isOk = true := by decide +kernel
    obtain ⟨_, h⟩ := exists_of_isOk hok
    exact h
  exact ⟨hvalid, (graph_wire_round_trip everyKindGraph).1 hvalid⟩

end SimLLM
