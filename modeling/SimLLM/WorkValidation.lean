import SimLLM.PyError
import SimLLM.ExceptRules
import SimLLM.Execution

namespace SimLLM

def fail (path message : String) (args : List String := []) : PyError :=
  valueError ("{}: " ++ message) (path :: args)

def indexPath (path : String) (index : Nat) : String := s!"{path}[{index}]"

def checkString (value path : String) : Except PyError Unit :=
  require (nonblank value) (fail path "must not be blank")

def checkOptionalString (value : Option String) (path : String) : Except PyError Unit :=
  match value with
  | none => .ok ()
  | some value => checkString value path

def checkMinimum (minimum value : Nat) (path : String) : Except PyError Unit :=
  require (minimum ≤ value) (fail path "must be at least {}" [toString minimum])

def validateUnique {α : Type} [DecidableEq α] (values : List α) (path : String) :
    Except PyError Unit :=
  require values.Nodup (fail path "contains duplicate values")

def forEachIdx {α : Type} (values : List α) (check : Nat → α → Except PyError Unit) :
    Except PyError Unit :=
  values.zipIdx.forM fun entry => check entry.2 entry.1

theorem forEachIdx_eq_ok {α : Type} {values : List α} {check : Nat → α → Except PyError Unit}
    {u : Unit} : forEachIdx values check = .ok u ↔
      ∀ i x, values[i]? = some x → check i x = .ok () := by
  unfold forEachIdx
  rw [forM_eq_ok]
  constructor
  · intro h i x hx
    exact h (x, i) (List.mem_zipIdx_iff_getElem?.mpr hx)
  · rintro h ⟨x, i⟩ hx
    exact h i x (List.mem_zipIdx_iff_getElem?.mp hx)

theorem forall_getElem?_iff {α : Type} {values : List α} {P : α → Prop} :
    (∀ (i : Nat) x, values[i]? = some x → P x) ↔ ∀ x ∈ values, P x := by
  simp only [List.mem_iff_getElem?, forall_exists_index]
  exact forall_comm

def checkStrings (values : List String) (path : String) : Except PyError Unit :=
  forEachIdx values fun index value => checkString value (indexPath path index)

def validateConfig (config : List (String × ConfigScalar)) (path : String) :
    Except PyError Unit := do
  forEachIdx config fun index entry => do
    let entryPath := indexPath path index
    checkString entry.1 (indexPath entryPath 0)
    match entry.2 with
    | .float value => require value.isFinite (fail (indexPath entryPath 1) "float must be finite")
    | _ => .ok ()
  require (config.map Prod.fst).Nodup (fail path "configuration keys must be unique")

def validateComputeWork (work : ComputeWork) (path : String) : Except PyError Unit := do
  checkString work.kernel (path ++ ".kernel")
  validateConfig work.config (path ++ ".config")
  require (["kernel-region", "logical-operator", "synthetic-operator"].contains work.scope)
    (fail (path ++ ".scope") "unknown compute scope")
  -- only a logical operator may leave its demand unbound
  require (work.scope == "logical-operator" || work.flops.isSome)
    (fail (path ++ ".flops") "expected an integer")
  require (work.scope == "logical-operator" || work.hbmBytes.isSome)
    (fail (path ++ ".hbm_bytes") "expected an integer")
  match work.uncertaintyFraction with
  | none => .ok ()
  | some fraction => do
    require fraction.isFinite (fail (path ++ ".uncertainty_fraction") "must be finite")
    require (!fraction.isNegative) (fail (path ++ ".uncertainty_fraction") "must be nonnegative")

def validateKvCacheWork (work : KvCacheWork) (path : String) : Except PyError Unit := do
  checkString work.poolId (path ++ ".pool_id")
  checkOptionalString work.requestId (path ++ ".request_id")
  checkOptionalString work.dtype (path ++ ".dtype")
  checkOptionalString work.cause (path ++ ".cause")
  checkOptionalString work.correlationId (path ++ ".correlation_id")
  checkStrings work.blockIds (path ++ ".block_ids")
  validateUnique work.blockIds (path ++ ".block_ids")
  require (work.tokenStart.isNone == work.tokenEnd.isNone)
    (fail path "token_start and token_end must appear together")
  match work.tokenStart, work.tokenEnd with
  | some first, some last =>
    require (first ≤ last) (fail path "token_end must be greater than or equal to token_start")
  | _, _ => .ok ()

def validateDmaWork (work : DmaWork) (path : String) : Except PyError Unit := do
  checkString work.descriptorId (path ++ ".descriptor_id")
  checkString work.source (path ++ ".source")
  checkString work.destination (path ++ ".destination")

def PairPayload.key (pair : PairPayload) : Nat ×ₗ Nat := toLex (pair.source, pair.destination)

def RequestPairPayload.pair (entry : RequestPairPayload) : Nat ×ₗ Nat :=
  toLex (entry.source, entry.destination)

def RequestPairPayload.key (entry : RequestPairPayload) : String ×ₗ Nat ×ₗ Nat :=
  toLex (entry.requestId, entry.pair)

variable (work : CollectiveWork)

def CollectiveWork.isRing : Bool :=
  work.collective == "all-reduce" && work.algorithmHint == some "ring"

def CollectiveWork.isPairwise : Bool :=
  work.collective == "all-to-allv" && work.algorithmHint == some "pairwise"

def validatePairEndpoints (ranks : List Nat) (source destination : Nat) (entryPath : String) :
    Except PyError Unit := do
  require (source != destination) (fail entryPath "source and destination ranks must differ")
  require (ranks.contains source && ranks.contains destination)
    (fail entryPath "source and destination must belong to ranks")

def validatePairPayloads (path : String) : Except PyError Unit := do
  let tablePath := path ++ ".pair_payload_bytes"
  forEachIdx work.pairPayloadBytes fun index entry => do
    let entryPath := indexPath tablePath index
    checkMinimum 1 entry.bytes (indexPath entryPath 2)
    validatePairEndpoints work.ranks entry.source entry.destination entryPath
  let keys := work.pairPayloadBytes.map PairPayload.key
  require keys.Nodup (fail tablePath "ordered rank pairs must be unique")
  require (keys == keys.insertionSort (· ≤ ·))
    (fail tablePath "entries must be in source-major order")
  if !work.pairPayloadBytes.isEmpty then
    require work.isPairwise (fail tablePath "table is valid only for pairwise all-to-allv")
    require (work.payloadBytes == 0)
      (fail path "pair_payload_bytes and payload_bytes cannot both be authoritative")

def attributedBytes (entries : List RequestPairPayload) (pair : Nat ×ₗ Nat) : Nat :=
  ((entries.filter (·.pair == pair)).map (·.bytes)).sum

def partitionMatches : Bool :=
  (work.pairPayloadBytes.all fun pair =>
    (work.requestPairPayloadBytes.map (·.pair)).contains pair.key &&
      attributedBytes work.requestPairPayloadBytes pair.key == pair.bytes) &&
  (work.requestPairPayloadBytes.all fun entry =>
    (work.pairPayloadBytes.map (·.key)).contains entry.pair)

def validateRequestPairPayloads (path : String) :
    Except PyError Unit := do
  let tablePath := path ++ ".request_pair_payload_bytes"
  forEachIdx work.requestPairPayloadBytes fun index entry => do
    let entryPath := indexPath tablePath index
    checkString entry.requestId (indexPath entryPath 0)
    checkMinimum 1 entry.bytes (indexPath entryPath 3)
    validatePairEndpoints work.ranks entry.source entry.destination entryPath
  let keys := work.requestPairPayloadBytes.map RequestPairPayload.key
  require keys.Nodup (fail tablePath "request and ordered rank pairs must be unique")
  require (keys == keys.insertionSort (· ≤ ·))
    (fail tablePath "entries must be in request-major order")
  if !work.requestPairPayloadBytes.isEmpty then
    require work.isPairwise (fail tablePath "partition is valid only for pairwise all-to-allv")
    require (partitionMatches work)
      (fail tablePath "per-pair sums must equal pair_payload_bytes exactly")

def validateCollectiveWork (path : String) : Except PyError Unit := do
  checkString work.collective (path ++ ".collective")
  require (!work.ranks.isEmpty) (fail (path ++ ".ranks") "must not be empty")
  validateUnique work.ranks (path ++ ".ranks")
  validatePairPayloads work path
  validateRequestPairPayloads work path
  checkOptionalString work.algorithmHint (path ++ ".algorithm_hint")
  checkOptionalString work.channelHint (path ++ ".channel_hint")

def validateControlWork (work : ControlWork) (path : String) : Except PyError Unit := do
  checkString work.message (path ++ ".message")
  validateUnique work.destinationRanks (path ++ ".destination_ranks")

def validateWork (work : WorkPayload) (path : String) : Except PyError Unit :=
  match work with
  | .compute work => validateComputeWork work path
  | .kv work => validateKvCacheWork work path
  | .dma work => validateDmaWork work path
  | .collective work => validateCollectiveWork work path
  | .control work => validateControlWork work path

end SimLLM
