import SimLLM.KvLedger
import SimLLM.Schedule

namespace SimLLM

variable {κ σ τ : Type}

structure PendingKvAccounting where
  ledger : KvLifecycleLedger
  demands : List KvServiceDemand

def kvDemandBytes (pending : Option PendingKvAccounting) (operationId : String) : Nat :=
  match pending with
  | none => 0
  | some pending =>
    ((pending.demands.find? fun demand =>
      demand.operationId == operationId && demand.byteCount != 0).map (·.byteCount)).getD 0

def ComputeWork.requireExecutable (work : ComputeWork) : Except PyError Unit := do
  require (["kernel-region", "synthetic-operator"].contains work.scope)
    (valueError "logical-operator work requires an explicit implementation binding")
  require (work.flops.isSome && work.hbmBytes.isSome)
    (valueError "compute demand is unbound; bind arithmetic and HBM traffic explicitly")

def preflightEdge (graph : ExecutionGraph) (edge : EffectiveDependencyEdge) :
    Except PyError Unit :=
  match graph.operation? edge.operationId with
  | none => .error (keyError "{}" [edge.operationId])
  | some operation =>
    match operation.work with
    | .control work =>
      require (!(edge.scope == .participantLocal && work.mode == .asynchronous &&
          edge.participantRank != some operation.rank))
        (valueError ("participant-local readiness on an asynchronous control destination is " ++
          "unsupported by the coarse runtime"))
    | _ => .ok ()

def preflightCompute (cfg : RuntimeConfig κ σ τ) (operation : ExecutionOperation)
    (work : ComputeWork) : Except PyError Unit := do
  work.requireExecutable
  if (cfg.kernelServices operation.rank).isSome then
    let _ ← kernelLaunch cfg operation work
    .ok ()
  else
    require work.nominalDurationPs.isSome
      (valueError ("compute operation {} needs a nominal duration or a mapped concurrent " ++
        "kernel service") [operation.operationId])

def preflightDma (cfg : RuntimeConfig κ σ τ) (operation : ExecutionOperation) (work : DmaWork) :
    Except PyError Unit := do
  let direction ← dmaDirection work operation.rank
  require (!(copyCandidates cfg direction).isEmpty)
    (valueError "DMA operation {} has no copy engine supporting {}"
      [operation.operationId, direction.value])

def preflightCollective (plan : Option CollectivePlan) (work : CollectiveWork) :
    Except PyError Unit := do
  if plan.isNone && work.isRing then
    require (work.ranks.length ≤ work.payloadBytes)
      (valueError ("ring all-reduce payload must provide at least one byte per rank; CORE-16 " ++
        "owns remainder chunking"))
    require (work.payloadBytes % work.ranks.length == 0)
      (valueError ("ring all-reduce payload must divide evenly among ranks; CORE-16 owns " ++
        "remainder chunking"))
  require (!(plan.isNone && work.collective == "all-to-allv" && work.payloadBytes == 0 &&
      work.pairPayloadBytes.isEmpty))
    (valueError "pairwise all-to-allv requires a nonzero payload")

def preflightControl (work : ControlWork) : Except PyError Unit :=
  require (work.destinationRanks.length ≤ controlGoalTagStride)
    (valueError ("control work supports at most 1024 destinations per reserved GOAL-tag " ++
      "block; CORE-16 owns wider allocation"))

def preflightKv (ledger : Option KvLifecycleLedger) (work : KvCacheWork) : Except PyError Unit :=
  require (!(ledger.isNone && (work.action == .read || work.action == .write) &&
      0 < work.byteCount))
    (valueError ("byte-carrying KV READ/WRITE requires a declared KV pool; construct the " ++
      "runtime with kv_pools"))

def preflightOperation (cfg : RuntimeConfig κ σ τ) (ledger : Option KvLifecycleLedger)
    (graph : ExecutionGraph) (operation : ExecutionOperation) : Except PyError Unit :=
  match operation.work with
  | .compute work => preflightCompute cfg operation work
  | .dma work => preflightDma cfg operation work
  | .collective work =>
    preflightCollective (graph.collectivePlans.find? (·.operationId == operation.operationId)) work
  | .control work => preflightControl work
  | .kv work => preflightKv ledger work

def kvOperations (graph : ExecutionGraph) : List (String × KvCacheWork) :=
  graph.operations.filterMap fun operation =>
    match operation.work with
    | .kv work => some (operation.operationId, work)
    | _ => none

def accountKv (cfg : RuntimeConfig κ σ τ) (ledger : Option KvLifecycleLedger)
    (graph : ExecutionGraph) : Except PyError (Option PendingKvAccounting) :=
  match ledger with
  | none => .ok none
  | some ledger => do
    let (pending, demands) ← ledger.consume (kvOperations graph)
    demands.forM fun demand =>
      require (cfg.profile.hbmRateBps != 0 || demand.byteCount == 0)
        (valueError ("KV operation {} moves {} bytes but the profile declares no HBM rate; set " ++
          "hbm_rate_bps to serve it") [demand.operationId, toString demand.byteCount])
    .ok (some ⟨pending, demands⟩)

def preflight (cfg : RuntimeConfig κ σ τ) (ledger : Option KvLifecycleLedger)
    (graph : ExecutionGraph) : Except PyError (Option PendingKvAccounting) := do
  let _ ← collectiveGoalTags graph cfg.profile.goalBaseTag
  let edges ← effectiveDependencyEdges graph
  edges.forM (preflightEdge graph)
  graph.operations.forM (preflightOperation cfg ledger graph)
  accountKv cfg ledger graph

end SimLLM
