import SimLLM.Text

namespace SimLLM

open List

inductive KvCacheAction where
  | reserve | allocate | bindPrefix | touch | read | write | retain | release | evict | free
  | swap | transfer | recompute
  deriving DecidableEq, Repr

inductive ControlMode where
  | asynchronous | synchronous
  deriving DecidableEq, Repr

inductive ResourceKind where
  | hostLaunchQueue | cudaStream | gpuWorkQueue | gpuScheduler | hbmQueue | copyEngine | nvlink
  | ncclChannel | nicSendQueue | nicReceiveQueue | nic | completionQueue | controlQueue
  deriving DecidableEq, Repr

inductive EventPhase where
  | submitted | queued | started | progress | completed
  deriving DecidableEq, Repr

inductive DependencyScope where
  | wholeOperation | participantLocal
  deriving DecidableEq, Repr

inductive DependencyOrigin where
  | explicit | logicalQueueFifo
  deriving DecidableEq, Repr

structure PyFloat where
  bits : BitVec 64
  deriving DecidableEq, Repr

def PyFloat.isFinite (x : PyFloat) : Bool := x.bits.extractLsb' 52 11 != BitVec.allOnes 11

def PyFloat.isNegative (x : PyFloat) : Bool := x.bits.msb && x.bits.extractLsb' 0 63 != 0#63

inductive ConfigScalar where
  | str (value : String)
  | int (value : Int)
  | float (value : PyFloat)
  | bool (value : Bool)
  deriving DecidableEq, Repr

structure ComputeWork where
  kernel : String
  config : List (String × ConfigScalar) := []
  flops : Option Nat := some 0
  hbmBytes : Option Nat := some 0
  nominalDurationPs : Option Nat := none
  uncertaintyFraction : Option PyFloat := none
  scope : String := "kernel-region"
  deriving DecidableEq, Repr

structure KvCacheWork where
  action : KvCacheAction
  poolId : String
  requestId : Option String := none
  blockIds : List String := []
  tokenStart : Option Nat := none
  tokenEnd : Option Nat := none
  layer : Option Nat := none
  dtype : Option String := none
  byteCount : Nat := 0
  placementEpoch : Nat := 0
  referenceCount : Option Nat := none
  cause : Option String := none
  correlationId : Option String := none
  deriving DecidableEq, Repr

structure DmaWork where
  descriptorId : String
  source : String
  destination : String
  byteCount : Nat
  deriving DecidableEq, Repr

structure PairPayload where
  source : Nat
  destination : Nat
  bytes : Nat
  deriving DecidableEq, Repr

structure RequestPairPayload where
  requestId : String
  source : Nat
  destination : Nat
  bytes : Nat
  deriving DecidableEq, Repr

structure CollectiveWork where
  collective : String
  ranks : List Nat
  payloadBytes : Nat
  algorithmHint : Option String := none
  channelHint : Option String := none
  pairPayloadBytes : List PairPayload := []
  requestPairPayloadBytes : List RequestPairPayload := []
  deriving DecidableEq, Repr

def CollectiveWork.channelId (work : CollectiveWork) : String :=
  match work.channelHint with
  | none => "default"
  | some hint => if hint = "" then "default" else hint

inductive CollectivePlanActionKind where
  | send | receive
  deriving DecidableEq, Repr

structure CollectivePlanRound where
  roundIndex : Nat
  tag : Nat
  channelId : String
  deriving DecidableEq, Repr

structure CollectivePlanAction where
  actionId : String
  rank : Nat
  kind : CollectivePlanActionKind
  extentId : String
  dependsOn : List String := []
  deriving DecidableEq, Repr

structure CollectivePlanExtent where
  extentId : String
  roundIndex : Nat
  sourceRank : Nat
  destinationRank : Nat
  payloadBytes : Nat
  sendActionId : String
  receiveActionId : String
  requestPayloadBytes : List (String × Nat) := []
  deriving DecidableEq, Repr

structure CollectivePlan where
  operationId : String
  collective : String
  algorithm : String
  channelId : String
  rankOrder : List Nat
  payloadBytes : Nat
  pairPayloadBytes : List PairPayload
  requestPairPayloadBytes : List RequestPairPayload
  rounds : List CollectivePlanRound
  actions : List CollectivePlanAction
  extents : List CollectivePlanExtent
  entryActionIds : List (Nat × List String)
  terminalActionIds : List (Nat × List String)
  integritySha256 : String
  deriving DecidableEq, Repr

structure ControlWork where
  message : String
  destinationRanks : List Nat := []
  payloadBytes : Nat := 0
  mode : ControlMode := .asynchronous
  deriving DecidableEq, Repr

inductive WorkPayload where
  | compute (work : ComputeWork)
  | kv (work : KvCacheWork)
  | dma (work : DmaWork)
  | collective (work : CollectiveWork)
  | control (work : ControlWork)
  deriving DecidableEq, Repr

structure OperationCorrelation where
  requestIds : List String := []
  batchId : Option String := none
  layer : Option Nat := none
  microbatch : Option Nat := none
  iteration : Option Nat := none
  deriving DecidableEq, Repr

structure ExecutionOperation where
  operationId : String
  rank : Nat
  logicalQueue : String
  work : WorkPayload
  dependsOn : List String := []
  notBeforePs : Nat := 0
  priority : Int := 0
  correlation : OperationCorrelation := {}
  placementEpoch : Nat := 0
  participantLocalDependsOn : List String := []
  deriving DecidableEq, Repr

structure ExecutionGraph where
  executionId : String
  stepIndex : Nat
  releasedAtPs : Nat
  operations : List ExecutionOperation := []
  completionOperationIds : List String := []
  collectivePlans : List CollectivePlan := []
  deriving DecidableEq, Repr

structure EffectiveDependencyEdge where
  predecessorId : String
  operationId : String
  scope : DependencyScope
  origin : DependencyOrigin
  participantRank : Option Nat := none
  deriving DecidableEq, Repr

structure ResourceRef where
  kind : ResourceKind
  resourceId : String
  deriving DecidableEq, Repr

structure CompletionEvent where
  executionId : String
  operationId : String
  phase : EventPhase
  timestampPs : Nat
  resource : Option ResourceRef := none
  completedBytes : Option Nat := none
  subjectObjectId : Option String := none
  deriving DecidableEq, Repr

structure ExecutionResult where
  executionId : String
  completedAtPs : Nat
  events : List CompletionEvent := []
  quiescedAtPs : Option Nat := none
  deriving DecidableEq, Repr

def sortedSet {α : Type} [LinearOrder α] (values : List α) : List α :=
  values.dedup.insertionSort (· ≤ ·)

@[simp] theorem mem_sortedSet {α : Type} [LinearOrder α] {values : List α} {x : α} :
    x ∈ sortedSet values ↔ x ∈ values := by
  simp [sortedSet]

theorem sortedSet_nodup {α : Type} [LinearOrder α] (values : List α) : (sortedSet values).Nodup :=
  (perm_insertionSort _ _).nodup_iff.mpr (nodup_dedup values)

theorem sortedSet_congr {α : Type} [LinearOrder α] {l r : List α} (h : ∀ x, x ∈ l ↔ x ∈ r) :
    sortedSet l = sortedSet r := by
  refine List.Perm.eq_of_sortedLE sortedLE_insertionSort sortedLE_insertionSort ?_
  refine (perm_insertionSort _ _).trans (.trans ?_ (perm_insertionSort _ _).symm)
  refine (perm_ext_iff_of_nodup (nodup_dedup l) (nodup_dedup r)).mpr fun x => ?_
  rw [mem_dedup, mem_dedup, h]

def participantRankSet (operation : ExecutionOperation) : List Nat :=
  match operation.work with
  | .collective work => operation.rank :: work.ranks
  | .control work => operation.rank :: work.destinationRanks
  | .dma work =>
    operation.rank ::
      [work.source, work.destination].filterMap (fun e => deviceRank (normalizeEndpoint e))
  | _ => [operation.rank]

def operationParticipantRanks (operation : ExecutionOperation) : List Nat :=
  sortedSet (participantRankSet operation)

end SimLLM
