import SimLLM.Arbitration
import SimLLM.WqeLedger

namespace SimLLM

open FirstExtremum

structure RankMap (α : Type) where
  ranks : List Nat
  get : Nat → α

namespace RankMap

variable {α : Type}

def const (ranks : List Nat) (value : α) : RankMap α := ⟨ranks, fun _ => value⟩

def set (mapping : RankMap α) (rank : Nat) (value : α) : RankMap α where
  ranks := if rank ∈ mapping.ranks then mapping.ranks else mapping.ranks ++ [rank]
  get := fun r => if r = rank then value else mapping.get r

def values (mapping : RankMap α) : List α := mapping.ranks.map mapping.get

@[simp] theorem const_ranks (ranks : List Nat) (value : α) :
    (const ranks value).ranks = ranks := rfl

@[simp] theorem const_get (ranks : List Nat) (value : α) (rank : Nat) :
    (const ranks value).get rank = value := rfl

theorem set_get (mapping : RankMap α) (rank r : Nat) (value : α) :
    (mapping.set rank value).get r = if r = rank then value else mapping.get r := rfl

variable {mapping : RankMap α}

theorem mem_set_ranks {rank r : Nat} {value : α} :
    r ∈ (mapping.set rank value).ranks ↔ r ∈ mapping.ranks ∨ r = rank := by
  unfold set
  split
  next h =>
    constructor
    · exact .inl
    · rintro (hr | rfl)
      · exact hr
      · exact h
  next => simp

theorem set_ranks_of_mem {rank : Nat} {value : α} (h : rank ∈ mapping.ranks) :
    (mapping.set rank value).ranks = mapping.ranks := by
  simp [set, h]

end RankMap

structure CausalWitness where
  predecessorId : String
  participantRank : Nat
  completedAtPs : Nat
  deriving DecidableEq, Repr

def witnessKey (witness : Option CausalWitness) : Bool ×ₗ Int ×ₗ String ×ₗ Int :=
  match witness with
  | none => toLex (false, toLex (-1, toLex ("", -1)))
  | some w => toLex (true, toLex (w.completedAtPs, toLex (w.predecessorId, w.participantRank)))

def candidateKey (candidate : Nat × Option CausalWitness) :
    Nat ×ₗ Bool ×ₗ Int ×ₗ String ×ₗ Int :=
  toLex (candidate.1, witnessKey candidate.2)

def selectCausalWitness (first : Nat × Option CausalWitness)
    (others : List (Nat × Option CausalWitness)) : Option CausalWitness :=
  ((maxBy candidateKey (first :: others)).getD first).2

def completionCausalWitness (completed : RankMap Nat) (witnesses : RankMap (Option CausalWitness)) :
    Option CausalWitness :=
  match completed.ranks.map (fun rank => (completed.get rank, witnesses.get rank)) with
  | [] => none
  | first :: others => selectCausalWitness first others

def pathKey (path : List QueueVisit) : Nat ×ₗ String :=
  match path.getLast? with
  | none => toLex (0, "")
  | some visit => toLex (visit.completedAtPs, visit.resource.resourceId)

def logicalPathIndex (paths : List (List QueueVisit)) : Except PyError Nat :=
  if paths.isEmpty || paths.any (·.isEmpty) then
    .error (valueError "logical-path selection requires nonempty paths")
  else
    match maxBy (fun entry => pathKey entry.1) paths.zipIdx with
    | none => .error (valueError "logical-path selection requires nonempty paths")
    | some (_, index) => .ok index

theorem logicalPathIndex_spec {paths : List (List QueueVisit)} {index : Nat}
    (h : logicalPathIndex paths = .ok index) :
    ∃ path, paths[index]? = some path ∧ path ≠ [] ∧ ∀ other ∈ paths, other ≠ [] ∧
      pathKey other ≤ pathKey path := by
  unfold logicalPathIndex at h
  split at h
  next => cases h
  next hne =>
    simp only [Bool.or_eq_true, List.isEmpty_iff, List.any_eq_true, not_or, not_exists,
      not_and] at hne
    split at h
    next => cases h
    next path i hbest =>
      cases h
      have hget := List.mem_zipIdx_iff_getElem?.mp (maxBy_mem hbest)
      refine ⟨path, hget, hne.2 path (List.mem_of_getElem? hget), ?_⟩
      intro other hother
      obtain ⟨j, hj⟩ := List.getElem?_of_mem hother
      have hmem : (other, j) ∈ paths.zipIdx := List.mem_zipIdx_iff_getElem?.mpr hj
      have hle := le_maxBy hbest hmem
      exact ⟨hne.2 other hother, hle⟩

structure RuntimeState where
  hostAvailable : Nat → Nat := fun _ => 0
  gpuAvailable : Nat → Nat := fun _ => 0
  hbmAvailable : Nat → Nat := fun _ => 0
  copyAvailable : Nat × String → Nat := fun _ => 0
  controlAvailable : Nat → Nat := fun _ => 0
  ncclAvailable : Nat × String → Nat := fun _ => 0
  nvlinkAvailable : Nat → Nat := fun _ => 0
  executionIds : List String := []

structure ScheduledOperation where
  operation : ExecutionOperation
  logicalCompletedAtPs : Nat
  physicalCompletedAtPs : Nat
  participantCompletedAtPs : RankMap Nat
  participantPaths : RankMap (List QueueVisit)
  participantCausalWitnesses : RankMap (Option CausalWitness)
  visits : List QueueVisit
  logicalPaths : List (List QueueVisit)
  eligibleAtPs : Nat
  criticalPredecessorId : Option String
  criticalPredecessorCompletedAtPs : Option Nat
  ncclCommandId : Option String := none
  wqes : List WqeLifecycleProjection := []

structure ReadyOperation where
  byRank : RankMap Nat
  witnesses : RankMap (Option CausalWitness)
  eligibleAtPs : Nat

inductive DmaEndpoint where
  | host
  | device (rank : Nat)
  deriving DecidableEq, Repr

def dmaEndpoint (value : String) (localRank : Nat) : Except PyError DmaEndpoint :=
  let lowered := normalizeEndpoint value
  if lowered = "host".toList || "host:".toList.isPrefixOf lowered then .ok .host
  else
    match deviceRank lowered with
    | some rank => .ok (.device rank)
    | none =>
      if ["device", "hbm", "local", "local:hbm"].any (·.toList == lowered) then
        .ok (.device localRank)
      else .error (valueError
        "DMA endpoint {} must identify host or a gpu/cuda/rank endpoint" [value])

def dmaEndpoints (work : DmaWork) (localRank : Nat) :
    Except PyError (DmaEndpoint × DmaEndpoint) := do
  let source ← dmaEndpoint work.source localRank
  let destination ← dmaEndpoint work.destination localRank
  .ok (source, destination)

def dmaDirection (work : DmaWork) (localRank : Nat) : Except PyError CopyDirection := do
  match ← dmaEndpoints work localRank with
  | (.host, .device _) => .ok .hostToDevice
  | (.device _, .host) => .ok .deviceToHost
  | (.device source, .device destination) =>
    .ok (if source = destination then .deviceToDevice else .peerToPeer)
  | (.host, .host) =>
    .error (valueError "DMA host-to-host descriptors are outside the device runtime")

def DmaEndpoint.rank? : DmaEndpoint → Option Nat
  | .host => none
  | .device rank => some rank

inductive GpuTaskKind where
  | compute | memory | network
  deriving DecidableEq, Repr

structure GpuTask (κ : Type) where
  taskId : String
  kind : GpuTaskKind
  launch : κ

structure KernelService (κ : Type) where
  clockHz : Nat
  estimateConcurrent : List (GpuTask κ) → Except PyError (List (String × Nat))
  clockHz_pos : 0 < clockHz

/-- A WQE authority: the session kept between executions, and the isolated
transaction one execution stages its submissions in. -/
structure WqeAuthority (σ τ : Type) where
  name : String
  begin : σ → Except PyError τ
  transactionName : τ → String
  submit : τ → SemanticWqeSubmission → Except PyError (WqeLifecycleProjection × τ)
  randomDrawCount : τ → Nat
  prepare : τ → Except PyError Unit
  commit : σ → τ → σ

def bypassAuthority (profile : CoarseDeviceProfile) (receiverIngress : Bool) :
    WqeAuthority AtlahsWqeLedger AtlahsWqeLedger where
  name := atlahsAuthorityName
  begin := .ok
  transactionName _ := atlahsAuthorityName
  submit := AtlahsWqeLedger.submit profile receiverIngress
  randomDrawCount _ := 0
  prepare _ := .ok ()
  commit _ ledger := ledger

end SimLLM
