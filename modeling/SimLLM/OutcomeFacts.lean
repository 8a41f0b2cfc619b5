import SimLLM.ReadyFacts

namespace SimLLM

open FirstExtremum

variable {entry : ReadyEntry} {bound bound' : Nat} {path : List QueueVisit}

def AtGpu (rank : Nat) (resource : ResourceRef) : Prop :=
  ∃ name, resource.resourceId = gpuName rank ++ ":" ++ name

theorem AtGpu.rank_unique {a b : Nat} {resource : ResourceRef} (ha : AtGpu a resource)
    (hb : AtGpu b resource) : a = b := by
  obtain ⟨s, hs⟩ := ha
  obtain ⟨t, ht⟩ := hb
  exact (gpuName_separated_inj (hs.symm.trans ht)).1

theorem logicalPathIndex_total {paths : List (List QueueVisit)} (hne : paths ≠ [])
    (hpaths : ∀ path ∈ paths, path ≠ []) : ∃ index, logicalPathIndex paths = .ok index := by
  obtain ⟨best, hbest⟩ := FirstExtremum.exists_maxBy (fun entry => pathKey entry.1)
    (show paths.zipIdx ≠ [] by simpa using hne)
  refine ⟨best.2, ?_⟩
  unfold logicalPathIndex
  rw [if_neg (by simpa [hne] using fun hnil => hpaths [] hnil rfl), hbest]

/-- A path that starts at the launch, ends by a bound and has a semantic owner everywhere. -/
structure PathFacts (entry : ReadyEntry) (bound : Nat) (path : List QueueVisit) : Prop where
  starts : ∃ tail, path = entry.launch :: tail
  within : ∀ visit ∈ path, visit.completedAtPs ≤ bound
  attributable : ∀ visit ∈ path, ∃ field,
    attributionField entry.operation visit.resource.kind = .ok field

theorem PathFacts.mono (facts : PathFacts entry bound path) (h : bound ≤ bound') :
    PathFacts entry bound' path :=
  ⟨facts.starts, fun visit hv => le_trans (facts.within visit hv) h, facts.attributable⟩

theorem PathFacts.append (facts : PathFacts entry bound path) (visits : List QueueVisit)
    (hwithin : ∀ visit ∈ visits, visit.completedAtPs ≤ bound) (hkinds : ∀ visit ∈ visits, ∃ field,
      attributionField entry.operation visit.resource.kind = .ok field) :
    PathFacts entry bound (path ++ visits) := by
  obtain ⟨tail, rfl⟩ := facts.starts
  refine ⟨⟨tail ++ visits, rfl⟩, ?_, ?_⟩
  · exact List.forall_mem_append.mpr ⟨facts.within, hwithin⟩
  · exact List.forall_mem_append.mpr ⟨facts.attributable, hkinds⟩

def WitnessFrom (entry : ReadyEntry) (bound : Nat) (witness : Option CausalWitness) : Prop :=
  ∀ w ∈ witness, w.completedAtPs ≤ bound ∧ ∃ rank, entry.ready.witnesses.get rank = some w

theorem WitnessFrom.mono {witness : Option CausalWitness} (h : WitnessFrom entry bound witness)
    (hle : bound ≤ bound') : WitnessFrom entry bound' witness :=
  fun w hw => ⟨le_trans (h w hw).1 hle, (h w hw).2⟩

theorem WitnessFrom.select {first : Nat × Option CausalWitness}
    {others : List (Nat × Option CausalWitness)}
    (h : ∀ candidate ∈ first :: others, WitnessFrom entry bound candidate.2) :
    WitnessFrom entry bound (selectCausalWitness first others) := by
  obtain ⟨chosen, hmem, heq⟩ := selectCausalWitness_spec first others
  rw [heq]
  exact h chosen hmem

structure EntryFacts (graph : ExecutionGraph) (edges : List EffectiveDependencyEdge)
    (scheduled : List ScheduledOperation) (entry : ReadyEntry) : Prop
    extends ReadyFacts edges scheduled entry where
  known : entry.operation ∈ graph.operations
  owned : OwnedBy graph entry.operation entry.launch
  node : entry.launch.resource = launchResource (nodeOf entry.operation.rank)
  plain : entry.launch.subjectObjectId = none
  released : entry.launch.submittedAtPs = graph.releasedAtPs

inductive VisitSource (entry : ReadyEntry) (wqes : List WqeLifecycleProjection)
    (visit : QueueVisit) : Prop
  | launch (h : visit = entry.launch)
  | resource (rank : Nat) (hrank : rank ∈ operationParticipantRanks entry.operation)
      (place : AtGpu rank visit.resource) (plain : visit.subjectObjectId = none)
      (ready : entry.ready.byRank.get rank ≤ visit.eligibleAtPs)
  | wqe (wqe : WqeLifecycleProjection) (hmem : wqe ∈ wqes) (hvisit : visit ∈ nativeWqeVisits wqe)

structure WqeSource (graph : ExecutionGraph) (entry : ReadyEntry) (wqe : WqeLifecycleProjection) :
    Prop where
  executionId : wqe.executionId = graph.executionId
  operationId : wqe.operationId = entry.operation.operationId
  participant : wqe.sourceRank ∈ operationParticipantRanks entry.operation
  ready : entry.ready.byRank.get wqe.sourceRank ≤ wqe.submittedAtPs

structure OutcomeFacts (graph : ExecutionGraph) (entry : ReadyEntry)
    (outcome : ScheduledOperation) : Prop where
  operation : outcome.operation = entry.operation
  keys : ∀ rank, rank ∈ outcome.participantCompletedAtPs.ranks ↔
    rank ∈ operationParticipantRanks entry.operation
  path_keys : ∀ rank, rank ∈ outcome.participantPaths.ranks ↔
    rank ∈ operationParticipantRanks entry.operation
  witness_keys : ∀ rank, rank ∈ outcome.participantCausalWitnesses.ranks ↔
    rank ∈ operationParticipantRanks entry.operation
  ready_le : ∀ rank ∈ operationParticipantRanks entry.operation,
    entry.ready.byRank.get rank ≤ outcome.participantCompletedAtPs.get rank
  paths : ∀ rank ∈ operationParticipantRanks entry.operation, PathFacts entry
    (outcome.participantCompletedAtPs.get rank) (outcome.participantPaths.get rank)
  witnesses : ∀ rank ∈ operationParticipantRanks entry.operation, WitnessFrom entry
    (outcome.participantCompletedAtPs.get rank) (outcome.participantCausalWitnesses.get rank)
  logical_mem : ∃ rank ∈ operationParticipantRanks entry.operation,
    outcome.participantCompletedAtPs.get rank = outcome.logicalCompletedAtPs
  physical_mem : ∃ rank ∈ operationParticipantRanks entry.operation,
    outcome.participantCompletedAtPs.get rank = outcome.physicalCompletedAtPs
  physical_max : ∀ rank ∈ operationParticipantRanks entry.operation,
    outcome.participantCompletedAtPs.get rank ≤ outcome.physicalCompletedAtPs
  logical_ne : outcome.logicalPaths ≠ []
  logical : ∀ path ∈ outcome.logicalPaths, PathFacts entry outcome.logicalCompletedAtPs path ∧
    ∀ visit ∈ path, visit ∈ outcome.visits
  critical : ∃ witness : Option CausalWitness,
    outcome.criticalPredecessorId = witness.map (·.predecessorId) ∧
    outcome.criticalPredecessorCompletedAtPs = witness.map (·.completedAtPs) ∧
    WitnessFrom entry outcome.logicalCompletedAtPs witness
  launch_mem : entry.launch ∈ outcome.visits
  owned : ∀ visit ∈ outcome.visits, OwnedBy graph entry.operation visit
  sources : ∀ visit ∈ outcome.visits, VisitSource entry outcome.wqes visit
  subjects : outcome.visits.filter (·.subjectObjectId.isSome) =
    outcome.wqes.flatMap nativeWqeVisits
  wqes : ∀ wqe ∈ outcome.wqes, WqeSource graph entry wqe
  extents : (outcome.wqes.map (·.extentIndex)).Nodup

end SimLLM
