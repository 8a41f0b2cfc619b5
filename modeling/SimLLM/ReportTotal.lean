import SimLLM.PathAccounting
import SimLLM.ReportFacts

namespace SimLLM

open FirstExtremum

variable {graph : ExecutionGraph} {edges : List EffectiveDependencyEdge}
  {scheduled prior : List ScheduledOperation} {entry : ReadyEntry} {outcome : ScheduledOperation}

theorem released_le_bound {bound : Nat} {path : List QueueVisit}
    (facts : EntryFacts graph edges prior entry) (hpath : PathFacts entry bound path) :
    graph.releasedAtPs ≤ bound := by
  obtain ⟨tail, rfl⟩ := hpath.starts
  have hwithin := hpath.within entry.launch (by simp)
  have hreleased := facts.released
  have h₁ := entry.launch.submitted_le_eligible
  have h₂ := entry.launch.eligible_le_completed
  omega

section

variable (h : Realization graph edges scheduled prior entry outcome)

include h

theorem Realization.boundary_le
    {rank : Nat} (hrank : rank ∈ operationParticipantRanks entry.operation) :
    ((outcome.participantCausalWitnesses.get rank).map (·.completedAtPs)).getD
      graph.releasedAtPs ≤ outcome.participantCompletedAtPs.get rank := by
  cases hwitness : outcome.participantCausalWitnesses.get rank with
  | none => exact released_le_bound h.entryFacts (h.facts.paths rank hrank)
  | some w => exact (h.facts.witnesses rank hrank w (by simp [hwitness])).1

theorem Realization.participantSegment_total {rank : Nat}
    (hrank : rank ∈ operationParticipantRanks entry.operation) :
    ∃ segment, participantSegment graph entry.operation outcome rank = .ok segment := by
  obtain ⟨breakdown, attribution, segment, hbreakdown, hattribution, hmake, -⟩ :=
    segment_total (h.facts.paths rank hrank) (h.boundary_le hrank)
  refine ⟨segment, ?_⟩
  rw [participantSegment, hbreakdown, ok_bind, hattribution, ok_bind]
  exact hmake

theorem Realization.operationSegments_total :
    ∃ segments, operationSegments graph entry.operation outcome = .ok segments := by
  have hpaths := sortedSet_congr fun rank => (h.facts.path_keys rank).trans (h.facts.keys rank).symm
  have hwitnesses :=
    sortedSet_congr fun rank => (h.facts.witness_keys rank).trans (h.facts.keys rank).symm
  have hall :=
    fun rank hrank => h.participantSegment_total ((h.facts.keys rank).mp (mem_sortedSet.mp hrank))
  obtain ⟨segments, hsegments⟩ := mapM_total hall
  refine ⟨segments, ?_⟩
  unfold operationSegments
  dsimp only
  rw [hpaths, hwitnesses, beq_self_eq_true]
  exact hsegments

theorem Realization.additive_total :
    ∃ additive, additivePredecessor scheduled outcome = .ok additive ∧
      (if additive.isSome then outcome.criticalPredecessorCompletedAtPs.getD graph.releasedAtPs
        else graph.releasedAtPs) ≤ outcome.logicalCompletedAtPs := by
  have hreleased : graph.releasedAtPs ≤ outcome.logicalCompletedAtPs := by
    obtain ⟨path, hpath⟩ := List.exists_mem_of_ne_nil _ h.facts.logical_ne
    exact released_le_bound h.entryFacts (h.facts.logical path hpath).1
  obtain ⟨witness, hid, htime, hfrom⟩ := h.facts.critical
  cases witness with
  | none =>
    refine ⟨none, ?_, hreleased⟩
    simp [additivePredecessor, hid, htime]
  | some w =>
    obtain ⟨hbound, rank, hready⟩ := hfrom w (by simp)
    obtain ⟨predecessor, hfound, -, -⟩ := (h.entryFacts.witness rank w hready).2
    have hlookup := lookupScheduled_eq_ok.mpr (scheduled?_of_prior h.before hfound)
    refine ⟨if w.completedAtPs = predecessor.logicalCompletedAtPs then some w.predecessorId
      else none, ?_, ?_⟩
    · simp [additivePredecessor, hid, htime, Option.map_some, hlookup]
    · rw [htime]
      split <;> simpa

theorem Realization.operationRecord_total (segments : List RuntimeCriticalSegment) :
    ∃ record, operationRecord graph scheduled entry.operation outcome segments = .ok record := by
  have hpaths : ∀ path ∈ outcome.logicalPaths, path ≠ [] := by
    intro path hpath
    obtain ⟨tail, htail⟩ := (h.facts.logical path hpath).1.starts
    simp [htail]
  obtain ⟨index, hindex⟩ := logicalPathIndex_total h.facts.logical_ne hpaths
  obtain ⟨path, hpath, hne, -⟩ := logicalPathIndex_spec hindex
  have hfacts := (h.facts.logical path (List.mem_of_getElem? hpath)).1
  obtain ⟨additive, hadditive, hle⟩ := h.additive_total
  obtain ⟨breakdown, hbreakdown, hlatency⟩ := criticalPathBreakdown_total
    entry.operation.operationId hne hle hfacts.within
  obtain ⟨attribution, hattribution, htotal⟩ :=
    criticalPathAttribution_total hle hfacts.within hfacts.attributable
  unfold operationRecord
  simp only [hindex, hadditive, hpath, Option.getD_some, ok_bind, hbreakdown,
    hattribution, hlatency, htotal, beq_self_eq_true, require]
  exact ⟨_, rfl⟩

theorem Realization.reportOperation_total
    (hfound : scheduled? scheduled entry.operation.operationId = some outcome) :
    ∃ record, reportOperation graph scheduled entry.operation = .ok record := by
  obtain ⟨segments, hsegments⟩ := h.operationSegments_total
  obtain ⟨record, hrecord⟩ := h.operationRecord_total segments
  refine ⟨record, ?_⟩
  rw [reportOperation, lookupScheduled_eq_ok.mpr hfound, ok_bind, hsegments,
    ok_bind]
  exact hrecord

end

end SimLLM
