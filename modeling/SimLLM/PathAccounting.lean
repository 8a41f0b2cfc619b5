import SimLLM.OutcomeFacts

namespace SimLLM

variable {operation : ExecutionOperation} {bound cursor started completed : Nat}
variable {path : List QueueVisit}

theorem visitQueue_add_visitService (cursor : Nat) (visit : QueueVisit) :
    cursor + (visitQueue cursor visit + visitService cursor visit) =
      max cursor visit.completedAtPs := by
  have h₁ := visit.eligible_le_started
  have h₂ := visit.started_le_finished
  have h₃ := visit.finished_le_completed
  unfold visitQueue visitService
  omega

theorem attributePath_total (hwithin : ∀ visit ∈ path, visit.completedAtPs ≤ bound)
    (hkinds : ∀ visit ∈ path, ∃ field,
      attributionField operation visit.resource.kind = .ok field) (hcursor : cursor ≤ bound) :
    ∃ attribution last, attributePath operation cursor path = .ok (attribution, last) ∧
      cursor + attribution.totalPs = last ∧ last ≤ bound := by
  induction path generalizing cursor with
  | nil => exact ⟨{}, cursor, rfl, rfl, hcursor⟩
  | cons visit path ih =>
    have hvisit := hwithin visit (by simp)
    obtain ⟨field, hfield⟩ := hkinds visit (by simp)
    obtain ⟨rest, last, hrest, htotal, hlast⟩ := ih
      (fun v hv => hwithin v (List.mem_cons_of_mem visit hv))
      (fun v hv => hkinds v (List.mem_cons_of_mem visit hv)) (max_le hcursor hvisit)
    refine ⟨{ queuePs := visitQueue cursor visit } +
      field.charge (visitService cursor visit) + rest, last, ?_, ?_, hlast⟩
    · unfold attributePath
      rw [hfield, ok_bind, hrest, ok_bind]
    · have hstep := visitQueue_add_visitService cursor visit
      rw [LatencyAttribution.add_totalPs, LatencyAttribution.add_totalPs,
        AttributionField.charge_totalPs]
      simp only [LatencyAttribution.totalPs] at htotal ⊢
      omega

theorem criticalPathAttribution_total (hle : started ≤ completed)
    (hwithin : ∀ visit ∈ path, visit.completedAtPs ≤ completed) (hkinds : ∀ visit ∈ path, ∃ field,
      attributionField operation visit.resource.kind = .ok field) :
    ∃ attribution, criticalPathAttribution operation path started completed = .ok attribution ∧
      attribution.totalPs = completed - started := by
  obtain ⟨attribution, last, hpath, htotal, hlast⟩ := attributePath_total hwithin hkinds hle
  refine ⟨attribution + { queuePs := completed - last }, ?_, ?_⟩
  · rw [criticalPathAttribution, hpath, ok_bind]
  · rw [LatencyAttribution.add_totalPs]
    simp only [LatencyAttribution.totalPs] at htotal ⊢
    omega

theorem devicePath_le (hwithin : ∀ visit ∈ path, visit.completedAtPs ≤ bound)
    (hcursor : cursor ≤ bound) :
    cursor + ((devicePath cursor path).queuePs + (devicePath cursor path).servicePs +
      (devicePath cursor path).deliveryPs) ≤ bound := by
  induction path generalizing cursor with
  | nil => simpa [devicePath] using hcursor
  | cons visit path ih =>
    have hvisit := hwithin visit (by simp)
    have hrest := ih (fun v hv => hwithin v (List.mem_cons_of_mem visit hv))
      (max_le hcursor hvisit)
    have h₂ := visit.started_le_finished
    have h₃ := visit.finished_le_completed
    simp only [devicePath]
    omega

theorem criticalPathBreakdown_total (operationId : String) (hne : path ≠ [])
    (hle : started ≤ completed) (hwithin : ∀ visit ∈ path, visit.completedAtPs ≤ completed) :
    ∃ breakdown, criticalPathBreakdown operationId path started completed = .ok breakdown ∧
      breakdown.operationLatencyPs = completed - started := by
  cases path with
  | nil => exact absurd rfl hne
  | cons launch path =>
    have hlaunch := hwithin launch (by simp)
    have hdevice := devicePath_le (fun v hv => hwithin v (List.mem_cons_of_mem launch hv))
      (max_le hle hlaunch)
    have hvisit := visitQueue_add_visitService started launch
    unfold criticalPathBreakdown
    dsimp only
    split
    next => exact ⟨_, rfl, rfl⟩
    next hover =>
      exfalso
      apply hover
      unfold visitQueue at hvisit
      omega

theorem segment_total {entry : ReadyEntry} {operationId : String} {rank : Nat}
    {predecessor : Option (String × Nat)} (facts : PathFacts entry completed path)
    (hle : started ≤ completed) : ∃ breakdown attribution segment,
      criticalPathBreakdown operationId path started completed = .ok breakdown ∧
      criticalPathAttribution entry.operation path started completed = .ok attribution ∧
      RuntimeCriticalSegment.make operationId rank started completed predecessor breakdown
        attribution = .ok segment ∧
      segment.key = (operationId, rank) ∧ segment.predecessor = predecessor ∧
      segment.startedAtPs = started ∧ segment.completedAtPs = completed := by
  have hne : path ≠ [] := by
    obtain ⟨tail, rfl⟩ := facts.starts
    simp
  obtain ⟨breakdown, hbreakdown, hlatency⟩ :=
    criticalPathBreakdown_total operationId hne hle facts.within
  obtain ⟨attribution, hattribution, htotal⟩ :=
    criticalPathAttribution_total hle facts.within facts.attributable
  refine ⟨breakdown, attribution, ⟨operationId, rank, started, completed, predecessor, breakdown,
    attribution, hle, hlatency, htotal⟩, hbreakdown, hattribution, ?_, rfl, rfl, rfl, rfl⟩
  rw [RuntimeCriticalSegment.make, dif_pos hle, dif_pos hlatency, dif_pos htotal]

end SimLLM
