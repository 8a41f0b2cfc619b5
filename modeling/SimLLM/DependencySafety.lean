import SimLLM.ReportFacts

namespace SimLLM

open List

variable {κ π σ τ : Type} {cfg : RuntimeConfig κ σ τ} {policy : ArbitrationPolicy π}
  {graph : ExecutionGraph} {edges : List EffectiveDependencyEdge}
  {scheduled prior : List ScheduledOperation} {entry : ReadyEntry} {outcome : ScheduledOperation}

def IsLaunchVisit (visit : QueueVisit) : Prop := visit.resource.kind = .hostLaunchQueue

def PerformedAt (wqes : List WqeLifecycleProjection) (rank : Nat) (visit : QueueVisit) : Prop :=
  match visit.subjectObjectId with
  | none => AtGpu rank visit.resource
  | some _ => ∃ wqe ∈ wqes, visit ∈ nativeWqeVisits wqe ∧ wqe.sourceRank = rank

/-- An edge that the report respects: nothing the target does after its launch, and none of
its completions, comes before the boundary of the predecessor. -/
def RespectsEdge (report : RuntimeReport) (edge : EffectiveDependencyEdge)
    (predecessor target : RuntimeOperationRecord) : Prop :=
  match edge.scope with
  | .wholeOperation =>
    (∀ visit ∈ report.visits, visit.operationId = edge.operationId → ¬ IsLaunchVisit visit →
      predecessor.completedAtPs ≤ visit.eligibleAtPs) ∧
    ∀ participant ∈ target.participantCompletedAtPs,
      predecessor.completedAtPs ≤ participant.2
  | .participantLocal => ∃ rank before after, edge.participantRank = some rank ∧
    (rank, before) ∈ predecessor.participantCompletedAtPs ∧
    (rank, after) ∈ target.participantCompletedAtPs ∧ before ≤ after ∧
    ∀ visit ∈ report.visits, visit.operationId = edge.operationId → ¬ IsLaunchVisit visit →
      PerformedAt report.wqes rank visit → before ≤ visit.eligibleAtPs

variable {visit : QueueVisit}

section

variable (facts : OutcomeFacts graph entry outcome)
  (hentry : EntryFacts graph edges prior entry)
  (hv : visit ∈ outcome.visits)
  (hlaunch : ¬ IsLaunchVisit visit)

include facts hentry hv hlaunch

theorem OutcomeFacts.visit_ready : ∃ rank ∈ operationParticipantRanks entry.operation,
      entry.ready.byRank.get rank ≤ visit.eligibleAtPs := by
  cases facts.sources visit hv with
  | launch h =>
    subst h
    exact absurd (congrArg ResourceRef.kind hentry.node) hlaunch
  | resource rank hrank _ _ hready => exact ⟨rank, hrank, hready⟩
  | wqe wqe hmem hvisit =>
    have hsource := facts.wqes wqe hmem
    have hsubmitted := ((nativeWqeVisits_spec wqe).1 visit hvisit).2.2.2.1
    have heligible := visit.submitted_le_eligible
    refine ⟨wqe.sourceRank, hsource.participant, ?_⟩
    have hready := hsource.ready
    omega

theorem OutcomeFacts.visit_ready_at {rank : Nat} (hat : PerformedAt outcome.wqes rank visit) :
    entry.ready.byRank.get rank ≤ visit.eligibleAtPs := by
  unfold PerformedAt at hat
  cases hsubject : visit.subjectObjectId with
  | none =>
    simp only [hsubject] at hat
    cases facts.sources visit hv with
    | launch h =>
      subst h
      exact absurd (congrArg ResourceRef.kind hentry.node) hlaunch
    | resource own _ hplace _ hready =>
      rw [hat.rank_unique hplace]
      exact hready
    | wqe wqe _ hvisit =>
      have hnamed := ((nativeWqeVisits_spec wqe).1 visit hvisit).2.2.1
      rw [hsubject] at hnamed
      cases hnamed
  | some subject =>
    simp only [hsubject] at hat
    obtain ⟨wqe, hmem, hvisit, rfl⟩ := hat
    have hready := (facts.wqes wqe hmem).ready
    have hsubmitted := ((nativeWqeVisits_spec wqe).1 visit hvisit).2.2.2.1
    have heligible := visit.submitted_le_eligible
    omega

end

theorem RunFacts.owner_eq (run : RunFacts graph edges scheduled) {other : ScheduledOperation}
    (ho : outcome ∈ scheduled) (hother : other ∈ scheduled) (hv : visit ∈ other.visits)
    (hid : visit.operationId = outcome.operation.operationId) : other = outcome := by
  obtain ⟨prior, entry, realized⟩ := run.realized other hother
  have howned := (realized.facts.owned visit hv).2
  rw [← realized.facts.operation] at howned
  exact inj_on_of_nodup_map run.ids_nodup hother ho (howned.symm.trans hid)

theorem RunFacts.performedAt (run : RunFacts graph edges scheduled) (ho : outcome ∈ scheduled)
    (hid : visit.operationId = outcome.operation.operationId) {rank : Nat}
    (h : PerformedAt (scheduled.flatMap (·.wqes)) rank visit) :
    PerformedAt outcome.wqes rank visit := by
  unfold PerformedAt at h ⊢
  cases hsubject : visit.subjectObjectId with
  | none => simpa only [hsubject] using h
  | some subject =>
    simp only [hsubject] at h ⊢
    obtain ⟨wqe, hmem, hvisit, hrank⟩ := h
    obtain ⟨other, hother, hwqe⟩ := mem_flatMap.mp hmem
    obtain ⟨prior, entry, realized⟩ := run.realized other hother
    have hsource := (realized.facts.wqes wqe hwqe).operationId
    have hnamed := ((nativeWqeVisits_spec wqe).1 visit hvisit).2.1
    have hsame : other = outcome := by
      refine inj_on_of_nodup_map run.ids_nodup hother ho ?_
      rw [realized.facts.operation, ← hsource, ← hnamed]
      exact hid
    exact ⟨wqe, hsame ▸ hwqe, hvisit, hrank⟩

section Report

variable {runtime : Runtime σ π} {tags : List (String × List Nat)} {plan : ScheduledGraph τ}
  {required : List String} {report : RuntimeReport} {chain : List RuntimeCriticalSegment}
  {outcomes : List ScheduledOperation}

theorem ReportFacts.visit_mem {wqes : List WqeLifecycleProjection}
    (facts : ReportFacts graph scheduled wqes required report chain outcomes)
    (hv : visit ∈ report.visits) : ∃ outcome ∈ scheduled, visit ∈ outcome.visits := by
  rw [facts.visits] at hv
  obtain ⟨outcome, ho, hv⟩ := mem_flatMap.mp hv
  obtain ⟨operation, -, hlookup⟩ := mapM_mem facts.looked ho
  exact ⟨outcome, mem_of_find?_eq_some (lookupScheduled_eq_ok.mp hlookup), hv⟩

theorem reported_edge (run : ScheduleRun cfg runtime graph tags plan)
    (facts : ReportFacts graph plan.loop.scheduled (plan.loop.scheduled.flatMap (·.wqes)) required
      report chain outcomes) {edge : EffectiveDependencyEdge}
    (hedge : edge ∈ effectiveDependencyEdgesUnchecked graph) :
    ∃ predecessor target, report.operation? edge.predecessorId = some predecessor ∧
      report.operation? edge.operationId = some target ∧
      RespectsEdge report edge predecessor target := by
  obtain ⟨before, hbefore, after, hafter, ends⟩ := effectiveDependencyEdges_facts run.valid hedge
  obtain ⟨predecessor, first, hpredecessor, firstRecord⟩ :=
    reported_operation run.valid facts.records hbefore
  obtain ⟨target, second, htarget, secondRecord⟩ :=
    reported_operation run.valid facts.records hafter
  rw [ends.predecessorId] at hpredecessor
  rw [ends.operationId] at htarget
  refine ⟨predecessor, target, hpredecessor, htarget, ?_⟩
  obtain ⟨outcome, prior, entry, hfound, rfl, realized⟩ := run.outcome hafter
  obtain rfl := Option.some.inj (secondRecord.found.symm.trans hfound)
  have hsecond := mem_of_find?_eq_some hfound
  have hentry := realized.entryFacts
  have hfacts := realized.facts
  -- the boundary the target waited for is the one the report shows
  obtain ⟨source, hsource, hmet⟩ := hentry.met edge (mem_filter.mpr
    ⟨hedge, beq_iff_eq.mpr ends.operationId.symm⟩)
  obtain rfl : first = source := by
    have hlater := scheduled?_of_prior realized.before hsource
    have hfirst := firstRecord.found
    rw [ends.predecessorId] at hfirst
    exact Option.some.inj (hfirst.symm.trans hlater)
  have hown : ∀ visit ∈ report.visits, visit.operationId = edge.operationId →
      visit ∈ second.visits ∧ visit.operationId = second.operation.operationId := by
    intro visit hv hid
    obtain ⟨other, hother, hmem⟩ := facts.visit_mem hv
    rw [← ends.operationId, ← hfacts.operation] at hid
    exact ⟨run.facts.owner_eq hsecond hother hmem hid ▸ hmem, hid⟩
  unfold RespectsEdge
  cases hscope : edge.scope with
  | wholeOperation =>
    simp only [hscope] at hmet ⊢
    rw [firstRecord.completed]
    refine ⟨?_, ?_⟩
    · intro visit hv hid hlaunch
      obtain ⟨rank, hrank, hready⟩ := hfacts.visit_ready hentry (hown visit hv hid).1 hlaunch
      exact le_trans (hmet rank hrank) hready
    · intro participant hparticipant
      rw [secondRecord.participants] at hparticipant
      obtain ⟨rank, hrank, rfl⟩ := mem_map.mp hparticipant
      have hrank := (hfacts.keys rank).mp (mem_sortedSet.mp hrank)
      exact le_trans (hmet rank hrank) (hfacts.ready_le rank hrank)
  | participantLocal =>
    simp only [hscope] at hmet ⊢
    obtain ⟨rank, hrank, hin, hready⟩ := hmet
    have hparticipant := localRank_mem run.valid hedge hafter ends.operationId.symm hrank
    refine ⟨rank, first.participantCompletedAtPs.get rank,
      second.participantCompletedAtPs.get rank, hrank, ?_, ?_, ?_, ?_⟩
    · rw [firstRecord.participants]
      exact mem_map.mpr ⟨rank, mem_sortedSet.mpr hin, rfl⟩
    · rw [secondRecord.participants]
      exact mem_map.mpr ⟨rank, mem_sortedSet.mpr ((hfacts.keys rank).mpr hparticipant), rfl⟩
    · exact le_trans hready (hfacts.ready_le rank hparticipant)
    · intro visit hv hid hlaunch hat
      obtain ⟨hmem, howner⟩ := hown visit hv hid
      rw [facts.wqes_eq] at hat
      have hat := run.facts.performedAt hsecond howner hat
      exact le_trans hready (hfacts.visit_ready_at hentry hmem hlaunch hat)

end Report

/-- Whatever the policy selects, a successful execution respects every effective edge. -/
theorem execute_respects_dependencies {runtime : Runtime σ π}
    {bookkeeper : Option RequestBookkeeper} {result : ExecutionResult}
    (h : (execute cfg policy runtime graph bookkeeper).answer = .ok result) :
    ∃ report edges, (execute cfg policy runtime graph bookkeeper).runtime.lastReport = some report ∧
      effectiveDependencyEdges graph = .ok edges ∧
      ∀ edge ∈ edges, ∃ predecessor target,
        report.operation? edge.predecessorId = some predecessor ∧
        report.operation? edge.operationId = some target ∧
        RespectsEdge report edge predecessor target := by
  obtain ⟨staged, after, hstage, -, -, hruntime⟩ := execute_committed h
  obtain ⟨hschedule, hsummary⟩ := stageExecution_eq_ok hstage
  obtain ⟨tags, run⟩ := scheduleGraph_run hschedule
  obtain ⟨-, -, hreport⟩ := summarize_eq_ok hsummary
  obtain ⟨chain, outcomes, facts⟩ := runtimeReport_facts hreport
  refine ⟨staged.report, effectiveDependencyEdgesUnchecked graph, ?_, ?_, ?_⟩
  · rw [hruntime]
    rfl
  · exact bind_eq_ok.mpr ⟨(), run.validated, rfl⟩
  · exact fun edge hedge => reported_edge run facts hedge

/-- A kernel, a dispatch that waits for it on one rank only, and a notification after both. -/
def dispatchGraph : ExecutionGraph where
  executionId := "step-0"
  stepIndex := 0
  releasedAtPs := 5
  operations := [
    { operationId := "prefill", rank := 0, logicalQueue := "compute"
      work := .compute { kernel := "prefill", nominalDurationPs := some 10 } },
    { operationId := "dispatch", rank := 0, logicalQueue := "nccl"
      participantLocalDependsOn := ["prefill"]
      work := .collective { collective := "all-to-allv", algorithmHint := some "pairwise"
                            ranks := [0, 8], payloadBytes := 64 } },
    { operationId := "notify", rank := 0, logicalQueue := "control", dependsOn := ["dispatch"]
      work := .control { message := "done", destinationRanks := [8], payloadBytes := 8 } }]

theorem dispatchGraph_executes :
    ∃ result, (execute (RuntimeOptions.bypass ({} : RuntimeOptions Unit)) identityArbitrationPolicy
      (.fresh ()) dispatchGraph none).answer = .ok result :=
  exists_of_isOk (by decide +kernel)

theorem dispatchGraph_respects_dependencies :
    ∃ report edges, (execute (RuntimeOptions.bypass ({} : RuntimeOptions Unit))
        identityArbitrationPolicy (.fresh ()) dispatchGraph none).runtime.lastReport =
        some report ∧
      effectiveDependencyEdges dispatchGraph = .ok edges ∧
      ∀ edge ∈ edges, ∃ predecessor target,
        report.operation? edge.predecessorId = some predecessor ∧
        report.operation? edge.operationId = some target ∧
        RespectsEdge report edge predecessor target := by
  obtain ⟨result, h⟩ := dispatchGraph_executes
  exact execute_respects_dependencies h

end SimLLM
