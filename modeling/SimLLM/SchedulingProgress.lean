import SimLLM.DependencySafety
import SimLLM.StateRules

namespace SimLLM

open List

section Counting

variable {edges : List (String × String)} {ids visited : List String} {waiting : String → Prop}
  {count : TopologicalCount} {source : String} {rest : List String}

/-- The topological count after some visits. No operation of a set in which each waits for another
is ever ready. -/
structure Counting (edges : List (String × String)) (ids visited : List String)
    (waiting : String → Prop) (count : TopologicalCount) : Prop where
  counted : count.visited = visited.length
  nodup : (visited ++ count.ready).Nodup
  known : ∀ id ∈ visited ++ count.ready, id ∈ ids
  indegree : ∀ id, count.indegree id =
    edges.countP fun edge => edge.2 == id && !visited.contains edge.1
  free : ∀ id ∈ visited ++ count.ready, count.indegree id = 0 ∧ ¬ waiting id

theorem countP_visit (edges : List (String × String)) (hsource : source ∉ visited) (id : String) :
    (edges.countP fun edge => edge.2 == id && !visited.contains edge.1) =
      (edges.countP fun edge => edge.2 == id && !(visited ++ [source]).contains edge.1) +
        ((edges.filter (·.1 == source)).map Prod.snd).count id := by
  rw [count_eq_countP, countP_map, countP_filter,
    countP_eq_countP_filter_add _ _ (fun edge => !(edge.1 == source)), countP_filter, countP_filter]
  congr 1
  · refine countP_congr fun edge _ => ?_
    simp [and_assoc]
  · refine countP_congr fun edge _ => ?_
    simp only [Function.comp, Bool.and_eq_true, Bool.not_eq_true', Bool.not_not, beq_iff_eq]
    constructor
    · rintro ⟨⟨hid, -⟩, hsame⟩
      exact ⟨hid, hsame⟩
    · rintro ⟨hid, hsame⟩
      refine ⟨⟨hid, ?_⟩, hsame⟩
      simpa [hsame] using hsource

variable (hclosed : ∀ id, waiting id → ∃ edge ∈ edges, edge.2 = id ∧ waiting edge.1)

include hclosed

theorem not_waiting {id : String} (hfree : ∀ other ∈ visited, ¬ waiting other)
    (hzero : (edges.countP fun edge => edge.2 == id && !visited.contains edge.1) = 0) :
    ¬ waiting id := by
  intro hid
  obtain ⟨edge, hedge, hsame, hsource⟩ := hclosed id hid
  have hopen := countP_eq_zero.mp hzero edge hedge
  have hvisited : edge.1 ∈ visited := by simpa [hsame] using hopen
  exact hfree edge.1 hvisited hsource

variable (hedges : edges.Nodup) (hknown : ∀ edge ∈ edges, edge.2 ∈ ids)

include hedges hknown

theorem Counting.visit (h : Counting edges ids visited waiting count)
    (hready : count.ready = source :: rest) :
    Counting edges ids (visited ++ [source]) waiting (count.visit edges source rest) := by
  have hnodup := h.nodup
  have hfree := h.free
  have hids := h.known
  rw [hready] at hnodup hfree hids
  have hsource : source ∉ visited := fun hmem =>
    (nodup_append.mp hnodup).2.2 source hmem source mem_cons_self rfl
  have hsplit := countP_visit edges hsource
  have hopen : ∀ id, (count.visit edges source rest).indegree id =
      edges.countP fun edge => edge.2 == id && !(visited ++ [source]).contains edge.1 := by
    intro id
    have hbefore := h.indegree id
    have hafter := hsplit id
    show count.indegree id - _ = _
    omega
  have hfresh : ∀ id ∈ ((edges.filter (·.1 == source)).map Prod.snd), 0 < count.indegree id := by
    intro id hid
    have hcount := count_pos_iff.mpr hid
    have hbefore := h.indegree id
    have hafter := hsplit id
    omega
  have hshape : visited ++ [source] ++ (count.visit edges source rest).ready =
      visited ++ source :: rest ++ ((edges.filter (·.1 == source)).map Prod.snd).filter
        ((count.visit edges source rest).indegree · == 0) := by
    simp [TopologicalCount.visit]
  refine ⟨by simp [TopologicalCount.visit, h.counted], ?_, ?_, hopen, ?_⟩
  · rw [hshape, nodup_append]
    refine ⟨hnodup, ((hedges.filter _).map_on ?_).filter _, ?_⟩
    · rintro ⟨a, b⟩ ha ⟨c, d⟩ hc rfl
      simp only [mem_filter, beq_iff_eq] at ha hc
      rw [ha.2, hc.2]
    · rintro a ha b hb rfl
      have hzero := (hfree a ha).1
      have hpos := hfresh a (mem_of_mem_filter hb)
      omega
  · rw [hshape]
    refine forall_mem_append.mpr ⟨hids, fun id hid => ?_⟩
    obtain ⟨edge, hedge, rfl⟩ := mem_map.mp (mem_of_mem_filter hid)
    exact hknown edge (mem_of_mem_filter hedge)
  · rw [hshape]
    refine forall_mem_append.mpr ⟨fun id hid => ⟨?_, (hfree id hid).2⟩, fun id hid => ?_⟩
    · have hzero := (hfree id hid).1
      show count.indegree id - _ = 0
      omega
    · have hzero : (count.visit edges source rest).indegree id = 0 := by
        simpa using (mem_filter.mp hid).2
      refine ⟨hzero, not_waiting hclosed ?_ (hopen id ▸ hzero)⟩
      intro other hother
      refine (hfree other ?_).2
      simp only [mem_append, mem_cons] at hother ⊢
      tauto

theorem Counting.run (h : Counting edges ids visited waiting count) (fuel : Nat) :
    ∃ visited, Counting edges ids visited waiting (topologicalCount edges fuel count) := by
  induction fuel generalizing visited count with
  | zero => exact ⟨visited, h⟩
  | succ fuel ih =>
    unfold topologicalCount
    cases hready : count.ready with
    | nil => exact ⟨visited, h⟩
    | cons source rest => exact ih (h.visit hclosed hedges hknown hready)

/-- A count that reaches every operation leaves no set in which each waits for another. -/
theorem topologicalCount_complete (hids : ids.Nodup) {fuel : Nat}
    (h : (topologicalCount edges fuel ⟨ids.filter fun id => edges.countP (·.2 == id) == 0,
      fun id => edges.countP (·.2 == id), 0⟩).visited = ids.length) :
    ∀ id ∈ ids, ¬ waiting id := by
  have hstart : Counting edges ids [] waiting ⟨ids.filter fun id => edges.countP (·.2 == id) == 0,
      fun id => edges.countP (·.2 == id), 0⟩ := by
    refine ⟨rfl, hids.filter _, fun id hid => mem_of_mem_filter hid, by simp, ?_⟩
    intro id hid
    have hzero : edges.countP (·.2 == id) = 0 := by simpa using (mem_filter.mp hid).2
    have hopen : (edges.countP fun edge => edge.2 == id && !([] : List String).contains edge.1) =
        0 := by simpa using hzero
    exact ⟨hzero, not_waiting hclosed (by simp) hopen⟩
  obtain ⟨visited, hrun⟩ := hstart.run hclosed hedges hknown fuel
  have hperm : visited.Perm ids := by
    refine (subperm_of_subset (nodup_append.mp hrun.nodup).1 fun id hid =>
      hrun.known id (mem_append_left _ hid)).perm_of_length_le ?_
    have hcounted := hrun.counted
    omega
  exact fun id hid => (hrun.free id (mem_append_left _ (hperm.mem_iff.mpr hid))).2

end Counting

variable {κ π σ τ : Type} {cfg : RuntimeConfig κ σ τ} {policy : ArbitrationPolicy π}
  {context : GraphContext} {graph : ExecutionGraph} {edges : List EffectiveDependencyEdge}
  {launched : List Launched} {scheduled : List ScheduledOperation} {source : Launched}

section Valid

variable (hvalid : validateExecutionGraph graph = .ok ())
  (hedges : edges = effectiveDependencyEdgesUnchecked graph)

include hvalid hedges

theorem validateExecutionGraph_acyclic (waiting : String → Prop)
    (hclosed : ∀ id, waiting id → ∃ edge ∈ edges, edge.operationId = id ∧
      waiting edge.predecessorId) :
    ∀ operation ∈ graph.operations, ¬ waiting operation.operationId := by
  subst hedges
  have valid := validateExecutionGraph_facts hvalid
  simp only [validateExecutionGraph, bind_eq_ok] at hvalid
  obtain ⟨-, -, -, -, -, -, -, -, -, -, -, -, hacyclic⟩ := hvalid
  have hcount := require_eq_ok.mp hacyclic
  intro operation hmem
  refine topologicalCount_complete ?_ (nodup_dedup _) ?_ valid.ids_nodup (beq_iff_eq.mp hcount)
    _ (mem_map_of_mem hmem)
  · intro id hid
    obtain ⟨edge, hedge, hsame, hwaits⟩ := hclosed id hid
    exact ⟨(edge.predecessorId, edge.operationId), by simpa using ⟨edge, hedge, rfl, rfl⟩, hsame,
      hwaits⟩
  · intro pair hpair
    obtain ⟨edge, hedge, rfl⟩ := mem_map.mp (mem_dedup.mp hpair)
    obtain ⟨_, -, target, htarget, facts⟩ := effectiveDependencyEdges_facts valid hedge
    exact mem_map.mpr ⟨target, htarget, facts.operationId⟩

theorem readyLaunches_ne_nil (hoperations : launched.map (·.operation) = graph.operations)
    (hsource : source ∈ launched)
    (hleft : ¬ isScheduled scheduled source.operation.operationId) :
    readyLaunches edges launched scheduled ≠ [] := by
  intro hnone
  have hmem : source.operation ∈ graph.operations := hoperations ▸ mem_map_of_mem hsource
  -- were none ready, each operation left would wait for another one left
  refine validateExecutionGraph_acyclic hvalid hedges (fun id =>
    (∃ operation ∈ graph.operations, operation.operationId = id) ∧ ¬ isScheduled scheduled id)
    ?_ source.operation hmem ⟨⟨_, hmem, rfl⟩, hleft⟩
  rintro id ⟨⟨operation, hoperation, rfl⟩, hid⟩
  obtain ⟨other, hother, rfl⟩ := mem_map.mp (hoperations ▸ hoperation)
  have hblocked := filter_eq_nil_iff.mp hnone other hother
  obtain ⟨edge, hedge, hopen⟩ : ∃ edge ∈ incomingEdges edges other.operation.operationId,
      ¬ isScheduled scheduled edge.predecessorId := by
    simpa [hid] using hblocked
  obtain ⟨hedge, htarget⟩ := mem_filter.mp hedge
  obtain ⟨predecessor, hknown, _, -, facts⟩ :=
    effectiveDependencyEdges_facts (validateExecutionGraph_facts hvalid) (hedges ▸ hedge)
  exact ⟨edge, hedge, by simpa using htarget, ⟨predecessor, hknown, facts.predecessorId⟩, hopen⟩

end Valid

theorem logicalCompletionParticipantRank_total {entry : ReadyEntry} {outcome : ScheduledOperation}
    (facts : OutcomeFacts graph entry outcome) :
    ∃ rank, logicalCompletionParticipantRank outcome = .ok rank := by
  obtain ⟨rank, hrank, hlast⟩ := facts.logical_mem
  have hmem : rank ∈ outcome.participantCompletedAtPs.ranks.filter fun rank =>
      outcome.participantCompletedAtPs.get rank == outcome.logicalCompletedAtPs :=
    mem_filter.mpr ⟨(facts.keys rank).mpr hrank, by simpa using hlast⟩
  obtain ⟨best, hbest⟩ := FirstExtremum.exists_maxBy (fun rank => rank) (ne_nil_of_mem hmem)
  refine ⟨best, ?_⟩
  unfold logicalCompletionParticipantRank
  dsimp only
  rw [hbest]

section Run

variable (valid : GraphFacts graph) (hedges : edges = effectiveDependencyEdgesUnchecked graph)
  (run : RunFacts graph edges scheduled)

include valid run

theorem edgeConstraint_total (ranks : List Nat) {edge : EffectiveDependencyEdge}
    (hedge : edge ∈ effectiveDependencyEdgesUnchecked graph) {outcome : ScheduledOperation}
    (houtcome : outcome ∈ scheduled) (hid : outcome.operation.operationId = edge.predecessorId) :
    ∃ constraint, edgeConstraint ranks outcome edge = .ok constraint := by
  obtain ⟨prior, entry, realized⟩ := run.realized outcome houtcome
  obtain ⟨predecessor, hknown, _, -, facts⟩ := effectiveDependencyEdges_facts valid hedge
  have hsame : predecessor = entry.operation := by
    refine inj_on_of_nodup_map valid.ids_nodup hknown realized.entryFacts.known ?_
    rw [← realized.facts.operation, hid, facts.predecessorId]
  unfold edgeConstraint
  rcases facts.scope with ⟨hscope, -⟩ | ⟨rank, hscope, hrank, -, hshared⟩
  · obtain ⟨rank, hrank⟩ := logicalCompletionParticipantRank_total realized.facts
    rw [hscope]
    exact ⟨_, bind_eq_ok.mpr ⟨rank, hrank, rfl⟩⟩
  · rw [hscope, hrank]
    exact ⟨_, if_pos ((realized.facts.keys rank).mpr (hsame ▸ hshared))⟩

include hedges in
theorem readyEntry_total (hready : source ∈ readyLaunches edges launched scheduled) :
    ∃ entry, readyEntry edges scheduled source = .ok entry := by
  have hall := (mem_filter.mp hready).2
  rw [Bool.and_eq_true, all_eq_true] at hall
  have hstep : ∀ acc : ReadinessState, ∀ edge ∈ incomingEdges edges source.operation.operationId,
      True → ∃ next,
        applyEdge (operationParticipantRanks source.operation) scheduled acc edge = .ok next ∧
          True := by
    intro acc edge hedge _
    obtain ⟨outcome, houtcome, hid⟩ := isScheduled_iff.mp (hall.2 edge hedge)
    have hfound : lookupScheduled scheduled edge.predecessorId = .ok outcome :=
      lookupScheduled_eq_ok.mpr (hid ▸ find?_key run.ids_nodup houtcome)
    obtain ⟨constraint, hconstraint⟩ := edgeConstraint_total valid run
      (operationParticipantRanks source.operation) (hedges ▸ (mem_filter.mp hedge).1) houtcome hid
    exact ⟨_, bind_eq_ok.mpr ⟨outcome, hfound, bind_eq_ok.mpr ⟨constraint, hconstraint, rfl⟩⟩,
      trivial⟩
  obtain ⟨state, hstate, -⟩ := Except.foldlM_total (fun _ => True) trivial hstep
  exact ⟨_, bind_eq_ok.mpr ⟨_, bind_eq_ok.mpr ⟨state, hstate, rfl⟩, rfl⟩⟩

omit valid in
theorem RunFacts.perm_of_length_le (hlength : graph.operations.length ≤ scheduled.length) :
    (scheduled.map (·.operation.operationId)).Perm (graph.operations.map (·.operationId)) := by
  refine (subperm_of_subset run.ids_nodup fun id hid => ?_).perm_of_length_le (by simpa using hlength)
  obtain ⟨outcome, houtcome, rfl⟩ := mem_map.mp hid
  obtain ⟨prior, entry, realized⟩ := run.realized outcome houtcome
  rw [realized.facts.operation]
  exact mem_map_of_mem realized.entryFacts.known

theorem RunFacts.complete_iff (hoperations : launched.map (·.operation) = graph.operations) :
    (launched.all fun entry => isScheduled scheduled entry.operation.operationId) = true ↔
      graph.operations.length ≤ scheduled.length := by
  have hids : launched.map (·.operation.operationId) = graph.operations.map (·.operationId) := by
    rw [← hoperations, map_map]
    rfl
  have hiff : ∀ id, isScheduled scheduled id ↔ id ∈ scheduled.map (·.operation.operationId) := by
    intro id
    rw [isScheduled_iff, mem_map]
  simp only [all_eq_true, hiff]
  constructor
  · intro hall
    have hsubset : graph.operations.map (·.operationId) ⊆
        scheduled.map (·.operation.operationId) := by
      rw [← hids]
      exact fun id hid => forall_mem_map.mpr hall id hid
    simpa using (subperm_of_subset valid.ids_nodup hsubset).length_le
  · intro hlength source hsource
    rw [(run.perm_of_length_le hlength).mem_iff, ← hids]
    exact mem_map_of_mem hsource

end Run

/-- What the policy or a resource raised when it was offered operations that were ready. -/
def ServiceFails (cfg : RuntimeConfig κ σ τ) (policy : ArbitrationPolicy π) (context : GraphContext)
    (edges : List EffectiveDependencyEdge) (launched : List Launched) (start : Machine τ)
    (error : PyError) (after : π) : Prop :=
  ∃ grants m entries before, Trace cfg context edges launched start grants m ∧
    (readyLaunches edges launched (grants.flatMap (·.outcomes))).mapM
      (readyEntry edges (grants.flatMap (·.outcomes))) = .ok entries ∧ entries ≠ [] ∧
    (selectReadyOperation policy entries >>= fun selected =>
      grantSelected cfg policy context entries selected m) before = .error error after

section Loop

variable {begin : Machine τ} {loop : LoopState τ} {p : π}
  (hvalid : validateExecutionGraph context.graph = .ok ())
  (hedges : edges = effectiveDependencyEdgesUnchecked context.graph)
  (hlaunched : ∀ source ∈ launched, LaunchFacts context.graph source)
  (hoperations : launched.map (·.operation) = context.graph.operations)
  (run : Trace cfg context edges launched begin loop.grants loop.machine)

include hvalid hedges hlaunched hoperations run

theorem scheduleStep_meets (hleft : loop.scheduled.length < context.graph.operations.length) :
    (scheduleStep cfg policy context edges launched loop p).Meets
      (fun next _ => ∃ grant, next.grants = loop.grants ++ [grant] ∧
        Iteration cfg context edges launched loop.scheduled loop.machine grant next.machine)
      (ServiceFails cfg policy context edges launched begin) := by
  have valid := validateExecutionGraph_facts hvalid
  have facts : RunFacts _ _ loop.scheduled := run.facts valid hedges hlaunched
  have hids : (launched.map (·.operation.operationId)).Nodup := by
    have hnodup := valid.ids_nodup
    rwa [← hoperations, map_map] at hnodup
  refine .of_eq (fun next _ hstep => scheduleStep_iteration hids hstep) fun error after hfail => ?_
  obtain ⟨entries, hentries⟩ : ∃ entries, (readyLaunches edges launched loop.scheduled).mapM
      (readyEntry edges loop.scheduled) = .ok entries :=
    mapM_total fun source hsource => readyEntry_total valid hedges facts hsource
  have hne : entries ≠ [] := by
    rintro rfl
    have hnone := (mapM_eq_ok.mp hentries).length_eq
    have hopen := mt (facts.complete_iff valid hoperations).mp (Nat.not_le.mpr hleft)
    simp only [all_eq_true, not_forall] at hopen
    obtain ⟨source, hsource, hopen⟩ := hopen
    exact readyLaunches_ne_nil hvalid hedges hoperations hsource hopen (length_eq_zero_iff.mp hnone)
  refine ⟨loop.grants, loop.machine, entries, p, run, hentries, hne, ?_⟩
  have hready : (liftExcept (.ok entries) : EStateM PyError π _) p = .ok entries p := rfl
  unfold scheduleStep at hfail
  rw [hentries, bind_of_ok hready, if_neg (by simpa using hne)] at hfail
  cases hselect : selectReadyOperation policy entries p with
  | error raised q =>
    rw [bind_of_error hselect] at hfail ⊢
    cases hfail
    rfl
  | ok selected q =>
    rw [bind_of_ok hselect] at hfail ⊢
    cases hgrant : grantSelected cfg policy context entries selected loop.machine q with
    | error raised q' =>
      rw [bind_of_error hgrant] at hfail
      cases hfail
      rfl
    | ok granted q' =>
      rw [bind_of_ok hgrant] at hfail
      cases hfail

theorem scheduleLoop_meets {fuel : Nat}
    (hfuel : context.graph.operations.length ≤ loop.scheduled.length + fuel) :
    (scheduleLoop cfg policy context edges launched fuel loop p).Meets
      (fun final _ => (final.scheduled.map (·.operation.operationId)).Perm
        (context.graph.operations.map (·.operationId)))
      (ServiceFails cfg policy context edges launched begin) := by
  have valid := validateExecutionGraph_facts hvalid
  induction fuel generalizing loop p with
  | zero =>
    have facts : RunFacts _ _ loop.scheduled := run.facts valid hedges hlaunched
    unfold scheduleLoop
    rw [if_pos ((facts.complete_iff valid hoperations).mpr hfuel)]
    exact facts.perm_of_length_le hfuel
  | succ fuel ih =>
    have facts : RunFacts _ _ loop.scheduled := run.facts valid hedges hlaunched
    unfold scheduleLoop
    split
    next hall => exact facts.perm_of_length_le ((facts.complete_iff valid hoperations).mp hall)
    next hopen =>
      have hleft := Nat.not_le.mp (mt (facts.complete_iff valid hoperations).mpr hopen)
      refine (scheduleStep_meets hvalid hedges hlaunched hoperations run hleft).bind ?_
      rintro next q ⟨grant, hgrants, iteration⟩
      have hscheduled : next.scheduled = loop.scheduled ++ grant.outcomes := by
        simp [LoopState.scheduled, hgrants]
      have hlength := (iteration.facts valid hedges hlaunched).2.length_eq
      have hsome := length_pos_iff.mpr iteration.granted_ne
      refine ih (hgrants ▸ run.snoc iteration) ?_
      rw [hscheduled, length_append]
      omega

end Loop

/-- Whatever the policy and the resources answer, the loop over a validated graph schedules every
operation once, or raises what one of them raised on an operation that was ready. It never runs out
of ready operations, and no readiness assertion fails. -/
theorem scheduling_never_stalls (hvalid : validateExecutionGraph context.graph = .ok ())
    {state after : RuntimeState}
    (hlaunches : scheduleLaunches cfg context.graph state = .ok (launched, after))
    (begin : Machine τ) {fuel : Nat} (hfuel : context.graph.operations.length ≤ fuel) (p : π) :
    let edges := effectiveDependencyEdgesUnchecked context.graph
    (scheduleLoop cfg policy context edges launched fuel ⟨begin, []⟩ p).Meets
      (fun loop _ => (loop.scheduled.map (·.operation.operationId)).Perm
        (context.graph.operations.map (·.operationId)))
      (ServiceFails cfg policy context edges launched begin) := by
  obtain ⟨hlaunched, hoperations⟩ := scheduleLaunches_facts hlaunches
  exact scheduleLoop_meets hvalid rfl hlaunched hoperations .nil (Nat.le_add_left_of_le hfuel)

theorem dispatchGraph_never_stalls : ∃ launched after,
    scheduleLaunches (RuntimeOptions.bypass ({} : RuntimeOptions Unit)) dispatchGraph {} =
      .ok (launched, after) ∧
    ∀ (policy : ArbitrationPolicy Unit) (begin : Machine AtlahsWqeLedger) (p : Unit),
      let cfg := RuntimeOptions.bypass ({} : RuntimeOptions Unit)
      let context : GraphContext := ⟨dispatchGraph, [], fun _ => 0⟩
      let edges := effectiveDependencyEdgesUnchecked dispatchGraph
      (scheduleLoop cfg policy context edges launched 3 ⟨begin, []⟩ p).Meets
        (fun loop _ => (loop.scheduled.map (·.operation.operationId)).Perm
          (dispatchGraph.operations.map (·.operationId)))
        (ServiceFails cfg policy context edges launched begin) := by
  obtain ⟨⟨launched, after⟩, hlaunches⟩ :=
    exists_of_isOk (x := scheduleLaunches (RuntimeOptions.bypass ({} : RuntimeOptions Unit))
      dispatchGraph {}) (by decide +kernel)
  exact ⟨launched, after, hlaunches, fun policy begin p =>
    scheduling_never_stalls (by decide +kernel) hlaunches begin (by decide +kernel) p⟩

end SimLLM
