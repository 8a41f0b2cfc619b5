import SimLLM.PlanFacts

namespace SimLLM

open List

variable {κ π σ τ : Type} {cfg : RuntimeConfig κ σ τ} {policy : ArbitrationPolicy π}
  {context : GraphContext} {graph : ExecutionGraph} {edges : List EffectiveDependencyEdge}
  {launched : List Launched} {scheduled prior : List ScheduledOperation} {entry : ReadyEntry}
  {m m' : Machine τ} {id : String}

structure LaunchFacts (graph : ExecutionGraph) (source : Launched) : Prop where
  known : (source.operation, source.index) ∈ graph.operations.zipIdx
  owned : OwnedBy graph source.operation source.launch
  node : source.launch.resource = launchResource (nodeOf source.operation.rank)
  plain : source.launch.subjectObjectId = none
  released : source.launch.submittedAtPs = graph.releasedAtPs

def scheduleLaunch (cfg : RuntimeConfig κ σ τ) (graph : ExecutionGraph)
    (acc : List Launched × RuntimeState) (entry : ExecutionOperation × Nat) :
    Except PyError (List Launched × RuntimeState) := do
  let launch ← QueueVisit.make (launchVisitData cfg graph entry.1 acc.2)
  .ok (acc.1 ++ [⟨entry.1, entry.2, launch⟩],
    acc.2.reserveHost (nodeOf entry.1.rank) launch.finishedAtPs)

theorem scheduleLaunch_eq_ok {acc next : List Launched × RuntimeState}
    {entry : ExecutionOperation × Nat} (h : scheduleLaunch cfg graph acc entry = .ok next) :
    ∃ launch : QueueVisit, launch.toVisitData = launchVisitData cfg graph entry.1 acc.2 ∧
      next = (acc.1 ++ [⟨entry.1, entry.2, launch⟩],
        acc.2.reserveHost (nodeOf entry.1.rank) launch.finishedAtPs) := by
  obtain ⟨launch, hlaunch, h⟩ := of_bind h
  exact ⟨launch, QueueVisit.make_eq_ok.mp hlaunch, (Except.ok.inj h).symm⟩

theorem scheduleLaunches_facts {state state' : RuntimeState}
    (h : scheduleLaunches cfg graph state = .ok (launched, state')) :
    (∀ source ∈ launched, LaunchFacts graph source) ∧
      launched.map (·.operation) = graph.operations := by
  have hdone := foldlM_done (f := scheduleLaunch cfg graph)
    (fun done acc => (∀ source ∈ acc.1, LaunchFacts graph source) ∧
      acc.1.map (·.operation) = done.map Prod.fst) h (by simp) ?_
  · simpa using hdone
  · rintro done entry rest acc next hsplit ⟨hall, hmap⟩ hstep
    obtain ⟨launch, hdata, rfl⟩ := scheduleLaunch_eq_ok hstep
    have hlaunch : LaunchFacts graph ⟨entry.1, entry.2, launch⟩ := by
      refine ⟨by simp [hsplit], ?_, ?_, ?_, ?_⟩ <;> simp [OwnedBy, hdata, launchVisitData]
    exact ⟨forall_mem_concat hall hlaunch, by simp [hmap]⟩

theorem LaunchFacts.mem {source : Launched} (facts : LaunchFacts graph source) :
    source.operation ∈ graph.operations :=
  mem_of_getElem? (mem_zipIdx_iff_getElem?.mp facts.known)

variable {operation : ExecutionOperation}

theorem localRank_mem (valid : GraphFacts graph) {edge : EffectiveDependencyEdge}
    (hedge : edge ∈ effectiveDependencyEdgesUnchecked graph)
    (hmem : operation ∈ graph.operations) (hid : edge.operationId = operation.operationId)
    {rank : Nat} (hrank : edge.participantRank = some rank) :
    rank ∈ operationParticipantRanks operation := by
  obtain ⟨predecessor, -, target, htarget, facts⟩ := effectiveDependencyEdges_facts valid hedge
  have hsame := inj_on_of_nodup_map valid.ids_nodup htarget hmem (facts.operationId.trans hid)
  subst hsame
  rcases facts.scope with ⟨-, hnone⟩ | ⟨shared, -, hshared, hin, -⟩
  · rw [hnone] at hrank
    cases hrank
  · rw [hshared] at hrank
    cases hrank
    exact hin

theorem readyEntry_entryFacts (valid : GraphFacts graph)
    (hedges : edges = effectiveDependencyEdgesUnchecked graph) {source : Launched}
    (facts : LaunchFacts graph source) (h : readyEntry edges scheduled source = .ok entry) :
    EntryFacts graph edges scheduled entry := by
  subst hedges
  have hready := readyEntry_facts (fun edge he hid rank hrank =>
    localRank_mem valid he facts.mem hid hrank) h
  obtain ⟨hoperation, -, hlaunch⟩ := readyEntry_id h
  refine ⟨hready, ?_, ?_, ?_, ?_, ?_⟩
  · rw [hoperation]
    exact facts.mem
  · rw [hoperation, hlaunch]
    exact facts.owned
  · rw [hoperation, hlaunch]
    exact facts.node
  · rw [hlaunch]
    exact facts.plain
  · rw [hlaunch]
    exact facts.released

section Outcome

variable {outcome : ScheduledOperation}

theorem scheduleCollective_facts (valid : GraphFacts graph)
    (facts : EntryFacts graph edges scheduled entry) {work : CollectiveWork}
    (hwork : entry.operation.work = .collective work) {tags : List Nat}
    {plan : Option CollectivePlan} (hplan : ∀ p, plan = some p → PlanFacts p work)
    (h : scheduleCollective cfg graph entry work tags plan m = .ok (outcome, m')) :
    OutcomeFacts graph entry outcome := by
  have hfacts := valid.collective entry.operation facts.known work hwork
  unfold scheduleCollective at h
  cases plan with
  | some p => exact scheduleCollectivePlan_facts facts hwork hfacts (hplan p rfl) h
  | none =>
    dsimp only at h
    split at h
    next => exact scheduleRing_facts facts hwork hfacts h
    next =>
      split at h
      next =>
        cases tags with
        | nil => cases h
        | cons goalTag _ => exact schedulePairwise_facts facts hwork hfacts h
      next => cases h

theorem scheduleNoncompute_facts (valid : GraphFacts context.graph)
    (facts : EntryFacts context.graph edges scheduled entry)
    (h : scheduleNoncompute cfg context entry m = .ok (outcome, m')) :
    OutcomeFacts context.graph entry outcome := by
  unfold scheduleNoncompute at h
  split at h
  next work hwork => exact scheduleDma_facts facts hwork h
  next work hwork =>
    dsimp only at h
    split at h
    next =>
      cases h
      exact scheduleKvMarker_facts facts hwork
    next => exact scheduleKvTraffic_facts facts hwork h
  next work hwork => exact scheduleControl_facts facts hwork h
  next work hwork =>
    obtain ⟨tags, -, h⟩ := of_bind h
    exact scheduleCollective_facts valid facts hwork (fun plan hplan =>
      valid.plans entry.operation facts.known work plan hwork hplan) h
  next => cases h

theorem scheduled?_of_prior (hbefore : prior <+: scheduled)
    (h : scheduled? prior id = some outcome) : scheduled? scheduled id = some outcome := by
  obtain ⟨rest, rfl⟩ := hbefore
  unfold scheduled? at h ⊢
  rw [find?_append, h]
  rfl

theorem scheduled?_mem (h : scheduled? scheduled id = some outcome) :
    outcome ∈ scheduled ∧ outcome.operation.operationId = id :=
  of_find?_key h

theorem isScheduled_iff :
    isScheduled scheduled id ↔ ∃ outcome ∈ scheduled, outcome.operation.operationId = id := by
  simp [isScheduled]

structure Realization (graph : ExecutionGraph) (edges : List EffectiveDependencyEdge)
    (scheduled prior : List ScheduledOperation) (entry : ReadyEntry)
    (outcome : ScheduledOperation) : Prop where
  before : prior <+: scheduled
  fresh : ¬ isScheduled prior entry.id
  entryFacts : EntryFacts graph edges prior entry
  facts : OutcomeFacts graph entry outcome

theorem Realization.extend {rest : List ScheduledOperation}
    (h : Realization graph edges scheduled prior entry outcome) :
    Realization graph edges (scheduled ++ rest) prior entry outcome :=
  ⟨h.before.trans (prefix_append scheduled rest), h.fresh, h.entryFacts, h.facts⟩

end Outcome

structure RunFacts (graph : ExecutionGraph) (edges : List EffectiveDependencyEdge)
    (scheduled : List ScheduledOperation) : Prop where
  ids_nodup : (scheduled.map (·.operation.operationId)).Nodup
  realized : ∀ outcome ∈ scheduled, ∃ prior entry,
    Realization graph edges scheduled prior entry outcome

theorem outcome_ids {granted : List ReadyEntry} {outcomes : List ScheduledOperation}
    (h : List.Forall₂ (OutcomeFacts graph) granted outcomes) :
    outcomes.map (·.operation.operationId) = granted.map (·.id) :=
  h.map_eq_map fun _ _ facts => congrArg (·.operationId) facts.operation

section

variable (valid : GraphFacts context.graph)
  (hedges : edges = effectiveDependencyEdgesUnchecked context.graph)
  (hlaunched : ∀ source ∈ launched, LaunchFacts context.graph source)

include valid hedges hlaunched

theorem Iteration.facts {grant : Grant τ}
    (step : Iteration cfg context edges launched scheduled m grant m') :
    (∀ entry ∈ grant.granted, EntryFacts context.graph edges scheduled entry) ∧
      List.Forall₂ (OutcomeFacts context.graph) grant.granted grant.outcomes := by
  have hentries : ∀ entry ∈ grant.granted, EntryFacts context.graph edges scheduled entry := by
    intro entry he
    obtain ⟨source, hsource, hready⟩ := step.ready entry he
    exact readyEntry_entryFacts valid hedges
      (hlaunched source (mem_filter.mp hsource).1) hready
  refine ⟨hentries, ?_⟩
  rcases step.realized with hgroup | ⟨entry, outcome, hgranted, houtcomes, hone⟩
  · exact scheduleComputeGroup_facts hentries hgroup
  · rw [hgranted, houtcomes]
    refine .cons (scheduleNoncompute_facts valid (hentries entry ?_) hone) .nil
    rw [hgranted]
    exact mem_singleton_self entry

theorem RunFacts.step (inv : RunFacts context.graph edges scheduled) {grant : Grant τ}
    (step : Iteration cfg context edges launched scheduled m grant m') :
    RunFacts context.graph edges (scheduled ++ grant.outcomes) := by
  obtain ⟨hentries, hall⟩ := step.facts valid hedges hlaunched
  have hfresh : ∀ entry ∈ grant.granted, ¬ isScheduled scheduled entry.id := by
    intro entry he
    obtain ⟨source, hsource, hready⟩ := step.ready entry he
    have hnot := (mem_filter.mp hsource).2
    rw [Bool.and_eq_true, Bool.not_eq_true'] at hnot
    have hid : entry.id = source.operation.operationId :=
      congrArg (·.operationId) (readyEntry_id hready).1
    rw [hid, hnot.1]
    simp
  refine ⟨?_, ?_⟩
  · rw [map_append, outcome_ids hall, nodup_append]
    refine ⟨inv.ids_nodup, step.granted_nodup, ?_⟩
    rintro a ha b hb rfl
    obtain ⟨outcome, ho, hoid⟩ := mem_map.mp ha
    obtain ⟨entry, he, heid⟩ := mem_map.mp hb
    exact hfresh entry he (isScheduled_iff.mpr ⟨outcome, ho, hoid.trans heid.symm⟩)
  · intro outcome ho
    rcases mem_append.mp ho with ho | ho
    · obtain ⟨prior, entry, hrealized⟩ := inv.realized outcome ho
      exact ⟨prior, entry, hrealized.extend⟩
    · obtain ⟨entry, he, hfacts⟩ := hall.exists_left ho
      exact ⟨scheduled, entry, prefix_append scheduled _, hfresh entry he,
        hentries entry he, hfacts⟩

theorem Trace.facts {start : Machine τ} {grants : List (Grant τ)}
    (run : Trace cfg context edges launched start grants m) :
    RunFacts context.graph edges (grants.flatMap (·.outcomes)) := by
  induction run with
  | nil => exact ⟨by simp, by simp⟩
  | snoc _ step ih =>
    rw [flatMap_append, flatMap_cons, flatMap_nil, append_nil]
    exact ih.step valid hedges hlaunched step

end

structure ScheduleRun (cfg : RuntimeConfig κ σ τ) (runtime : Runtime σ π)
    (graph : ExecutionGraph) (tags : List (String × List Nat)) (plan : ScheduledGraph τ) :
    Prop where
  validated : validateExecutionGraph graph = .ok ()
  preflighted : preflight cfg runtime.kvLedger graph = .ok plan.pendingKv
  fresh : graph.executionId ∉ runtime.state.executionIds
  begun : cfg.authority.begin runtime.session = .ok plan.start.wqe
  tagged : collectiveGoalTags graph cfg.profile.goalBaseTag = .ok tags
  launches : scheduleLaunches cfg graph runtime.state = .ok (plan.launched, plan.start.state)
  trace : Trace cfg ⟨graph, tags, kvDemandBytes plan.pendingKv⟩
    (effectiveDependencyEdgesUnchecked graph) plan.launched plan.start plan.loop.grants
    plan.loop.machine
  complete : ∀ operation ∈ graph.operations,
    isScheduled plan.loop.scheduled operation.operationId

theorem scheduleGraph_run {runtime : Runtime σ π} {plan : ScheduledGraph τ} {p p' : π}
    (h : scheduleGraph cfg policy runtime graph p = .ok plan p') :
    ∃ tags, ScheduleRun cfg runtime graph tags plan := by
  obtain ⟨_, _, hvalid, h⟩ := EStateM.bind_eq_ok.mp h
  obtain ⟨pending, _, hpreflight, h⟩ := EStateM.bind_eq_ok.mp h
  obtain ⟨_, _, hfresh, h⟩ := EStateM.bind_eq_ok.mp h
  obtain ⟨transaction, _, hbegin, h⟩ := EStateM.bind_eq_ok.mp h
  obtain ⟨_, _, -, h⟩ := EStateM.bind_eq_ok.mp h
  obtain ⟨tags, _, htags, h⟩ := EStateM.bind_eq_ok.mp h
  obtain ⟨edges, _, hedges, h⟩ := EStateM.bind_eq_ok.mp h
  obtain ⟨⟨launched, state⟩, _, hlaunches, h⟩ := EStateM.bind_eq_ok.mp h
  obtain ⟨loop, _, hloop, h⟩ := EStateM.bind_eq_ok.mp h
  cases h
  have hlaunches := (liftExcept_ok hlaunches).1
  obtain ⟨-, hoperations⟩ := scheduleLaunches_facts hlaunches
  have hvalid := (liftExcept_ok hvalid).1
  have hids : (launched.map (·.operation.operationId)).Nodup := by
    have hnodup := (validateExecutionGraph_facts hvalid).ids_nodup
    rwa [← hoperations, map_map] at hnodup
  obtain ⟨-, -, hedges⟩ := of_bind (liftExcept_ok hedges).1
  obtain rfl := Except.ok.inj hedges
  obtain ⟨htrace, hall⟩ := scheduleLoop_trace hids .nil hloop
  have hfresh := (liftExcept_ok hfresh).1
  exact ⟨tags, {
    validated := hvalid
    preflighted := (liftExcept_ok hpreflight).1
    fresh := by simpa using hfresh
    begun := (liftExcept_ok hbegin).1
    tagged := (liftExcept_ok htags).1
    launches := hlaunches
    trace := htrace
    complete := fun operation hmem => by
      rw [← hoperations] at hmem
      obtain ⟨source, hsource, rfl⟩ := mem_map.mp hmem
      exact hall source hsource }⟩

section ScheduleRun

variable {runtime : Runtime σ π} {tags : List (String × List Nat)} {plan : ScheduledGraph τ}
  (run : ScheduleRun cfg runtime graph tags plan)

include run

theorem ScheduleRun.valid : GraphFacts graph :=
  validateExecutionGraph_facts run.validated

theorem ScheduleRun.facts :
    RunFacts graph (effectiveDependencyEdgesUnchecked graph) plan.loop.scheduled :=
  Trace.facts run.valid rfl (scheduleLaunches_facts run.launches).1 run.trace

theorem ScheduleRun.outcome (hmem : operation ∈ graph.operations) : ∃ outcome prior entry,
      scheduled? plan.loop.scheduled operation.operationId = some outcome ∧
      entry.operation = operation ∧ Realization graph (effectiveDependencyEdgesUnchecked graph)
        plan.loop.scheduled prior entry outcome := by
  obtain ⟨outcome, ho, hid⟩ := isScheduled_iff.mp (run.complete operation hmem)
  obtain ⟨prior, entry, hrealized⟩ := run.facts.realized outcome ho
  have hentry := hrealized.facts.operation
  refine ⟨outcome, prior, entry, ?_, ?_, hrealized⟩
  · rw [← hid]
    exact find?_key run.facts.ids_nodup ho
  · refine inj_on_of_nodup_map run.valid.ids_nodup hrealized.entryFacts.known hmem ?_
    rw [← hentry]
    exact hid

end ScheduleRun

end SimLLM
