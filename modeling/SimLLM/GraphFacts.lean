import SimLLM.Table
import SimLLM.GraphValidation

namespace SimLLM

open List

variable {path : String} {u : Unit} {work : CollectiveWork} {index : Nat} {plan : CollectivePlan}
variable {graph : ExecutionGraph}

theorem validateUnique_eq_ok {α : Type} [DecidableEq α] {values : List α} :
    validateUnique values path = .ok u ↔ values.Nodup := by
  simp [validateUnique]

theorem nodup_of_fresh {α β : Type} {values : List α} {key : α → β}
    (fresh : ∀ i x, values[i]? = some x → ∀ y ∈ values.take i, key y ≠ key x) :
    (values.map key).Nodup := by
  rw [List.Nodup, pairwise_map, pairwise_iff_getElem]
  intro i j hi hj hij
  refine fresh j values[j] (getElem?_eq_getElem hj) values[i] ?_
  exact mem_take_iff_getElem.mpr ⟨i, by omega, rfl⟩

structure CollectiveFacts (operation : ExecutionOperation) (work : CollectiveWork) : Prop where
  anchor : operation.rank ∈ work.ranks
  ranks_nodup : work.ranks.Nodup
  pairs : ∀ pair ∈ work.pairPayloadBytes, pair.source ∈ work.ranks ∧
    pair.destination ∈ work.ranks ∧ pair.source ≠ pair.destination

theorem validateCollectiveWork_facts (h : validateCollectiveWork work path = .ok u) :
    work.ranks.Nodup ∧
      ∀ pair ∈ work.pairPayloadBytes, pair.source ∈ work.ranks ∧
        pair.destination ∈ work.ranks ∧ pair.source ≠ pair.destination := by
  simp only [validateCollectiveWork, validatePairPayloads, validatePairEndpoints,
    bind_eq_ok, require_eq_ok, validateUnique_eq_ok, forEachIdx_eq_ok] at h
  obtain ⟨-, -, -, -, -, hnodup, -, ⟨-, hpairs, -⟩, -⟩ := h
  refine ⟨hnodup, ?_⟩
  intro pair hpair
  obtain ⟨i, hi⟩ := getElem?_of_mem hpair
  obtain ⟨-, -, -, hne, hmem⟩ := hpairs i pair hi
  simp only [bne_iff_ne, Bool.and_eq_true, contains_iff_mem] at hne hmem
  exact ⟨hmem.1, hmem.2, hne⟩

theorem validateOperation_facts {operations : List ExecutionOperation}
    {operation : ExecutionOperation} (h : validateOperation operations index operation = .ok u) :
    (∀ earlier ∈ operations.take index, earlier.operationId ≠ operation.operationId) ∧
      (∀ work, operation.work = .collective work → CollectiveFacts operation work) ∧
      ∀ work, operation.work = .control work → work.destinationRanks.Nodup := by
  simp only [validateOperation, bind_eq_ok, require_eq_ok] at h
  obtain ⟨-, -, -, hfresh, -, -, -, -, -, -, -, -, -, -, _, hwork, hanchor⟩ := h
  refine ⟨?_, ?_, ?_⟩
  · simpa using hfresh
  · intro work hw
    simp only [hw, validateWork, validateAnchor, bind_eq_ok, require_eq_ok] at hwork hanchor
    obtain ⟨hnodup, hpairs⟩ := validateCollectiveWork_facts hwork
    obtain ⟨-, hrank, -⟩ := hanchor
    exact ⟨by simpa using hrank, hnodup, hpairs⟩
  · intro work hw
    simp only [hw, validateWork, validateControlWork, bind_eq_ok,
      validateUnique_eq_ok] at hwork
    obtain ⟨-, -, hnodup⟩ := hwork
    exact hnodup

structure PlanFacts (plan : CollectivePlan) (work : CollectiveWork) : Prop where
  ranks : plan.rankOrder = work.ranks
  rounds : ∀ i (round : CollectivePlanRound), plan.rounds[i]? = some round → round.roundIndex = i
  action_ids : (plan.actions.map (·.actionId)).Nodup
  dependencies : ∀ i action, plan.actions[i]? = some action → ∀ dependency ∈ action.dependsOn,
    ∃ j predecessor, j < i ∧ plan.actionIndex? dependency = some j ∧
      plan.action? dependency = some predecessor ∧ predecessor.rank = action.rank
  extents : ∀ extent ∈ plan.extents, extent.roundIndex < plan.rounds.length ∧
    extent.sourceRank ≠ extent.destinationRank ∧ extent.sourceRank ∈ plan.rankOrder ∧
    extent.destinationRank ∈ plan.rankOrder
  sends : ∀ extent ∈ plan.extents, ∃ action, plan.action? extent.sendActionId = some action ∧
    action.rank = extent.sourceRank
  receives : ∀ extent ∈ plan.extents, ∃ action,
    plan.action? extent.receiveActionId = some action ∧ action.rank = extent.destinationRank
  used_nodup : (usedActionIds plan.extents).Nodup
  paired : ∀ action ∈ plan.actions, action.actionId ∈ usedActionIds plan.extents
  terminal_ranks : plan.terminalActionIds.map Prod.fst = plan.rankOrder
  terminals : ∀ terminal ∈ plan.terminalActionIds, ∀ actionId ∈ terminal.2,
    ∃ action, plan.action? actionId = some action ∧ action.rank = terminal.1

theorem validatePlanDependency_facts {action : CollectivePlanAction} {dependency : String}
    (h : validatePlanDependency plan path index action dependency = .ok u) :
    ∃ j predecessor, j < index ∧ plan.actionIndex? dependency = some j ∧
      plan.action? dependency = some predecessor ∧ predecessor.rank = action.rank := by
  unfold validatePlanDependency at h
  cases hindex : plan.actionIndex? dependency with
  | none => simp [hindex] at h
  | some j =>
    simp only [hindex, bind_eq_ok, require_eq_ok, decide_eq_true_eq, beq_iff_eq,
      Option.map_eq_some_iff] at h
    obtain ⟨-, hj, predecessor, haction, hrank⟩ := h
    exact ⟨j, predecessor, hj, rfl, haction, hrank⟩

theorem validateExtentEndpoint_facts {extentId actionId : String} {kind : CollectivePlanActionKind}
    {rank : Nat} {used : List String}
    (h : validateExtentEndpoint plan path extentId actionId kind rank used = .ok u) :
    (∃ action, plan.action? actionId = some action ∧ action.rank = rank) ∧ actionId ∉ used := by
  obtain ⟨-, -, h⟩ := of_bind h
  cases haction : plan.action? actionId with
  | none => simp [haction] at h
  | some action =>
    simp only [haction, bind_eq_ok, require_eq_ok, Bool.and_eq_true, beq_iff_eq,
      Bool.not_eq_true'] at h
    obtain ⟨-, ⟨-, hrank⟩, -, -, hused⟩ := h
    exact ⟨⟨action, rfl, hrank⟩, by simpa using hused⟩

theorem validatePlanExtent_facts {extent : CollectivePlanExtent}
    (h : validatePlanExtent plan path index extent = .ok u) :
    (extent.roundIndex < plan.rounds.length ∧ extent.sourceRank ≠ extent.destinationRank ∧
      extent.sourceRank ∈ plan.rankOrder ∧ extent.destinationRank ∈ plan.rankOrder) ∧
    (∃ action, plan.action? extent.sendActionId = some action ∧
      action.rank = extent.sourceRank) ∧
    (∃ action, plan.action? extent.receiveActionId = some action ∧
      action.rank = extent.destinationRank) ∧
    extent.sendActionId ∉ usedActionIds (plan.extents.take index) ∧
    extent.receiveActionId ∉ usedActionIds (plan.extents.take index) ∧
    extent.receiveActionId ≠ extent.sendActionId := by
  simp only [validatePlanExtent, bind_eq_ok, require_eq_ok, decide_eq_true_eq,
    bne_iff_ne, Bool.and_eq_true, contains_iff_mem] at h
  obtain ⟨-, -, -, -, -, hround, -, -, -, hne, -, hranks, -, -, _, hsend, _, hreceive, -⟩ := h
  obtain ⟨haction, hfresh⟩ := validateExtentEndpoint_facts hsend
  obtain ⟨haction', hfresh'⟩ := validateExtentEndpoint_facts hreceive
  simp only [mem_append, mem_singleton, not_or] at hfresh'
  exact ⟨⟨hround, hne, hranks.1, hranks.2⟩, haction, haction', hfresh, hfresh'.1, hfresh'.2⟩

theorem usedActionIds_append (first second : List CollectivePlanExtent) :
    usedActionIds (first ++ second) = usedActionIds first ++ usedActionIds second := by
  simp [usedActionIds]

theorem usedActionIds_nodup {extents : List CollectivePlanExtent}
    (fresh : ∀ i extent, extents[i]? = some extent →
      extent.sendActionId ∉ usedActionIds (extents.take i) ∧
      extent.receiveActionId ∉ usedActionIds (extents.take i) ∧
      extent.receiveActionId ≠ extent.sendActionId) : (usedActionIds extents).Nodup := by
  induction extents using List.reverseRecOn with
  | nil => simp [usedActionIds]
  | append_singleton extents last ih =>
    rw [usedActionIds_append, nodup_append]
    have hlast := fresh extents.length last (by simp)
    rw [take_left] at hlast
    refine ⟨ih ?_, ?_, ?_⟩
    · intro i extent hi
      have hlt := (List.getElem?_eq_some_iff.mp hi).1
      have hprior := fresh i extent (by rw [getElem?_append_left hlt]; exact hi)
      rwa [take_append_of_le_length (by omega)] at hprior
    · simp [usedActionIds, Ne.symm hlast.2.2]
    · intro a ha b hb
      simp only [usedActionIds, flatMap_cons, flatMap_nil, append_nil,
        mem_cons, not_mem_nil, or_false] at hb
      rintro rfl
      rcases hb with rfl | rfl
      · exact hlast.1 ha
      · exact hlast.2.1 ha

theorem validateRankActionIds_facts {entries : List (Nat × List String)}
    (h : validateRankActionIds entries path plan = .ok u) :
    entries.map Prod.fst = plan.rankOrder ∧ ∀ entry ∈ entries, ∀ actionId ∈ entry.2,
      ∃ action, plan.action? actionId = some action ∧ action.rank = entry.1 := by
  simp only [validateRankActionIds, bind_eq_ok, require_eq_ok, beq_iff_eq,
    forEachIdx_eq_ok] at h
  obtain ⟨-, hlength, hentries⟩ := h
  constructor
  · apply ext_getElem?
    intro i
    rw [getElem?_map]
    cases hentry : entries[i]? with
    | none =>
      rw [getElem?_eq_none_iff] at hentry
      rw [Option.map_none, eq_comm, getElem?_eq_none_iff]
      omega
    | some entry =>
      obtain ⟨-, hrank, -⟩ := hentries i entry hentry
      rw [hrank]
      rfl
  · intro entry hmem actionId haction
    obtain ⟨i, hi⟩ := getElem?_of_mem hmem
    obtain ⟨j, hj⟩ := getElem?_of_mem haction
    obtain ⟨-, -, -, hactions, -⟩ := hentries i entry hi
    obtain ⟨-, -, hfound⟩ := hactions j actionId hj
    cases hlookup : plan.action? actionId with
    | none => simp [hlookup] at hfound
    | some action => exact ⟨action, rfl, by simpa [hlookup] using hfound⟩

theorem validateCollectivePlan_facts (h : validateCollectivePlan plan path work = .ok u) :
    PlanFacts plan work := by
  simp only [validateCollectivePlan, bind_eq_ok] at h
  obtain ⟨_, hsemantics, _, hrounds, _, hactions, _, hextents, _, hboundaries, -⟩ := h
  simp only [validatePlanSemantics, bind_eq_ok, require_eq_ok, beq_iff_eq] at hsemantics
  obtain ⟨-, -, -, -, -, -, -, -, -, -, -, -, -, -, -, -, -, -, -, hranks, -⟩ := hsemantics
  simp only [validatePlanRounds, bind_eq_ok, require_eq_ok, forEachIdx_eq_ok,
    beq_iff_eq] at hrounds
  obtain ⟨-, -, -, hindices, -⟩ := hrounds
  simp only [validatePlanActions, validatePlanAction, bind_eq_ok, require_eq_ok,
    forEachIdx_eq_ok] at hactions
  obtain ⟨-, hfresh, hdependencies⟩ := hactions
  simp only [validatePlanExtents, bind_eq_ok, require_eq_ok, forEachIdx_eq_ok,
    all_eq_true, contains_iff_mem] at hextents
  obtain ⟨-, hextent, hpaired⟩ := hextents
  simp only [validatePlanBoundaries, bind_eq_ok] at hboundaries
  obtain ⟨_, -, _, hterminals, -⟩ := hboundaries
  obtain ⟨hterminalRanks, hterminalActions⟩ := validateRankActionIds_facts hterminals
  have hextents := fun extent (hmem : extent ∈ plan.extents) =>
    validatePlanExtent_facts (hextent _ extent (getElem?_of_mem hmem).choose_spec)
  exact {
    ranks := hranks
    rounds := fun i round hi => by
      obtain ⟨-, hindex, -⟩ := hindices i round hi
      exact hindex
    action_ids := nodup_of_fresh fun i action hi => by
      obtain ⟨-, -, -, hnew, -⟩ := hfresh i action hi
      simpa using hnew
    dependencies := fun i action hi dependency hd => by
      obtain ⟨j, hj⟩ := getElem?_of_mem hd
      exact validatePlanDependency_facts (hdependencies i action hi j dependency hj)
    extents := fun extent hmem => (hextents extent hmem).1
    sends := fun extent hmem => (hextents extent hmem).2.1
    receives := fun extent hmem => (hextents extent hmem).2.2.1
    used_nodup := usedActionIds_nodup fun i extent hi =>
      (validatePlanExtent_facts (hextent i extent hi)).2.2.2
    paired := hpaired
    terminal_ranks := hterminalRanks
    terminals := hterminalActions }

structure GraphFacts (graph : ExecutionGraph) : Prop where
  ids_nodup : (graph.operations.map (·.operationId)).Nodup
  collective : ∀ operation ∈ graph.operations, ∀ work, operation.work = .collective work →
    CollectiveFacts operation work
  destinations : ∀ operation ∈ graph.operations, ∀ work, operation.work = .control work →
    work.destinationRanks.Nodup
  dependencies : ∀ operation ∈ graph.operations,
    (∀ id ∈ operation.dependsOn, graph.knows id) ∧
      ∀ id ∈ operation.participantLocalDependsOn, graph.knows id
  completions : ∀ id ∈ graph.completionOperationIds, graph.knows id
  plans : ∀ operation ∈ graph.operations, ∀ work plan, operation.work = .collective work →
    graph.collectivePlans.find? (·.operationId == operation.operationId) = some plan →
    PlanFacts plan work

theorem ExecutionGraph.knows_iff {id : String} :
    graph.knows id ↔ ∃ operation ∈ graph.operations, operation.operationId = id := by
  simp [ExecutionGraph.knows]

theorem validateCollectivePlans_facts (hids : (graph.operations.map (·.operationId)).Nodup)
    (h : validateCollectivePlans graph = .ok u) :
    ∀ operation ∈ graph.operations, ∀ work plan, operation.work = .collective work →
      graph.collectivePlans.find? (·.operationId == operation.operationId) = some plan →
      PlanFacts plan work := by
  intro operation hmem work plan hwork hfind
  obtain ⟨hplan, hid⟩ := of_find?_key hfind
  obtain ⟨other, hother, hsame, checked, path, hchecked, hvalid⟩ :=
    validateCollectivePlans_of_mem _ h hplan
  have heq := inj_on_of_nodup_map hids hother hmem (hsame.symm.trans hid)
  rw [heq, hwork] at hchecked
  obtain rfl := WorkPayload.collective.inj hchecked
  exact validateCollectivePlan_facts hvalid

theorem validateExecutionGraph_facts (h : validateExecutionGraph graph = .ok u) :
    GraphFacts graph := by
  simp only [validateExecutionGraph, bind_eq_ok, forEachIdx_eq_ok, validateDependencies, checkKnown,
    require_eq_ok, forall_getElem?_iff] at h
  obtain ⟨-, -, -, hoperations, -, hdependencies, -, hcompletions, -, -, _, hplans, -⟩ := h
  have hids := nodup_of_fresh fun i x hx =>
    (validateOperation_facts (hoperations i x hx)).1
  refine ⟨hids, ?_, ?_, ?_, ?_, validateCollectivePlans_facts hids hplans⟩
  · intro operation hmem
    obtain ⟨i, hi⟩ := getElem?_of_mem hmem
    exact (validateOperation_facts (hoperations i operation hi)).2.1
  · intro operation hmem
    obtain ⟨i, hi⟩ := getElem?_of_mem hmem
    exact (validateOperation_facts (hoperations i operation hi)).2.2
  · intro operation hmem
    obtain ⟨-, hwhole, -, hlocal, -⟩ := hdependencies operation hmem
    exact ⟨hwhole, hlocal⟩
  · intro id hid
    obtain ⟨j, hj⟩ := getElem?_of_mem hid
    obtain ⟨-, -, hknown⟩ := hcompletions j id hj
    exact hknown

/-- An edge joins two operations of the graph; a participant-local one names a rank both
take part in. -/
structure EdgeFacts (edge : EffectiveDependencyEdge) (predecessor operation : ExecutionOperation) :
    Prop where
  predecessorId : predecessor.operationId = edge.predecessorId
  operationId : operation.operationId = edge.operationId
  scope : (edge.scope = .wholeOperation ∧ edge.participantRank = none) ∨
    ∃ rank, edge.scope = .participantLocal ∧ edge.participantRank = some rank ∧
      rank ∈ operationParticipantRanks operation ∧ rank ∈ operationParticipantRanks predecessor

theorem effectiveDependencyEdges_facts (facts : GraphFacts graph) {edge : EffectiveDependencyEdge}
    (h : edge ∈ effectiveDependencyEdgesUnchecked graph) :
    ∃ predecessor ∈ graph.operations, ∃ operation ∈ graph.operations,
      EdgeFacts edge predecessor operation := by
  obtain ⟨⟨operation, index⟩, hentry, hedge⟩ := mem_flatMap.mp h
  have hmem := mem_of_getElem? (mem_zipIdx_iff_getElem?.mp hentry)
  obtain ⟨hwhole, -⟩ := facts.dependencies operation hmem
  simp only [operationEdges, mem_append, mem_map, mem_flatMap,
    Option.mem_toList, Option.map_eq_some_iff] at hedge
  rcases hedge with (⟨id, hid, rfl⟩ | ⟨id, hid, hlocal⟩) | ⟨previous, htail, rfl⟩
  · obtain ⟨predecessor, hpred, hpid⟩ := ExecutionGraph.knows_iff.mp (hwhole id hid)
    exact ⟨predecessor, hpred, operation, hmem, hpid, rfl, .inl ⟨rfl, rfl⟩⟩
  · unfold localEdges at hlocal
    cases hfind : graph.operation? id with
    | none => simp [hfind] at hlocal
    | some predecessor =>
      simp only [hfind, mem_map, sharedRanks, mem_filter, contains_iff_mem] at hlocal
      obtain ⟨rank, ⟨hrank, hrank'⟩, rfl⟩ := hlocal
      obtain ⟨hpred, hpid⟩ := of_find?_key hfind
      exact ⟨predecessor, hpred, operation, hmem, hpid, rfl,
        .inr ⟨rank, rfl, rfl, hrank, hrank'⟩⟩
  · have hlast := mem_of_mem_getLast? (Option.mem_def.mpr htail)
    exact ⟨previous, mem_of_mem_take (mem_of_mem_filter hlast), operation, hmem, rfl,
      rfl, .inl ⟨rfl, rfl⟩⟩

end SimLLM
