import SimLLM.BypassTransfer

namespace SimLLM

open List

variable {results : ActionResults} {ids : List String} {extent : CollectivePlanExtent}

variable {κ : Type} {entry : ReadyEntry} {plan : CollectivePlan} {work : CollectiveWork}

def CollectivePlan.awaited (plan : CollectivePlan) (extent : CollectivePlanExtent) : List String :=
  [extent.sendActionId, extent.receiveActionId].flatMap fun actionId =>
    ((plan.action? actionId).map (·.dependsOn)).getD []

def CollectivePlan.DependenciesListedFirst (plan : CollectivePlan) : Prop :=
  ∀ i extent, plan.extents[i]? = some extent →
    ∀ actionId ∈ plan.awaited extent, actionId ∈ usedActionIds (plan.extents.take i)

structure Finished (results : ActionResults) (ids : List String) : Prop where
  known : ∀ id, (results.get? id).isSome ↔ id ∈ ids
  paths : ∀ id result, results.get? id = some result → result.path ≠ []

theorem Finished.empty : Finished {} [] :=
  ⟨by simp [ActionResults.get?], by simp [ActionResults.get?]⟩

theorem ActionResults.get?_set (results : ActionResults) (actionId id : String)
    (result : ActionResult) : (results.set actionId result).get? id =
      if actionId = id then some result else results.get? id := by
  by_cases h : actionId = id
  · simp [ActionResults.set, ActionResults.get?, h]
  · simp [ActionResults.set, ActionResults.get?, h]

theorem Finished.set (h : Finished results ids) (actionId : String) (result : ActionResult)
    (hpath : result.path ≠ []) : Finished (results.set actionId result) (ids ++ [actionId]) := by
  refine ⟨fun id => ?_, fun id found hfound => ?_⟩
  · rw [ActionResults.get?_set, mem_append, mem_singleton]
    by_cases hid : actionId = id
    · simp [hid]
    · rw [if_neg hid, h.known]
      simp [Ne.symm hid]
  · rw [ActionResults.get?_set] at hfound
    by_cases hid : actionId = id
    · rw [if_pos hid] at hfound
      cases hfound
      exact hpath
    · rw [if_neg hid] at hfound
      exact h.paths id found hfound

section keyed

variable {α β ι : Type} {P P' : Prop} {Q : α → Prop} {R : β → Prop}

/-- A computation that returns when `P` holds and is a `KeyError` otherwise. -/
def KeyedBy (P : Prop) (Q : α → Prop) (x : Except PyError α) : Prop :=
  (P → ∃ a, x = .ok a ∧ Q a) ∧ (¬ P → ∃ id, x = .error (keyError "{}" [id]))

theorem KeyedBy.ok {a : α} (h : Q a) : KeyedBy True Q (.ok a) :=
  ⟨fun _ => ⟨a, rfl, h⟩, fun hnot => absurd trivial hnot⟩

theorem KeyedBy.of_iff {x : Except PyError α} (h : KeyedBy P Q x) (hiff : P' ↔ P) :
    KeyedBy P' Q x :=
  propext hiff ▸ h

theorem KeyedBy.bind {x : Except PyError α} {f : α → Except PyError β} (h : KeyedBy P Q x)
    (hf : ∀ a, Q a → KeyedBy P' R (f a)) : KeyedBy (P ∧ P') R (x >>= f) := by
  by_cases hfirst : P
  · obtain ⟨a, rfl, ha⟩ := h.1 hfirst
    simpa [hfirst] using hf a ha
  · obtain ⟨id, rfl⟩ := h.2 hfirst
    exact ⟨fun hboth => absurd hboth.1 hfirst, fun _ => ⟨id, rfl⟩⟩

theorem KeyedBy.mapM {p : ι → Prop} {f : ι → Except PyError α} {l : List ι}
    (h : ∀ i ∈ l, KeyedBy (p i) Q (f i)) : KeyedBy (∀ i ∈ l, p i) (∀ a ∈ ·, Q a) (l.mapM f) := by
  induction l with
  | nil => exact (KeyedBy.ok nofun).of_iff (by simp)
  | cons i l ih =>
    obtain ⟨hi, hl⟩ := forall_mem_cons.mp h
    rw [mapM_cons]
    refine (hi.bind fun a ha => (ih hl).bind fun as has => ?_).of_iff
      (forall_mem_cons.trans (and_congr_right' (and_iff_left trivial).symm))
    exact .ok (forall_mem_cons.mpr ⟨ha, has⟩)

theorem KeyedBy.iff {x : Except PyError α} (h : KeyedBy P Q x) : ((∃ a, x = .ok a) ↔ P) ∧
    ((∃ id, x = .error (keyError "{}" [id])) ↔ ¬ P) := by
  by_cases hp : P
  · obtain ⟨a, rfl, -⟩ := h.1 hp
    simp [hp]
  · obtain ⟨id, rfl⟩ := h.2 hp
    exact ⟨by simp [hp], by simp [hp], fun _ => ⟨id, rfl⟩⟩

end keyed

theorem Finished.lookup (h : Finished results ids) (id : String) :
    KeyedBy (id ∈ ids) (fun result => result.path ≠ []) (results.lookup id) := by
  rw [← h.known]
  unfold ActionResults.lookup
  cases hget : results.get? id with
  | none => exact ⟨nofun, fun _ => ⟨id, rfl⟩⟩
  | some result => exact ⟨fun _ => ⟨result, rfl, h.paths id result hget⟩, fun hnot =>
    absurd rfl hnot⟩

theorem latestResult_path_ne {rank : Nat} {results : List ActionResult}
    (h : ∀ result ∈ results, result.path ≠ []) : (latestResult entry rank results).path ≠ [] := by
  rcases (latestResult_spec entry rank results).1 with heq | hmem
  · rw [heq]
    simp
  · exact h _ hmem

theorem Finished.ready (h : Finished results ids) (entry : ReadyEntry) {actionId : String}
    {action : CollectivePlanAction} (haction : plan.action? actionId = some action) :
    KeyedBy (∀ id ∈ action.dependsOn, id ∈ ids)
      (fun ready => entry.ready.byRank.get action.rank ≤ ready.completedAtPs)
      (actionReady entry plan results actionId) := by
  simp only [actionReady, haction]
  refine ((KeyedBy.mapM fun id _ => h.lookup id).bind fun finished _ => ?_).of_iff
    (and_iff_left trivial).symm
  exact .ok (latestResult_spec entry action.rank finished).2.1

theorem PlanFacts.round_found (planned : PlanFacts plan work) (hextent : extent ∈ plan.extents) :
    ∃ round, plan.rounds.find? (·.roundIndex == extent.roundIndex) = some round := by
  have hlt := (planned.extents extent hextent).1
  have hget := getElem?_eq_getElem hlt
  have hindex := planned.rounds extent.roundIndex _ hget
  rw [← Option.isSome_iff_exists, find?_isSome]
  exact ⟨plan.rounds[extent.roundIndex], getElem_mem hlt, beq_iff_eq.mpr hindex⟩

section

variable (options : RuntimeOptions κ) (graph : ExecutionGraph) (planned : PlanFacts plan work)
  (hlaunch : ∀ rank, entry.launch.completedAtPs ≤ entry.ready.byRank.get rank)

include options graph planned hlaunch

theorem scheduleExtent_ready
    {acc : Expansion AtlahsWqeLedger × ActionResults} (hextent : extent ∈ plan.extents)
    (h : Finished acc.2 ids) (index : Nat) : KeyedBy (∀ id ∈ plan.awaited extent, id ∈ ids)
      (fun next => Finished next.2 (ids ++ [extent.sendActionId, extent.receiveActionId]))
      (scheduleExtent options.bypass graph entry plan acc (extent, index)) := by
  obtain ⟨round, hround⟩ := planned.round_found hextent
  obtain ⟨sender, hsender, -⟩ := planned.sends extent hextent
  obtain ⟨receiver, hreceiver, -⟩ := planned.receives extent hextent
  have hawaited : (∀ id ∈ plan.awaited extent, id ∈ ids) ↔
      (∀ id ∈ sender.dependsOn, id ∈ ids) ∧ (∀ id ∈ receiver.dependsOn, id ∈ ids) ∧ True := by
    simp [CollectivePlan.awaited, hsender, hreceiver, or_imp, forall_and]
  unfold scheduleExtent
  simp only [hround, hawaited]
  refine (h.ready entry hsender).bind fun send hsend =>
    (h.ready entry hreceiver).bind fun receive _ => ?_
  have hready : entry.launch.completedAtPs ≤ send.frontier.readyAtPs :=
    (hlaunch sender.rank).trans hsend
  obtain ⟨hop, machine, hhop⟩ := scheduleHop_total options graph entry.operation
    (planRequest plan round extent index) receive.frontier hready acc.1.machine
  rw [hhop]
  refine .ok ?_
  have hset := fun result hpath =>
    (h.set extent.sendActionId result hpath).set extent.receiveActionId result hpath
  rw [← singleton_append, ← append_assoc]
  exact hset _ (by simp [Hop.visits])

/-- The walk over the remaining extents: it ends with every action finished when each extent
comes after what it waits for, and stops with a `KeyError` otherwise. -/
theorem scheduleExtents_walk
    (acc : Expansion AtlahsWqeLedger × ActionResults) (done rest : List CollectivePlanExtent)
    (hsplit : plan.extents = done ++ rest) (h : Finished acc.2 (usedActionIds done)) :
    KeyedBy (∀ i extent, rest[i]? = some extent →
        ∀ id ∈ plan.awaited extent, id ∈ usedActionIds (done ++ rest.take i))
      (fun final => Finished final.2 (usedActionIds plan.extents))
      ((rest.zipIdx done.length).foldlM (scheduleExtent options.bypass graph entry plan) acc) := by
  induction rest generalizing done acc with
  | nil =>
    rw [append_nil] at hsplit
    exact (KeyedBy.ok (hsplit ▸ h)).of_iff (by simp)
  | cons extent rest ih =>
    have hused : usedActionIds done ++ [extent.sendActionId, extent.receiveActionId] =
        usedActionIds (done ++ [extent]) := by
      simp [usedActionIds]
    have hready := scheduleExtent_ready options graph planned hlaunch
      (by simp [hsplit] : extent ∈ plan.extents) h done.length
    rw [zipIdx_cons, foldlM_cons]
    have hlength : (done ++ [extent]).length = done.length + 1 := length_append
    refine (hready.bind fun next hnext =>
      hlength ▸ ih next (done ++ [extent]) (by simp [hsplit]) (hused ▸ hnext)).of_iff ?_
    -- the extents after this one see it among those already done
    rw [← Nat.and_forall_add_one]
    simp

end

theorem scheduleCollectivePlan_finish (graph : ExecutionGraph) (planned : PlanFacts plan work)
    (hranks : work.ranks ≠ []) (expansion : Expansion AtlahsWqeLedger)
    (h : Finished results (usedActionIds plan.extents)) : ∃ terminals outcome,
      plan.terminalActionIds.mapM (terminalResult entry results) = .ok terminals ∧
      finishCollective graph entry expansion (planProgress terminals)
        (terminals.map (·.2.path)) (terminals.map (·.2.witness)) = .ok outcome := by
  have hterminal : ∀ terminal ∈ plan.terminalActionIds, ∀ id ∈ terminal.2,
      id ∈ usedActionIds plan.extents := by
    intro terminal hterminal id hid
    obtain ⟨action, haction, -⟩ := planned.terminals terminal hterminal id hid
    obtain ⟨hmem, rfl⟩ := of_find?_key haction
    exact planned.paired action hmem
  have hresult : ∀ terminal, KeyedBy ((∀ id ∈ terminal.2, id ∈ usedActionIds plan.extents) ∧ True)
      (fun answer => answer.2.path ≠ []) (terminalResult entry results terminal) := fun terminal =>
    (KeyedBy.mapM fun id _ => h.lookup id).bind fun finished hfinished =>
      .ok (latestResult_path_ne hfinished)
  obtain ⟨terminals, hterminals, hpaths⟩ := (KeyedBy.mapM fun terminal _ => hresult terminal).1
    fun terminal hmem => ⟨hterminal terminal hmem, trivial⟩
  have hkeys : terminals.map Prod.fst = work.ranks := by
    rw [terminalResults_ranks hterminals, planned.terminal_ranks, planned.ranks]
  have hne : terminals.map (·.2.path) ≠ [] := by
    intro hnil
    rw [map_eq_nil_iff] at hnil
    exact hranks (by rw [← hkeys, hnil, map_nil])
  obtain ⟨index, hindex⟩ := logicalPathIndex_total hne (forall_mem_map.mpr hpaths)
  exact ⟨terminals, _, hterminals, bind_eq_ok.mpr ⟨index, hindex, rfl⟩⟩

/-- On the built-in ledger a validated plan completes exactly when its extents are listed
after the extents they depend on; otherwise the walk looks up an action that has not run. -/
theorem validated_plan_completes_iff (options : RuntimeOptions κ) {graph : ExecutionGraph}
    (valid : validateExecutionGraph graph = .ok ()) (hmem : entry.operation ∈ graph.operations)
    (hwork : entry.operation.work = .collective work)
    (hplan : graph.collectivePlans.find? (·.operationId == entry.id) = some plan)
    (hlaunch : ∀ rank, entry.launch.completedAtPs ≤ entry.ready.byRank.get rank)
    (m : Machine AtlahsWqeLedger) :
    ((∃ outcome, scheduleCollectivePlan options.bypass graph entry plan m = .ok outcome) ↔
      plan.DependenciesListedFirst) ∧
    ((∃ id, scheduleCollectivePlan options.bypass graph entry plan m =
      .error (keyError "{}" [id])) ↔ ¬ plan.DependenciesListedFirst) := by
  have facts := validateExecutionGraph_facts valid
  have planned := facts.plans entry.operation hmem work plan hwork hplan
  have hranks := ne_nil_of_mem (facts.collective entry.operation hmem work hwork).anchor
  have hplanned : KeyedBy plan.DependenciesListedFirst (fun _ => True)
      (scheduleCollectivePlan options.bypass graph entry plan m) := by
    refine ((scheduleExtents_walk options graph planned hlaunch (expansionStart entry m, {}) []
      plan.extents rfl Finished.empty).bind fun ⟨expansion, results⟩ hfinished => ?_).of_iff
      (and_iff_left trivial).symm
    obtain ⟨terminals, outcome, hterminals, hfinish⟩ :=
      scheduleCollectivePlan_finish graph planned hranks expansion hfinished
    dsimp only
    rw [hterminals, ok_bind, hfinish]
    exact .ok trivial
  exact hplanned.iff

def CollectivePlan.sealed (plan : CollectivePlan) : CollectivePlan :=
  { plan with integritySha256 := collectivePlanIntegritySha256 plan }

theorem sealed_validates (plan : CollectivePlan) (path : String) :
    validatePlanIntegrity plan.sealed path = .ok () := by
  have hdigest : collectivePlanIntegritySha256 plan.sealed = plan.sealed.integritySha256 :=
    integrity_ignores_digest plan _
  have hhex : isSha256Digest plan.sealed.integritySha256 = true := integrity_isSha256Digest plan
  simp [validatePlanIntegrity, hdigest, hhex, require]

def exchangePlan (extents : List CollectivePlanExtent) : CollectivePlan where
  operationId := "exchange"
  collective := "all-to-allv"
  algorithm := "pairwise"
  channelId := "default"
  rankOrder := [0, 8]
  payloadBytes := 64
  pairPayloadBytes := []
  requestPairPayloadBytes := []
  rounds := [⟨0, 1000, "default"⟩]
  actions := [
    { actionId := "receive-0", rank := 0, kind := .receive, extentId := "request" },
    { actionId := "send-8", rank := 8, kind := .send, extentId := "request" },
    { actionId := "send-0", rank := 0, kind := .send, extentId := "answer"
      dependsOn := ["receive-0"] },
    { actionId := "receive-8", rank := 8, kind := .receive, extentId := "answer" }]
  extents := extents
  entryActionIds := [(0, ["receive-0"]), (8, ["send-8", "receive-8"])]
  terminalActionIds := [(0, ["send-0"]), (8, ["send-8", "receive-8"])]
  integritySha256 := ""

def requestExtent : CollectivePlanExtent where
  extentId := "request"
  roundIndex := 0
  sourceRank := 8
  destinationRank := 0
  payloadBytes := 64
  sendActionId := "send-8"
  receiveActionId := "receive-0"

def answerExtent : CollectivePlanExtent where
  extentId := "answer"
  roundIndex := 0
  sourceRank := 0
  destinationRank := 8
  payloadBytes := 64
  sendActionId := "send-0"
  receiveActionId := "receive-8"

def exchangeWork : CollectiveWork where
  collective := "all-to-allv"
  ranks := [0, 8]
  payloadBytes := 64
  algorithmHint := some "pairwise"

def exchangeOperation : ExecutionOperation where
  operationId := "exchange"
  rank := 0
  logicalQueue := "nccl"
  work := .collective exchangeWork

def exchangeGraph (extents : List CollectivePlanExtent) : ExecutionGraph where
  executionId := "step-0"
  stepIndex := 0
  releasedAtPs := 0
  operations := [exchangeOperation]
  collectivePlans := [(exchangePlan extents).sealed]

def exchangeEntry : ReadyEntry where
  operation := exchangeOperation
  index := 0
  launch :=
    { executionId := "step-0", operationId := "exchange", resource := launchResource 0
      submittedAtPs := 0, eligibleAtPs := 0, startedAtPs := 0, finishedAtPs := 0
      completedAtPs := 0
      submitted_le_eligible := le_refl _, eligible_le_started := le_refl _
      started_le_finished := le_refl _, finished_le_completed := le_refl _ }
  ready := ⟨.const [0, 8] 0, .const [0, 8] none, 0⟩

theorem exchangePlan_valid {extents : List CollectivePlanExtent} {path : String}
    (hpath : path = indexPath "graph.collective_plans" 0)
    (hextents : validatePlanExtents (exchangePlan extents).sealed path = .ok ()) :
    validateCollectivePlan (exchangePlan extents).sealed path exchangeWork = .ok () := by
  subst hpath
  have hsemantics : validatePlanSemantics (exchangePlan []).sealed
      (indexPath "graph.collective_plans" 0) exchangeWork = .ok () := by decide +kernel
  have hrounds : validatePlanRounds (exchangePlan []).sealed
      (indexPath "graph.collective_plans" 0) = .ok () := by decide +kernel
  have hactions : validatePlanActions (exchangePlan []).sealed
      (indexPath "graph.collective_plans" 0) = .ok () := by decide +kernel
  have hboundaries : validatePlanBoundaries (exchangePlan []).sealed
      (indexPath "graph.collective_plans" 0) = .ok () := by decide +kernel
  unfold validateCollectivePlan
  rw [show validatePlanSemantics (exchangePlan extents).sealed _ exchangeWork = .ok () from
      hsemantics, ok_bind,
    show validatePlanRounds (exchangePlan extents).sealed _ = .ok () from hrounds, ok_bind,
    show validatePlanActions (exchangePlan extents).sealed _ = .ok () from hactions,
    ok_bind, hextents, ok_bind,
    show validatePlanBoundaries (exchangePlan extents).sealed _ = .ok () from hboundaries,
    ok_bind]
  exact sealed_validates _ _

theorem validateExecutionGraph_withPlans (graph : ExecutionGraph)
    (hgraph : validateExecutionGraph { graph with collectivePlans := [] } = .ok ())
    (hplans : validateCollectivePlans graph = .ok ()) : validateExecutionGraph graph = .ok () := by
  obtain ⟨_, hid, hgraph⟩ := of_bind hgraph
  obtain ⟨_, hoperations, hgraph⟩ := of_bind hgraph
  obtain ⟨_, hdependencies, hgraph⟩ := of_bind hgraph
  obtain ⟨_, hcompletions, hgraph⟩ := of_bind hgraph
  obtain ⟨_, hunique, hgraph⟩ := of_bind hgraph
  obtain ⟨_, -, hacyclic⟩ := of_bind hgraph
  refine bind_eq_ok.mpr ⟨(), hid, bind_eq_ok.mpr ⟨(), hoperations,
    bind_eq_ok.mpr ⟨(), hdependencies, bind_eq_ok.mpr ⟨(), hcompletions,
    bind_eq_ok.mpr ⟨(), hunique, bind_eq_ok.mpr ⟨(), hplans, hacyclic⟩⟩⟩⟩⟩⟩

theorem exchangeGraph_valid (extents : List CollectivePlanExtent)
    (hextents : validatePlanExtents (exchangePlan extents).sealed
      (indexPath "graph.collective_plans" 0) = .ok ()) :
    validateExecutionGraph (exchangeGraph extents) = .ok () := by
  have hbare : validateExecutionGraph { exchangeGraph [] with collectivePlans := [] } = .ok () := by
    decide +kernel
  have hplan := exchangePlan_valid rfl hextents
  refine validateExecutionGraph_withPlans (exchangeGraph extents) hbare ?_
  unfold validateCollectivePlans
  rw [if_neg (by simp [exchangeGraph])]
  refine bind_eq_ok.mpr ⟨(), rfl, bind_eq_ok.mpr ⟨(), ?_, ?_⟩⟩
  · rw [forEachIdx_eq_ok]
    intro i planned hi
    match i with
    | 0 =>
      cases hi
      exact hplan
    | i + 1 => cases hi
  · exact validateUnique_eq_ok.mpr (nodup_singleton 1000)

/-- Rank 0 answers before it receives: the plan is accepted and its walk is a `KeyError`. -/
theorem answer_first_raises :
    validateExecutionGraph (exchangeGraph [answerExtent, requestExtent]) = .ok () ∧
      (scheduleCollectivePlan (RuntimeOptions.bypass ({} : RuntimeOptions Unit))
        (exchangeGraph [answerExtent, requestExtent]) exchangeEntry
        (exchangePlan [answerExtent, requestExtent]).sealed ⟨{}, {}⟩).map (fun _ => ()) =
        .error (keyError "{}" ["receive-0"]) :=
  ⟨exchangeGraph_valid _ (by decide +kernel), by decide +kernel⟩

theorem request_first_completes :
    ∃ outcome, scheduleCollectivePlan (RuntimeOptions.bypass ({} : RuntimeOptions Unit))
      (exchangeGraph [requestExtent, answerExtent]) exchangeEntry
      (exchangePlan [requestExtent, answerExtent]).sealed ⟨{}, {}⟩ = .ok outcome := by
  have hvalid := exchangeGraph_valid [requestExtent, answerExtent] (by decide +kernel)
  refine (validated_plan_completes_iff {} hvalid (mem_singleton_self exchangeOperation) rfl
    rfl (fun _ => le_refl _) ⟨{}, {}⟩).1.mpr ?_
  intro i extent hi
  match i with
  | 0 | 1 =>
    cases hi
    decide +kernel
  | i + 2 => cases hi

end SimLLM
