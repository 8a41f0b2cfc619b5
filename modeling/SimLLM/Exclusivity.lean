import SimLLM.DependencySafety
import SimLLM.FailedExecution
import SimLLM.OccupancyRun

namespace SimLLM

open List SerialServer

variable {bookkeeper : Option RequestBookkeeper} {staged : Staged AtlahsWqeLedger}
variable {a b : WqeLifecycleProjection} {grant : Grant AtlahsWqeLedger} {held : List Holding}

variable {κ π σ τ : Type}

/-- A history of calls on one runtime, with the executions that were committed: a refused
call adds nothing, whatever it had staged. -/
inductive Executes (cfg : RuntimeConfig κ σ τ) (policy : ArbitrationPolicy π) :
    Runtime σ π → List (Staged τ) → Runtime σ π → Prop
  | nil (runtime : Runtime σ π) : Executes cfg policy runtime [] runtime
  | refused {runtime final : Runtime σ π} {history : List (Staged τ)} (graph : ExecutionGraph)
      (bookkeeper : Option RequestBookkeeper) {error : PyError}
      (answer : (execute cfg policy runtime graph bookkeeper).answer = .error error)
      (rest : Executes cfg policy (execute cfg policy runtime graph bookkeeper).runtime history
        final) :
      Executes cfg policy runtime history final
  | committed {runtime final : Runtime σ π} {history : List (Staged τ)} (graph : ExecutionGraph)
      (bookkeeper : Option RequestBookkeeper) {result : ExecutionResult} {staged : Staged τ}
      {after : π} (answer : (execute cfg policy runtime graph bookkeeper).answer = .ok result)
      (stage : stageExecution cfg policy runtime graph runtime.policy = .ok staged after)
      (rest : Executes cfg policy (execute cfg policy runtime graph bookkeeper).runtime history
        final) :
      Executes cfg policy runtime (staged :: history) final

theorem Executes.commit {cfg : RuntimeConfig κ σ τ} {policy : ArbitrationPolicy π}
    {runtime final : Runtime σ π} {history : List (Staged τ)} {graph : ExecutionGraph}
    {result : ExecutionResult}
    (answer : (execute cfg policy runtime graph bookkeeper).answer = .ok result)
    (rest : Executes cfg policy (execute cfg policy runtime graph bookkeeper).runtime history
      final) : ∃ staged, Executes cfg policy runtime (staged :: history) final := by
  obtain ⟨staged, after, hstage, -⟩ := execute_committed answer
  exact ⟨staged, .committed graph bookkeeper answer hstage rest⟩

def Runtime.machine (runtime : Runtime AtlahsWqeLedger π) : Machine AtlahsWqeLedger :=
  ⟨runtime.state, runtime.session⟩

variable {options : RuntimeOptions κ} {policy : ArbitrationPolicy π}
  {runtime : Runtime AtlahsWqeLedger π} {graph : ExecutionGraph}

theorem execute_refused_machine {cfg : RuntimeConfig κ AtlahsWqeLedger τ} {error : PyError}
    (h : (execute cfg policy runtime graph bookkeeper).answer = .error error) :
    (execute cfg policy runtime graph bookkeeper).runtime.machine = runtime.machine := by
  rw [(execute_refused h).2]
  rfl

section Permutations

variable {edges : List EffectiveDependencyEdge} {launched : List Launched}
  {context : GraphContext} {start m : Machine AtlahsWqeLedger}
  {grants : List (Grant AtlahsWqeLedger)}

theorem Trace.granted_sources (run : Trace options.bypass context edges launched start grants m) :
    ∀ entry ∈ grants.flatMap (·.granted), ∃ source ∈ launched,
      entry.operation = source.operation ∧ entry.launch = source.launch := by
  induction run with
  | nil => simp
  | @snoc grants before after grant _ step ih =>
    intro entry he
    rw [flatMap_append, mem_append] at he
    rcases he with he | he
    · exact ih entry he
    · obtain ⟨source, hsource, hready⟩ := step.ready entry (by simpa using he)
      obtain ⟨hoperation, -, hlaunch⟩ := readyEntry_id hready
      exact ⟨source, (mem_filter.mp hsource).1, hoperation, hlaunch⟩

theorem Trace.granted_ids (valid : GraphFacts context.graph)
    (hedges : edges = effectiveDependencyEdgesUnchecked context.graph)
    (hlaunched : ∀ source ∈ launched, LaunchFacts context.graph source)
    (run : Trace options.bypass context edges launched start grants m) :
    (grants.flatMap (·.granted)).map (·.id) =
      (grants.flatMap (·.outcomes)).map (·.operation.operationId) := by
  induction run with
  | nil => rfl
  | snoc _ step ih =>
    have hids := outcome_ids (step.facts valid hedges hlaunched).2
    simp [ih, hids]

theorem perm_of_keys {α β : Type} (key : α → β) {l r : List α} (hl : (l.map key).Nodup)
    (hr : (r.map key).Nodup) (hsub : ∀ x ∈ l, x ∈ r) (hkeys : ∀ x ∈ r, key x ∈ l.map key) :
    l.Perm r := by
  refine (perm_ext_iff_of_nodup hl.of_map hr.of_map).mpr fun x => ⟨hsub x, fun hx => ?_⟩
  obtain ⟨y, hy, hkey⟩ := mem_map.mp (hkeys x hx)
  rw [← inj_on_of_nodup_map hr (hsub y hy) hx hkey]
  exact hy

end Permutations

section Run

variable {tags : List (String × List Nat)} {plan : ScheduledGraph AtlahsWqeLedger}
  {required : List String} {report : RuntimeReport} {chain : List RuntimeCriticalSegment}
  {outcomes : List ScheduledOperation}

theorem ScheduleRun.outcomes_perm (run : ScheduleRun options.bypass runtime graph tags plan)
    (hlooked : (graph.operations.mapM fun operation =>
      lookupScheduled plan.loop.scheduled operation.operationId) = .ok outcomes) :
    outcomes.Perm plan.loop.scheduled := by
  have hids : outcomes.map (·.operation.operationId) = graph.operations.map (·.operationId) := by
    refine (mapM_eq_ok.mp hlooked).map_eq_map fun operation outcome hlookup => ?_
    exact (scheduled?_mem (lookupScheduled_eq_ok.mp hlookup)).2
  refine perm_of_keys (fun outcome => outcome.operation.operationId)
    (hids ▸ run.valid.ids_nodup) run.facts.ids_nodup ?_ ?_
  · intro outcome ho
    obtain ⟨operation, -, hlookup⟩ := mapM_mem hlooked ho
    exact (scheduled?_mem (lookupScheduled_eq_ok.mp hlookup)).1
  · intro outcome ho
    obtain ⟨prior, entry, realized⟩ := run.facts.realized outcome ho
    rw [hids, realized.facts.operation]
    exact mem_map_of_mem realized.entryFacts.known

theorem ScheduleRun.launches_perm (run : ScheduleRun options.bypass runtime graph tags plan) :
    ((plan.loop.grants.flatMap (·.granted)).map (·.launch)).Perm
      (plan.launched.map (·.launch)) := by
  obtain ⟨hlaunched, hoperations⟩ := scheduleLaunches_facts run.launches
  have hids := Trace.granted_ids run.valid rfl hlaunched run.trace
  have hsources := run.trace.granted_sources
  have hpairs : ((plan.loop.grants.flatMap (·.granted)).map fun entry =>
      (entry.id, entry.launch)).Perm
      (plan.launched.map fun source => (source.operation.operationId, source.launch)) := by
    refine perm_of_keys Prod.fst ?_ ?_ ?_ ?_
    · rw [map_map]
      exact hids ▸ run.facts.ids_nodup
    · rw [map_map]
      have hnodup := run.valid.ids_nodup
      rwa [← hoperations, map_map] at hnodup
    · intro pair hp
      obtain ⟨entry, he, rfl⟩ := mem_map.mp hp
      obtain ⟨source, hsource, hoperation, hlaunch⟩ := hsources entry he
      refine mem_map.mpr ⟨source, hsource, ?_⟩
      rw [ReadyEntry.id, hoperation, hlaunch]
    · intro pair hp
      obtain ⟨source, hsource, rfl⟩ := mem_map.mp hp
      rw [map_map]
      show source.operation.operationId ∈ (plan.loop.grants.flatMap (·.granted)).map (·.id)
      rw [hids]
      obtain ⟨outcome, ho, hid⟩ :=
        isScheduled_iff.mp (run.complete source.operation (hlaunched source hsource).mem)
      exact mem_map.mpr ⟨outcome, ho, hid⟩
  have hmap := hpairs.map Prod.snd
  rwa [map_map, map_map] at hmap

section

variable (run : ScheduleRun options.bypass runtime graph tags staged.toScheduledGraph)
  (hreport : ReportFacts graph staged.loop.scheduled (staged.loop.scheduled.flatMap (·.wqes))
  required staged.report chain outcomes)

include run hreport

theorem ScheduleRun.visits_perm :
    staged.report.visits.Perm (staged.loop.grants.flatMap Grant.visits) := by
  have hall : staged.loop.scheduled.flatMap (·.visits) =
      staged.loop.grants.flatMap Grant.visits := by
    rw [LoopState.scheduled, flatMap_assoc]
    rfl
  rw [hreport.visits, ← hall]
  exact (run.outcomes_perm hreport.looked).flatMap_right _

theorem ScheduleRun.occupied :
    ∃ holdings served, Occupied runtime.machine holdings staged.loop.machine
        staged.report.visits staged.report.wqes ∧
      List.Forall₂ GrantCovered staged.loop.grants served ∧
      served.flatten.Sublist holdings := by
  obtain ⟨launches, hlaunches⟩ := scheduleLaunches_occupied runtime.session run.launches
  have hkinds : ∀ source ∈ staged.launched, source.launch.resource.kind = .hostLaunchQueue := by
    intro source hsource
    rw [((scheduleLaunches_facts run.launches).1 source hsource).node]
    rfl
  obtain ⟨served, visits, hgrants, hvisits, hcovered⟩ := run.trace.served hkinds
  have hsession := Except.ok.inj run.begun
  rw [hsession] at hlaunches
  have hboth := hlaunches.append hgrants
  refine ⟨_, served, ⟨?_, hboth.sound, ?_, ?_, ?_⟩, hcovered,
    sublist_append_right launches _⟩
  · have hserves := hboth.serves
    rwa [← hsession] at hserves
  · refine .trans ?_ hboth.visits_perm
    refine (run.visits_perm hreport).trans ?_
    exact hvisits.trans (run.launches_perm.append_right _)
  · rw [hreport.wqes_eq]
    exact hboth.sent_perm
  · rw [hreport.wqes_eq]
    exact hboth.received_perm

end

end Run

section History

variable {start final : Runtime AtlahsWqeLedger π} {history : List (Staged AtlahsWqeLedger)}

theorem cursor_commit {after : π} :
    cursor (runtime.commit options.bypass graph staged after).machine =
      cursor staged.loop.machine := by
  funext server
  cases server <;> rfl

theorem Occupied.cursor_eq {m m' m'' : Machine AtlahsWqeLedger} {holdings : List Holding}
    {visits : List QueueVisit} {wqes : List WqeLifecycleProjection}
    (h : Occupied m holdings m' visits wqes) (hcursor : cursor m'' = cursor m') :
    Occupied m holdings m'' visits wqes :=
  { h with serves := hcursor ▸ h.serves }

theorem Executes.occupied (h : Executes options.bypass policy start history final) :
    ∃ holdings served, Occupied start.machine holdings final.machine
        (history.flatMap (·.report.visits)) (history.flatMap (·.report.wqes)) ∧
      List.Forall₂ GrantCovered (history.flatMap (·.loop.grants)) served ∧
      served.flatten.Sublist holdings ∧ ∀ staged ∈ history,
        staged.report.visits.Perm (staged.loop.grants.flatMap Grant.visits) := by
  induction h with
  | nil => exact ⟨[], [], .nil _, .nil, .slnil, by simp⟩
  | refused graph bookkeeper answer _ ih =>
    rwa [execute_refused_machine answer] at ih
  | @committed runtime final history graph bookkeeper result staged after answer stage _ ih =>
    obtain ⟨holdings', served', hrest, hcovered', hsub', hreported⟩ := ih
    obtain ⟨staged', after', hstage, -, -, hruntime⟩ := execute_committed answer
    obtain ⟨rfl, rfl⟩ : staged' = staged ∧ after' = after := by
      rw [stage] at hstage
      cases hstage
      exact ⟨rfl, rfl⟩
    obtain ⟨hschedule, hsummary⟩ := stageExecution_eq_ok hstage
    obtain ⟨tags, run⟩ := scheduleGraph_run hschedule
    obtain ⟨chain, outcomes, hreport⟩ := runtimeReport_facts (summarize_eq_ok hsummary).2.2
    obtain ⟨holdings, served, hoccupied, hcovered, hsub⟩ := run.occupied hreport
    rw [hruntime] at hrest
    refine ⟨holdings ++ holdings', served ++ served', ?_, ?_, ?_,
      forall_mem_cons.mpr ⟨run.visits_perm hreport, hreported⟩⟩
    · exact (hoccupied.cursor_eq cursor_commit).append hrest
    · exact rel_append hcovered hcovered'
    · rw [flatten_append]
      exact hsub.append hsub'

end History

def QueueVisit.Apart (a b : QueueVisit) : Prop :=
  a.finishedAtPs ≤ b.startedAtPs ∨ b.finishedAtPs ≤ a.startedAtPs

def WqeLifecycleProjection.Apart (a b : WqeLifecycleProjection) : Prop :=
  a.finishedAtPs ≤ b.startedAtPs ∨ b.finishedAtPs ≤ a.startedAtPs

def serialKinds : List ResourceKind :=
  [.hostLaunchQueue, .controlQueue, .copyEngine, .ncclChannel, .nvlink, .nic, .nicSendQueue,
    .nicReceiveQueue]

def Grant.computing (grant : Grant τ) (rank : Nat) : List QueueVisit :=
  grant.visits.filter (·.resource == workResource rank)

/-- The visits in which a grant uses the HBM of a GPU: those of the HBM itself and, for a
compute group with HBM demand, those of the GPU. -/
def Grant.usingHbm (grant : Grant τ) (rank : Nat) : List QueueVisit :=
  grant.visits.filter fun visit => visit.resource == hbmResource rank ||
    grant.usesHbm && visit.resource == workResource rank

section Exclusion

variable {first second : Holding}

theorem pairwise_of_length_le_one {α : Type} {R : α → α → Prop} :
    ∀ {l : List α}, l.length ≤ 1 → l.Pairwise R
  | [], _ => .nil
  | [x], _ => pairwise_singleton R x

theorem Holding.Sound.visits_apart (h : first.Sound) : first.label.visits.Pairwise fun a b =>
      a.resource = b.resource → a.resource.kind ∈ serialKinds → a.Apart b := by
  rcases h.alone with hone | ⟨rank, hkey⟩
  · exact pairwise_of_length_le_one hone
  · refine pairwise_of_forall_mem_list fun a ha b _ _ hserial => ?_
    have hhosted := (h.hosted a ha).kind
    exfalso
    rcases hkey with hkey | hkey <;> rw [hkey] at hhosted <;>
      simp only [Server.kinds, mem_singleton] at hhosted <;> rw [hhosted] at hserial <;>
      revert hserial <;> decide

section

variable (h : first.Before second) (hfirst : first.Sound) (hsecond : second.Sound)

include h hfirst hsecond

theorem visits_before {a b : QueueVisit}
    (ha : a ∈ first.label.visits) (hb : b ∈ second.label.visits)
    (hresource : a.resource = b.resource) : a.finishedAtPs ≤ b.startedAtPs := by
  have hhosts := hfirst.hosted a ha
  rw [hresource] at hhosts
  have hbefore := h (Server.hosts_unique hhosts (hsecond.hosted b hb))
  have hfinish := (hfirst.within a ha).2
  have hstart := (hsecond.within b hb).1
  omega

theorem sent_before
    (ha : a ∈ first.label.sent) (hb : b ∈ second.label.sent) (hport : a.rnicId = b.rnicId) :
    a.finishedAtPs ≤ b.startedAtPs := by
  obtain ⟨hname, hkey, -, hfinish⟩ := hfirst.sent a ha
  obtain ⟨hname', hkey', hstart, -⟩ := hsecond.sent b hb
  rw [hname, hname'] at hport
  have hbefore := h (by rw [hkey, hkey', rnicId_inj hport])
  omega

theorem received_before (ha : a ∈ first.label.received) (hb : b ∈ second.label.received)
    (hport : a.ingress.map (·.destinationRnicId) = b.ingress.map (·.destinationRnicId)) :
    a.finishedAtPs ≤ b.startedAtPs := by
  obtain ⟨⟨port, hingress, hname⟩, hkey, -, hfinish⟩ := hfirst.received a ha
  obtain ⟨⟨port', hingress', hname'⟩, hkey', hstart, -⟩ := hsecond.received b hb
  rw [hingress, hingress', Option.map_some, Option.map_some, hname, hname'] at hport
  have hbefore := h (by rw [hkey, hkey', rnicId_inj (Option.some.inj hport)])
  omega

end

theorem GrantCovered.holds_hbm {rank : Nat} {visit : QueueVisit} (h : GrantCovered grant held)
    (hsound : ∀ holding ∈ held, holding.Sound) (hvisit : visit ∈ grant.usingHbm rank) :
    ∃ holding ∈ held, holding.key = .hbm rank ∧ holding.start ≤ visit.startedAtPs ∧
      visit.finishedAtPs ≤ holding.finish := by
  obtain ⟨hmem, huses⟩ := mem_filter.mp hvisit
  rcases Bool.or_eq_true_iff.mp huses with hresource | hgroup
  · have hresource := eq_of_beq hresource
    obtain ⟨holding, hholding, hin⟩ := (h.visits visit hmem).resolve_left
      (by simp [hresource, hbmResource])
    have hhosts := (hsound holding hholding).hosted visit hin
    refine ⟨holding, hholding, ?_, (hsound holding hholding).within visit hin⟩
    exact Server.hosts_unique hhosts (show (Server.hbm rank).Hosts visit.resource from hresource)
  · obtain ⟨hdemand, hresource⟩ := Bool.and_eq_true_iff.mp hgroup
    exact h.memory hdemand visit hmem rank (eq_of_beq hresource)

theorem GrantCovered.before {later : Grant AtlahsWqeLedger} {next : List Holding}
    (h : GrantCovered grant held) (h' : GrantCovered later next)
    (hsound : ∀ holding ∈ held, holding.Sound) (hsound' : ∀ holding ∈ next, holding.Sound)
    (hbefore : ∀ x ∈ held, ∀ y ∈ next, Slot.Before x y) (rank : Nat) :
    (∀ a ∈ grant.computing rank, ∀ b ∈ later.computing rank, a.finishedAtPs ≤ b.startedAtPs) ∧
    ∀ a ∈ grant.usingHbm rank, ∀ b ∈ later.usingHbm rank, a.finishedAtPs ≤ b.startedAtPs := by
  constructor
  · intro a ha b hb
    obtain ⟨ha, hresource⟩ := mem_filter.mp ha
    obtain ⟨hb, hresource'⟩ := mem_filter.mp hb
    have hresource := eq_of_beq hresource
    have hresource' := eq_of_beq hresource'
    obtain ⟨x, hx, hax⟩ := (h.visits a ha).resolve_left (by simp [hresource, workResource])
    obtain ⟨y, hy, hby⟩ := (h'.visits b hb).resolve_left (by simp [hresource', workResource])
    exact visits_before (hbefore x hx y hy) (hsound x hx) (hsound' y hy) hax hby
      (hresource.trans hresource'.symm)
  · intro a ha b hb
    obtain ⟨x, hx, hkey, -, hfinish⟩ := h.holds_hbm hsound ha
    obtain ⟨y, hy, hkey', hstart, -⟩ := h'.holds_hbm hsound' hb
    have hdone := hbefore x hx y hy (hkey.trans hkey'.symm)
    omega

end Exclusion

variable {start final : Runtime AtlahsWqeLedger π} {history : List (Staged AtlahsWqeLedger)}

/-- Over a whole history of executions on one bypass runtime the services of a serial
resource never overlap, and neither do the compute groups of a GPU nor the grants that use
its HBM. -/
theorem serial_resources_exclusive (h : Executes options.bypass policy start history final) :
    ((history.flatMap (·.report.visits)).Pairwise fun a b =>
      a.resource = b.resource → a.resource.kind ∈ serialKinds → a.Apart b) ∧
    ((history.flatMap (·.report.wqes)).Pairwise fun a b => a.rnicId = b.rnicId → a.Apart b) ∧
    ((history.flatMap (·.report.wqes)).Pairwise fun a b => a.ingress.isSome → b.ingress.isSome →
      a.ingress.map (·.destinationRnicId) = b.ingress.map (·.destinationRnicId) → a.Apart b) ∧
    (∀ staged ∈ history, staged.report.visits.Perm (staged.loop.grants.flatMap Grant.visits)) ∧
    (history.flatMap (·.loop.grants)).Pairwise fun grant later => ∀ rank,
      (∀ a ∈ grant.computing rank, ∀ b ∈ later.computing rank, a.Apart b) ∧
      ∀ a ∈ grant.usingHbm rank, ∀ b ∈ later.usingHbm rank, a.Apart b := by
  obtain ⟨holdings, served, hoccupied, hcovered, hsub, hreported⟩ := h.occupied
  have hbefore := hoccupied.serves.pairwise
  have hsound := hoccupied.sound
  refine ⟨?_, ?_, ?_, hreported, ?_⟩
  · refine (hoccupied.visits_perm.pairwise_iff ?_).mpr ?_
    · intro a b hapart hresource hkind
      rw [hresource] at hkind
      exact (hapart hresource.symm hkind).symm
    · refine pairwise_flatMap.mpr ⟨fun x hx => (hsound x hx).visits_apart, ?_⟩
      refine hbefore.imp_of_mem fun {x y} hx hy hxy a ha b hb hresource _ => ?_
      exact .inl (visits_before hxy (hsound x hx) (hsound y hy) ha hb hresource)
  · refine (hoccupied.sent_perm.pairwise_iff ?_).mpr ?_
    · exact fun {a b} hapart hport => (hapart hport.symm).symm
    · refine pairwise_flatMap.mpr
        ⟨fun x hx => pairwise_of_length_le_one (hsound x hx).sent_alone, ?_⟩
      refine hbefore.imp_of_mem fun {x y} hx hy hxy a ha b hb hport => ?_
      exact .inl (sent_before hxy (hsound x hx) (hsound y hy) ha hb hport)
  · have hreceived : ((history.flatMap (·.report.wqes)).filter (·.ingress.isSome)).Pairwise
        fun a b => a.ingress.map (·.destinationRnicId) = b.ingress.map (·.destinationRnicId) →
          a.Apart b := by
      refine (hoccupied.received_perm.pairwise_iff ?_).mpr ?_
      · exact fun {a b} hapart hport => (hapart hport.symm).symm
      · refine pairwise_flatMap.mpr
          ⟨fun x hx => pairwise_of_length_le_one (hsound x hx).received_alone, ?_⟩
        refine hbefore.imp_of_mem fun {x y} hx hy hxy a ha b hb hport => ?_
        exact .inl (received_before hxy (hsound x hx) (hsound y hy) ha hb hport)
    exact (pairwise_filter.mp hreceived).imp fun h ha hb => h ha hb
  · have hordered := pairwise_flatten.mp (hbefore.sublist hsub)
    have hmem := fun held hheld x hx =>
      hsound x (hsub.subset (mem_flatten.mpr ⟨held, hheld, hx⟩))
    have hpairs := hordered.2.imp_of_mem fun {held next} hheld hnext hxy =>
      And.intro (hmem held hheld) (And.intro (hmem next hnext) hxy)
    refine hcovered.pairwise_left hpairs ?_
    rintro grant later held next hgrant hlater ⟨hheld, hnext, hxy⟩ rank
    obtain ⟨hcompute, hmemory⟩ := hgrant.before hlater hheld hnext hxy rank
    exact ⟨fun a ha b hb => .inl (hcompute a ha b hb), fun a ha b hb => .inl (hmemory a ha b hb)⟩

theorem dispatchGraph_executes_again :
    ∃ result, (execute (RuntimeOptions.bypass ({} : RuntimeOptions Unit)) identityArbitrationPolicy
      (execute (RuntimeOptions.bypass ({} : RuntimeOptions Unit)) identityArbitrationPolicy
        (.fresh ()) dispatchGraph none).runtime
      { dispatchGraph with executionId := "step-1" } none).answer = .ok result :=
  exists_of_isOk (by decide +kernel)

theorem dispatchGraph_twice_exclusive :
    ∃ first second final, Executes (RuntimeOptions.bypass ({} : RuntimeOptions Unit))
        identityArbitrationPolicy (.fresh ()) [first, second] final ∧
      (first.report.visits ++ second.report.visits).Pairwise fun a b =>
        a.resource = b.resource → a.resource.kind ∈ serialKinds → a.Apart b := by
  obtain ⟨result, hfirst⟩ := dispatchGraph_executes
  obtain ⟨result', hsecond⟩ := dispatchGraph_executes_again
  obtain ⟨second, hlast⟩ := Executes.commit hsecond (.nil _)
  obtain ⟨first, hboth⟩ := Executes.commit hfirst hlast
  refine ⟨first, second, _, hboth, ?_⟩
  have hexclusive := (serial_resources_exclusive hboth).1
  simpa using hexclusive

end SimLLM
