import SimLLM.Occupancy

namespace SimLLM

open List SerialServer

variable {expansion : Expansion AtlahsWqeLedger} {context : GraphContext}
variable {rank started finished : Nat} {gpus : List QueueVisit} {grant : Grant AtlahsWqeLedger}
variable {edges : List EffectiveDependencyEdge} {launched : List Launched}

variable {κ : Type} {options : RuntimeOptions κ} {graph : ExecutionGraph} {entry : ReadyEntry}
  {m m' : Machine AtlahsWqeLedger}

def Realizes (entry : ReadyEntry) (m : Machine AtlahsWqeLedger) (outcome : ScheduledOperation)
    (m' : Machine AtlahsWqeLedger) : Prop :=
  ∃ holdings visits, outcome.visits = entry.launch :: visits ∧
    Occupied m holdings m' visits outcome.wqes

theorem scheduleKvMarker_realizes (entry : ReadyEntry) (m : Machine AtlahsWqeLedger) :
    Realizes entry m (scheduleKvMarker entry) m :=
  ⟨[], [], rfl, .nil m⟩

variable {outcome : ScheduledOperation}

theorem scheduleKvTraffic_realizes {demandBytes : Nat}
    (h : scheduleKvTraffic options.bypass graph entry demandBytes m = .ok (outcome, m')) :
    Realizes entry m outcome m' := by
  obtain ⟨visit, hdata, rfl, rfl⟩ := scheduleKvTraffic_eq_ok h
  refine ⟨_, [visit], rfl, Occupied.visit (.hbm entry.operation.rank) ?_ ?_ ?_⟩
  · rw [hdata]
    rfl
  · rw [hdata]
    exact le_max_right _ _
  · funext key
    cases key <;> simp [cursor, RuntimeState.reserveHbm, Function.update_apply, updateKey]

theorem scheduleDma_realizes {work : DmaWork} (hwork : entry.operation.work = .dma work)
    (h : scheduleDma options.bypass graph entry work m = .ok (outcome, m')) :
    Realizes entry m outcome m' := by
  obtain ⟨choice, copy, hbm, ranks, run⟩ := scheduleDma_run hwork h
  have hstart := run.started
  have hfinish : hbm.finishedAtPs = copy.finishedAtPs := by rw [run.copy_data, run.hbm_data]; rfl
  -- The copy engine is held first; the memory is free as the copy leaves its cursor alone.
  let middle : RuntimeState := { m.state with
    copyAvailable := updateKey m.state.copyAvailable (entry.operation.rank, choice.engineId)
      copy.finishedAtPs }
  obtain ⟨engine, hcopy⟩ : ∃ holdings, Occupied m holdings ⟨middle, m.wqe⟩ [copy] [] := by
    refine ⟨_, .visit (.copy entry.operation.rank choice.engineId) ?_ ?_ ?_⟩
    · rw [run.copy_data]
      rfl
    · show m.state.copyAvailable (entry.operation.rank, choice.engineId) ≤ copy.startedAtPs
      rw [run.copy_data]
      show _ ≤ choice.startedAtPs
      omega
    · funext key
      cases key <;> simp [cursor, middle, Function.update_apply, updateKey]
  obtain ⟨memory, hhbm⟩ : ∃ holdings, Occupied ⟨middle, m.wqe⟩ holdings m' [hbm] [] := by
    refine ⟨_, .visit (.hbm entry.operation.rank) ?_ ?_ ?_⟩
    · rw [run.hbm_data]
      rfl
    · show m.state.hbmAvailable entry.operation.rank ≤ hbm.startedAtPs
      rw [run.hbm_data]
      show _ ≤ choice.startedAtPs
      omega
    · rw [run.machine_eq, hfinish]
      funext key
      cases key <;>
        simp [cursor, middle, RuntimeState.reserveCopy, Function.update_apply, updateKey]
  rw [run.outcome_eq]
  exact ⟨_, [copy, hbm], rfl, hcopy.append hhbm⟩

def FanOccupied (entry : ReadyEntry) (m : Machine AtlahsWqeLedger) (fan : FanOut AtlahsWqeLedger) :
    Prop :=
  ∃ holdings visits, fan.visits = entry.launch :: visits ∧
    Occupied m holdings fan.machine visits fan.wqes

variable {work : ControlWork}

theorem deliverControl_occupied {control : QueueVisit} {fan next : FanOut AtlahsWqeLedger}
    {destination : Nat × Nat} (inv : FanOccupied entry m fan)
    (h : deliverControl options.bypass graph entry work control fan destination = .ok next) :
    FanOccupied entry m next := by
  rcases deliverControl_cases h with rfl | ⟨_, send, hsend, hsent, hwqes⟩
  · exact inv
  · obtain ⟨holdings, visits, hvisits, hoccupied⟩ := inv
    obtain ⟨more, hmore⟩ := scheduleSemanticSend_occupied hsend
    rw [FanOccupied, hsent, hwqes]
    exact ⟨_, visits ++ send.visits, by simp [hvisits], hoccupied.append hmore⟩

theorem scheduleControl_realizes
    (h : scheduleControl options.bypass graph entry work m = .ok (outcome, m')) :
    Realizes entry m outcome m' := by
  obtain ⟨control, fan, logical, paths, witness, hdata, hfan, -, rfl, rfl⟩ :=
    scheduleControl_eq_ok h
  have hstart : FanOccupied entry m (fanOutStart entry control
      ⟨m.state.reserveControl entry.operation.rank control.finishedAtPs, m.wqe⟩) := by
    refine ⟨_, [control], rfl, Occupied.visit (.control entry.operation.rank) ?_ ?_ ?_⟩
    · rw [hdata]
      rfl
    · rw [hdata]
      exact le_max_right _ _
    · funext key
      cases key <;>
        simp [cursor, fanOutStart, RuntimeState.reserveControl, Function.update_apply, updateKey]
  exact foldlM_invariant (FanOccupied entry m) hfan hstart
    fun _ _ _ _ hacc hstep => deliverControl_occupied hacc hstep

def Expanded (entry : ReadyEntry) (m : Machine AtlahsWqeLedger)
    (expansion : Expansion AtlahsWqeLedger) : Prop :=
  ∃ holdings visits, expansion.visits = entry.launch :: visits ∧
    Occupied m holdings expansion.machine visits expansion.wqes

theorem expansionStart_expanded (entry : ReadyEntry) (m : Machine AtlahsWqeLedger) :
    Expanded entry m (expansionStart entry m) :=
  ⟨[], [], rfl, .nil m⟩

theorem Expanded.record (inv : Expanded entry m expansion) {request : HopRequest}
    {sender receiver : Frontier} {hop : Hop} {machine : Machine AtlahsWqeLedger}
    (h : scheduleHop options.bypass graph entry.operation entry.launch request sender receiver
      expansion.machine = .ok (hop, machine)) :
    Expanded entry m (expansion.record hop machine) := by
  obtain ⟨holdings, visits, hvisits, hoccupied⟩ := inv
  obtain ⟨more, hmore⟩ := scheduleHop_occupied h
  exact ⟨_, visits ++ hop.visits, by simp [Expansion.record, hvisits], hoccupied.append hmore⟩

theorem scheduleCollective_realizes {work : CollectiveWork} {tags : List Nat}
    {plan : Option CollectivePlan}
    (h : scheduleCollective options.bypass graph entry work tags plan m = .ok (outcome, m')) :
    Realizes entry m outcome m' := by
  obtain ⟨expansion, inv, rfl, hvisits, hwqes⟩ := scheduleCollective_expansion
    (fun inv hhop => inv.record hhop) (expansionStart_expanded entry m) h
  rw [Realizes, hvisits, hwqes]
  exact inv

theorem scheduleNoncompute_realizes
    (h : scheduleNoncompute options.bypass context entry m = .ok (outcome, m')) :
    Realizes entry m outcome m' ∧ entry.operation.compute? = none := by
  unfold scheduleNoncompute at h
  unfold ExecutionOperation.compute?
  cases hwork : entry.operation.work with
  | compute work =>
    rw [hwork] at h
    cases h
  | dma work =>
    rw [hwork] at h
    exact ⟨scheduleDma_realizes hwork h, rfl⟩
  | kv work =>
    rw [hwork] at h
    dsimp only at h
    refine ⟨?_, rfl⟩
    split at h
    next =>
      cases h
      exact scheduleKvMarker_realizes entry m
    next => exact scheduleKvTraffic_realizes h
  | control work =>
    rw [hwork] at h
    exact ⟨scheduleControl_realizes h, rfl⟩
  | collective work =>
    rw [hwork] at h
    obtain ⟨tags, -, h⟩ := of_bind h
    exact ⟨scheduleCollective_realizes h, rfl⟩

structure GroupVisit (resource : ResourceRef) (started finished : Nat) (visit : QueueVisit) :
    Prop where
  resource : visit.resource = resource
  started : visit.startedAtPs = started
  finished : visit.finishedAtPs ≤ finished

theorem group_visits {group : List ReadyEntry} {outcomes : List ScheduledOperation}
    (h : List.Forall₂ (fun entry outcome => ∃ duration, started + duration ≤ finished ∧
      scheduleGroupMember options.bypass graph rank started entry duration = .ok outcome)
      group outcomes) : ∃ gpus hbms : List QueueVisit,
      (outcomes.flatMap (·.visits)).Perm (group.map (·.launch) ++ (gpus ++ hbms)) ∧
      (∀ visit ∈ gpus, GroupVisit (workResource rank) started finished visit) ∧
      (∀ visit ∈ hbms, GroupVisit (hbmResource rank) started finished visit ∧
        ∃ entry ∈ group, 0 < entry.operation.hbmDemand) ∧
      outcomes.flatMap (·.wqes) = [] := by
  induction h with
  | nil => exact ⟨[], [], by simp, by simp, by simp, rfl⟩
  | @cons entry outcome group outcomes hmember _ ih =>
    obtain ⟨gpus, hbms, hperm, hgpus, hhbms, hwqes⟩ := ih
    obtain ⟨duration, hduration, hmember⟩ := hmember
    obtain ⟨gpu, hbm, hgpu, hhbm, -, rfl⟩ := scheduleGroupMember_eq_ok hmember
    refine ⟨gpu :: gpus, hbm ++ hbms, ?_, ?_, ?_, ?_⟩
    · show ([entry.launch, gpu] ++ hbm ++ outcomes.flatMap (·.visits)).Perm
        (entry.launch :: group.map (·.launch) ++ (gpu :: gpus ++ (hbm ++ hbms)))
      refine List.Perm.cons entry.launch ?_
      have hmove : (gpu :: hbm ++ (group.map (·.launch) ++ (gpus ++ hbms))).Perm
          (group.map (·.launch) ++ (gpu :: gpus ++ (hbm ++ hbms))) := by
        refine perm_iff_count.mpr fun visit => ?_
        simp only [count_append, count_cons]
        omega
      exact (hperm.append_left (gpu :: hbm)).trans hmove
    · intro visit hv
      rcases mem_cons.mp hv with rfl | hv
      · exact ⟨by rw [hgpu]; rfl, by rw [hgpu]; rfl, by rw [hgpu]; exact hduration⟩
      · exact hgpus visit hv
    · intro visit hv
      rcases mem_append.mp hv with hv | hv
      · obtain ⟨hdemand, hdata⟩ := hhbm visit hv
        exact ⟨⟨by rw [hdata]; rfl, by rw [hdata]; rfl, by rw [hdata]; exact hduration⟩,
          entry, by simp, hdemand⟩
      · obtain ⟨hvisit, other, hother, hdemand⟩ := hhbms visit hv
        exact ⟨hvisit, other, by simp [hother], hdemand⟩
    · simpa [singleParticipant] using hwqes

def groupHolding (key : Server) (visits : List QueueVisit) {started finished : Nat}
    (h : started ≤ finished) : Holding where
  key := key
  start := started
  finish := finished
  label := { visits := visits }
  ordered := h

theorem groupHolding_sound {key : Server} {resource : ResourceRef} {visits : List QueueVisit}
    (h : started ≤ finished) (hosted : key.Hosts resource)
    (hkey : ∃ rank, key = .gpu rank ∨ key = .hbm rank)
    (hvisits : ∀ visit ∈ visits, GroupVisit resource started finished visit) :
    (groupHolding key visits h).Sound where
  hosted visit hv := (hvisits visit hv).resource ▸ hosted
  within visit hv := ⟨le_of_eq (hvisits visit hv).started.symm, (hvisits visit hv).finished⟩
  alone := .inr hkey
  sent := by simp [groupHolding]
  received := by simp [groupHolding]
  sent_alone := by simp [groupHolding]
  received_alone := by simp [groupHolding]

def Grant.usesHbm {τ : Type} (grant : Grant τ) : Bool :=
  grant.granted.any (0 < ·.operation.hbmDemand)

def Grant.visits {τ : Type} (grant : Grant τ) : List QueueVisit :=
  grant.outcomes.flatMap (·.visits)

/-- What one grant holds: the servers of its visits after the launches and, for a compute
group that uses HBM, the HBM for as long as any member holds the GPU. -/
structure GrantServed (grant : Grant AtlahsWqeLedger) (m : Machine AtlahsWqeLedger)
    (holdings : List Holding) (m' : Machine AtlahsWqeLedger) (visits : List QueueVisit) :
    Prop where
  occupied : Occupied m holdings m' visits (grant.outcomes.flatMap (·.wqes))
  visits_perm : grant.visits.Perm (grant.granted.map (·.launch) ++ visits)
  memory : grant.usesHbm → ∀ visit ∈ visits, ∀ rank, visit.resource = workResource rank →
    ∃ holding ∈ holdings, holding.key = .hbm rank ∧ holding.start ≤ visit.startedAtPs ∧
      visit.finishedAtPs ≤ holding.finish

theorem scheduleComputeGroup_served
    (h : scheduleComputeGroup options.bypass graph grant.granted m = .ok (grant.outcomes, m')) :
    ∃ holdings visits, GrantServed grant m holdings m' visits := by
  obtain ⟨rank, finished, run⟩ := scheduleComputeGroup_run h
  obtain ⟨gpus, hbms, hperm, hgpus, hhbms, hwqes⟩ := group_visits run.members
  have hle := run.started_le
  have hfree : m.state.gpuAvailable rank ≤ groupStart rank grant.granted m.state := by
    unfold groupStart
    dsimp only
    split <;> omega
  have hgroup : Occupied m [groupHolding (.gpu rank) gpus hle]
      { m with state := m.state.reserveGroup rank finished false } gpus [] := by
    refine .holding (groupHolding_sound hle rfl ⟨rank, .inl rfl⟩ hgpus) rfl rfl hfree ?_
    funext key
    cases key <;>
      simp [cursor, RuntimeState.reserveGroup, groupHolding, Function.update_apply, updateKey]
  have hmachine := run.machine_eq
  cases hdemand : grant.usesHbm with
  | false =>
    rw [Grant.usesHbm] at hdemand
    rw [hdemand] at hmachine
    have hnone : hbms = [] := by
      refine eq_nil_iff_forall_not_mem.mpr fun visit hv => ?_
      obtain ⟨-, entry, he, hpos⟩ := hhbms visit hv
      rw [any_eq_false] at hdemand
      exact hdemand entry he (by simpa using hpos)
    subst hnone
    rw [append_nil] at hperm
    refine ⟨[groupHolding (.gpu rank) gpus hle], gpus, ?_, hperm, ?_⟩
    · rw [hwqes, hmachine]
      exact hgroup
    · intro huses
      rw [Grant.usesHbm, hdemand] at huses
      cases huses
  | true =>
    rw [Grant.usesHbm] at hdemand
    rw [hdemand] at hmachine
    have hidle : m.state.hbmAvailable rank ≤ groupStart rank grant.granted m.state := by
      unfold groupStart
      rw [if_pos hdemand]
      exact le_max_right _ _
    refine ⟨[groupHolding (.gpu rank) gpus hle, groupHolding (.hbm rank) hbms hle], gpus ++ hbms,
      ?_, hperm, ?_⟩
    · rw [hwqes, hmachine]
      refine hgroup.append (.holding (groupHolding_sound hle rfl ⟨rank, .inr rfl⟩
        fun visit hv => (hhbms visit hv).1) rfl rfl hidle ?_)
      funext key
      cases key <;>
        simp [cursor, RuntimeState.reserveGroup, groupHolding, Function.update_apply, updateKey]
    · intro _ visit hv other hresource
      rcases mem_append.mp hv with hv | hv
      · have hgpu := hgpus visit hv
        have hrank := (gpuName_separated_inj (congrArg ResourceRef.resourceId
            (hgpu.resource.symm.trans hresource))).1
        subst hrank
        exact ⟨groupHolding (.hbm rank) hbms hle, by simp, rfl, le_of_eq hgpu.started.symm,
          hgpu.finished⟩
      · have hkind := congrArg ResourceRef.kind ((hhbms visit hv).1.resource.symm.trans hresource)
        cases hkind

theorem Iteration.served {scheduled : List ScheduledOperation}
    (step : Iteration options.bypass context edges launched scheduled m grant m') :
    ∃ holdings visits, GrantServed grant m holdings m' visits := by
  rcases step.realized with hgroup | ⟨entry, outcome, hgranted, houtcomes, hone⟩
  · exact scheduleComputeGroup_served hgroup
  · obtain ⟨⟨holdings, visits, hvisits, hoccupied⟩, hwork⟩ := scheduleNoncompute_realizes hone
    refine ⟨holdings, visits, ?_, ?_, ?_⟩
    · rw [houtcomes]
      simpa using hoccupied
    · rw [Grant.visits, hgranted, houtcomes]
      simp [hvisits]
    · intro huses
      rw [Grant.usesHbm, hgranted] at huses
      simp [ExecutionOperation.hbmDemand, hwork] at huses

theorem scheduleLaunches_occupied {state state' : RuntimeState} (ledger : AtlahsWqeLedger)
    (h : scheduleLaunches options.bypass graph state = .ok (launched, state')) :
    ∃ holdings, Occupied ⟨state, ledger⟩ holdings ⟨state', ledger⟩
    (launched.map (·.launch)) [] := by
  refine foldlM_invariant (fun acc => ∃ holdings,
    Occupied ⟨state, ledger⟩ holdings ⟨acc.2, ledger⟩ (acc.1.map (·.launch)) []) h
    ⟨[], .nil _⟩ ?_
  rintro acc next entry - ⟨holdings, hoccupied⟩ hstep
  obtain ⟨launch, hdata, rfl⟩ := scheduleLaunch_eq_ok hstep
  have hlaunch : Occupied ⟨acc.2, ledger⟩ [visitHolding (.host (nodeOf entry.1.rank)) launch]
      ⟨acc.2.reserveHost (nodeOf entry.1.rank) launch.finishedAtPs, ledger⟩ [launch] [] := by
    refine Occupied.visit (.host (nodeOf entry.1.rank)) ?_ ?_ ?_
    · rw [hdata]
      rfl
    · rw [hdata]
      exact le_max_right _ _
    · funext key
      cases key <;> simp [cursor, RuntimeState.reserveHost, Function.update_apply, updateKey]
  rw [map_append]
  exact ⟨_, hoccupied.append hlaunch⟩

structure GrantCovered (grant : Grant AtlahsWqeLedger) (holdings : List Holding) : Prop where
  visits : ∀ visit ∈ grant.visits, visit.resource.kind = .hostLaunchQueue ∨
    ∃ holding ∈ holdings, visit ∈ holding.label.visits
  memory : grant.usesHbm → ∀ visit ∈ grant.visits, ∀ rank, visit.resource = workResource rank →
    ∃ holding ∈ holdings, holding.key = .hbm rank ∧ holding.start ≤ visit.startedAtPs ∧
      visit.finishedAtPs ≤ holding.finish

theorem GrantServed.covered {holdings : List Holding} {visits : List QueueVisit}
    (h : GrantServed grant m holdings m' visits)
    (hlaunch : ∀ entry ∈ grant.granted, entry.launch.resource.kind = .hostLaunchQueue) :
    GrantCovered grant holdings := by
  have hsplit : ∀ visit ∈ grant.visits,
      visit.resource.kind = .hostLaunchQueue ∨ visit ∈ visits := by
    intro visit hv
    rcases mem_append.mp (h.visits_perm.mem_iff.mp hv) with hv | hv
    · obtain ⟨entry, he, rfl⟩ := mem_map.mp hv
      exact .inl (hlaunch entry he)
    · exact .inr hv
  refine ⟨fun visit hv => ?_, fun huses visit hv rank hresource => ?_⟩
  · rcases hsplit visit hv with hkind | hin
    · exact .inl hkind
    · have hin := h.occupied.visits_perm.mem_iff.mp hin
      exact .inr (mem_flatMap.mp hin)
  · rcases hsplit visit hv with hkind | hin
    · rw [hresource] at hkind
      cases hkind
    · exact h.memory huses visit hin rank hresource

theorem Trace.served {start : Machine AtlahsWqeLedger} {grants : List (Grant AtlahsWqeLedger)}
    (hlaunched : ∀ source ∈ launched, source.launch.resource.kind = .hostLaunchQueue)
    (run : Trace options.bypass context edges launched start grants m) :
    ∃ served visits, Occupied start (List.flatten served) m visits
        ((grants.flatMap (·.outcomes)).flatMap (·.wqes)) ∧
      (grants.flatMap Grant.visits).Perm
        ((grants.flatMap (·.granted)).map (·.launch) ++ visits) ∧
      List.Forall₂ GrantCovered grants served := by
  induction run with
  | nil => exact ⟨[], [], .nil _, .refl _, .nil⟩
  | @snoc grants before after grant _ step ih =>
    obtain ⟨served, visits, hoccupied, hvisits, hcovered⟩ := ih
    obtain ⟨holdings, visits', hgrant⟩ := step.served
    have hkinds : ∀ entry ∈ grant.granted, entry.launch.resource.kind = .hostLaunchQueue := by
      intro entry he
      obtain ⟨source, hsource, hready⟩ := step.ready entry he
      rw [(readyEntry_id hready).2.2]
      exact hlaunched source (mem_filter.mp hsource).1
    refine ⟨served ++ [holdings], visits ++ visits', ?_, ?_, ?_⟩
    · simp only [flatten_append, flatten_singleton, flatMap_append,
        flatMap_singleton]
      exact hoccupied.append hgrant.occupied
    · simp only [flatMap_append, flatMap_singleton, map_append]
      refine (hvisits.append hgrant.visits_perm).trans ?_
      refine perm_iff_count.mpr fun visit => ?_
      simp only [count_append]
      omega
    · exact rel_append hcovered (.cons (hgrant.covered hkinds) .nil)

end SimLLM
