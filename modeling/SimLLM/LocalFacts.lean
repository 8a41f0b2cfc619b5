import SimLLM.OutcomeFacts

namespace SimLLM

open List FirstExtremum

variable {bound eligible demandBytes rank started duration : Nat} {work : DmaWork}
variable {outcome : ScheduledOperation} {mapping : RankMap Nat} {operation : ExecutionOperation}
variable {state : RuntimeState} {group : List ReadyEntry} {outcomes : List ScheduledOperation}

variable {κ σ τ : Type} {cfg : RuntimeConfig κ σ τ} {graph : ExecutionGraph}
  {edges : List EffectiveDependencyEdge} {scheduled : List ScheduledOperation}
  {entry : ReadyEntry} {m m' : Machine τ}

theorem EntryFacts.launchSource (wqes : List WqeLifecycleProjection) :
    VisitSource entry wqes entry.launch := .launch rfl

theorem participantRanks_of_kv {work : KvCacheWork} (h : entry.operation.work = .kv work) :
    operationParticipantRanks entry.operation = [entry.operation.rank] := by
  simp [operationParticipantRanks, participantRankSet, h, sortedSet]

theorem participantRanks_of_compute {work : ComputeWork}
    (h : entry.operation.work = .compute work) :
    operationParticipantRanks entry.operation = [entry.operation.rank] := by
  simp [operationParticipantRanks, participantRankSet, h, sortedSet]

theorem rank_mem_participants (operation : ExecutionOperation) :
    operation.rank ∈ operationParticipantRanks operation := by
  unfold operationParticipantRanks participantRankSet
  cases operation.work <;> simp

structure LocalVisit (graph : ExecutionGraph) (entry : ReadyEntry) (visit : QueueVisit) :
    Prop where
  owned : OwnedBy graph entry.operation visit
  source : VisitSource entry [] visit
  plain : visit.subjectObjectId = none

theorem LocalVisit.of_data {visit : QueueVisit} {data : VisitData} (h : visit.toVisitData = data)
    (hexecution : data.executionId = graph.executionId)
    (hoperation : data.operationId = entry.operation.operationId)
    (hplace : AtGpu entry.operation.rank data.resource) (hplain : data.subjectObjectId = none)
    (hready : entry.ready.byRank.get entry.operation.rank ≤ data.eligibleAtPs) :
    LocalVisit graph entry visit := by
  subst h
  exact ⟨⟨hexecution, hoperation⟩,
    .resource _ (rank_mem_participants _) hplace hplain hready, hplain⟩

theorem scheduleKvTraffic_eq_ok
    (h : scheduleKvTraffic cfg graph entry demandBytes m = .ok (outcome, m')) :
    ∃ visit : QueueVisit, visit.toVisitData = kvVisitData cfg graph entry demandBytes m.state ∧
      outcome = singleParticipant entry.operation visit.completedAtPs [entry.launch, visit]
        (entry.ready.witnesses.get entry.operation.rank) [entry.launch, visit]
        entry.ready.eligibleAtPs ∧
      m' = { m with state := m.state.reserveHbm entry.operation.rank visit.finishedAtPs } := by
  replace h := of_check h
  obtain ⟨visit, hvisit, h⟩ := of_bind h
  cases h
  exact ⟨visit, QueueVisit.make_eq_ok.mp hvisit, rfl, rfl⟩

theorem le_foldl_max {values : List Nat} {start value : Nat} (h : value ∈ values) :
    value ≤ values.foldl max start := by
  rw [foldl_max]
  exact le_max_of_le_right (le_max?_getD_of_mem h)

theorem le_maxValue (h : rank ∈ mapping.ranks) : mapping.get rank ≤ maxValue mapping :=
  le_foldl_max (mem_map_of_mem h)

theorem maxValue_mem (h : mapping.ranks ≠ []) :
    ∃ rank ∈ mapping.ranks, mapping.get rank = maxValue mapping := by
  cases hmax : mapping.values.max? with
  | none =>
    rw [max?_eq_none_iff] at hmax
    exact absurd (map_eq_nil_iff.mp hmax) h
  | some best =>
    have hbest : maxValue mapping = best := by
      rw [maxValue, foldl_max, hmax]
      exact Nat.zero_max best
    rw [hbest]
    exact mem_map.mp (max?_mem hmax)

theorem completionCausalWitness_from {completed : RankMap Nat}
    {witnesses : RankMap (Option CausalWitness)}
    (h : ∀ rank ∈ completed.ranks, WitnessFrom entry bound (witnesses.get rank)) :
    WitnessFrom entry bound (completionCausalWitness completed witnesses) := by
  unfold completionCausalWitness
  split
  next => exact fun w hw => by cases hw
  next first others heq =>
    apply WitnessFrom.select
    intro candidate hc
    rw [← heq] at hc
    obtain ⟨rank, hrank, rfl⟩ := mem_map.mp hc
    exact h rank hrank

theorem deviceRank_host {lowered : List Char}
    (h : lowered = "host".toList ∨ "host:".toList.isPrefixOf lowered) :
    deviceRank lowered = none := by
  have hprefix : ∃ rest, lowered = "host".toList ++ rest := by
    rcases h with rfl | h
    · exact ⟨[], rfl⟩
    · obtain ⟨rest, rfl⟩ := isPrefixOf_iff_prefix.mp h
      exact ⟨':' :: rest, rfl⟩
  obtain ⟨rest, rfl⟩ := hprefix
  simp [deviceRank, dropWord]

theorem dmaEndpoint_rank {value : String} {localRank : Nat} {endpoint : DmaEndpoint}
    (h : dmaEndpoint value localRank = .ok endpoint) (rank : Nat) :
    (rank = localRank ∨ endpoint.rank? = some rank) ↔
      (rank = localRank ∨ deviceRank (normalizeEndpoint value) = some rank) := by
  unfold dmaEndpoint at h
  simp only at h
  split at h
  next hhost =>
    cases h
    rw [deviceRank_host (by simpa using hhost)]
    simp [DmaEndpoint.rank?]
  next =>
    split at h
    next found hfound =>
      cases h
      rw [hfound]
      rfl
    next hnone =>
      split at h
      next =>
        cases h
        simp [DmaEndpoint.rank?, hnone, eq_comm]
      next => cases h

theorem dmaEndpoints_ranks {source destination : DmaEndpoint}
    (hwork : entry.operation.work = .dma work)
    (h : dmaEndpoints work entry.operation.rank = .ok (source, destination)) (rank : Nat) :
    rank ∈ sortedSet (entry.operation.rank :: [source, destination].filterMap (·.rank?)) ↔
      rank ∈ operationParticipantRanks entry.operation := by
  obtain ⟨s, hs, h⟩ := of_bind h
  obtain ⟨d, hd, h⟩ := of_bind h
  cases h
  have hsource := dmaEndpoint_rank hs rank
  have hdestination := dmaEndpoint_rank hd rank
  simp only [operationParticipantRanks, participantRankSet, hwork, mem_sortedSet, mem_cons,
    mem_filterMap, not_mem_nil, or_false, exists_eq_or_imp, exists_eq_left]
  rw [← or_assoc, ← or_assoc, hsource, or_right_comm, hdestination, or_right_comm]

theorem copyChoice_eq_ok {direction : CopyDirection} {index : Nat} {engine : CopyEngineServiceModel}
    {choice : CopyChoice}
    (h : copyChoice operation work direction eligible state index engine = .ok choice) :
    choice.startedAtPs = max (max eligible (state.copyAvailable (operation.rank, choice.engineId)))
      (state.hbmAvailable operation.rank) := by
  unfold copyChoice at h
  split at h
  · obtain ⟨duration, -, h⟩ := of_bind h
    cases h
    rfl
  · cases h
    rfl

/-- What a scheduled descriptor is made of: the chosen engine starts once the engine and the
HBM are free, and both are reserved until it finishes. -/
structure DmaRun (cfg : RuntimeConfig κ σ τ) (graph : ExecutionGraph) (entry : ReadyEntry)
    (work : DmaWork) (m : Machine τ) (outcome : ScheduledOperation) (m' : Machine τ)
    (choice : CopyChoice) (copy hbm : QueueVisit) (ranks : List Nat) : Prop where
  started : choice.startedAtPs = max (max (maxValue entry.ready.byRank)
    (m.state.copyAvailable (entry.operation.rank, choice.engineId)))
    (m.state.hbmAvailable entry.operation.rank)
  copy_data : copy.toVisitData = dmaVisitData graph entry work (maxValue entry.ready.byRank) choice
    (copyResource entry.operation.rank choice.engineId) cfg.profile.completionDeliveryPs
  hbm_data : hbm.toVisitData = dmaVisitData graph entry work (maxValue entry.ready.byRank) choice
    (hbmResource entry.operation.rank) 0
  ranks_mem : ∀ rank, rank ∈ ranks ↔ rank ∈ operationParticipantRanks entry.operation
  outcome_eq : outcome =
    let witness := completionCausalWitness entry.ready.byRank entry.ready.witnesses
    { operation := entry.operation
      logicalCompletedAtPs := copy.completedAtPs
      physicalCompletedAtPs := copy.completedAtPs
      participantCompletedAtPs := .const ranks copy.completedAtPs
      participantPaths := .const ranks [entry.launch, copy]
      participantCausalWitnesses := .const ranks witness
      visits := [entry.launch, copy, hbm]
      logicalPaths := [[entry.launch, copy]]
      eligibleAtPs := maxValue entry.ready.byRank
      criticalPredecessorId := witness.map (·.predecessorId)
      criticalPredecessorCompletedAtPs := witness.map (·.completedAtPs) }
  machine_eq : m' = ⟨m.state.reserveCopy entry.operation.rank choice.engineId copy.finishedAtPs,
    m.wqe⟩

theorem scheduleDma_run (hwork : entry.operation.work = .dma work)
    (h : scheduleDma cfg graph entry work m = .ok (outcome, m')) :
    ∃ choice copy hbm ranks, DmaRun cfg graph entry work m outcome m' choice copy hbm ranks := by
  obtain ⟨direction, -, h⟩ := of_bind h
  obtain ⟨choices, hchoices, h⟩ := of_bind h
  split at h
  next => cases h
  next choice hbest =>
    obtain ⟨copy, hcopy, h⟩ := of_bind h
    obtain ⟨hbm, hhbm, h⟩ := of_bind h
    obtain ⟨⟨source, destination⟩, hendpoints, h⟩ := of_bind h
    cases h
    obtain ⟨candidate, -, hchoice⟩ := mapM_mem hchoices (minBy_mem hbest)
    exact ⟨choice, copy, hbm, _, copyChoice_eq_ok hchoice, QueueVisit.make_eq_ok.mp hcopy,
      QueueVisit.make_eq_ok.mp hhbm, dmaEndpoints_ranks hwork hendpoints, rfl, rfl⟩

theorem compute?_eq_some (h : operation.compute?.isSome) :
    ∃ work, operation.work = .compute work := by
  unfold ExecutionOperation.compute? at h
  cases hwork : operation.work <;> simp_all

theorem gpuTask_compute {task : GpuTask κ} (h : gpuTask cfg operation = .ok task) :
    operation.compute?.isSome := by
  unfold gpuTask at h
  cases hcompute : operation.compute? with
  | none => simp [hcompute] at h
  | some work => rfl

theorem groupDurations_spec {durations : List Nat}
    (h : groupDurations cfg rank group = .ok durations) :
    durations.length = group.length ∧ ∀ entry ∈ group, entry.operation.compute?.isSome := by
  unfold groupDurations at h
  split at h
  next =>
    refine ⟨(mapM_eq_ok.mp h).length_eq.symm, fun entry he => ?_⟩
    obtain ⟨duration, -, hduration⟩ := mapM_of_mem h he
    cases hcompute : entry.operation.compute? with
    | none => simp [hcompute] at hduration
    | some work => rfl
  next service =>
    obtain ⟨tasks, htasks, h⟩ := of_bind h
    obtain ⟨estimates, -, h⟩ := of_bind h
    refine ⟨(mapM_eq_ok.mp h).length_eq.symm, fun entry he => ?_⟩
    obtain ⟨task, -, htask⟩ := mapM_of_mem htasks he
    exact gpuTask_compute htask

theorem forall₂_of_zip {α β γ : Type} {f : α → β → γ → Prop} {first : List α} {second : List β}
    {results : List γ} (hlength : second.length = first.length)
    (h : List.Forall₂ (fun pair result => f pair.1 pair.2 result) (first.zip second) results) :
    List.Forall₂ (fun a result => ∃ b ∈ second, f a b result) first results := by
  induction first generalizing second results with
  | nil =>
    cases h
    exact .nil
  | cons a first ih =>
    cases second with
    | nil => simp at hlength
    | cons b second =>
      cases h with
      | cons hhead htail =>
        refine .cons ⟨b, by simp, hhead⟩ ?_
        refine (ih (by simpa using hlength) htail).imp ?_
        rintro x y ⟨z, hz, hf⟩
        exact ⟨z, by simp [hz], hf⟩

/-- What a realized compute group is made of: its members start together once the GPU and,
if any of them uses it, the HBM are free, and both are reserved until the last one ends. -/
structure GroupRun (cfg : RuntimeConfig κ σ τ) (graph : ExecutionGraph) (group : List ReadyEntry)
    (m : Machine τ) (outcomes : List ScheduledOperation) (m' : Machine τ) (rank finished : Nat) :
    Prop where
  same_rank : ∀ entry ∈ group, entry.operation.rank = rank
  compute : ∀ entry ∈ group, entry.operation.compute?.isSome
  started_le : groupStart rank group m.state ≤ finished
  members : List.Forall₂ (fun entry outcome => ∃ duration,
    groupStart rank group m.state + duration ≤ finished ∧ scheduleGroupMember cfg graph rank
      (groupStart rank group m.state) entry duration = .ok outcome) group outcomes
  machine_eq : m' = ⟨m.state.reserveGroup rank finished
    (group.any (0 < ·.operation.hbmDemand)), m.wqe⟩

theorem scheduleComputeGroup_run (h : scheduleComputeGroup cfg graph group m = .ok (outcomes, m')) :
    ∃ rank finished, GroupRun cfg graph group m outcomes m' rank finished := by
  unfold scheduleComputeGroup at h
  split at h
  next => cases h
  next first rest =>
    obtain ⟨_, hranks, h⟩ := of_bind h
    obtain ⟨durations, hdurations, h⟩ := of_bind h
    obtain ⟨realized, hrealized, h⟩ := of_bind h
    cases h
    simp only [require_eq_ok, all_eq_true, beq_iff_eq] at hranks
    obtain ⟨hlength, hcompute⟩ := groupDurations_spec hdurations
    refine ⟨_, _, hranks, hcompute, Nat.le_add_right _ _, ?_, rfl⟩
    refine (forall₂_of_zip (f := fun entry duration outcome => scheduleGroupMember cfg graph
      first.operation.rank (groupStart first.operation.rank (first :: rest) m.state) entry
        duration = .ok outcome) hlength (mapM_eq_ok.mp hrealized)).imp ?_
    rintro entry outcome ⟨duration, hmem, hmember⟩
    exact ⟨duration, Nat.add_le_add_left (le_foldl_max hmem) _,
      hmember⟩

theorem scheduleGroupMember_eq_ok
    (h : scheduleGroupMember cfg graph rank started entry duration = .ok outcome) :
    ∃ (gpu : QueueVisit) (hbm : List QueueVisit),
      gpu.toVisitData = computeVisitData graph entry rank started duration (workResource rank)
        cfg.profile.completionDeliveryPs ∧
      (∀ visit ∈ hbm, 0 < entry.operation.hbmDemand ∧ visit.toVisitData =
        computeVisitData graph entry rank started duration (hbmResource rank) 0) ∧
      hbm.length ≤ 1 ∧
      outcome = singleParticipant entry.operation gpu.completedAtPs [entry.launch, gpu]
        (entry.ready.witnesses.get rank) ([entry.launch, gpu] ++ hbm)
        (entry.ready.byRank.get rank) := by
  obtain ⟨gpu, hgpu, h⟩ := of_bind h
  refine ⟨gpu, ?_⟩
  have hdata := QueueVisit.make_eq_ok.mp hgpu
  split at h
  next hdemand =>
    obtain ⟨visit, hvisit, h⟩ := of_bind h
    cases h
    exact ⟨[visit], hdata, by simpa using ⟨hdemand, QueueVisit.make_eq_ok.mp hvisit⟩, by simp, rfl⟩
  next =>
    cases h
    exact ⟨[], hdata, by simp, by simp, rfl⟩

section

variable (facts : EntryFacts graph edges scheduled entry)

include facts

theorem EntryFacts.witnessFrom (rank : Nat) :
    WitnessFrom entry (entry.ready.byRank.get rank) (entry.ready.witnesses.get rank) :=
  fun w hw => ⟨(facts.witness rank w hw).1, rank, hw⟩

theorem EntryFacts.launchPath
    (h : entry.launch.completedAtPs ≤ bound) : PathFacts entry bound [entry.launch] := by
  refine ⟨⟨[], rfl⟩, by simpa using h, ?_⟩
  intro visit hv
  cases mem_singleton.mp hv
  exact ⟨.control, by simp [facts.node, launchResource, attributionField]⟩

theorem EntryFacts.launchLocal : LocalVisit graph entry entry.launch :=
  ⟨facts.owned, .launch rfl, facts.plain⟩

theorem singleParticipant_facts
    (hranks : operationParticipantRanks entry.operation = [entry.operation.rank]) {completed : Nat}
    {path visits : List QueueVisit}
    (hready : entry.ready.byRank.get entry.operation.rank ≤ completed)
    (hpath : PathFacts entry completed path) (hsub : ∀ visit ∈ path, visit ∈ visits)
    (hlocal : ∀ visit ∈ visits, LocalVisit graph entry visit) :
    OutcomeFacts graph entry (singleParticipant entry.operation completed path
      (entry.ready.witnesses.get entry.operation.rank) visits eligible) := by
  have hwitness := (facts.witnessFrom entry.operation.rank).mono hready
  obtain ⟨tail, htail⟩ := hpath.starts
  exact {
    operation := rfl
    keys := by simp [singleParticipant, hranks]
    path_keys := by simp [singleParticipant, hranks]
    witness_keys := by simp [singleParticipant, hranks]
    ready_le := by simpa [singleParticipant, hranks] using hready
    paths := by simpa [singleParticipant, hranks] using hpath
    witnesses := by simpa [singleParticipant, hranks] using hwitness
    logical_mem := by simp [singleParticipant, hranks]
    physical_mem := by simp [singleParticipant, hranks]
    physical_max := by simp [singleParticipant, hranks]
    logical_ne := by simp [singleParticipant]
    logical := by
      intro p hp
      cases mem_singleton.mp hp
      exact ⟨hpath, hsub⟩
    critical := ⟨_, rfl, rfl, hwitness⟩
    launch_mem := hsub _ (by simp [htail])
    owned := fun visit hv => (hlocal visit hv).owned
    sources := fun visit hv => (hlocal visit hv).source
    subjects := by
      simp only [singleParticipant, flatMap_nil, filter_eq_nil_iff]
      intro visit hv
      simp [(hlocal visit hv).plain]
    wqes := by simp [singleParticipant]
    extents := by simp [singleParticipant] }

theorem scheduleKvMarker_facts {work : KvCacheWork} (hwork : entry.operation.work = .kv work) :
    OutcomeFacts graph entry (scheduleKvMarker entry) := by
  have hlaunch : entry.launch.completedAtPs ≤ max entry.launch.completedAtPs
      (entry.ready.byRank.get entry.operation.rank) := le_max_left _ _
  refine singleParticipant_facts facts (participantRanks_of_kv hwork) (le_max_right _ _)
    (facts.launchPath hlaunch) (fun _ h => h) ?_
  simpa using facts.launchLocal

theorem scheduleKvTraffic_facts {work : KvCacheWork} (hwork : entry.operation.work = .kv work)
    (h : scheduleKvTraffic cfg graph entry demandBytes m = .ok (outcome, m')) :
    OutcomeFacts graph entry outcome := by
  obtain ⟨visit, hdata, rfl, -⟩ := scheduleKvTraffic_eq_ok h
  have hdone := visit.eligible_le_completed
  have helig : visit.eligibleAtPs = max entry.launch.completedAtPs
      (entry.ready.byRank.get entry.operation.rank) := by rw [hdata]; rfl
  have hlaunch : entry.launch.completedAtPs ≤ visit.completedAtPs := by omega
  refine singleParticipant_facts facts (participantRanks_of_kv hwork) (by omega)
    ((facts.launchPath hlaunch).append [visit] (by simp) ?_) (fun _ h => h) ?_
  · intro v hv
    cases mem_singleton.mp hv
    exact ⟨.kv, by simp [hdata, kvVisitData, hbmResource, attributionField, hwork]⟩
  · simpa using ⟨facts.launchLocal, .of_data hdata rfl rfl ⟨_, rfl⟩ rfl (le_max_right _ _)⟩

theorem scheduleDma_facts (hwork : entry.operation.work = .dma work)
    (h : scheduleDma cfg graph entry work m = .ok (outcome, m')) :
    OutcomeFacts graph entry outcome := by
  obtain ⟨choice, copy, hbm, ranks, run⟩ := scheduleDma_run hwork h
  have hrank := rank_mem_participants entry.operation
  have hdone := copy.eligible_le_completed
  have helig : copy.eligibleAtPs = maxValue entry.ready.byRank := by rw [run.copy_data]; rfl
  have hready : ∀ rank ∈ operationParticipantRanks entry.operation,
      entry.ready.byRank.get rank ≤ maxValue entry.ready.byRank := fun rank hr =>
    le_maxValue (facts.keys ▸ hr)
  have hlaunch : entry.launch.completedAtPs ≤ copy.completedAtPs := by
    have h₁ := facts.launched entry.operation.rank
    have h₂ := hready entry.operation.rank hrank
    omega
  have hpath : PathFacts entry copy.completedAtPs [entry.launch, copy] := by
    refine (facts.launchPath hlaunch).append [copy] (by simp) ?_
    intro v hv
    cases mem_singleton.mp hv
    exact ⟨.dma, by simp [run.copy_data, dmaVisitData, copyResource, attributionField]⟩
  have hwitness : WitnessFrom entry copy.completedAtPs
      (completionCausalWitness entry.ready.byRank entry.ready.witnesses) := by
    apply completionCausalWitness_from
    intro rank hr
    have hle := hready rank (facts.keys ▸ hr)
    exact (facts.witnessFrom rank).mono (by omega)
  have hlocal : ∀ visit ∈ [entry.launch, copy, hbm], LocalVisit graph entry visit := by
    have hle := hready _ hrank
    simpa using ⟨facts.launchLocal, LocalVisit.of_data run.copy_data rfl rfl ⟨_, rfl⟩ rfl hle,
      LocalVisit.of_data run.hbm_data rfl rfl ⟨_, rfl⟩ rfl hle⟩
  obtain rfl := run.outcome_eq
  exact {
    operation := rfl
    keys := run.ranks_mem
    path_keys := run.ranks_mem
    witness_keys := run.ranks_mem
    ready_le := fun rank hr => by
      have hle := hready rank hr
      show _ ≤ copy.completedAtPs
      omega
    paths := fun _ _ => hpath
    witnesses := fun _ _ => hwitness
    logical_mem := ⟨_, hrank, rfl⟩
    physical_mem := ⟨_, hrank, rfl⟩
    physical_max := fun _ _ => le_refl _
    logical_ne := by simp
    logical := by
      intro path hp
      cases mem_singleton.mp hp
      exact ⟨hpath, by simp⟩
    critical := ⟨_, rfl, rfl, hwitness⟩
    launch_mem := by simp
    owned := fun visit hv => (hlocal visit hv).owned
    sources := fun visit hv => (hlocal visit hv).source
    subjects := by
      simp [facts.plain, run.copy_data, run.hbm_data, dmaVisitData]
    wqes := by simp
    extents := by simp }

theorem scheduleGroupMember_facts (hcompute : entry.operation.compute?.isSome)
    (h : scheduleGroupMember cfg graph entry.operation.rank started entry duration =
      .ok outcome) : OutcomeFacts graph entry outcome := by
  obtain ⟨gpu, hbm, hgpu, hhbm, -, rfl⟩ := scheduleGroupMember_eq_ok h
  obtain ⟨work, hwork⟩ := compute?_eq_some hcompute
  have hranks := participantRanks_of_compute hwork
  have hdone := gpu.eligible_le_completed
  have helig : gpu.eligibleAtPs = entry.ready.byRank.get entry.operation.rank := by
    rw [hgpu]; rfl
  have hlaunch : entry.launch.completedAtPs ≤ gpu.completedAtPs := by
    have := facts.launched entry.operation.rank
    omega
  refine singleParticipant_facts facts hranks (by omega)
    ((facts.launchPath hlaunch).append [gpu] (by simp) ?_) (by simp) ?_
  · intro v hv
    cases mem_singleton.mp hv
    exact ⟨.kernel, by simp [hgpu, computeVisitData, workResource, attributionField]⟩
  · simp only [cons_append, nil_append, mem_cons, forall_eq_or_imp]
    exact ⟨facts.launchLocal, .of_data hgpu rfl rfl ⟨_, rfl⟩ rfl le_rfl, fun visit hv =>
      .of_data (hhbm visit hv).2 rfl rfl ⟨_, rfl⟩ rfl le_rfl⟩

end

theorem scheduleComputeGroup_facts (facts : ∀ entry ∈ group, EntryFacts graph edges scheduled entry)
    (h : scheduleComputeGroup cfg graph group m = .ok (outcomes, m')) :
    List.Forall₂ (OutcomeFacts graph) group outcomes := by
  obtain ⟨rank, finished, run⟩ := scheduleComputeGroup_run h
  have hall := run.members
  refine ((forall₂_and_left group outcomes).mpr ⟨fun entry he => he, hall⟩).imp ?_
  rintro entry outcome ⟨he, duration, -, hmember⟩
  rw [← run.same_rank entry he] at hmember
  exact scheduleGroupMember_facts (facts entry he) (run.compute entry he) hmember

end SimLLM
