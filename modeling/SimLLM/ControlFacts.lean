import SimLLM.LocalFacts

namespace SimLLM

open List FirstExtremum RankMap

variable {request : SendRequest} {visit control : QueueVisit} {wqes : List WqeLifecycleProjection}
variable {visits : List QueueVisit} {next : Nat} {work : ControlWork} {outcome : ScheduledOperation}

variable {κ σ τ : Type} {cfg : RuntimeConfig κ σ τ} {graph : ExecutionGraph}
  {edges : List EffectiveDependencyEdge} {scheduled : List ScheduledOperation}
  {entry : ReadyEntry} {m m' : Machine τ}

theorem transferKinds_attributable {operation : ExecutionOperation} {kind : ResourceKind}
    (h : kind ∈ transferKinds) : ∃ field, attributionField operation kind = .ok field := by
  simp only [transferKinds, mem_cons, not_mem_nil, or_false] at h
  rcases h with rfl | rfl | rfl | rfl
  · exact ⟨.collective, rfl⟩
  · exact ⟨.nic, rfl⟩
  · exact ⟨.nic, rfl⟩
  · exact ⟨.nic, rfl⟩

section

variable {send : SendSchedule} (facts : SendFacts graph entry.operation request send)
  (hrank : request.sourceRank ∈ operationParticipantRanks entry.operation)
  (hready : entry.ready.byRank.get request.sourceRank ≤ request.submittedAtPs)

include facts hrank hready

theorem SendFacts.sources (hv : visit ∈ send.visits) :
    VisitSource entry send.projection.toList visit := by
  cases hsubject : visit.subjectObjectId with
  | none =>
    refine .resource request.sourceRank hrank ?_ hsubject ?_
    · rw [facts.plain visit hv hsubject]
      exact ⟨"nvlink", rfl⟩
    · exact le_trans hready (facts.after visit hv)
  | some id =>
    have hmem : visit ∈ send.visits.filter (·.subjectObjectId.isSome) :=
      mem_filter.mpr ⟨hv, by simp [hsubject]⟩
    rw [facts.subjects] at hmem
    obtain ⟨wqe, hwqe, hvisit⟩ := mem_flatMap.mp hmem
    exact .wqe wqe hwqe hvisit

theorem SendFacts.wqeSources : ∀ wqe ∈ send.projection.toList, WqeSource graph entry wqe := by
  intro wqe hw
  obtain ⟨hsource, hsubmitted, -, hexecution, hoperation⟩ :=
    facts.wqes wqe (Option.mem_toList.mp hw)
  exact ⟨hexecution, hoperation, hsource ▸ hrank, by rw [hsource, hsubmitted]; exact hready⟩

end

theorem VisitSource.weaken {wqes' : List WqeLifecycleProjection} (h : VisitSource entry wqes visit)
    (hsub : ∀ wqe ∈ wqes, wqe ∈ wqes') : VisitSource entry wqes' visit := by
  cases h with
  | launch h => exact .launch h
  | resource rank hrank place plain ready => exact .resource rank hrank place plain ready
  | wqe wqe hmem hvisit => exact .wqe wqe (hsub wqe hmem) hvisit

structure VisitFacts (graph : ExecutionGraph) (entry : ReadyEntry) (visits : List QueueVisit)
    (wqes : List WqeLifecycleProjection) (nextExtent : Nat) : Prop where
  launch_mem : entry.launch ∈ visits
  owned : ∀ visit ∈ visits, OwnedBy graph entry.operation visit
  sources : ∀ visit ∈ visits, VisitSource entry wqes visit
  subjects : visits.filter (·.subjectObjectId.isSome) = wqes.flatMap nativeWqeVisits
  wqe_sources : ∀ wqe ∈ wqes, WqeSource graph entry wqe
  extents : (wqes.map (·.extentIndex)).Nodup
  fresh : ∀ wqe ∈ wqes, wqe.extentIndex < nextExtent

theorem EntryFacts.launchVisits (facts : EntryFacts graph edges scheduled entry)
    (nextExtent : Nat) : VisitFacts graph entry [entry.launch] [] nextExtent where
  launch_mem := by simp
  owned := by simpa using facts.owned
  sources := by simpa using EntryFacts.launchSource []
  subjects := by simp [facts.plain]
  wqe_sources := by simp
  extents := by simp
  fresh := by simp

theorem VisitFacts.later {next' : Nat} (facts : VisitFacts graph entry visits wqes next)
    (h : next ≤ next') : VisitFacts graph entry visits wqes next' :=
  { facts with fresh := fun wqe hw => lt_of_lt_of_le (facts.fresh wqe hw) h }

theorem VisitFacts.plainVisit (facts : VisitFacts graph entry visits wqes next)
    (howned : OwnedBy graph entry.operation visit) (hplain : visit.subjectObjectId = none)
    (hsource : VisitSource entry wqes visit) :
    VisitFacts graph entry (visits ++ [visit]) wqes next where
  launch_mem := by simp [facts.launch_mem]
  owned := forall_mem_concat facts.owned howned
  sources := forall_mem_concat facts.sources hsource
  subjects := by simp [facts.subjects, hplain]
  wqe_sources := facts.wqe_sources
  extents := facts.extents
  fresh := facts.fresh

theorem VisitFacts.send {send : SendSchedule}
    (facts : VisitFacts graph entry visits wqes request.extentIndex)
    (sendFacts : SendFacts graph entry.operation request send)
    (hrank : request.sourceRank ∈ operationParticipantRanks entry.operation)
    (hready : entry.ready.byRank.get request.sourceRank ≤ request.submittedAtPs) :
    VisitFacts graph entry (visits ++ send.visits) (wqes ++ send.projection.toList)
      (request.extentIndex + 1) where
  launch_mem := by simp [facts.launch_mem]
  owned := forall_mem_append.mpr ⟨facts.owned, sendFacts.owned⟩
  sources := by
    intro v hv
    rcases mem_append.mp hv with hv | hv
    · exact (facts.sources v hv).weaken fun w hw => mem_append_left _ hw
    · exact (sendFacts.sources hrank hready hv).weaken fun w hw => mem_append_right _ hw
  subjects := by
    rw [filter_append, flatMap_append, facts.subjects, sendFacts.subjects]
  wqe_sources := forall_mem_append.mpr
    ⟨facts.wqe_sources, sendFacts.wqeSources hrank hready⟩
  extents := by
    rw [map_append, nodup_append]
    refine ⟨facts.extents, ?_, ?_⟩
    · cases send.projection <;> simp
    · intro a ha b hb
      obtain ⟨w, hw, rfl⟩ := mem_map.mp ha
      obtain ⟨w', hw', rfl⟩ := mem_map.mp hb
      have hlt := facts.fresh w hw
      have heq := (sendFacts.wqes w' (Option.mem_toList.mp hw')).2.2.1
      omega
  fresh := by
    intro w hw
    rcases mem_append.mp hw with hw | hw
    · exact Nat.lt_succ_of_lt (facts.fresh w hw)
    · have heq := (sendFacts.wqes w (Option.mem_toList.mp hw)).2.2.1
      omega

structure ControlVisit (graph : ExecutionGraph) (entry : ReadyEntry) (control : QueueVisit) :
    Prop where
  owned : OwnedBy graph entry.operation control
  resource : control.resource = controlResource entry.operation.rank
  plain : control.subjectObjectId = none
  eligible : control.eligibleAtPs = entry.ready.byRank.get entry.operation.rank

theorem ControlVisit.ready_le (h : ControlVisit graph entry control) :
    entry.ready.byRank.get entry.operation.rank ≤ control.completedAtPs := by
  rw [← h.eligible]
  exact control.eligible_le_completed

theorem ControlVisit.path (h : ControlVisit graph entry control)
    (facts : EntryFacts graph edges scheduled entry) {bound : Nat}
    (hbound : control.completedAtPs ≤ bound) : PathFacts entry bound [entry.launch, control] := by
  have hlaunch := facts.launched entry.operation.rank
  have hready := h.ready_le
  refine (facts.launchPath (by omega)).append [control] (by simpa using hbound) ?_
  intro visit hv
  cases mem_singleton.mp hv
  exact ⟨.control, by simp [h.resource, controlResource, attributionField]⟩

/-- What the fan-out loop keeps: every reached participant has a completion after its
readiness, with a path and a witness that end by it. -/
structure FanFacts (graph : ExecutionGraph) (entry : ReadyEntry) (control : QueueVisit)
    (nextExtent : Nat) (fan : FanOut τ) : Prop where
  visit : VisitFacts graph entry fan.visits fan.wqes nextExtent
  control_mem : control ∈ fan.visits
  within : ∀ visit ∈ fan.visits, visit.completedAtPs ≤ fan.physicalCompletedAtPs
  path_keys : fan.participantPaths.ranks = fan.completed.ranks
  witness_keys : fan.witnesses.ranks = fan.completed.ranks
  rank_mem : entry.operation.rank ∈ fan.completed.ranks
  participants : ∀ rank ∈ fan.completed.ranks,
    rank ∈ operationParticipantRanks entry.operation
  self_completed : fan.completed.get entry.operation.rank = control.completedAtPs
  self_path : fan.participantPaths.get entry.operation.rank = [entry.launch, control]
  self_witness : fan.witnesses.get entry.operation.rank =
    entry.ready.witnesses.get entry.operation.rank
  ready_le : ∀ rank ∈ fan.completed.ranks, entry.ready.byRank.get rank ≤ fan.completed.get rank
  paths : ∀ rank ∈ fan.completed.ranks,
    PathFacts entry (fan.completed.get rank) (fan.participantPaths.get rank)
  witnesses : ∀ rank ∈ fan.completed.ranks,
    WitnessFrom entry (fan.completed.get rank) (fan.witnesses.get rank)
  physical_max : ∀ rank ∈ fan.completed.ranks, fan.completed.get rank ≤ fan.physicalCompletedAtPs
  physical_mem : ∃ rank ∈ fan.completed.ranks, fan.completed.get rank = fan.physicalCompletedAtPs
  all_ne : fan.paths ≠ []
  all_paths : ∀ path ∈ fan.paths, PathFacts entry fan.physicalCompletedAtPs path ∧
    ∀ visit ∈ path, visit ∈ fan.visits
  all_witnesses : ∀ witness ∈ fan.pathWitnesses,
    WitnessFrom entry fan.physicalCompletedAtPs witness

theorem RankMap.set_ranks_congr {α β : Type} {first : RankMap α} {second : RankMap β}
    (h : first.ranks = second.ranks) (rank : Nat) (a : α) (b : β) :
    (first.set rank a).ranks = (second.set rank b).ranks := by
  simp [RankMap.set, h]

theorem mem_participants_of_control (h : entry.operation.work = .control work) (rank : Nat) :
    rank ∈ operationParticipantRanks entry.operation ↔
      rank = entry.operation.rank ∨ rank ∈ work.destinationRanks := by
  simp [operationParticipantRanks, participantRankSet, h]

section

variable (facts : EntryFacts graph edges scheduled entry)
  (hcontrol : ControlVisit graph entry control)

include facts hcontrol

theorem fanOutStart_facts (machine : Machine τ) :
    FanFacts graph entry control 0 (fanOutStart entry control machine) := by
  have hrank := rank_mem_participants entry.operation
  have hready := hcontrol.ready_le
  have hpath := hcontrol.path facts (le_refl control.completedAtPs)
  have hwitness := (facts.witnessFrom entry.operation.rank).mono hready
  have hsource : VisitSource entry [] control :=
    .resource entry.operation.rank hrank ⟨"control", by rw [hcontrol.resource]; rfl⟩
      hcontrol.plain (le_of_eq hcontrol.eligible.symm)
  exact {
    visit := (facts.launchVisits 0).plainVisit hcontrol.owned hcontrol.plain hsource
    control_mem := by simp [fanOutStart]
    within := by simpa [fanOutStart] using hpath.within
    path_keys := rfl
    witness_keys := rfl
    rank_mem := by simp [fanOutStart]
    participants := by simpa [fanOutStart] using hrank
    self_completed := rfl
    self_path := rfl
    self_witness := rfl
    ready_le := by simpa [fanOutStart] using hready
    paths := by simpa [fanOutStart] using hpath
    witnesses := by simpa [fanOutStart] using hwitness
    physical_max := by simp [fanOutStart]
    physical_mem := by simp [fanOutStart]
    all_ne := by simp [fanOutStart]
    all_paths := by
      intro path hp
      cases mem_singleton.mp hp
      exact ⟨hpath, fun _ h => h⟩
    all_witnesses := by simpa [fanOutStart] using hwitness }

theorem deliverControl_facts {fan next : FanOut τ} {destination : Nat × Nat}
    (inv : FanFacts graph entry control destination.2 fan)
    (hdest : destination.1 ∈ operationParticipantRanks entry.operation)
    (h : deliverControl cfg graph entry work control fan destination = .ok next) :
    FanFacts graph entry control (destination.2 + 1) next ∧
      (∀ rank ∈ fan.completed.ranks, rank ∈ next.completed.ranks) ∧
      destination.1 ∈ next.completed.ranks := by
  unfold deliverControl at h
  simp only at h
  split at h
  next hself =>
    cases h
    exact ⟨{ inv with visit := inv.visit.later (Nat.le_succ _) }, fun _ hr => hr,
      hself ▸ inv.rank_mem⟩
  next hne =>
    obtain ⟨⟨send, machine⟩, hsend, h⟩ := of_bind h
    dsimp only at h
    obtain ⟨previous, hprevious⟩ : ∃ previous, previous = if destination.1 ∈ fan.completed.ranks
      then fan.completed.get destination.1 else 0 := ⟨_, rfl⟩
    rw [← hprevious] at h
    obtain rfl := Except.ok.inj h
    have hprior : previous ≤ fan.physicalCompletedAtPs := by
      rw [hprevious]
      split
      next hin => exact inv.physical_max _ hin
      next => exact Nat.zero_le _
    have sent := scheduleSemanticSend_facts hsend
    have hready := hcontrol.ready_le
    have helig : max control.completedAtPs (entry.ready.byRank.get destination.1) ≤
        send.completedAtPs := sent.eligible_le
    have hrank := rank_mem_participants entry.operation
    have hvisit := inv.visit.send sent hrank hready
    have hpath := (hcontrol.path facts (by omega)).append send.visits sent.within fun v hv =>
        transferKinds_attributable (sent.kinds v hv)
    have hwitness : WitnessFrom entry send.completedAtPs
        (selectCausalWitness
          (control.completedAtPs, entry.ready.witnesses.get entry.operation.rank)
          [(entry.ready.byRank.get destination.1, entry.ready.witnesses.get destination.1)]) := by
      apply WitnessFrom.select
      simp only [mem_cons, not_mem_nil, or_false, forall_eq_or_imp, forall_eq]
      exact ⟨(facts.witnessFrom _).mono (by omega), (facts.witnessFrom _).mono (by omega)⟩
    have hself : entry.operation.rank ≠ destination.1 := fun heq => hne heq.symm
    refine ⟨?_, fun rank hr => RankMap.mem_set_ranks.mpr (.inl hr),
      RankMap.mem_set_ranks.mpr (.inr rfl)⟩
    exact {
      visit := hvisit
      control_mem := mem_append_left _ inv.control_mem
      within := forall_mem_append.mpr ⟨fun v hv => le_trans (inv.within v hv) (le_max_left _ _),
          fun v hv => le_trans (sent.within v hv) (le_max_right _ _)⟩
      path_keys := set_ranks_congr inv.path_keys _ _ _
      witness_keys := set_ranks_congr inv.witness_keys _ _ _
      rank_mem := RankMap.mem_set_ranks.mpr (.inl inv.rank_mem)
      participants := by
        intro rank hr
        rcases RankMap.mem_set_ranks.mp hr with hr | rfl
        · exact inv.participants rank hr
        · exact hdest
      self_completed := by rw [set_get, if_neg hself]; exact inv.self_completed
      self_path := by rw [set_get, if_neg hself]; exact inv.self_path
      self_witness := by rw [set_get, if_neg hself]; exact inv.self_witness
      ready_le := by
        intro rank hr
        rw [set_get]
        split
        next heq =>
          subst heq
          omega
        next hother =>
          exact inv.ready_le rank ((RankMap.mem_set_ranks.mp hr).resolve_right hother)
      paths := by
        intro rank hr
        rw [set_get, set_get]
        split
        next => exact hpath.mono (le_max_right _ _)
        next hother =>
          exact inv.paths rank ((RankMap.mem_set_ranks.mp hr).resolve_right hother)
      witnesses := by
        intro rank hr
        rw [set_get, set_get]
        split
        next => exact hwitness.mono (le_max_right _ _)
        next hother =>
          exact inv.witnesses rank ((RankMap.mem_set_ranks.mp hr).resolve_right hother)
      physical_max := by
        intro rank hr
        rw [set_get]
        split
        next => exact max_le_max hprior (le_refl _)
        next hother =>
          have := inv.physical_max rank ((RankMap.mem_set_ranks.mp hr).resolve_right hother)
          exact le_trans this (le_max_left _ _)
      physical_mem := by
        -- either the send ends the message, or the participant that ended it before does
        obtain ⟨last, hlast, hcompleted⟩ := inv.physical_mem
        dsimp only
        by_cases hlate : fan.physicalCompletedAtPs ≤ send.completedAtPs
        · refine ⟨destination.1, RankMap.mem_set_ranks.mpr (.inr rfl), ?_⟩
          rw [set_get, if_pos rfl]
          omega
        · refine ⟨last, RankMap.mem_set_ranks.mpr (.inl hlast), ?_⟩
          rw [set_get]
          split
          next heq =>
            subst heq
            rw [if_pos hlast] at hprevious
            omega
          next => omega
      all_ne := by simp
      all_paths := by
        refine forall_mem_concat (fun path hp => ?_) ⟨hpath.mono (le_max_right _ _), ?_⟩
        · obtain ⟨hfacts, hsub⟩ := inv.all_paths path hp
          exact ⟨hfacts.mono (le_max_left _ _), fun v hv => mem_append_left _ (hsub v hv)⟩
        · intro v hv
          rcases mem_cons.mp hv with rfl | hv
          · exact mem_append_left _ inv.visit.launch_mem
          · rcases mem_cons.mp hv with rfl | hv
            · exact mem_append_left _ inv.control_mem
            · exact mem_append_right _ hv
      all_witnesses := forall_mem_concat
        (fun w hw => (inv.all_witnesses w hw).mono (le_max_left _ _))
        (hwitness.mono (le_max_right _ _)) }

theorem deliverAll_facts {destinations : List Nat} {start : Nat} {fan final : FanOut τ}
    (inv : FanFacts graph entry control start fan)
    (hdest : ∀ rank ∈ destinations, rank ∈ operationParticipantRanks entry.operation)
    (h : (destinations.zipIdx start).foldlM (deliverControl cfg graph entry work control) fan =
      .ok final) : (∃ next, FanFacts graph entry control next final) ∧
      (∀ rank ∈ fan.completed.ranks, rank ∈ final.completed.ranks) ∧
      ∀ rank ∈ destinations, rank ∈ final.completed.ranks := by
  induction destinations generalizing start fan with
  | nil =>
    cases h
    exact ⟨⟨start, inv⟩, fun _ hr => hr, by simp⟩
  | cons destination rest ih =>
    obtain ⟨next, hstep, hrest⟩ := of_bind h
    obtain ⟨hinv, hkeep, hreached⟩ :=
      deliverControl_facts facts hcontrol inv (hdest destination (by simp)) hstep
    obtain ⟨hfinal, hkeep', hall⟩ := ih hinv (fun rank hr => hdest rank (by simp [hr])) hrest
    refine ⟨hfinal, fun rank hr => hkeep' rank (hkeep rank hr), ?_⟩
    intro rank hr
    rcases mem_cons.mp hr with rfl | hr
    · exact hkeep' rank hreached
    · exact hall rank hr

theorem controlCompletion_facts {fan : FanOut τ}
    (inv : FanFacts graph entry control next fan) {logical : Nat} {paths : List (List QueueVisit)}
    {witness : Option CausalWitness}
    (h : controlCompletion entry work control fan = .ok (logical, paths, witness)) :
    (logical = fan.physicalCompletedAtPs ∨ logical = control.completedAtPs) ∧ paths ≠ [] ∧
      (∀ path ∈ paths, PathFacts entry logical path ∧ ∀ visit ∈ path, visit ∈ fan.visits) ∧
      WitnessFrom entry logical witness := by
  unfold controlCompletion at h
  cases hmode : work.mode with
  | synchronous =>
    simp only [hmode] at h
    obtain ⟨index, -, h⟩ := of_bind h
    cases h
    refine ⟨.inl rfl, inv.all_ne, inv.all_paths, ?_⟩
    cases hget : fan.pathWitnesses[index]? with
    | none => exact fun w hw => by simp at hw
    | some chosen => exact inv.all_witnesses chosen (mem_of_getElem? hget)
  | asynchronous =>
    simp only [hmode] at h
    cases h
    refine ⟨.inr rfl, by simp, ?_, (facts.witnessFrom _).mono hcontrol.ready_le⟩
    intro path hp
    cases mem_singleton.mp hp
    exact ⟨hcontrol.path facts (le_refl _), by simp [inv.visit.launch_mem, inv.control_mem]⟩

end

theorem deliverControl_cases {fan after : FanOut τ} {destination : Nat × Nat}
    (h : deliverControl cfg graph entry work control fan destination = .ok after) :
    after = fan ∨ ∃ request send, scheduleSemanticSend cfg graph entry.operation request
      fan.machine = .ok (send, after.machine) ∧ after.visits = fan.visits ++ send.visits ∧
      after.wqes = fan.wqes ++ send.projection.toList := by
  unfold deliverControl at h
  dsimp only at h
  split at h
  next =>
    cases h
    exact .inl rfl
  next =>
    obtain ⟨⟨send, machine⟩, hsend, h⟩ := of_bind h
    cases h
    exact .inr ⟨_, send, hsend, rfl, rfl⟩

theorem controlVisit_of_data {state : RuntimeState}
    (h : control.toVisitData = controlVisitData cfg graph entry work state) :
    ControlVisit graph entry control :=
  ⟨⟨by rw [h]; rfl, by rw [h]; rfl⟩, by rw [h]; rfl, by rw [h]; rfl, by rw [h]; rfl⟩

theorem scheduleControl_eq_ok (h : scheduleControl cfg graph entry work m = .ok (outcome, m')) :
    ∃ (control : QueueVisit) (fan : FanOut τ) (logical : Nat) (paths : List (List QueueVisit))
        (witness : Option CausalWitness),
      control.toVisitData = controlVisitData cfg graph entry work m.state ∧
      work.destinationRanks.zipIdx.foldlM (deliverControl cfg graph entry work control)
        (fanOutStart entry control ⟨m.state.reserveControl entry.operation.rank
          control.finishedAtPs, m.wqe⟩) = .ok fan ∧
      controlCompletion entry work control fan = .ok (logical, paths, witness) ∧
      m' = fan.machine ∧
      outcome =
        { operation := entry.operation
          logicalCompletedAtPs := logical
          physicalCompletedAtPs := fan.physicalCompletedAtPs
          participantCompletedAtPs := fan.completed.set entry.operation.rank logical
          participantPaths := fan.participantPaths
          participantCausalWitnesses := fan.witnesses
          visits := fan.visits
          logicalPaths := paths
          eligibleAtPs := entry.ready.byRank.get entry.operation.rank
          criticalPredecessorId := witness.map (·.predecessorId)
          criticalPredecessorCompletedAtPs := witness.map (·.completedAtPs)
          wqes := fan.wqes } := by
  obtain ⟨control, hcontrol, h⟩ := of_bind h
  obtain ⟨fan, hfan, h⟩ := of_bind h
  obtain ⟨⟨logical, paths, witness⟩, hcompletion, h⟩ := of_bind h
  cases h
  exact ⟨control, fan, logical, paths, witness, QueueVisit.make_eq_ok.mp hcontrol, hfan,
    hcompletion, rfl, rfl⟩

theorem scheduleControl_facts (facts : EntryFacts graph edges scheduled entry)
    (hwork : entry.operation.work = .control work)
    (h : scheduleControl cfg graph entry work m = .ok (outcome, m')) :
    OutcomeFacts graph entry outcome := by
  obtain ⟨control, fan, logical, paths, witness, hdata, hfan, hcompletion, -, rfl⟩ :=
    scheduleControl_eq_ok h
  have hcontrol := controlVisit_of_data hdata
  have hranks := mem_participants_of_control hwork
  obtain ⟨⟨next, inv⟩, hkeep, hreached⟩ := deliverAll_facts facts hcontrol
    (fanOutStart_facts facts hcontrol _) (fun rank hr => (hranks rank).mpr (.inr hr)) hfan
  obtain ⟨hlogical, hne, hpaths, hwitness⟩ :=
    controlCompletion_facts facts hcontrol inv hcompletion
  have hready := hcontrol.ready_le
  have hphysical := inv.within control inv.control_mem
  have hafter : control.completedAtPs ≤ logical := by omega
  have hkeys : ∀ rank, rank ∈ fan.completed.ranks ↔
      rank ∈ operationParticipantRanks entry.operation := by
    intro rank
    refine ⟨inv.participants rank, fun hr => ?_⟩
    rcases (hranks rank).mp hr with rfl | hr
    · exact inv.rank_mem
    · exact hreached rank hr
  exact {
    operation := rfl
    keys := fun rank => by
      rw [set_ranks_of_mem inv.rank_mem]
      exact hkeys rank
    path_keys := fun rank => by rw [inv.path_keys]; exact hkeys rank
    witness_keys := fun rank => by rw [inv.witness_keys]; exact hkeys rank
    ready_le := fun rank hr => by
      rw [set_get]
      split
      next heq =>
        subst heq
        omega
      next => exact inv.ready_le rank ((hkeys rank).mpr hr)
    paths := fun rank hr => by
      rw [set_get]
      split
      next heq =>
        subst heq
        rw [inv.self_path]
        exact hcontrol.path facts hafter
      next => exact inv.paths rank ((hkeys rank).mpr hr)
    witnesses := fun rank hr => by
      rw [set_get]
      split
      next heq =>
        subst heq
        rw [inv.self_witness]
        exact (facts.witnessFrom _).mono (by omega)
      next => exact inv.witnesses rank ((hkeys rank).mpr hr)
    logical_mem := ⟨_, rank_mem_participants _, by simp [set_get]⟩
    physical_mem := by
      obtain ⟨last, hlast, hcompleted⟩ := inv.physical_mem
      rcases hlogical with rfl | rfl
      · exact ⟨_, rank_mem_participants _, by simp [set_get]⟩
      · refine ⟨last, (hkeys last).mp hlast, ?_⟩
        rw [set_get]
        split
        next heq =>
          subst heq
          rw [← hcompleted, inv.self_completed]
        next => exact hcompleted
    physical_max := fun rank hr => by
      rw [set_get]
      split
      next =>
        show logical ≤ fan.physicalCompletedAtPs
        omega
      next => exact inv.physical_max rank ((hkeys rank).mpr hr)
    logical_ne := hne
    logical := hpaths
    critical := ⟨witness, rfl, rfl, hwitness⟩
    launch_mem := inv.visit.launch_mem
    owned := inv.visit.owned
    sources := inv.visit.sources
    subjects := inv.visit.subjects
    wqes := inv.visit.wqe_sources
    extents := inv.visit.extents }

end SimLLM
