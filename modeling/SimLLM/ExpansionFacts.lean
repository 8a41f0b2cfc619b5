import SimLLM.ControlFacts

namespace SimLLM

open List FirstExtremum

variable {κ σ τ : Type} {cfg : RuntimeConfig κ σ τ} {graph : ExecutionGraph}
  {entry : ReadyEntry} {m m' : Machine τ}

variable {request : HopRequest} {sender receiver : Frontier}

theorem scheduleHop_eq_ok {hop : Hop}
    (h : scheduleHop cfg graph entry.operation entry.launch request sender receiver m =
      .ok (hop, m')) :
    ∃ between : Machine τ, hop.request = request ∧
      scheduleNcclChannel cfg graph entry.operation request.source request.channel
        entry.launch.completedAtPs sender.readyAtPs m = .ok (hop.channel, between) ∧
      scheduleSemanticSend cfg graph entry.operation
        (hopSendRequest graph entry.operation request hop.channel receiver.readyAtPs) between =
          .ok (hop.send, m') ∧
      hop.witness = selectCausalWitness (hop.channel.completedAtPs, sender.witness)
        [(receiver.readyAtPs, receiver.witness)] := by
  obtain ⟨⟨channel, between⟩, hchannel, h⟩ := of_bind h
  obtain ⟨⟨send, after⟩, hsend, h⟩ := of_bind h
  cases h
  exact ⟨between, rfl, hchannel, hsend, rfl⟩

structure HopFacts (graph : ExecutionGraph) (entry : ReadyEntry) (request : HopRequest)
    (sender receiver : Frontier) (hop : Hop) : Prop where
  request_eq : hop.request = request
  channel_owned : OwnedBy graph entry.operation hop.channel
  channel_resource : hop.channel.resource = ncclResource request.source request.channel
  channel_plain : hop.channel.subjectObjectId = none
  channel_eligible : hop.channel.eligibleAtPs = sender.readyAtPs
  send : SendFacts graph entry.operation
    (hopSendRequest graph entry.operation request hop.channel receiver.readyAtPs) hop.send
  sender_le : sender.readyAtPs ≤ hop.channel.completedAtPs
  channel_le : hop.channel.completedAtPs ≤ hop.completedAtPs
  receiver_le : receiver.readyAtPs ≤ hop.completedAtPs
  witness : hop.witness = selectCausalWitness (hop.channel.completedAtPs, sender.witness)
    [(receiver.readyAtPs, receiver.witness)]

theorem scheduleHop_facts {hop : Hop}
    (h : scheduleHop cfg graph entry.operation entry.launch request sender receiver m =
      .ok (hop, m')) :
    HopFacts graph entry request sender receiver hop := by
  obtain ⟨between, hrequest, hchannel, hsend, hwitness⟩ := scheduleHop_eq_ok h
  obtain ⟨hdata, -⟩ := scheduleNcclChannel_eq_ok hchannel
  have sent := scheduleSemanticSend_facts hsend
  have helig : hop.channel.eligibleAtPs = sender.readyAtPs := by rw [hdata]; rfl
  have hdone := hop.channel.eligible_le_completed
  have hle := sent.eligible_le
  exact {
    request_eq := hrequest
    channel_owned := ⟨by rw [hdata]; rfl, by rw [hdata]; rfl⟩
    channel_resource := by rw [hdata]; rfl
    channel_plain := by rw [hdata]; rfl
    channel_eligible := helig
    send := sent
    sender_le := by omega
    channel_le := le_trans (le_max_left _ _) hle
    receiver_le := le_trans (le_max_right _ _) hle
    witness := hwitness }

namespace HopFacts

variable {hop : Hop}

section

variable (facts : HopFacts graph entry request sender receiver hop)

include facts

variable {visit : QueueVisit}

theorem within (hv : visit ∈ hop.visits) : visit.completedAtPs ≤ hop.completedAtPs := by
  rcases mem_cons.mp hv with rfl | hv
  · exact facts.channel_le
  · exact facts.send.within visit hv

theorem attributable (hv : visit ∈ hop.visits) :
    ∃ field, attributionField entry.operation visit.resource.kind = .ok field := by
  rcases mem_cons.mp hv with rfl | hv
  · exact ⟨.collective, by simp [facts.channel_resource, ncclResource, attributionField]⟩
  · exact transferKinds_attributable (facts.send.kinds visit hv)

theorem sender_completed :
    sender.readyAtPs ≤ hop.completedAtPs := le_trans facts.sender_le facts.channel_le

theorem path {before : List QueueVisit} (hbefore : PathFacts entry sender.readyAtPs before) :
    PathFacts entry hop.completedAtPs (before ++ hop.visits) :=
  (hbefore.mono facts.sender_completed).append hop.visits (fun _ hv => facts.within hv)
    fun _ hv => facts.attributable hv

theorem witnessFrom (hsender : WitnessFrom entry sender.readyAtPs sender.witness)
    (hreceiver : WitnessFrom entry receiver.readyAtPs receiver.witness) :
    WitnessFrom entry hop.completedAtPs hop.witness := by
  rw [facts.witness]
  apply WitnessFrom.select
  simp only [mem_cons, not_mem_nil, or_false, forall_eq_or_imp, forall_eq]
  exact ⟨hsender.mono facts.sender_completed, hreceiver.mono facts.receiver_le⟩

theorem visits {visits : List QueueVisit} {wqes : List WqeLifecycleProjection}
    (before : VisitFacts graph entry visits wqes request.extentIndex)
    (hrank : request.source ∈ operationParticipantRanks entry.operation)
    (hready : entry.ready.byRank.get request.source ≤ sender.readyAtPs) :
    VisitFacts graph entry (visits ++ hop.visits) (wqes ++ hop.send.projection.toList)
      (request.extentIndex + 1) := by
  have hsource : VisitSource entry wqes hop.channel := by
    refine .resource request.source hrank ?_ facts.channel_plain ?_
    · exact ⟨_, by rw [facts.channel_resource]; rfl⟩
    · rw [facts.channel_eligible]
      exact hready
  have hchannel := before.plainVisit facts.channel_owned facts.channel_plain hsource
  have hsent := hchannel.send facts.send hrank (le_trans hready facts.sender_le)
  rwa [append_assoc] at hsent

end

end HopFacts

structure ProgressFacts (entry : ReadyEntry) (visits : List QueueVisit) (progress : Progress) :
    Prop where
  keys : ∀ rank, rank ∈ progress.completed.ranks ↔
    rank ∈ operationParticipantRanks entry.operation
  path_keys : ∀ rank, rank ∈ progress.paths.ranks ↔
    rank ∈ operationParticipantRanks entry.operation
  witness_keys : ∀ rank, rank ∈ progress.witnesses.ranks ↔
    rank ∈ operationParticipantRanks entry.operation
  ready_le : ∀ rank ∈ operationParticipantRanks entry.operation,
    entry.ready.byRank.get rank ≤ progress.completed.get rank
  paths : ∀ rank ∈ operationParticipantRanks entry.operation,
    PathFacts entry (progress.completed.get rank) (progress.paths.get rank)
  visited : ∀ rank ∈ operationParticipantRanks entry.operation,
    ∀ visit ∈ progress.paths.get rank, visit ∈ visits
  witnesses : ∀ rank ∈ operationParticipantRanks entry.operation,
    WitnessFrom entry (progress.completed.get rank) (progress.witnesses.get rank)

theorem ProgressFacts.visits_mono {visits visits' : List QueueVisit} {progress : Progress}
    (facts : ProgressFacts entry visits progress) (hsub : ∀ visit ∈ visits, visit ∈ visits') :
    ProgressFacts entry visits' progress :=
  { facts with visited := fun rank hr visit hv => hsub visit (facts.visited rank hr visit hv) }

theorem mem_set_ranks_of_mem {α : Type} {mapping : RankMap α} {rank r : Nat} {value : α}
    {participants : List Nat} (hkeys : ∀ r, r ∈ mapping.ranks ↔ r ∈ participants)
    (hrank : rank ∈ participants) : r ∈ (mapping.set rank value).ranks ↔ r ∈ participants := by
  rw [RankMap.set_ranks_of_mem ((hkeys rank).mpr hrank)]
  exact hkeys r

theorem ProgressFacts.absorb {visits : List QueueVisit} {progress : Progress}
    (facts : ProgressFacts entry visits progress) {completedAtPs rank : Nat}
    {witness : Option CausalWitness} {path : List QueueVisit}
    (hrank : rank ∈ operationParticipantRanks entry.operation)
    (hpath : PathFacts entry completedAtPs path) (hvisited : ∀ visit ∈ path, visit ∈ visits)
    (hwitness : WitnessFrom entry completedAtPs witness) :
    ProgressFacts entry visits (progress.absorb completedAtPs witness path rank) := by
  have hselected : ∀ bound, progress.completed.get rank ≤ bound → completedAtPs ≤ bound →
      WitnessFrom entry bound (selectCausalWitness
        (progress.completed.get rank, progress.witnesses.get rank)
        [(completedAtPs, witness)]) := by
    intro bound h₁ h₂
    apply WitnessFrom.select
    simp only [mem_cons, not_mem_nil, or_false, forall_eq_or_imp, forall_eq]
    exact ⟨(facts.witnesses rank hrank).mono h₁, hwitness.mono h₂⟩
  unfold Progress.absorb
  by_cases hlate : progress.completed.get rank ≤ completedAtPs
  · simp only [if_pos hlate]
    refine ⟨fun r => mem_set_ranks_of_mem facts.keys hrank,
      fun r => mem_set_ranks_of_mem facts.path_keys hrank,
      fun r => mem_set_ranks_of_mem facts.witness_keys hrank, ?_, ?_, ?_, ?_⟩
    · intro r hr
      rw [RankMap.set_get]
      split
      next heq =>
        subst heq
        exact le_trans (facts.ready_le r hr) hlate
      next => exact facts.ready_le r hr
    · intro r hr
      simp only [RankMap.set_get]
      split
      next => exact hpath
      next => exact facts.paths r hr
    · intro r hr
      simp only [RankMap.set_get]
      split
      next => exact hvisited
      next => exact facts.visited r hr
    · intro r hr
      simp only [RankMap.set_get]
      split
      next => exact hselected _ hlate (le_refl _)
      next => exact facts.witnesses r hr
  · simp only [if_neg hlate]
    refine ⟨facts.keys, facts.path_keys,
      fun r => mem_set_ranks_of_mem facts.witness_keys hrank, facts.ready_le, facts.paths,
      facts.visited, ?_⟩
    intro r hr
    simp only [RankMap.set_get]
    split
    next heq =>
      subst heq
      exact hselected _ (le_refl _) (by omega)
    next => exact facts.witnesses r hr

section

variable (progress : Progress) (completedAtPs rank : Nat) (witness : Option CausalWitness)
  (path : List QueueVisit)

include progress completedAtPs rank witness path

theorem absorb_completed (r : Nat) :
    (progress.absorb completedAtPs witness path rank).completed.get r =
      if r = rank then max (progress.completed.get rank) completedAtPs
      else progress.completed.get r := by
  unfold Progress.absorb
  by_cases hlate : progress.completed.get rank ≤ completedAtPs
  · simp only [if_pos hlate, RankMap.set_get, max_eq_right hlate]
  · simp only [if_neg hlate]
    split
    next heq =>
      subst heq
      omega
    next => rfl

theorem le_absorb_completed (r : Nat) : progress.completed.get r ≤
      (progress.absorb completedAtPs witness path rank).completed.get r := by
  rw [absorb_completed]
  split
  next heq =>
    subst heq
    exact le_max_left _ _
  next => exact le_refl _

theorem le_absorb_self :
    completedAtPs ≤ (progress.absorb completedAtPs witness path rank).completed.get rank := by
  rw [absorb_completed, if_pos rfl]
  exact le_max_right _ _

end

/-- What a realized expansion is made of: where its participants ended, and the paths and
witnesses its logical boundary is selected from. -/
structure SelectionFacts (entry : ReadyEntry) (visits : List QueueVisit) (progress : Progress)
    (paths : List (List QueueVisit)) (pathWitnesses : List (Option CausalWitness)) : Prop where
  paths : ∀ path ∈ paths, (∀ visit ∈ path, visit ∈ visits) ∧
    ∃ rank ∈ operationParticipantRanks entry.operation,
      PathFacts entry (progress.completed.get rank) path
  witnesses : ∀ witness ∈ pathWitnesses, ∃ rank ∈ operationParticipantRanks entry.operation,
    WitnessFrom entry (progress.completed.get rank) witness

theorem finishCollective_facts {expansion : Expansion τ} {progress : Progress} {next : Nat}
    {paths : List (List QueueVisit)} {pathWitnesses : List (Option CausalWitness)}
    {outcome : ScheduledOperation}
    (hvisits : VisitFacts graph entry expansion.visits expansion.wqes next)
    (hprogress : ProgressFacts entry expansion.visits progress)
    (hselection : SelectionFacts entry expansion.visits progress paths pathWitnesses)
    (h : finishCollective graph entry expansion progress paths pathWitnesses = .ok outcome) :
    OutcomeFacts graph entry outcome := by
  obtain ⟨index, hindex, h⟩ := of_bind h
  obtain rfl := Except.ok.inj h
  have hle := fun rank hr =>
    le_maxValue ((hprogress.keys rank).mpr hr)
  have hne := ne_nil_of_mem
    ((hprogress.keys entry.operation.rank).mpr (rank_mem_participants entry.operation))
  obtain ⟨last, hlast, hmax⟩ := maxValue_mem hne
  have hlast := (hprogress.keys last).mp hlast
  have hpath : paths ≠ [] := by
    rintro rfl
    simp [logicalPathIndex] at hindex
  have hwitness : WitnessFrom entry (maxValue progress.completed)
      (if (paths[index]?.bind (·.getLast?)).map (·.completedAtPs) =
        some (maxValue progress.completed) then (pathWitnesses[index]?).getD none
      else completionCausalWitness progress.completed progress.witnesses) := by
    split
    next =>
      cases hget : pathWitnesses[index]? with
      | none => exact fun w hw => by simp at hw
      | some chosen =>
        obtain ⟨rank, hr, hfrom⟩ := hselection.witnesses chosen (mem_of_getElem? hget)
        exact hfrom.mono (hle rank hr)
    next =>
      apply completionCausalWitness_from
      intro rank hr
      have hr := (hprogress.keys rank).mp hr
      exact (hprogress.witnesses rank hr).mono (hle rank hr)
  exact {
    operation := rfl
    keys := hprogress.keys
    path_keys := hprogress.path_keys
    witness_keys := hprogress.witness_keys
    ready_le := hprogress.ready_le
    paths := hprogress.paths
    witnesses := hprogress.witnesses
    logical_mem := ⟨last, hlast, hmax⟩
    physical_mem := ⟨last, hlast, hmax⟩
    physical_max := hle
    logical_ne := hpath
    logical := by
      intro path hp
      obtain ⟨hsub, rank, hr, hfacts⟩ := hselection.paths path hp
      exact ⟨hfacts.mono (hle rank hr), hsub⟩
    critical := ⟨_, rfl, rfl, hwitness⟩
    launch_mem := hvisits.launch_mem
    owned := hvisits.owned
    sources := hvisits.sources
    subjects := hvisits.subjects
    wqes := hvisits.wqe_sources
    extents := hvisits.extents }

end SimLLM
