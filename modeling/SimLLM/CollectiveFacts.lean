import SimLLM.ExpansionFacts

namespace SimLLM

open List FirstExtremum

variable {pair : PairPayload} {ranks : List Nat} {visits : List QueueVisit}
variable {progress before : Progress} {goalTag index : Nat} {outcome : ScheduledOperation}

variable {κ σ τ : Type} {cfg : RuntimeConfig κ σ τ} {graph : ExecutionGraph}
  {edges : List EffectiveDependencyEdge} {scheduled : List ScheduledOperation}
  {entry : ReadyEntry} {work : CollectiveWork} {m m' : Machine τ}

theorem mem_participants_of_collective (hwork : entry.operation.work = .collective work)
    (hfacts : CollectiveFacts entry.operation work) (rank : Nat) :
    rank ∈ operationParticipantRanks entry.operation ↔ rank ∈ work.ranks := by
  simp only [operationParticipantRanks, participantRankSet, hwork, mem_sortedSet, mem_cons]
  refine ⟨?_, .inr⟩
  rintro (rfl | h)
  · exact hfacts.anchor
  · exact h

theorem pairPayloads_endpoints (hfacts : CollectiveFacts entry.operation work)
    (hpair : pair ∈ pairPayloads work) : pair.source ∈ work.ranks ∧ pair.destination ∈ work.ranks ∧
      pair.source ≠ pair.destination := by
  unfold pairPayloads at hpair
  split at hpair
  next => exact hfacts.pairs pair hpair
  next =>
    obtain ⟨source, hsource, hpair⟩ := mem_flatMap.mp hpair
    obtain ⟨destination, hdestination, rfl⟩ := mem_map.mp hpair
    obtain ⟨hmem, hne⟩ := mem_filter.mp hdestination
    exact ⟨hsource, hmem, by simpa using hne⟩

theorem startProgress_facts (facts : EntryFacts graph edges scheduled entry)
    (hranks : ∀ rank, rank ∈ ranks ↔ rank ∈ operationParticipantRanks entry.operation) :
    ProgressFacts entry [entry.launch]
      ⟨entry.ready.byRank, entry.ready.witnesses, .const ranks [entry.launch]⟩ where
  keys rank := by rw [facts.keys]
  path_keys := hranks
  witness_keys rank := by rw [facts.witness_keys]
  ready_le _ _ := le_refl _
  paths rank _ := facts.launchPath (facts.launched rank)
  visited := by simp
  witnesses rank _ := facts.witnessFrom rank

structure PairwiseFacts (graph : ExecutionGraph) (entry : ReadyEntry) (next : Nat)
    (acc : Pairwise τ) : Prop where
  visits : VisitFacts graph entry acc.expansion.visits acc.expansion.wqes next
  progress : ProgressFacts entry acc.expansion.visits acc.progress
  selection : SelectionFacts entry acc.expansion.visits acc.progress acc.paths acc.pathWitnesses

variable {paths : List (List QueueVisit)} {pathWitnesses : List (Option CausalWitness)}

theorem SelectionFacts.mono {visits' : List QueueVisit} {progress' : Progress}
    (facts : SelectionFacts entry visits progress paths pathWitnesses)
    (hsub : ∀ visit ∈ visits, visit ∈ visits')
    (hle : ∀ rank, progress.completed.get rank ≤ progress'.completed.get rank) :
    SelectionFacts entry visits' progress' paths pathWitnesses where
  paths path hp := by
    obtain ⟨hvisited, rank, hr, hfacts⟩ := facts.paths path hp
    exact ⟨fun visit hv => hsub visit (hvisited visit hv), rank, hr, hfacts.mono (hle rank)⟩
  witnesses witness hw := by
    obtain ⟨rank, hr, hfrom⟩ := facts.witnesses witness hw
    exact ⟨rank, hr, hfrom.mono (hle rank)⟩

theorem SelectionFacts.snoc
    (facts : SelectionFacts entry visits progress paths pathWitnesses) {path : List QueueVisit}
    {witness : Option CausalWitness} {bound rank : Nat}
    (hrank : rank ∈ operationParticipantRanks entry.operation) (hpath : PathFacts entry bound path)
    (hvisited : ∀ visit ∈ path, visit ∈ visits) (hwitness : WitnessFrom entry bound witness)
    (hbound : bound ≤ progress.completed.get rank) :
    SelectionFacts entry visits progress (paths ++ [path]) (pathWitnesses ++ [witness]) where
  paths := forall_mem_concat facts.paths ⟨hvisited, rank, hrank, hpath.mono hbound⟩
  witnesses := forall_mem_concat facts.witnesses ⟨rank, hrank, hwitness.mono hbound⟩

theorem pairwiseSend_facts (facts : EntryFacts graph edges scheduled entry) {acc next : Pairwise τ}
    (inv : PairwiseFacts graph entry index acc)
    (hsource : pair.source ∈ operationParticipantRanks entry.operation)
    (hdestination : pair.destination ∈ operationParticipantRanks entry.operation)
    (h : pairwiseSend cfg graph entry work goalTag acc (pair, index) = .ok next) :
    PairwiseFacts graph entry (index + 1) next := by
  obtain ⟨⟨hop, machine⟩, hhop, h⟩ := of_bind h
  obtain rfl := Except.ok.inj h
  have hop_facts := scheduleHop_facts hhop
  have hvisits := hop_facts.visits inv.visits hsource (le_refl _)
  have hsub : ∀ visit ∈ acc.expansion.visits, visit ∈ acc.expansion.visits ++ hop.visits :=
    fun visit hv => mem_append_left _ hv
  have hpath := hop_facts.path (facts.launchPath (facts.launched pair.source))
  have hvisited : ∀ visit ∈ entry.launch :: hop.visits,
      visit ∈ acc.expansion.visits ++ hop.visits := by
    exact forall_mem_cons.mpr ⟨mem_append_left _ inv.visits.launch_mem,
      fun visit hv => mem_append_right _ hv⟩
  have hwitness := hop_facts.witnessFrom (facts.witnessFrom _) (facts.witnessFrom _)
  have hsent := (inv.progress.visits_mono hsub).absorb hsource hpath hvisited hwitness
  have hdone := hsent.absorb hdestination hpath hvisited hwitness
  refine ⟨hvisits, hdone, ?_⟩
  refine (inv.selection.mono hsub ?_).snoc hsource hpath hvisited hwitness ?_
  · exact fun rank => le_trans (le_absorb_completed _ _ _ _ _ rank)
      (le_absorb_completed _ _ _ _ _ rank)
  · exact le_trans (le_absorb_self _ _ _ _ _) (le_absorb_completed _ _ _ _ _ _)

structure RingHop (graph : ExecutionGraph) (entry : ReadyEntry) (before : Progress)
    (visits : List QueueVisit) (hop : Hop) : Prop where
  facts : HopFacts graph entry hop.request (before.frontier hop.request.source)
    (before.frontier hop.request.destination) hop
  source : hop.request.source ∈ operationParticipantRanks entry.operation
  destination : hop.request.destination ∈ operationParticipantRanks entry.operation
  visited : ∀ visit ∈ hop.visits, visit ∈ visits

structure RoundFacts (graph : ExecutionGraph) (entry : ReadyEntry) (before : Progress)
    (next : Nat) (acc : Expansion τ × List Hop) : Prop where
  visits : VisitFacts graph entry acc.1.visits acc.1.wqes next
  progress : ProgressFacts entry acc.1.visits before
  hops : ∀ hop ∈ acc.2, RingHop graph entry before acc.1.visits hop

theorem ring_destination_mem (hne : ranks ≠ []) (index : Nat) :
    ranks.getD ((index + 1) % ranks.length) 0 ∈ ranks := by
  have hpos := length_pos_iff.mpr hne
  have hlt := Nat.mod_lt (index + 1) hpos
  rw [getD_eq_getElem?_getD, getElem?_eq_getElem hlt]
  exact getElem_mem hlt

theorem ringAbsorb_facts {hop : Hop} (hbefore : ProgressFacts entry visits before)
    (hhop : RingHop graph entry before visits hop) (inv : ProgressFacts entry visits progress) :
    ProgressFacts entry visits (ringAbsorb before progress hop) := by
  have hpath := hhop.facts.path (hbefore.paths _ hhop.source)
  have hvisited : ∀ visit ∈ before.paths.get hop.request.source ++ hop.visits,
      visit ∈ visits := by
    exact forall_mem_append.mpr ⟨hbefore.visited _ hhop.source, hhop.visited⟩
  have hwitness := hhop.facts.witnessFrom (hbefore.witnesses _ hhop.source)
    (hbefore.witnesses _ hhop.destination)
  exact (inv.absorb hhop.source hpath hvisited hwitness).absorb hhop.destination hpath hvisited
    hwitness

theorem ringAbsorbAll_facts {hops : List Hop} (hbefore : ProgressFacts entry visits before)
    (hhops : ∀ hop ∈ hops, RingHop graph entry before visits hop)
    (inv : ProgressFacts entry visits progress) :
    ProgressFacts entry visits (hops.foldl (ringAbsorb before) progress) := by
  induction hops generalizing progress with
  | nil => exact inv
  | cons hop rest ih =>
    exact ih (fun other h => hhops other (by simp [h]))
      (ringAbsorb_facts hbefore (hhops hop (by simp)) inv)

structure RingFacts (graph : ExecutionGraph) (entry : ReadyEntry) (next : Nat)
    (acc : Expansion τ × Progress) : Prop where
  visits : VisitFacts graph entry acc.1.visits acc.1.wqes next
  progress : ProgressFacts entry acc.1.visits acc.2

section

variable (hwork : entry.operation.work = .collective work)
  (hfacts : CollectiveFacts entry.operation work)

include hwork hfacts

theorem ringSends_facts {roundIndex : Nat} {acc next : Expansion τ × List Hop} {member : Nat}
    (inv : RoundFacts graph entry before (roundIndex * work.ranks.length + index) acc)
    (hmember : member ∈ work.ranks)
    (h : ringSends cfg graph entry work before roundIndex goalTag acc (member, index) = .ok next) :
    RoundFacts graph entry before (roundIndex * work.ranks.length + (index + 1)) next := by
  have hranks := mem_participants_of_collective hwork hfacts
  obtain ⟨⟨hop, machine⟩, hhop, h⟩ := of_bind h
  obtain rfl := Except.ok.inj h
  have hop_facts := scheduleHop_facts hhop
  have hsource := (hranks _).mpr hmember
  have hdestination := (hranks _).mpr (ring_destination_mem (ne_nil_of_mem hmember) index)
  have hsub : ∀ visit ∈ acc.1.visits, visit ∈ acc.1.visits ++ hop.visits :=
    fun visit hv => mem_append_left _ hv
  refine ⟨hop_facts.visits inv.visits hsource (inv.progress.ready_le _ hsource),
    inv.progress.visits_mono hsub, ?_⟩
  intro other hother
  rcases mem_append.mp hother with hother | hother
  · have hprior := inv.hops other hother
    exact { hprior with visited := fun visit hv => hsub visit (hprior.visited visit hv) }
  · cases mem_singleton.mp hother
    have hrequest := hop_facts.request_eq
    refine ⟨?_, ?_, ?_, fun visit hv => mem_append_right _ hv⟩
    · rw [hrequest]
      exact hop_facts
    · rw [hrequest]
      exact hsource
    · rw [hrequest]
      exact hdestination

theorem ringRound_facts {acc next : Expansion τ × Progress}
    {tag round : Nat} (inv : RingFacts graph entry (round * work.ranks.length) acc)
    (h : ringRound cfg graph entry work acc (tag, round) = .ok next) :
    RingFacts graph entry ((round + 1) * work.ranks.length) next := by
  obtain ⟨⟨expansion, hops⟩, hsends, h⟩ := of_bind h
  obtain rfl := Except.ok.inj h
  have hstart : RoundFacts graph entry acc.2 (round * work.ranks.length + 0)
      (acc.1, ([] : List Hop)) := ⟨inv.visits, inv.progress, by simp⟩
  have hround := foldlM_zipIdx_invariant
    (fun sent => RoundFacts graph entry acc.2 (round * work.ranks.length + sent)) hsends hstart
    fun index before after member hm hbefore => ringSends_facts hwork hfacts hbefore hm
  rw [Nat.zero_add, ← Nat.succ_mul] at hround
  exact ⟨hround.visits, ringAbsorbAll_facts hround.progress hround.hops hround.progress⟩

end

section

variable (facts : EntryFacts graph edges scheduled entry)
  (hwork : entry.operation.work = .collective work)
  (hfacts : CollectiveFacts entry.operation work)

include facts hwork hfacts

theorem schedulePairwise_facts
    (h : schedulePairwise cfg graph entry work goalTag m = .ok (outcome, m')) :
    OutcomeFacts graph entry outcome := by
  have hranks := mem_participants_of_collective hwork hfacts
  have hkeys : ∀ rank, rank ∈ entry.ready.byRank.ranks ↔
      rank ∈ operationParticipantRanks entry.operation := fun rank => by rw [facts.keys]
  have hstart : PairwiseFacts graph entry 0 (⟨expansionStart entry m,
      ⟨entry.ready.byRank, entry.ready.witnesses,
        .const entry.ready.byRank.ranks [entry.launch]⟩, [], []⟩ : Pairwise τ) :=
    ⟨facts.launchVisits 0, startProgress_facts facts hkeys, by constructor <;> simp⟩
  obtain ⟨done, hdone, h⟩ := of_bind h
  have inv := foldlM_zipIdx_invariant (PairwiseFacts graph entry) hdone hstart
    fun index acc next pair hp hacc hstep => by
      obtain ⟨hsource, hdestination, -⟩ := pairPayloads_endpoints hfacts hp
      exact pairwiseSend_facts facts hacc ((hranks _).mpr hsource) ((hranks _).mpr hdestination)
        hstep
  split at h
  next =>
    -- without a transfer the launch is the only path
    obtain ⟨finished, hfinish, h⟩ := of_bind h
    cases h
    have hrank := rank_mem_participants entry.operation
    obtain ⟨last, hlast, hmax⟩ := maxValue_mem (ne_nil_of_mem
      ((inv.progress.keys entry.operation.rank).mpr hrank))
    refine finishCollective_facts inv.visits inv.progress ⟨?_, ?_⟩ hfinish
    · intro path hp
      cases mem_singleton.mp hp
      refine ⟨by simpa using inv.visits.launch_mem, entry.operation.rank, hrank, ?_⟩
      exact facts.launchPath (le_trans (facts.launched _) (inv.progress.ready_le _ hrank))
    · intro witness hw
      cases mem_singleton.mp hw
      refine ⟨last, (inv.progress.keys last).mp hlast, ?_⟩
      apply completionCausalWitness_from
      intro rank hr
      have hle := le_maxValue hr
      exact (inv.progress.witnesses rank ((inv.progress.keys rank).mp hr)).mono (by omega)
  next =>
    obtain ⟨finished, hfinish, h⟩ := of_bind h
    cases h
    exact finishCollective_facts inv.visits inv.progress inv.selection hfinish

theorem scheduleRing_facts {goalTags : List Nat}
    (h : scheduleRing cfg graph entry work goalTags m = .ok (outcome, m')) :
    OutcomeFacts graph entry outcome := by
  have hranks := mem_participants_of_collective hwork hfacts
  obtain ⟨⟨expansion, progress⟩, hrounds, h⟩ := of_bind h
  obtain ⟨finished, hfinish, h⟩ := of_bind h
  cases h
  have hstart : RingFacts graph entry (0 * work.ranks.length) (expansionStart entry m,
      ⟨entry.ready.byRank, entry.ready.witnesses, .const work.ranks [entry.launch]⟩) :=
    ⟨facts.launchVisits _, startProgress_facts facts fun rank => (hranks rank).symm⟩
  have inv := foldlM_zipIdx_invariant
    (fun round => RingFacts graph entry (round * work.ranks.length)) hrounds hstart
    fun round acc next tag _ hacc => ringRound_facts hwork hfacts hacc
  refine finishCollective_facts inv.visits inv.progress ⟨?_, ?_⟩ hfinish
  · intro path hp
    obtain ⟨rank, hr, rfl⟩ := mem_map.mp hp
    have hr := (inv.progress.path_keys rank).mp hr
    exact ⟨inv.progress.visited rank hr, rank, hr, inv.progress.paths rank hr⟩
  · intro witness hw
    obtain ⟨rank, hr, rfl⟩ := mem_map.mp hw
    have hr := (inv.progress.witness_keys rank).mp hr
    exact ⟨rank, hr, inv.progress.witnesses rank hr⟩

end

end SimLLM
