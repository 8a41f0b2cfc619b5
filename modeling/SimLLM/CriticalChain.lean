import SimLLM.DependencySafety
import SimLLM.ReportTotal

namespace SimLLM

open List FirstExtremum

variable {fuel : Nat} {key : String × Nat} {segment : RuntimeCriticalSegment}
variable {record : RuntimeOperationRecord}

variable {κ π σ τ : Type} {graph : ExecutionGraph} {edges : List EffectiveDependencyEdge}
  {scheduled prior : List ScheduledOperation} {entry : ReadyEntry} {outcome : ScheduledOperation}
  {records : List RuntimeOperationRecord} {segments chain : List RuntimeCriticalSegment}

def position (scheduled : List ScheduledOperation) (operationId : String) : Nat :=
  (scheduled.map (·.operation.operationId)).idxOf operationId

theorem Realization.position_lt (h : Realization graph edges scheduled prior entry outcome)
    {w : CausalWitness} (hboundary : Boundary prior w) :
    position scheduled w.predecessorId < position scheduled entry.id := by
  obtain ⟨predecessor, hfound, -⟩ := hboundary
  obtain ⟨hmem, hid⟩ := scheduled?_mem hfound
  have hin : w.predecessorId ∈ prior.map (·.operation.operationId) :=
    mem_map.mpr ⟨predecessor, hmem, hid⟩
  have hout : entry.id ∉ prior.map (·.operation.operationId) := by
    intro hentry
    obtain ⟨other, hother, hsame⟩ := mem_map.mp hentry
    exact h.fresh (isScheduled_iff.mpr ⟨other, hother, hsame⟩)
  obtain ⟨rest, rfl⟩ := h.before
  have hlt := idxOf_lt_length_of_mem hin
  unfold position
  rw [map_append, idxOf_append_of_mem hin, idxOf_append_of_notMem hout]
  omega

theorem reverseChain_total (measure : String × Nat → Nat)
    (hstep : ∀ segment ∈ segments, ∀ key ∈ segment.predecessor,
      measure key < measure segment.key ∧ (segment? segments key).isSome)
    (seen : List (String × Nat)) (hfuel : measure key < fuel)
    (hseen : ∀ earlier ∈ seen, measure key < measure earlier)
    (hfound : (segment? segments key).isSome) :
    ∃ chain, reverseChain segments fuel seen key = .ok chain := by
  induction fuel generalizing seen key with
  | zero => omega
  | succ fuel ih =>
    have hnew : seen.contains key = false := by
      rw [contains_eq_mem, decide_eq_false_iff_not]
      intro hmem
      exact absurd (hseen key hmem) (lt_irrefl _)
    obtain ⟨segment, hsegment⟩ := Option.isSome_iff_exists.mp hfound
    obtain ⟨hmem, hkey⟩ := of_find?_key hsegment
    unfold reverseChain
    simp only [hnew, hsegment, require, Bool.not_false, if_true, ok_bind]
    cases hpredecessor : segment.predecessor with
    | none => exact ⟨[segment], rfl⟩
    | some earlier =>
      obtain ⟨hlt, hsome⟩ := hstep segment hmem earlier (by simp [hpredecessor])
      rw [hkey] at hlt
      have hseen' : ∀ k ∈ key :: seen, measure earlier < measure k := by
        exact forall_mem_cons.mpr ⟨hlt, fun k hk => lt_trans hlt (hseen k hk)⟩
      obtain ⟨rest, hrest⟩ := ih (key :: seen) (by omega) hseen' hsome
      refine ⟨segment :: rest, ?_⟩
      dsimp only
      rw [hrest, ok_bind]

def Follows (later earlier : RuntimeCriticalSegment) : Prop :=
  later.predecessor = some earlier.key ∧ later.startedAtPs = earlier.completedAtPs

structure BackwardChain (graph : ExecutionGraph) (segments chain : List RuntimeCriticalSegment) :
    Prop where
  known : ∀ segment ∈ chain, segment ∈ segments
  linked : chain.IsChain Follows
  root : ∀ segment ∈ chain.getLast?, segment.predecessor = none ∧
    segment.startedAtPs = graph.releasedAtPs

theorem reverseChain_backward
    (hlinks : ∀ segment ∈ segments, checkSegmentLink graph segments segment = .ok ())
    {seen : List (String × Nat)} (h : reverseChain segments fuel seen key = .ok chain) :
    BackwardChain graph segments chain ∧ ∃ segment, segment? segments key = some segment ∧
      chain.head? = some segment := by
  induction fuel generalizing seen key chain with
  | zero => cases h
  | succ fuel ih =>
    obtain ⟨-, -, h⟩ := of_bind h
    split at h
    next => cases h
    next segment hsegment =>
      have hmem := mem_of_find?_eq_some hsegment
      have hlink := hlinks segment hmem
      split at h
      next hroot =>
        cases h
        simp only [checkSegmentLink, hroot, require_eq_ok, beq_iff_eq] at hlink
        exact ⟨⟨by simpa using hmem, .singleton _, by simpa using ⟨hroot, hlink⟩⟩, segment,
          hsegment, rfl⟩
      next earlier hpredecessor =>
        obtain ⟨rest, hrest, h⟩ := of_bind h
        cases h
        obtain ⟨hchain, predecessor, hfound, hhead⟩ := ih hrest
        simp only [checkSegmentLink, hpredecessor, hfound, require_eq_ok, beq_iff_eq] at hlink
        have hkey := (of_find?_key hfound).2
        obtain ⟨tail, rfl⟩ := head?_eq_some_iff.mp hhead
        refine ⟨⟨?_, ?_, ?_⟩, segment, hsegment, rfl⟩
        · exact forall_mem_cons.mpr ⟨hmem, hchain.known⟩
        · exact .cons_cons ⟨by rw [hpredecessor, hkey], hlink⟩ hchain.linked
        · rw [getLast?_cons_cons]
          exact hchain.root

theorem BackwardChain.total (latency : RuntimeCriticalSegment → Nat)
    (hlatency : ∀ segment, latency segment = segment.completedAtPs - segment.startedAtPs)
    (h : BackwardChain graph segments chain) : ∀ endpoint ∈ chain.head?,
      (chain.map latency).sum + graph.releasedAtPs = endpoint.completedAtPs := by
  intro endpoint hhead
  obtain ⟨rest, rfl⟩ := head?_eq_some_iff.mp hhead
  induction rest generalizing endpoint with
  | nil =>
    have hroot := (h.root endpoint rfl).2
    have hle := endpoint.started_le_completed
    simp only [map_cons, map_nil, sum_cons, sum_nil, hlatency]
    omega
  | cons earlier rest ih =>
    obtain ⟨hfollows, hlinked⟩ := isChain_cons_cons.mp h.linked
    have hrest := ih earlier ⟨fun s hs => h.known s (mem_cons_of_mem _ hs), hlinked,
      by simpa [getLast?_cons_cons] using h.root⟩ rfl
    have hstart := hfollows.2
    have hle := endpoint.started_le_completed
    rw [map_cons, sum_cons, hlatency]
    omega

section Report

variable {operations : List ExecutionOperation}
  (hrecords : operations.mapM (reportOperation graph scheduled) = .ok records)

include hrecords

theorem reported_segment (hmem : segment ∈ records.flatMap (·.criticalSegments)) :
    ∃ operation ∈ operations, ∃ outcome rank,
      scheduled? scheduled operation.operationId = some outcome ∧
      rank ∈ outcome.participantCompletedAtPs.ranks ∧
      SegmentFacts graph operation outcome rank segment := by
  obtain ⟨record, hrecord, hsegment⟩ := mem_flatMap.mp hmem
  obtain ⟨operation, hoperation, hreport⟩ := mapM_mem hrecords hrecord
  obtain ⟨outcome, facts⟩ := reportOperation_facts hreport
  obtain ⟨rank, hrank, hfacts⟩ := (operationSegments_facts facts.segments).exists_left hsegment
  exact ⟨operation, hoperation, outcome, rank, facts.found, mem_sortedSet.mp hrank, hfacts⟩

theorem segment_reported {operation : ExecutionOperation} (hoperation : operation ∈ operations)
    {rank : Nat}
    (hfound : scheduled? scheduled operation.operationId = some outcome)
    (hrank : rank ∈ outcome.participantCompletedAtPs.ranks) :
    ∃ segment ∈ records.flatMap (·.criticalSegments),
      SegmentFacts graph operation outcome rank segment := by
  obtain ⟨record, hrecord, hreport⟩ := mapM_of_mem hrecords hoperation
  obtain ⟨found, facts⟩ := reportOperation_facts hreport
  obtain rfl := Option.some.inj (facts.found.symm.trans hfound)
  obtain ⟨segment, hsegment, hfacts⟩ :=
    (operationSegments_facts facts.segments).exists_right (mem_sortedSet.mpr hrank)
  exact ⟨segment, mem_flatMap.mpr ⟨record, hrecord, hsegment⟩, hfacts⟩

theorem segment_keys_nodup (hids : (operations.map (·.operationId)).Nodup) :
    ((records.flatMap (·.criticalSegments)).map (·.key)).Nodup := by
  have hkeys : ∀ record ∈ records, ∃ ranks : List Nat, ranks.Nodup ∧
      record.criticalSegments.map (·.key) = ranks.map fun rank => (record.operationId, rank) := by
    intro record hrecord
    obtain ⟨operation, -, hreport⟩ := mapM_mem hrecords hrecord
    obtain ⟨outcome, facts⟩ := reportOperation_facts hreport
    refine ⟨_, sortedSet_nodup outcome.participantCompletedAtPs.ranks, ?_⟩
    refine (operationSegments_facts facts.segments).map_eq_map fun rank segment hfacts => ?_
    rw [hfacts.key, facts.operationId]
  rw [map_flatMap, nodup_flatMap]
  refine ⟨fun record hrecord => ?_, ?_⟩
  · obtain ⟨ranks, hnodup, hmap⟩ := hkeys record hrecord
    rw [hmap]
    exact hnodup.map fun a b hab => congrArg Prod.snd hab
  · have hdistinct : (records.map (·.operationId)).Nodup := by
      rwa [record_ids hrecords]
    refine (pairwise_map.mp hdistinct).imp_of_mem fun {a b} ha hb hne key hka hkb => ?_
    obtain ⟨ranks, -, hmap⟩ := hkeys a ha
    obtain ⟨ranks', -, hmap'⟩ := hkeys b hb
    dsimp only at hka hkb
    obtain ⟨_, -, rfl⟩ := mem_map.mp (hmap ▸ hka)
    obtain ⟨_, -, hsame⟩ := mem_map.mp (hmap' ▸ hkb)
    exact hne (congrArg Prod.fst hsame).symm

end Report

structure Endpoint (graph : ExecutionGraph) (records : List RuntimeOperationRecord)
    (endpoint : RuntimeCriticalSegment) : Prop where
  required : ∃ record ∈ records, record.operationId ∈ requiredIds graph ∧
    endpoint ∈ record.criticalSegments ∧ endpoint.completedAtPs = record.completedAtPs
  latest : ∀ record ∈ records, record.operationId ∈ requiredIds graph →
    record.completedAtPs ≤ endpoint.completedAtPs

theorem endpointOperation_eq_some {required : List String}
    (h : endpointOperation records required = some record) :
    record ∈ records ∧ record.operationId ∈ required ∧
      ∀ other ∈ records, other.operationId ∈ required →
        other.completedAtPs ≤ record.completedAtPs := by
  obtain ⟨⟨best, index⟩, hbest, rfl⟩ := Option.map_eq_some_iff.mp h
  obtain ⟨hmem, hrequired⟩ := mem_filter.mp (maxBy_mem hbest)
  refine ⟨(mem_zipIdx' hmem).2 ▸ getElem_mem _, by simpa using hrequired, ?_⟩
  intro other hother hid
  obtain ⟨i, hi⟩ := mem_iff_getElem?.mp hother
  have hin : (other, i) ∈ records.zipIdx.filter fun entry =>
      required.contains entry.1.operationId :=
    mem_filter.mpr ⟨mem_zipIdx_iff_getElem?.mpr hi, by simpa using hid⟩
  have hle := le_maxBy hbest hin
  rcases Prod.Lex.le_iff.mp hle with hlt | ⟨heq, -⟩
  · exact le_of_lt hlt
  · exact le_of_eq heq

theorem exists_required (valid : GraphFacts graph) (hne : graph.operations ≠ []) :
    ∃ operation ∈ graph.operations, operation.operationId ∈ requiredIds graph := by
  unfold requiredIds
  split
  next =>
    obtain ⟨operation, hmem⟩ := exists_mem_of_ne_nil _ hne
    exact ⟨operation, hmem, mem_map_of_mem hmem⟩
  next hids =>
    have hne : graph.completionOperationIds ≠ [] := by simpa using hids
    obtain ⟨id, hid⟩ := exists_mem_of_ne_nil _ hne
    obtain ⟨operation, hmem, rfl⟩ := ExecutionGraph.knows_iff.mp (valid.completions id hid)
    exact ⟨operation, hmem, hid⟩

section Run

variable {cfg : RuntimeConfig κ σ τ} {runtime : Runtime σ π} {tags : List (String × List Nat)}
  {plan : ScheduledGraph τ}

variable (run : ScheduleRun cfg runtime graph tags plan)

include run

theorem ScheduleRun.records_total :
    ∃ records, graph.operations.mapM (reportOperation graph plan.loop.scheduled) = .ok records := by
  refine mapM_total fun operation hoperation => ?_
  obtain ⟨outcome, prior, entry, hfound, rfl, realized⟩ := run.outcome hoperation
  exact realized.reportOperation_total hfound

theorem ScheduleRun.known
    (hmem : outcome ∈ plan.loop.scheduled) : outcome.operation ∈ graph.operations := by
  obtain ⟨prior, entry, realized⟩ := run.facts.realized outcome hmem
  rw [realized.facts.operation]
  exact realized.entryFacts.known

variable (hrecords : graph.operations.mapM (reportOperation graph plan.loop.scheduled) =
  .ok records)

include hrecords

theorem ScheduleRun.segment_step
    (hmem : segment ∈ records.flatMap (·.criticalSegments)) (hkey : key ∈ segment.predecessor) :
    position plan.loop.scheduled key.1 < position plan.loop.scheduled segment.key.1 ∧
      ∃ predecessor, segment? (records.flatMap (·.criticalSegments)) key = some predecessor ∧
        segment.startedAtPs = predecessor.completedAtPs := by
  obtain ⟨operation, hoperation, outcome, rank, hfound, hrank, hsegment⟩ :=
    reported_segment hrecords hmem
  obtain ⟨realizedOutcome, prior, entry, hsame, rfl, realized⟩ := run.outcome hoperation
  obtain rfl := Option.some.inj (hsame.symm.trans hfound)
  have hparticipant := (realized.facts.keys rank).mp hrank
  rw [hsegment.predecessor] at hkey
  obtain ⟨w, hwitness, rfl⟩ := Option.mem_map.mp hkey
  obtain ⟨-, source, hready⟩ := realized.facts.witnesses rank hparticipant w hwitness
  have hearlier := (realized.entryFacts.witness source w hready).2
  have hlt := realized.position_lt hearlier
  obtain ⟨predecessor, hprior, hwrank, hcompleted⟩ := hearlier
  have hprior := scheduled?_of_prior realized.before hprior
  obtain ⟨hscheduled, hid⟩ := scheduled?_mem hprior
  rw [← hid] at hprior
  obtain ⟨previous, hprevious, hfacts⟩ :=
    segment_reported hrecords (run.known hscheduled) hprior hwrank
  refine ⟨?_, previous, ?_, ?_⟩
  · rw [hsegment.key]
    exact hlt
  · have hnodup := segment_keys_nodup hrecords run.valid.ids_nodup
    have hfind := find?_key hnodup hprevious
    rwa [hfacts.key, hid] at hfind
  · rw [hsegment.started, hwitness, hfacts.completed, hcompleted]
    rfl

theorem ScheduleRun.links : ∀ segment ∈ records.flatMap (·.criticalSegments),
      checkSegmentLink graph (records.flatMap (·.criticalSegments)) segment = .ok () := by
  intro segment hmem
  cases hpredecessor : segment.predecessor with
  | none =>
    obtain ⟨operation, -, outcome, rank, -, -, hsegment⟩ := reported_segment hrecords hmem
    have hnone := hsegment.predecessor
    rw [hpredecessor] at hnone
    have hwitness := Option.map_eq_none_iff.mp hnone.symm
    have hstarted := hsegment.started
    simp only [hwitness, Option.map_none, Option.getD_none] at hstarted
    simp [checkSegmentLink, hpredecessor, hstarted, require]
  | some key =>
    obtain ⟨-, predecessor, hfound, hstarted⟩ := run.segment_step hrecords hmem hpredecessor
    simp [checkSegmentLink, hpredecessor, hfound, hstarted, require]

theorem ScheduleRun.length_le :
    plan.loop.scheduled.length ≤ (records.flatMap (·.criticalSegments)).length := by
  have hsub : plan.loop.scheduled.map (·.operation.operationId) ⊆
      (records.flatMap (·.criticalSegments)).map (·.operationId) := by
    intro id hid
    obtain ⟨outcome, hmem, rfl⟩ := mem_map.mp hid
    obtain ⟨prior, entry, realized⟩ := run.facts.realized outcome hmem
    obtain ⟨rank, hrank, -⟩ := realized.facts.logical_mem
    obtain ⟨segment, hsegment, hfacts⟩ := segment_reported hrecords (run.known hmem)
      (find?_key run.facts.ids_nodup hmem) ((realized.facts.keys rank).mpr hrank)
    exact mem_map.mpr ⟨segment, hsegment, congrArg Prod.fst hfacts.key⟩
  have hle := (subperm_of_subset run.facts.ids_nodup hsub).length_le
  rwa [length_map, length_map] at hle

theorem ScheduleRun.endpointSegment_total (hrecord : record ∈ records) :
    ∃ endpoint, endpointSegment record = .ok endpoint ∧ endpoint ∈ record.criticalSegments ∧
      endpoint.completedAtPs = record.completedAtPs := by
  obtain ⟨operation, hoperation, hreport⟩ := mapM_mem hrecords hrecord
  obtain ⟨outcome, facts⟩ := reportOperation_facts hreport
  obtain ⟨found, prior, entry, hsame, rfl, realized⟩ := run.outcome hoperation
  obtain rfl := Option.some.inj (hsame.symm.trans facts.found)
  obtain ⟨rank, hrank, hlogical⟩ := realized.facts.logical_mem
  obtain ⟨segment, hsegment, hfacts⟩ := (operationSegments_facts facts.segments).exists_right
    (mem_sortedSet.mpr ((realized.facts.keys rank).mpr hrank))
  have hin : segment ∈ record.criticalSegments.filter
      (·.completedAtPs == record.completedAtPs) := by
    refine mem_filter.mpr ⟨hsegment, ?_⟩
    rw [hfacts.completed, hlogical, facts.completed, beq_self_eq_true]
  obtain ⟨endpoint, hendpoint⟩ := exists_maxBy (·.participantRank) (ne_nil_of_mem hin)
  obtain ⟨hmem, hcompleted⟩ := mem_filter.mp (maxBy_mem hendpoint)
  refine ⟨endpoint, ?_, hmem, by simpa using hcompleted⟩
  rw [endpointSegment, hendpoint]

theorem ScheduleRun.criticalChain_total :
    ∃ backward, criticalChain records (records.flatMap (·.criticalSegments))
        (requiredIds graph) = .ok backward.reverse ∧
      BackwardChain graph (records.flatMap (·.criticalSegments)) backward ∧
      (∀ endpoint ∈ backward.head?, Endpoint graph records endpoint) ∧
      (backward = [] → endpointOperation records (requiredIds graph) = none) := by
  unfold criticalChain
  cases hlast : endpointOperation records (requiredIds graph) with
  | none => exact ⟨[], rfl, ⟨by simp, .nil, by simp⟩, by simp, fun _ => rfl⟩
  | some record =>
    obtain ⟨hrecord, hrequired, hlatest⟩ := endpointOperation_eq_some hlast
    obtain ⟨endpoint, hendpoint, hmem, hcompleted⟩ := run.endpointSegment_total hrecords hrecord
    have hsegment := mem_flatMap.mpr ⟨record, hrecord, hmem⟩
    have hnodup := segment_keys_nodup hrecords run.valid.ids_nodup
    have hfound := find?_key hnodup hsegment
    have hfuel : position plan.loop.scheduled endpoint.key.1 <
        (records.flatMap (·.criticalSegments)).length + 1 := by
      have hle := run.length_le hrecords
      have hposition : position plan.loop.scheduled endpoint.key.1 ≤
          (plan.loop.scheduled.map (·.operation.operationId)).length :=
        idxOf_le_length
      rw [length_map] at hposition
      omega
    obtain ⟨backward, hback⟩ := reverseChain_total
      (fun key => position plan.loop.scheduled key.1) (fun segment hin key hkey => by
        obtain ⟨hlt, predecessor, hsome, -⟩ := run.segment_step hrecords hin hkey
        exact ⟨hlt, by rw [hsome]; rfl⟩)
      [] hfuel (by simp) (by rw [segment?, hfound]; rfl)
    obtain ⟨hbackward, head, hhead, hfirst⟩ := reverseChain_backward (run.links hrecords) hback
    obtain rfl := Option.some.inj (hfound.symm.trans hhead)
    refine ⟨backward, ?_, hbackward, ?_, ?_⟩
    · simp only [hendpoint, ok_bind, hback]
    · intro segment hin
      obtain rfl := Option.some.inj (hfirst.symm.trans hin)
      refine ⟨⟨record, hrecord, hrequired, hmem, hcompleted⟩, fun other hother hid => ?_⟩
      rw [hcompleted]
      exact hlatest other hother hid
    · rintro rfl
      cases hfirst

theorem ScheduleRun.endpoint_exists
    (hnone : endpointOperation records (requiredIds graph) = none) : graph.operations = [] := by
  by_contra hne
  obtain ⟨operation, hmem, hrequired⟩ := exists_required run.valid hne
  obtain ⟨record, hrecord, hreport⟩ := mapM_of_mem hrecords hmem
  obtain ⟨outcome, facts⟩ := reportOperation_facts hreport
  have hempty : records.zipIdx.filter (fun entry =>
      (requiredIds graph).contains entry.1.operationId) = [] := by
    by_contra hsome
    obtain ⟨best, hbest⟩ := exists_maxBy (fun entry : RuntimeOperationRecord × Nat =>
      toLex (entry.1.completedAtPs, entry.2)) hsome
    rw [Option.map_eq_none_iff.mp hnone] at hbest
    cases hbest
  obtain ⟨i, hi⟩ := mem_iff_getElem?.mp hrecord
  have hin : (record, i) ∈ records.zipIdx := mem_zipIdx_iff_getElem?.mpr hi
  refine absurd ?_ (filter_eq_nil_iff.mp hempty _ hin)
  rw [facts.operationId]
  simpa using hrequired

end Run

def CriticalPathBreakdown.totalPs (breakdown : CriticalPathBreakdown) : Nat :=
  breakdown.launchQueuePs + breakdown.deviceQueuePs + breakdown.servicePs +
    breakdown.completionDeliveryPs + breakdown.externalDependencyPs

/-- A reported chain of segments, from the release to a required operation that completes
last, that accounts for all the time between. -/
structure CriticalPath (graph : ExecutionGraph) (report : RuntimeReport)
    (chain : List RuntimeCriticalSegment) : Prop where
  keys : report.realizedCriticalPathSegments = chain.map (·.key)
  known : ∀ segment ∈ chain, segment ∈ report.operations.flatMap (·.criticalSegments)
  ne_nil : graph.operations ≠ [] → chain ≠ []
  root : ∀ segment ∈ chain.head?, segment.predecessor = none ∧
    segment.startedAtPs = graph.releasedAtPs
  linked : chain.IsChain fun earlier later => Follows later earlier
  endpoint : ∀ segment ∈ chain.getLast?, Endpoint graph report.operations segment
  breakdown : ∀ segment ∈ chain.getLast?, (chain.map (·.breakdown.totalPs)).sum =
    segment.completedAtPs - graph.releasedAtPs
  attribution : ∀ segment ∈ chain.getLast?, (chain.map (·.attribution.totalPs)).sum =
    segment.completedAtPs - graph.releasedAtPs

section Conservation

variable {cfg : RuntimeConfig κ σ τ} {policy : ArbitrationPolicy π} {runtime : Runtime σ π}
  {plan : ScheduledGraph τ} {p p' : π}

/-- Whatever a graph has been scheduled to, its report is built: no check of the critical
path raises, and the path it reports conserves the time from the release to its endpoint. -/
theorem critical_path_conserved (h : scheduleGraph cfg policy runtime graph p = .ok plan p')
    (authority : String) (draws : Nat) :
    ∃ report chain, runtimeReport graph plan.loop.scheduled
        (plan.loop.scheduled.flatMap (·.wqes)) (requiredIds graph) authority draws = .ok report ∧
      CriticalPath graph report chain := by
  obtain ⟨tags, run⟩ := scheduleGraph_run h
  obtain ⟨records, hrecords⟩ := run.records_total
  obtain ⟨backward, hchain, hbackward, hendpoint, hnone⟩ := run.criticalChain_total hrecords
  have hnodup := segment_keys_nodup hrecords run.valid.ids_nodup
  have hlinks := run.links hrecords
  have hconserves : ∀ latency : RuntimeCriticalSegment → Nat,
      (∀ segment, latency segment = segment.completedAtPs - segment.startedAtPs) →
      ∀ segment ∈ backward.reverse.getLast?, (backward.reverse.map latency).sum =
        segment.completedAtPs - graph.releasedAtPs := by
    intro latency hlatency segment hlast
    rw [getLast?_reverse] at hlast
    have htotal := hbackward.total latency hlatency segment hlast
    rw [map_reverse, sum_reverse]
    omega
  have hconserved : checkChainLatency graph backward.reverse = .ok () := by
    unfold checkChainLatency
    split
    next => rfl
    next endpoint hlast =>
      rw [getLast?_reverse] at hlast
      have htotal := hbackward.total (·.breakdown.operationLatencyPs)
        (fun segment => segment.breakdown_conserves) endpoint hlast
      rw [require_eq_ok, beq_iff_eq, map_reverse, sum_reverse]
      exact htotal
  obtain ⟨outcomes, houtcomes⟩ : ∃ outcomes, (graph.operations.mapM fun operation =>
      lookupScheduled plan.loop.scheduled operation.operationId) = .ok outcomes := by
    refine mapM_total fun operation hoperation => ?_
    obtain ⟨outcome, prior, entry, hfound, -⟩ := run.outcome hoperation
    exact ⟨outcome, lookupScheduled_eq_ok.mpr hfound⟩
  obtain ⟨report, hreport, hoperations, hkeys⟩ : ∃ report, runtimeReport graph
      plan.loop.scheduled (plan.loop.scheduled.flatMap (·.wqes)) (requiredIds graph) authority
      draws = .ok report ∧ report.operations = records ∧
      report.realizedCriticalPathSegments = backward.reverse.map (·.key) := by
    have hlinked := forM_eq_ok (u := ()) |>.mpr hlinks
    unfold runtimeReport
    simp only [hrecords, ok_bind, hnodup, require, decide_true, if_true, hlinked, hchain,
      hconserved, houtcomes]
    exact ⟨_, rfl, rfl, rfl⟩
  subst hoperations
  refine ⟨report, backward.reverse, hreport, hkeys, ?_, ?_, ?_, ?_, ?_, ?_, ?_⟩
  · intro segment hsegment
    exact hbackward.known segment (mem_reverse.mp hsegment)
  · intro hne hnil
    exact hne (run.endpoint_exists hrecords (hnone (reverse_eq_nil_iff.mp hnil)))
  · rw [head?_reverse]
    exact hbackward.root
  · exact isChain_reverse.mpr hbackward.linked
  · rw [getLast?_reverse]
    exact hendpoint
  · exact hconserves (·.breakdown.totalPs) fun s =>
      s.breakdown.conserves.trans s.breakdown_conserves
  · exact hconserves (·.attribution.totalPs) fun s => s.attribution_conserves

end Conservation

theorem dispatchGraph_path_conserved :
    ∃ plan report chain, scheduleGraph (RuntimeOptions.bypass ({} : RuntimeOptions Unit))
        identityArbitrationPolicy (.fresh ()) dispatchGraph () = .ok plan () ∧
      runtimeReport dispatchGraph plan.loop.scheduled (plan.loop.scheduled.flatMap (·.wqes))
        (requiredIds dispatchGraph) "atlahs" 0 = .ok report ∧
      chain ≠ [] ∧ CriticalPath dispatchGraph report chain := by
  obtain ⟨result, hanswer⟩ := dispatchGraph_executes
  obtain ⟨staged, after, hstage, -⟩ := execute_committed hanswer
  have hscheduled := (stageExecution_eq_ok hstage).1
  obtain ⟨report, chain, hreport, hpath⟩ := critical_path_conserved hscheduled "atlahs" 0
  exact ⟨staged.toScheduledGraph, report, chain, hscheduled, hreport,
    hpath.ne_nil (by simp [dispatchGraph]), hpath⟩

end SimLLM
