import SimLLM.MetricConservation
import SimLLM.RankingTotals

namespace SimLLM

open List

def RuntimeReport.segments (report : RuntimeReport) : List RuntimeCriticalSegment :=
  report.operations.flatMap (·.criticalSegments)

variable {collected expected chain : List RuntimeCriticalSegment} {key : String × Nat}
variable {segment : RuntimeCriticalSegment} {id : String} {emitted : Option RequestMetric}
variable {emittedBefore : List RequestMetric} {nowPs : Int} {segments : List RuntimeCriticalSegment}
variable {kernelKey : KernelEvidence → String} {rankings : SegmentRankings kernelKey}
variable {graph : ExecutionGraph} {report : RuntimeReport} {scheduled : ScheduledRequest}

structure Collected (expected collected : List RuntimeCriticalSegment) : Prop where
  same : collected = expected
  nodup : (collected.map (·.key)).Nodup

theorem segment?_isNone (h : (segment? collected key).isNone = true) :
    key ∉ collected.map (·.key) := by
  intro hmem
  obtain ⟨segment, hsegment, hkey⟩ := mem_map.mp hmem
  have hnone := find?_eq_none.mp (Option.isNone_iff_eq_none.mp h) segment hsegment
  simp [hkey] at hnone

section

variable {next : List RuntimeCriticalSegment} {record : RuntimeOperationRecord}
  (facts : Collected expected collected)

include facts

theorem checkSegment_collects (h : checkSegment record collected segment = .ok next) :
    Collected (expected ++ [segment]) next := by
  replace h := of_check h
  replace h := of_check h
  obtain ⟨_, hnew, h⟩ := of_bind h
  cases h
  have hfresh := segment?_isNone (require_eq_ok.mp hnew)
  refine ⟨by rw [facts.same], ?_⟩
  rw [map_append, map_singleton]
  refine nodup_append.mpr ⟨facts.nodup, by simp, ?_⟩
  rintro key hkey _ hsingle rfl
  obtain rfl : key = segment.key := by simpa using hsingle
  exact hfresh hkey

theorem checkSegments_collects {more : List RuntimeCriticalSegment}
    (h : more.foldlM (checkSegment record) collected = .ok next) :
    Collected (expected ++ more) next := by
  refine foldlM_done (fun done acc => Collected (expected ++ done) acc) h (by simpa using facts) ?_
  intro done segment _ _ _ _ hdone hnext
  simpa using checkSegment_collects hdone hnext

theorem checkRecords_collects {records : List RuntimeOperationRecord}
    (h : records.foldlM (checkRecord graph report) collected = .ok next) :
    Collected (expected ++ records.flatMap (·.criticalSegments)) next := by
  refine foldlM_done (fun done acc => Collected (expected ++ done.flatMap (·.criticalSegments)) acc)
    h (by simpa using facts) ?_
  intro done record _ _ _ _ hdone hnext
  replace hnext := of_check hnext
  replace hnext := of_check hnext
  split at hnext
  next => cases hnext
  next =>
    replace hnext := of_check hnext
    replace hnext := of_check hnext
    simpa using checkSegments_collects hdone hnext

end

section

variable {record : StepRecord} {result : ExecutionResult}
  (h : validateInputs record graph result report nowPs = .ok segments)

include h

theorem validateInputs_segments : segments = report.segments ∧ (segments.map (·.key)).Nodup := by
  have hstart : Collected [] [] := ⟨rfl, by simp⟩
  have hfacts := checkRecords_collects hstart (validateInputs_eq_ok h).1
  exact ⟨hfacts.same, hfacts.nodup⟩

theorem validateInputs_chain :
    let chain := report.realizedCriticalPathSegments.filterMap (segment? segments)
    (report.realizedCriticalPathSegments.all fun key => (segment? segments key).isSome) = true ∧
      ∀ last, chain.getLast? = some last →
        (((chain.map (·.breakdown.operationLatencyPs)).sum : Nat) : Int) =
          last.completedAtPs - graph.releasedAtPs := by
  obtain ⟨-, hchain, -⟩ := validateInputs_eq_ok h
  obtain ⟨_, hknown, hchain⟩ := of_bind hchain
  replace hchain := of_check hchain
  replace hchain := of_check hchain
  refine ⟨require_eq_ok.mp hknown, ?_⟩
  intro last hlast
  simp only [hlast] at hchain
  obtain ⟨_, htotal, -⟩ := of_bind hchain
  rw [Nat.cast_list_sum, map_map]
  exact beq_iff_eq.mp (require_eq_ok.mp htotal)

end

theorem requestChain_subset {fuel : Nat} {seen : List (String × Nat)}
    (h : requestChain segments fuel seen key = .ok chain) :
    ∀ segment ∈ chain, segment ∈ segments := by
  induction fuel generalizing seen key chain with
  | zero => cases h
  | succ fuel ih =>
    replace h := of_check h
    split at h
    next => cases h
    next found hfound =>
      have hmem := mem_of_find?_eq_some hfound
      split at h
      next =>
        cases h
        simpa using hmem
      next =>
        obtain ⟨rest, hrest, h⟩ := of_bind h
        cases h
        exact forall_mem_cons.mpr ⟨hmem, ih hrest⟩

theorem chainAttribution_total (chain : List RuntimeCriticalSegment) :
    (chainAttribution chain).totalPs = (chain.map (·.breakdown.operationLatencyPs)).sum := by
  have hfold : ∀ start : LatencyAttribution,
      (chain.foldl (fun acc segment => acc + segment.attribution) start).totalPs =
        start.totalPs + (chain.map (·.breakdown.operationLatencyPs)).sum := by
    induction chain with
    | nil => simp
    | cons segment rest ih =>
      intro start
      have hconserves := segment.attribution_conserves
      have hbreakdown := segment.breakdown_conserves
      rw [foldl_cons, ih, LatencyAttribution.add_totalPs, map_cons, sum_cons]
      omega
  exact (hfold {}).trans (Nat.zero_add _)

theorem requestCriticalChain_subset {endpoint : RuntimeOperationRecord} {releasedAtPs : Nat}
    {attribution : LatencyAttribution}
    (h : requestCriticalChain segments endpoint releasedAtPs = .ok (chain, attribution)) :
    (∀ segment ∈ chain, segment ∈ segments) ∧
      attribution.totalPs = (chain.map (·.breakdown.operationLatencyPs)).sum := by
  obtain ⟨last, -, h⟩ := of_bind h
  obtain ⟨reversed, hreversed, h⟩ := of_bind h
  replace h := of_check h
  cases h
  refine ⟨?_, chainAttribution_total _⟩
  intro segment hsegment
  exact requestChain_subset hreversed segment (mem_reverse.mp hsegment)

def RanksSegments (report : RuntimeReport) (rankings : SegmentRankings kernelKey) : Prop :=
  ∀ entry ∈ rankings, ∃ segment ∈ report.segments, entry.1 = segment.key ∧
    entry.2.spanPs = segment.breakdown.operationLatencyPs ∧ entry.2.divisor = 1

theorem classifyRuntime_ranks {selected : SelectedVisits} {gpu : GpuRoof}
    {cells : Option KernelCells}
    (h : classifyRuntime kernelKey graph report selected gpu cells = .ok rankings) :
    RanksSegments report rankings := by
  replace h := of_check h
  obtain ⟨rows, hrows, h⟩ := of_bind h
  cases h
  intro entry hentry
  obtain ⟨row, hrow, hmem⟩ := mem_flatten.mp hentry
  obtain ⟨record, hrecord, hclassified⟩ := mapM_mem hrows hrow
  unfold classifyRecord at hclassified
  split at hclassified
  next => cases hclassified
  next =>
    obtain ⟨context, -, hclassified⟩ := of_bind hclassified
    obtain ⟨segment, hsegment, hranked⟩ := mapM_mem hclassified hmem
    unfold classifyRecordSegment at hranked
    split at hranked
    next => cases hranked
    next =>
      replace hranked := of_check hranked
      obtain ⟨_, -, hranked⟩ := of_bind hranked
      replace hranked := of_check hranked
      obtain ⟨made, hmade, hranked⟩ := of_bind hranked
      cases hranked
      exact ⟨segment, mem_flatMap.mpr ⟨record, hrecord, hsegment⟩, rfl,
        classifySegment_span hmade⟩

section

variable (ranks : RanksSegments report rankings) (hnodup : (report.segments.map (·.key)).Nodup)

include ranks hnodup

theorem lookupRanking_span (hmem : segment ∈ report.segments)
    {value : BottleneckRanking kernelKey} (h : lookupRanking rankings segment.key = .ok value) :
    value.spanPs = segment.breakdown.operationLatencyPs := by
  unfold lookupRanking at h
  split at h
  next entry hentry =>
    obtain rfl := Except.ok.inj h
    obtain ⟨hmem', hsame⟩ := of_find?_key hentry
    obtain ⟨owner, howner, hkey, hlatency, -⟩ := ranks entry hmem'
    have heq := inj_on_of_nodup_map hnodup howner hmem (hkey.symm.trans hsame)
    rw [hlatency, heq]
  next => cases h

theorem combineChain_span
    (hchain : ∀ segment ∈ chain, segment ∈ report.segments) {made : BottleneckRanking kernelKey}
    (h : combineChain rankings (chain.map (·.key)) = .ok made) :
    made.spanPs = (chain.map (·.breakdown.operationLatencyPs)).sum ∧ made.divisor = 1 := by
  obtain ⟨values, hvalues, hmade⟩ := of_bind h
  obtain ⟨hspan, hdivisor⟩ := combine_span hmade
  have hforall := forall₂_map_left_iff.mp (mapM_eq_ok.mp hvalues)
  have hspans : values.map (·.spanPs) = chain.map (·.breakdown.operationLatencyPs) := by
    clear hspan hmade hvalues h
    induction hforall with
    | nil => rfl
    | cons hhead _ ih =>
      rw [map_cons, map_cons, ih fun other hother => hchain other (by simp [hother]),
        lookupRanking_span ranks hnodup (hchain _ (by simp)) hhead]
  exact ⟨by rw [hspan, hspans], hdivisor⟩

end

structure StateMove (old new : RequestMetricState) (emitted : Option RequestMetric)
    (scheduled : ScheduledRequest) (endpointAtPs : Int) : Prop where
  observed : new.firstObservedAtPs = old.firstObservedAtPs
  accounted : new.accountedThroughPs = endpointAtPs
  waits : emitted = none → new.firstTokenAtPs = old.firstTokenAtPs ∧
    new.lastTokenAtPs = old.lastTokenAtPs ∧ new.interTokenSumPs = old.interTokenSumPs ∧
    new.interTokenCount = old.interTokenCount
  token : ∀ metric, emitted = some metric → ∃ attribution, TokenFacts
    { old with accountedThroughPs := endpointAtPs } new metric scheduled endpointAtPs attribution

variable {arrivals : Option (Dict Nat)} {inputs : ReducerInputs kernelKey} {sampled : List String}
  {acc next : Reducing kernelKey} {before : Dict RequestMetricState}

theorem reduceRequest_effect (hrankings : inputs.bottleneckSegments = some rankings)
    (h : reduceRequest arrivals inputs segments sampled acc scheduled = .ok next) :
    ∃ endpoint chain attribution old new interval emitted,
      requestCriticalChain segments endpoint inputs.graph.releasedAtPs =
        .ok (chain, attribution) ∧
      currentState arrivals inputs.record acc.states scheduled.requestId = .ok old ∧
      combineChain rankings (chain.map (·.key)) = .ok interval ∧
      (emitted.isSome = true ↔ scheduled.requestId ∈ sampled) ∧
      StateMove old new emitted scheduled endpoint.completedAtPs ∧
      next = ⟨acc.states.set scheduled.requestId new, acc.metrics ++ emitted.toList,
        acc.intervals.set scheduled.requestId interval,
        acc.origins.set scheduled.requestId old.firstObservedAtPs⟩ := by
  obtain ⟨endpoint, -, h⟩ := of_bind h
  obtain ⟨⟨chain, attribution⟩, hchain, h⟩ := of_bind h
  obtain ⟨old, hold, h⟩ := of_bind h
  replace h := of_check h
  obtain ⟨noted, hnoted, h⟩ := of_bind h
  rw [hrankings] at hnoted
  obtain ⟨interval, hinterval, hnoted⟩ := of_bind hnoted
  obtain rfl := Except.ok.inj hnoted
  split at h
  next hsampled =>
    obtain ⟨⟨new, metric⟩, hsample, h⟩ := of_bind h
    cases h
    have htoken := sampleToken_facts hsample
    refine ⟨endpoint, chain, attribution, old, new, interval, some metric, hchain, hold, hinterval,
      by simpa using hsampled, ⟨htoken.observed, htoken.accounted, by simp, ?_⟩, rfl⟩
    intro other hother
    cases hother
    exact ⟨_, htoken⟩
  next hunsampled =>
    have hnext := (Except.ok.inj h).symm
    refine ⟨endpoint, chain, attribution, old, _, interval, none, hchain, hold, hinterval,
      by simpa using hunsampled, ?_, by rw [Option.toList_none, append_nil]; exact hnext⟩
    exact ⟨rfl, rfl, fun _ => ⟨rfl, rfl, rfl, rfl⟩, by simp⟩

def EntersWith (before : Dict RequestMetricState) (id : String) (old : RequestMetricState) : Prop :=
  before.get? id = some old ∨
    before.get? id = none ∧ ∃ observed, old = ⟨observed, observed, none, none, 0, 0, 0, {}, {}, none⟩

structure Tracked (before : Dict RequestMetricState) (released : Nat) (sampled : List String)
    (acc : Reducing kernelKey) (scheduled : ScheduledRequest) (old new : RequestMetricState)
    (interval : BottleneckRanking kernelKey) (emitted : Option RequestMetric)
    (endpointAtPs : Int) : Prop where
  enters : EntersWith before scheduled.requestId old
  facts : ∃ metrics, MetricFacts released old metrics
  state : acc.states.get? scheduled.requestId = some new
  interval_at : acc.intervals.get? scheduled.requestId = some interval
  origin : acc.origins.get? scheduled.requestId = some old.firstObservedAtPs
  metrics : metricsOf scheduled.requestId acc.metrics = emitted.toList
  sampled_iff : emitted.isSome = true ↔ scheduled.requestId ∈ sampled
  span : (interval.spanPs : Int) = endpointAtPs - released
  move : StateMove old new emitted scheduled endpointAtPs

structure Tracking (before : Dict RequestMetricState) (released : Nat) (sampled : List String)
    (done : List ScheduledRequest) (acc : Reducing kernelKey) : Prop where
  tracked : ∀ scheduled ∈ done, ∃ old new interval emitted endpointAtPs,
    Tracked before released sampled acc scheduled old new interval emitted endpointAtPs
  emitted : ∀ metric ∈ acc.metrics, ∃ scheduled ∈ done, metric.requestId = scheduled.requestId
  others : ∀ id, id ∉ done.map (·.requestId) → acc.states.get? id = before.get? id

theorem Tracked.pass {released : Nat} {other : ScheduledRequest}
    {old new moved : RequestMetricState} {interval added : BottleneckRanking kernelKey}
    {more : Option RequestMetric} {endpointAtPs observed : Int}
    (tracked : Tracked before released sampled acc other old new interval emitted endpointAtPs)
    (hne : scheduled.requestId ≠ other.requestId)
    (hmore : ∀ metric ∈ more.toList, metric.requestId = scheduled.requestId) :
    Tracked before released sampled
      ⟨acc.states.set scheduled.requestId moved, acc.metrics ++ more.toList,
        acc.intervals.set scheduled.requestId added,
        acc.origins.set scheduled.requestId observed⟩
      other old new interval emitted endpointAtPs where
  enters := tracked.enters
  facts := tracked.facts
  state := by rw [Table.get?_set, if_neg hne, tracked.state]
  interval_at := by rw [Table.get?_set, if_neg hne, tracked.interval_at]
  origin := by rw [Table.get?_set, if_neg hne, tracked.origin]
  metrics := by
    rw [metricsOf_append, metricsOf_owned hmore, if_neg hne, append_nil, tracked.metrics]
  sampled_iff := tracked.sampled_iff
  span := tracked.span
  move := tracked.move

theorem currentState_enters {states : Dict RequestMetricState} {state : RequestMetricState}
    (hsame : states.get? id = before.get? id)
    (h : currentState arrivals inputs.record states id = .ok state) :
    EntersWith before id state := by
  unfold currentState at h
  split at h
  next found hfound =>
    cases h
    exact .inl (hsame ▸ hfound)
  next hnone =>
    obtain ⟨observed, -, h⟩ := of_bind h
    cases h
    exact .inr ⟨hsame ▸ hnone, observed, rfl⟩

section Track

variable (hrankings : inputs.bottleneckSegments = some rankings)
  (ranks : RanksSegments inputs.report rankings)

include hrankings ranks

theorem reduceRequest_tracks {done : List ScheduledRequest}
    (hsegments : segments = inputs.report.segments ∧ (segments.map (·.key)).Nodup)
    (loop : LoopFacts before emittedBefore inputs.graph.releasedAtPs inputs.result.completedAtPs
      (done.map (·.requestId)) acc)
    (tracking : Tracking before inputs.graph.releasedAtPs sampled done acc)
    (hnew : scheduled.requestId ∉ done.map (·.requestId))
    (harrived : ArrivedBy arrivals inputs.record before inputs.graph.releasedAtPs
      scheduled.requestId)
    (h : reduceRequest arrivals inputs segments sampled acc scheduled = .ok next) :
    Tracking before inputs.graph.releasedAtPs sampled (done ++ [scheduled]) next := by
  obtain ⟨endpoint, chain, attribution, old, new, interval, emitted, hchain, hold, hinterval,
    hsampled, hmove, rfl⟩ := reduceRequest_effect hrankings h
  obtain ⟨rfl, hnodup⟩ := hsegments
  have howner : ∀ metric ∈ emitted.toList, metric.requestId = scheduled.requestId := by
    intro metric hmetric
    obtain ⟨_, htoken⟩ := hmove.token metric (Option.mem_toList.mp hmetric)
    exact htoken.owner
  have hspan : (interval.spanPs : Int) = endpoint.completedAtPs - inputs.graph.releasedAtPs := by
    obtain ⟨hsubset, hlatency⟩ := requestCriticalChain_subset hchain
    have htotal := requestCriticalChain_total hchain
    have hrank := (combineChain_span ranks hnodup hsubset hinterval).1
    omega
  have hfresh : metricsOf scheduled.requestId acc.metrics = [] := by
    refine filter_eq_nil_iff.mpr fun metric hmetric => ?_
    obtain ⟨other, hother, heq⟩ := tracking.emitted metric hmetric
    simp only [beq_iff_eq]
    rintro hid
    exact hnew (mem_map.mpr ⟨other, hother, heq.symm.trans hid⟩)
  refine ⟨?_, ?_, ?_⟩
  · intro other hother
    rcases mem_append.mp hother with hother | hother
    · obtain ⟨old', new', interval', emitted', endpoint', htracked⟩ := tracking.tracked other hother
      have hne : scheduled.requestId ≠ other.requestId := by
        intro heq
        exact hnew (mem_map.mpr ⟨other, hother, heq.symm⟩)
      exact ⟨old', new', interval', emitted', endpoint', htracked.pass hne howner⟩
    · obtain rfl : other = scheduled := by simpa using hother
      refine ⟨old, new, interval, emitted, endpoint.completedAtPs,
        currentState_enters (tracking.others _ hnew) hold, ⟨_, loop.current hnew harrived hold⟩,
        Table.get?_set_self .., Table.get?_set_self .., Table.get?_set_self .., ?_, hsampled,
          hspan, hmove⟩
      rw [metricsOf_append, hfresh, metricsOf_owned howner, if_pos rfl, nil_append]
  · intro metric hmetric
    rcases mem_append.mp hmetric with hmetric | hmetric
    · obtain ⟨other, hother, heq⟩ := tracking.emitted metric hmetric
      exact ⟨other, by simp [hother], heq⟩
    · exact ⟨scheduled, by simp, howner metric hmetric⟩
  · intro id hid
    have hparts : id ∉ done.map (·.requestId) ∧ scheduled.requestId ≠ id := by
      simpa [eq_comm, not_or] using hid
    rw [Table.get?_set, if_neg hparts.2]
    exact tracking.others id hparts.1

theorem reduceLoop_tracks {requests : List ScheduledRequest}
    (hvalid : validateInputs inputs.record inputs.graph inputs.result inputs.report nowPs =
      .ok segments)
    (loop : LoopFacts before emittedBefore inputs.graph.releasedAtPs inputs.result.completedAtPs
      [] ({ states := before } : Reducing kernelKey)) (hnodup : (requests.map (·.requestId)).Nodup)
    (harrived : ∀ request ∈ requests,
      ArrivedBy arrivals inputs.record before inputs.graph.releasedAtPs request.requestId)
    (h : requests.foldlM (reduceRequest arrivals inputs segments sampled) { states := before } =
      .ok acc) : Tracking before inputs.graph.releasedAtPs sampled requests acc := by
  have hstart : Tracking before inputs.graph.releasedAtPs sampled []
      ({ states := before } : Reducing kernelKey) := ⟨by simp, by simp, fun _ _ => rfl⟩
  refine (foldlM_done (fun done acc => LoopFacts before emittedBefore _ _
    (done.map (·.requestId)) acc ∧
    Tracking before inputs.graph.releasedAtPs sampled done acc) h ⟨loop, hstart⟩ ?_).2
  rintro done request rest acc next rfl ⟨hloop, htracking⟩ hnext
  rw [map_append] at hnodup
  have hnew : request.requestId ∉ done.map (·.requestId) := fun hmem =>
    disjoint_of_nodup_append hnodup hmem (by simp)
  have harrived' := harrived request (by simp)
  have hfacts := reduceRequest_facts hvalid hloop hnew harrived' hnext
  refine ⟨by simpa using hfacts, ?_⟩
  exact reduceRequest_tracks hrankings ranks (validateInputs_segments hvalid) hloop htracking hnew
    harrived' hnext

end Track

end SimLLM
