import SimLLM.BottleneckAgreement

namespace SimLLM

open List

variable {α : Type} {kernelKey : KernelEvidence → String}

structure Lockstep (state : RequestMetricState) (rank : RankingState kernelKey) : Prop where
  accounted : rank.accountedPs = state.accountedThroughPs
  pending : (rank.pending.spanPs : Int) =
    state.accountedThroughPs - state.lastTokenAtPs.getD state.firstObservedAtPs
  waiting : state.firstTokenAtPs = none → rank.ttft = none
  started : ∀ first, state.firstTokenAtPs = some first → ∃ ttft, rank.ttft = some ttft ∧
    (ttft.spanPs : Int) = first - state.firstObservedAtPs
  decode : (rank.decode.spanPs : Int) = state.interTokenSumPs
  count : rank.count = state.interTokenCount

structure RowFacts (metric : RequestMetric) (row : RequestBottleneck kernelKey) : Prop where
  owner : row.requestId = metric.requestId
  ttft : (row.ttft.spanPs : Int) = metric.ttftPs
  single : row.tpot = none ↔ metric.tokenIndex = 1
  divisor : ∀ tpot ∈ row.tpot, tpot.divisor + 1 = metric.tokenIndex
  tpot : row.tpot.map (·.latencyPs) = metric.tpotPs

section Request

variable {old new : RequestMetricState} {rank next : RankingState kernelKey}
  {scheduled : ScheduledRequest} {endpointAtPs : Int} {released : Nat}
  {interval selected : BottleneckRanking kernelKey}
  {metrics : List RequestMetric}

variable {tpot : Option (BottleneckRanking kernelKey)} {row : RequestBottleneck kernelKey}

theorem RequestBottleneck.make_eq_ok {requestId : String} {ttft : BottleneckRanking kernelKey}
    (h : RequestBottleneck.make requestId ttft tpot = .ok row) :
    row.requestId = requestId ∧ row.ttft = ttft ∧ row.tpot = tpot := by
  unfold RequestBottleneck.make at h
  repeat' split at h
  all_goals cases h
  exact ⟨rfl, rfl, rfl⟩

theorem tpotRanking_effect {decode : BottleneckRanking kernelKey} {count : Nat}
    (h : tpotRanking decode count = .ok tpot) : (tpot = none ↔ count = 0) ∧
      ∀ value ∈ tpot, value.spanPs = decode.spanPs ∧ value.divisor = count := by
  unfold tpotRanking at h
  by_cases hzero : count = 0
  · rw [if_pos hzero] at h
    cases h
    exact ⟨by simp [hzero], by simp⟩
  · rw [if_neg hzero] at h
    obtain ⟨made, hmade, h⟩ := of_bind h
    cases h
    have hspan := combine_span hmade
    refine ⟨by simp [hzero], ?_⟩
    intro value hvalue
    cases hvalue
    simpa using hspan

section

variable (lock : Lockstep old rank) (hselected : (selected.spanPs : Int) = endpointAtPs - released)
  (hinterval : (interval.spanPs : Int) =
    rank.pending.spanPs + (released - rank.accountedPs) + selected.spanPs)

include lock hselected hinterval

theorem Lockstep.interval_span :
    (interval.spanPs : Int) = endpointAtPs - old.lastTokenAtPs.getD old.firstObservedAtPs := by
  have haccounted := lock.accounted
  have hpending := lock.pending
  omega

theorem Lockstep.unsampled (move : StateMove old new none scheduled endpointAtPs) :
    Lockstep new ⟨released + selected.spanPs, interval, rank.ttft, rank.decode, rank.count⟩ := by
  obtain ⟨hfirst, hlast, hsum, hcount⟩ := move.waits rfl
  have hobserved := move.observed
  have haccounted := move.accounted
  have hspan := lock.interval_span hselected hinterval
  refine ⟨?_, ?_, ?_, ?_, ?_, ?_⟩
  · show (released : Int) + selected.spanPs = _
    omega
  · rw [haccounted, hlast, hobserved]
    exact hspan
  · rw [hfirst]
    exact lock.waiting
  · rw [hfirst, hobserved]
    exact lock.started
  · rw [hsum]
    exact lock.decode
  · rw [hcount]
    exact lock.count

theorem Lockstep.sampled (facts : MetricFacts released old metrics)
    {metric : RequestMetric} (move : StateMove old new (some metric) scheduled endpointAtPs)
    (h : sampleRow scheduled.requestId rank interval (released + selected.spanPs) =
      .ok (next, row)) : Lockstep new next ∧ RowFacts metric row := by
  obtain ⟨⟨ttft, decode, count⟩, hclosed, h⟩ := of_bind h
  obtain ⟨tpot, htpot, h⟩ := of_bind h
  obtain ⟨made, hmade, h⟩ := of_bind h
  cases h
  obtain ⟨hid, hrowTtft, hrowTpot⟩ := RequestBottleneck.make_eq_ok hmade
  obtain ⟨hsingle, hdivided⟩ := tpotRanking_effect htpot
  obtain ⟨attribution, token⟩ := move.token metric rfl
  have hspan := lock.interval_span hselected hinterval
  have hobserved := move.observed
  have haccounted := move.accounted
  have hindex : metric.tokenIndex = old.tokenCount + 1 := token.index
  -- what the two histories count as the first token and as later intervals
  obtain ⟨first, hfirst, hfirstSpan, hsum, hcount, httft, htokens⟩ :
      ∃ first, new.firstTokenAtPs = some first ∧
        (ttft.spanPs : Int) = first - old.firstObservedAtPs ∧
        (decode.spanPs : Int) = new.interTokenSumPs ∧ count = new.interTokenCount ∧
        metric.ttftPs = first - old.firstObservedAtPs ∧ count + 1 = metric.tokenIndex := by
    obtain ⟨counted, hcounted, hnewFirst, hnewSum, hnewCount⟩ := token.first
    have hdecode := lock.decode
    have hintervals := lock.count
    cases hold : old.firstTokenAtPs with
    | none =>
      obtain ⟨hempty, hzero, -⟩ := facts.waiting hold
      have hlast : old.lastTokenAtPs = none := by
        rw [facts.last, hempty]
        rfl
      have hlength := facts.tokens
      rw [hempty, length_nil] at hlength
      rw [hlast, Option.getD_none] at hspan
      simp only [closeInterval, lock.waiting hold, Except.ok.injEq, Prod.mk.injEq] at hclosed
      obtain ⟨rfl, rfl, rfl⟩ := hclosed
      simp only [RequestMetricState.countToken, hold, Except.ok.injEq, Prod.mk.injEq] at hcounted
      obtain ⟨-, hmetric, rfl⟩ := hcounted
      refine ⟨endpointAtPs, hnewFirst, hspan, ?_, ?_, hmetric.symm, ?_⟩
      · rw [hnewSum]
        exact hdecode
      · rw [hnewCount]
        exact hintervals
      · omega
    | some first =>
      obtain ⟨last, hlast, hnumber, -⟩ := facts.started first hold
      obtain ⟨old', hrank, hrankSpan⟩ := lock.started first hold
      rw [hlast, Option.getD_some] at hspan
      simp only [closeInterval, hrank] at hclosed
      obtain ⟨combined, hcombined, hclosed⟩ := of_bind hclosed
      cases hclosed
      have hcombinedSpan : decode.spanPs = rank.decode.spanPs + interval.spanPs := by
        simpa using (combine_span hcombined).1
      simp only [RequestMetricState.countToken, hold, hlast, Except.ok.injEq,
        Prod.mk.injEq] at hcounted
      obtain ⟨-, hmetric, rfl⟩ := hcounted
      refine ⟨first, hnewFirst, hrankSpan, ?_, ?_, hmetric.symm, ?_⟩
      · rw [hnewSum]
        simp only
        omega
      · rw [hnewCount]
        simp only
        omega
      · omega
  refine ⟨⟨?_, ?_, ?_, ?_, hsum, hcount⟩, ⟨?_, ?_, ?_, ?_, ?_⟩⟩
  · show (released : Int) + selected.spanPs = _
    omega
  · rw [token.last, haccounted, Option.getD_some, Int.sub_self]
    rfl
  · intro hnone
    rw [hfirst] at hnone
    cases hnone
  · intro other hother
    rw [hfirst] at hother
    cases hother
    exact ⟨ttft, rfl, by rw [hobserved]; exact hfirstSpan⟩
  · rw [hid, token.owner]
  · rw [hrowTtft, hfirstSpan, httft]
  · rw [hrowTpot, hsingle]
    omega
  · rw [hrowTpot]
    intro value hvalue
    have hvalueDivisor := (hdivided value hvalue).2
    omega
  · rw [hrowTpot, token.tpot, ← hcount]
    cases tpot with
    | none =>
      rw [if_pos (hsingle.mp rfl)]
      rfl
    | some value =>
      obtain ⟨hvalue, hdivisor⟩ := hdivided value rfl
      have hpositive : count ≠ 0 := by
        intro hzero
        cases hsingle.mpr hzero
      rw [if_neg hpositive, Option.map_some, BottleneckRanking.latencyPs, hvalue, hdivisor, ← hsum,
        Int.cast_natCast]

end

end Request

def InLockstep (requests : Dict RequestMetricState) (ranks : Dict (RankingState kernelKey)) :
    Prop :=
  ∀ id, Option.Rel Lockstep (requests.get? id) (ranks.get? id)

def enteredRank (ranks : Dict (RankingState kernelKey)) (id : String) (origin : Int) :
    RankingState kernelKey :=
  (ranks.get? id).getD ⟨origin, emptyRanking kernelKey, none, emptyRanking kernelKey, 0⟩

variable {ranks : Dict (RankingState kernelKey)} {old : RequestMetricState}

theorem InLockstep.entered {requests : Dict RequestMetricState} (lock : InLockstep requests ranks)
    {id : String} (enters : EntersWith requests id old) :
    Lockstep old (enteredRank ranks id old.firstObservedAtPs) := by
  have hlock := lock id
  unfold enteredRank
  generalize ranks.get? id = known at hlock ⊢
  rcases enters with hknown | ⟨hfresh, observed, rfl⟩
  · rw [hknown] at hlock
    cases hlock with
    | some hpair => exact hpair
  · rw [hfresh] at hlock
    cases hlock
    exact ⟨rfl, by simp [emptyRanking], fun _ => rfl, by simp, rfl, rfl⟩

section Project

variable {record : StepRecord} {sampled : List String} {before : Dict RequestMetricState}
  {acc : Reducing kernelKey} {released : Nat}
  {projected next : Projecting kernelKey}

theorem projectRequest_effect {intervals : Dict (BottleneckRanking kernelKey)} {origins : Dict Int}
    {scheduled : ScheduledRequest} {origin : Int} {selected : BottleneckRanking kernelKey}
    (horigin : origins.get? scheduled.requestId = some origin)
    (hselected : intervals.get? scheduled.requestId = some selected)
    (h : projectRequest record sampled intervals origins projected scheduled = .ok next) :
    ∃ rank interval, rank = enteredRank projected.states scheduled.requestId origin ∧
      (interval.spanPs : Int) =
        rank.pending.spanPs + (record.virtualTimePs - rank.accountedPs) + selected.spanPs ∧
      ((scheduled.requestId ∈ sampled ∧ ∃ after row,
          sampleRow scheduled.requestId rank interval (record.virtualTimePs + selected.spanPs) =
            .ok (after, row) ∧
          next = ⟨projected.states.set scheduled.requestId after, projected.rows ++ [row]⟩) ∨
        (scheduled.requestId ∉ sampled ∧
          next = ⟨projected.states.set scheduled.requestId
            ⟨record.virtualTimePs + selected.spanPs, interval, rank.ttft, rank.decode, rank.count⟩,
            projected.rows⟩)) := by
  obtain ⟨origin', horigin', h⟩ := of_bind h
  obtain ⟨_, hgap, h⟩ := of_bind h
  obtain ⟨batching, hbatching, h⟩ := of_bind h
  obtain ⟨selected', hselected', h⟩ := of_bind h
  obtain ⟨interval, hinterval, h⟩ := of_bind h
  simp only [lookupKey, horigin, Except.ok.injEq] at horigin'
  simp only [lookupKey, hselected, Except.ok.injEq] at hselected'
  subst horigin' hselected'
  have hspan := (combine_span hinterval).1
  have hbatchingSpan := (ranking_span hbatching).1
  simp only [map_cons, map_nil, sum_cons, sum_nil] at hspan hbatchingSpan
  refine ⟨_, interval, rfl, ?_, ?_⟩
  · unfold enteredRank
    omega
  · split at h
    next hmem =>
      obtain ⟨⟨after, row⟩, hrow, h⟩ := of_bind h
      exact .inl ⟨hmem, after, row, hrow, (Except.ok.inj h).symm⟩
    next hmem => exact .inr ⟨hmem, (Except.ok.inj h).symm⟩

/-- A projection in the middle of its loop: the requests in `done` are in lockstep with the states
the step leaves, the others are as they were, and every metric of a request in `done` has its
row. -/
structure ProjectionFacts (ranks : Dict (RankingState kernelKey)) (acc : Reducing kernelKey)
    (done : List ScheduledRequest) (projected : Projecting kernelKey) : Prop where
  untouched : ∀ id, id ∉ done.map (·.requestId) → projected.states.get? id = ranks.get? id
  lock : ∀ scheduled ∈ done, Option.Rel Lockstep (acc.states.get? scheduled.requestId)
    (projected.states.get? scheduled.requestId)
  owners : (projected.rows.map (·.requestId)).Sublist (done.map (·.requestId))
  rows : ∀ metric ∈ acc.metrics, metric.requestId ∈ done.map (·.requestId) →
    ∃ row ∈ projected.rows, RowFacts metric row

variable {all done : List ScheduledRequest} {scheduled : ScheduledRequest}

section

variable (facts : ProjectionFacts ranks acc done projected)

include facts

theorem ProjectionFacts.join {new : RequestMetricState} {rank : RankingState kernelKey}
    {rows : List (RequestBottleneck kernelKey)}
    (hstate : acc.states.get? scheduled.requestId = some new) (hlock : Lockstep new rank)
    (howner : (rows.map (·.requestId)).Sublist [scheduled.requestId])
    (hrows : ∀ metric ∈ metricsOf scheduled.requestId acc.metrics,
      ∃ row ∈ rows, RowFacts metric row) : ProjectionFacts ranks acc (done ++ [scheduled])
      ⟨projected.states.set scheduled.requestId rank, projected.rows ++ rows⟩ := by
  refine ⟨?_, ?_, ?_, ?_⟩
  · intro id hid
    have hparts : id ∉ done.map (·.requestId) ∧ scheduled.requestId ≠ id := by
      simpa [eq_comm, not_or] using hid
    rw [Table.get?_set, if_neg hparts.2]
    exact facts.untouched id hparts.1
  · intro other hother
    rw [Table.get?_set]
    by_cases hid : scheduled.requestId = other.requestId
    · rw [if_pos hid, ← hid, hstate]
      exact .some hlock
    · rw [if_neg hid]
      have hdone : other ∈ done := by
        rcases mem_append.mp hother with hdone | hlast
        · exact hdone
        · obtain rfl : other = scheduled := by simpa using hlast
          exact absurd rfl hid
      exact facts.lock other hdone
  · rw [map_append, map_append]
    exact facts.owners.append howner
  · intro metric hmetric hid
    by_cases hsame : metric.requestId = scheduled.requestId
    · obtain ⟨row, hrow, hfacts⟩ := hrows metric (mem_filter.mpr ⟨hmetric, by simpa using hsame⟩)
      exact ⟨row, by simp [hrow], hfacts⟩
    · have hdone : metric.requestId ∈ done.map (·.requestId) := by
        simpa [hsame, or_false] using hid
      obtain ⟨row, hrow, hfacts⟩ := facts.rows metric hmetric hdone
      exact ⟨row, by simp [hrow], hfacts⟩

variable (lock : InLockstep before ranks) (hnew : scheduled.requestId ∉ done.map (·.requestId))

include lock hnew

theorem ProjectionFacts.entered (enters : EntersWith before scheduled.requestId old) :
    Lockstep old (enteredRank projected.states scheduled.requestId old.firstObservedAtPs) := by
  unfold enteredRank
  rw [facts.untouched _ hnew]
  exact lock.entered enters

variable (tracking : Tracking before released sampled all acc) (hmem : scheduled ∈ all)

include tracking hmem

theorem ProjectionFacts.gap : ∃ origin, acc.origins.get? scheduled.requestId = some origin ∧
    (enteredRank projected.states scheduled.requestId origin).accountedPs ≤ released := by
  obtain ⟨old, new, interval, emitted, endpointAtPs, tracked⟩ := tracking.tracked scheduled hmem
  obtain ⟨metrics, hmetrics⟩ := tracked.facts
  have hlock := facts.entered lock hnew tracked.enters
  refine ⟨old.firstObservedAtPs, tracked.origin, ?_⟩
  rw [hlock.accounted]
  exact hmetrics.accounted

theorem projectRequest_facts (hrelease : (released : Int) = record.virtualTimePs)
    (h : projectRequest record sampled acc.intervals acc.origins projected scheduled = .ok next) :
    ProjectionFacts ranks acc (done ++ [scheduled]) next := by
  obtain ⟨old, new, selected, emitted, endpointAtPs, tracked⟩ := tracking.tracked scheduled hmem
  obtain ⟨metrics, hmetrics⟩ := tracked.facts
  obtain ⟨rank, interval, rfl, hinterval, hcase⟩ :=
    projectRequest_effect tracked.origin tracked.interval_at h
  rw [← hrelease] at hinterval hcase
  have hlock := facts.entered lock hnew tracked.enters
  rcases hcase with ⟨hsampled, after, row, hrow, rfl⟩ | ⟨hunsampled, rfl⟩
  · obtain ⟨metric, rfl⟩ := Option.isSome_iff_exists.mp (tracked.sampled_iff.mpr hsampled)
    obtain ⟨hafter, hfacts⟩ := hlock.sampled tracked.span hinterval hmetrics tracked.move hrow
    obtain ⟨attribution, token⟩ := tracked.move.token metric rfl
    refine facts.join tracked.state hafter ?_ ?_
    · simp [hfacts.owner, token.owner]
    · rw [tracked.metrics]
      intro other hother
      obtain rfl : other = metric := by simpa using hother
      exact ⟨row, by simp, hfacts⟩
  · have hnone : emitted = none := by
      cases emitted with
      | none => rfl
      | some metric => exact absurd (tracked.sampled_iff.mp rfl) hunsampled
    subst hnone
    have hafter := hlock.unsampled tracked.span hinterval tracked.move
    have hempty : (([] : List (RequestBottleneck kernelKey)).map (·.requestId)).Sublist
        [scheduled.requestId] := by simp
    have hjoin := facts.join tracked.state hafter hempty (by simp [tracked.metrics])
    simpa using hjoin

end

theorem ProjectionFacts.start (ranks : Dict (RankingState kernelKey)) (acc : Reducing kernelKey) :
    ProjectionFacts ranks acc [] ⟨ranks, []⟩ :=
  ⟨fun _ _ => rfl, by simp, by simp, by simp⟩

theorem projectLoop_facts (hpart : done <+: all)
    (hrelease : (released : Int) = record.virtualTimePs) (lock : InLockstep before ranks)
    (tracking : Tracking before released sampled all acc) (hnodup : (all.map (·.requestId)).Nodup)
    (h : done.foldlM (projectRequest record sampled acc.intervals acc.origins) ⟨ranks, []⟩ =
      .ok projected) : ProjectionFacts ranks acc done projected := by
  obtain ⟨rest, rfl⟩ := hpart
  refine foldlM_done (ProjectionFacts ranks acc) h (.start ranks acc) ?_
  rintro first scheduled last projected next rfl facts hnext
  rw [append_assoc, map_append] at hnodup
  exact projectRequest_facts facts lock
    (fun hmem => disjoint_of_nodup_append hnodup hmem (by simp)) tracking (by simp) hrelease hnext

end Project

section Report

variable {step : BottleneckRanking kernelKey} {report : BottleneckReport kernelKey}

theorem checkMetricRow_ok {metric : RequestMetric}
    {row : RequestBottleneck kernelKey} (hrow : row ∈ report.requests)
    (facts : RowFacts metric row) : checkMetricRow report metric = .ok () := by
  have hfound := find?_key (report.ordered.imp fun hlt => ne_of_lt hlt) hrow
  rw [facts.owner] at hfound
  have hsingle : (row.tpot.isNone == (metric.tokenIndex == 1)) = true := by
    rw [beq_iff_eq, Bool.eq_iff_iff, Option.isNone_iff_eq_none, beq_iff_eq]
    exact facts.single
  have hdivisor : row.tpot.all (·.divisor + 1 == metric.tokenIndex) = true := by
    cases hvalue : row.tpot with
    | none => rfl
    | some value => simpa using facts.divisor value hvalue
  have httft : row.ttft.latencyPs = metric.ttftPs := by
    rw [BottleneckRanking.latencyPs, row.undivided, ← facts.ttft]
    simp
  unfold checkMetricRow
  simp only [hfound, hsingle, hdivisor, httft, facts.tpot, Bool.and_self, beq_self_eq_true,
    require, if_true]
  rfl

theorem BottleneckReport.make_sorted {stepIndex : Int} {rows : List (RequestBottleneck kernelKey)}
    (hindex : 0 ≤ stepIndex) (hstep : step.divisor = 1) (hnodup : (rows.map (·.requestId)).Nodup) :
    ∃ report, BottleneckReport.make stepIndex step
        (rows.insertionSort fun a b => a.requestId ≤ b.requestId) = .ok report ∧
      report.stepIndex = stepIndex ∧ report.step = step ∧
      ∀ row ∈ rows, row ∈ report.requests := by
  let sorted := rows.insertionSort fun a b => a.requestId ≤ b.requestId
  have hperm : sorted.Perm rows := perm_insertionSort _ _
  have hle : sorted.Pairwise fun a b => a.requestId ≤ b.requestId :=
    pairwise_insertionSort _ _
  have hdistinct := (hperm.map _).nodup_iff.mpr hnodup
  have hne := pairwise_map.mp hdistinct
  have hordered := pairwise_map.mpr ((hle.and hne).imp fun h => lt_of_le_of_ne h.1 h.2)
  unfold BottleneckReport.make
  rw [dif_pos hindex, dif_pos hstep, dif_pos hordered]
  exact ⟨_, rfl, rfl, rfl, fun row hrow => hperm.mem_iff.mpr hrow⟩

theorem validateResult_iff {result : StepResult} (hindex : report.stepIndex = result.stepIndex)
    (hrows : ∀ metric ∈ result.requestMetrics, ∃ row ∈ report.requests, RowFacts metric row) :
    report.validateResult result = .ok () ↔ (report.step.spanPs : Int) = result.stepLatencyPs := by
  unfold BottleneckReport.validateResult
  rw [bind_eq_ok]
  constructor
  · rintro ⟨_, hspan, -⟩
    simpa [hindex] using hspan
  · intro hspan
    refine ⟨(), by simp [require, hindex, hspan], ?_⟩
    refine forM_eq_ok.mpr fun metric hmetric => ?_
    obtain ⟨row, hrow, hfacts⟩ := hrows metric hmetric
    exact checkMetricRow_ok hrow hfacts

end Report

section Run

variable {reducer : CompletionReducer α kernelKey} {inputs : ReducerInputs kernelKey}
  {history : BottleneckHistory kernelKey} {results : List StepResult}

def Classified (inputs : ReducerInputs kernelKey) : Prop :=
  ∃ selected gpu cells rankings,
    classifyRuntime kernelKey inputs.graph inputs.report selected gpu cells = .ok rankings ∧
    inputs.bottleneckSegments = some rankings

def realizedEnd (graph : ExecutionGraph) (report : RuntimeReport) : Nat :=
  match (report.realizedCriticalPathSegments.filterMap (segment? report.segments)).getLast? with
  | some segment => segment.completedAtPs
  | none => graph.releasedAtPs

variable {segments : List RuntimeCriticalSegment}

theorem filterMap_segment_keys {keys : List (String × Nat)}
    (h : keys.all fun key => (segment? segments key).isSome) :
    (keys.filterMap (segment? segments)).map (·.key) = keys := by
  induction keys with
  | nil => rfl
  | cons key rest ih =>
    simp only [all_cons, Bool.and_eq_true] at h
    obtain ⟨segment, hsegment⟩ := Option.isSome_iff_exists.mp h.1
    rw [filterMap_cons_some hsegment, map_cons, ih h.2, (of_find?_key hsegment).2]

/-- The reducer has accepted a step: its inputs are valid, every scheduled request was reduced,
and the rankings of its realized critical path combine. -/
structure Accepted (reducer : CompletionReducer α kernelKey) (inputs : ReducerInputs kernelKey)
    (sampled : List String) (acc : Reducing kernelKey) (step : BottleneckRanking kernelKey) :
    Prop where
  valid : ∃ segments, validateInputs inputs.record inputs.graph inputs.result inputs.report
      reducer.clock.nowPs = .ok segments ∧
    inputs.record.scheduled.foldlM (reduceRequest reducer.requestArrivals inputs segments sampled)
      { states := reducer.requests } = .ok acc
  sampled : sampledRequestIds inputs.record = .ok sampled
  arrived : reducer.checkArrivals inputs.record = .ok ()
  path : combineChain (inputs.bottleneckSegments.getD [])
    inputs.report.realizedCriticalPathSegments = .ok step

section Accept

variable {sampled : List String} {acc : Reducing kernelKey} {step : BottleneckRanking kernelKey}

variable (accepted : Accepted reducer inputs sampled acc step)

include accepted

theorem Accepted.tracking (facts : HistoryFacts results reducer) (classified : Classified inputs) :
    Tracking reducer.requests inputs.graph.releasedAtPs sampled inputs.record.scheduled acc := by
  obtain ⟨segments, hvalid, hloop⟩ := accepted.valid
  obtain ⟨selected, gpu, cells, rankings, hclassify, hrankings⟩ := classified
  obtain ⟨hrelease, -, -⟩ := validateInputs_identities hvalid
  exact reduceLoop_tracks hrankings (classifyRuntime_ranks hclassify) hvalid (facts.loop hvalid)
    (sampledRequestIds_nodup accepted.sampled)
    (fun request hmem => checkArrivals_arrived accepted.arrived hrelease hmem) hloop

theorem Accepted.step_span (classified : Classified inputs) :
    (step.spanPs : Int) = realizedEnd inputs.graph inputs.report - inputs.graph.releasedAtPs ∧
      step.divisor = 1 := by
  obtain ⟨segments, hvalid, -⟩ := accepted.valid
  obtain ⟨selected, gpu, cells, rankings, hclassify, hrankings⟩ := classified
  have hpath := accepted.path
  rw [hrankings, Option.getD_some] at hpath
  obtain ⟨rfl, hnodup⟩ := validateInputs_segments hvalid
  obtain ⟨hknown, hconserves⟩ := validateInputs_chain hvalid
  let chain := inputs.report.realizedCriticalPathSegments.filterMap
    (segment? inputs.report.segments)
  have hkeys := filterMap_segment_keys hknown
  have hsubset : ∀ segment ∈ chain, segment ∈ inputs.report.segments := by
    intro segment hsegment
    obtain ⟨key, -, hkey⟩ := mem_filterMap.mp hsegment
    exact mem_of_find?_eq_some hkey
  rw [← hkeys] at hpath
  obtain ⟨hspan, hdivisor⟩ :=
    combineChain_span (classifyRuntime_ranks hclassify) hnodup hsubset hpath
  refine ⟨?_, hdivisor⟩
  unfold realizedEnd
  split
  next last hlast =>
    have htotal := hconserves last hlast
    rw [hspan]
    exact htotal
  next hlast =>
    have hempty : chain = [] := getLast?_eq_none_iff.mp hlast
    rw [hempty] at hspan
    simp [hspan]

theorem Accepted.index : 0 ≤ inputs.record.stepIndex := by
  obtain ⟨segments, hvalid, -⟩ := accepted.valid
  obtain ⟨_, hids, -⟩ := of_bind hvalid
  obtain ⟨_, hindex, -⟩ := of_bind hids
  have hsame : (inputs.graph.stepIndex : Int) = inputs.record.stepIndex := by simpa using hindex
  omega

theorem Accepted.release : (inputs.graph.releasedAtPs : Int) = inputs.record.virtualTimePs := by
  obtain ⟨segments, hvalid, -⟩ := accepted.valid
  exact (validateInputs_identities hvalid).1

end Accept

theorem ProjectionFacts.lockstep {before : Dict RequestMetricState} {acc : Reducing kernelKey}
    {released : Nat} {sampled : List String} {scheduled : List ScheduledRequest}
    {projected : Projecting kernelKey} (facts : ProjectionFacts ranks acc scheduled projected)
    (lock : InLockstep before ranks) (tracking : Tracking before released sampled scheduled acc) :
    InLockstep acc.states projected.states := by
  intro id
  by_cases hid : id ∈ scheduled.map (·.requestId)
  · obtain ⟨request, hrequest, rfl⟩ := mem_map.mp hid
    exact facts.lock request hrequest
  · rw [tracking.others id hid, facts.untouched id hid]
    exact lock id

variable {staged : Reduced kernelKey}

theorem stage_projects (h : reducer.stage inputs = .ok staged)
    (hhistory : reducer.bottleneckHistory = some history) :
    ∃ sampled acc step report projected, Accepted reducer inputs sampled acc step ∧
      inputs.record.scheduled.foldlM
        (projectRequest inputs.record sampled acc.intervals acc.origins) ⟨history.states, []⟩ =
        .ok projected ∧
      staged.states = acc.states ∧ staged.projection = some (report, projected.states) := by
  obtain ⟨segments, sampled, acc, hvalid, hsampled, harrived, hloop, hproject, hstates, -⟩ :=
    stage_loop h
  rw [hhistory] at hproject
  obtain ⟨step, hstep, hproject⟩ := of_bind hproject
  obtain ⟨⟨report, states⟩, hprojection, hproject⟩ := of_bind hproject
  obtain ⟨sampled', hsampled', hprojection⟩ := of_bind hprojection
  obtain rfl := Except.ok.inj (hsampled.symm.trans hsampled')
  obtain ⟨projected, hprojected, hprojection⟩ := of_bind hprojection
  obtain ⟨made, -, hprojection⟩ := of_bind hprojection
  replace hprojection := of_check hprojection
  obtain ⟨rfl, rfl⟩ := Prod.mk.injEq _ _ _ _ ▸ Except.ok.inj hprojection
  exact ⟨sampled, acc, step, made, projected, ⟨⟨segments, hvalid, hloop⟩, hsampled, harrived,
    hstep⟩, hprojected, hstates, (Except.ok.inj hproject).symm⟩

def HistoriesAgree (reducer : CompletionReducer α kernelKey) : Prop :=
  ∀ history, reducer.bottleneckHistory = some history →
    InLockstep reducer.requests history.states

theorem HistoriesAgree.reduced (agree : HistoriesAgree reducer)
    (facts : HistoryFacts results reducer) (classified : Classified inputs)
    (h : reducer.stage inputs = .ok staged) (lifetimes : Option RequestLifetimeRegistry) :
    HistoriesAgree (reducer.commit inputs staged lifetimes) := by
  cases hhistory : reducer.bottleneckHistory with
  | none =>
    intro history hcommitted
    unfold CompletionReducer.commit commitBottleneck at hcommitted
    cases hprojection : staged.projection <;> simp [hprojection, hhistory] at hcommitted
  | some old =>
    obtain ⟨sampled, acc, step, report, projected, accepted, hprojected, hstates, hprojection⟩ :=
      stage_projects h hhistory
    have hlock := agree old hhistory
    have htracking := accepted.tracking facts classified
    have hfacts := projectLoop_facts (prefix_refl _) accepted.release hlock htracking
      (sampledRequestIds_nodup accepted.sampled) hprojected
    intro history hcommitted
    unfold CompletionReducer.commit commitBottleneck at hcommitted ⊢
    simp only [hprojection, hhistory, Option.map_some, Option.some.injEq] at hcommitted
    subst hcommitted
    rw [hstates]
    exact hfacts.lockstep hlock htracking

theorem ReducerRun.agree (run : ReducerRun Classified results reducer) :
    HistoriesAgree reducer := by
  induction run with
  | start _ h =>
    obtain ⟨arrivals, -, h⟩ := of_bind h
    cases h
    intro history hhistory
    split at hhistory
    next =>
      cases hhistory
      intro id
      exact .none
    next => cases hhistory
  | reduced hrun hclassified h ih =>
    obtain ⟨staged, lifetimes, hstage, -, -, rfl⟩ :=
      ends_of_eq_ok (reduce_ends hrun.lifetimes _) h
    exact ih.reduced hrun.history hclassified hstage lifetimes
  | refused hrun _ h ih =>
    obtain rfl := ends_of_eq_error (reduce_ends hrun.lifetimes _) h
    exact ih
  | advanced _ _ ih | registered _ _ _ _ ih => exact ih

end Run

/-- Over every run with classified steps the ranking history agrees with the metrics. Once a step
is accepted, its projection never meets a request accounted for past the release, and a report
whose rows were built has a row for each metric that spans its time to first token and its time
per token. Its step ranking spans the realized critical path, so the report passes its check
exactly when that path ends at the completion of the step. Classifying a segment charges exactly
its latency. -/
theorem bottleneck_history_agrees {results : List StepResult}
    {reducer : CompletionReducer α kernelKey} (run : ReducerRun Classified results reducer)
    {history : BottleneckHistory kernelKey} (hhistory : reducer.bottleneckHistory = some history)
    {inputs : ReducerInputs kernelKey} (hclassified : Classified inputs) {sampled : List String}
    {acc : Reducing kernelKey} {step : BottleneckRanking kernelKey}
    (accepted : Accepted reducer inputs sampled acc step) :
    (∀ done scheduled rest projected, inputs.record.scheduled = done ++ scheduled :: rest →
      done.foldlM (projectRequest inputs.record sampled acc.intervals acc.origins)
        ⟨history.states, []⟩ = .ok projected →
      ∃ origin, acc.origins.get? scheduled.requestId = some origin ∧
        (enteredRank projected.states scheduled.requestId origin).accountedPs ≤
          inputs.record.virtualTimePs) ∧
    (∀ projected, inputs.record.scheduled.foldlM
        (projectRequest inputs.record sampled acc.intervals acc.origins) ⟨history.states, []⟩ =
        .ok projected →
      let result := stepResult inputs acc.metrics
      let ends := realizedEnd inputs.graph inputs.report = inputs.result.completedAtPs
      ∃ report, BottleneckReport.make inputs.record.stepIndex step
          (projected.rows.insertionSort fun a b => a.requestId ≤ b.requestId) = .ok report ∧
        (ends ↔ (report.step.spanPs : Int) = result.stepLatencyPs) ∧
        (ends ↔ report.validateResult result = .ok ()) ∧
        ∀ metric ∈ result.requestMetrics, ∃ row ∈ report.requests,
          row.requestId = metric.requestId ∧ (row.ttft.spanPs : Int) = metric.ttftPs ∧
          (row.tpot = none ↔ metric.tokenIndex = 1) ∧
          row.tpot.map (·.latencyPs) = metric.tpotPs ∧
          ∀ tpot ∈ row.tpot, tpot.divisor + 1 = metric.tokenIndex) ∧
    ∀ (segment : RuntimeCriticalSegment) (visits : List QueueVisit) (context : SegmentOwner),
      (∀ visit ∈ visits, visit.operationId = segment.operationId ∧
        visit.completedAtPs ≤ segment.completedAtPs) →
      ∃ parts, selectedParts context segment segment.startedAtPs visits = .ok parts ∧
        (∀ kernels tails made, ranking kernelKey parts kernels tails = .ok made →
          made.spanPs = segment.breakdown.operationLatencyPs) ∧
        (0 < context.width → ∃ made, classifySegment kernelKey segment visits context = .ok made ∧
          made.spanPs = segment.breakdown.operationLatencyPs) := by
  have hlock := run.agree history hhistory
  have htracking := accepted.tracking run.history hclassified
  have hnodup := sampledRequestIds_nodup accepted.sampled
  have hrelease := accepted.release
  refine ⟨?_, ?_, ?_⟩
  · intro done scheduled rest projected hsplit hdone
    have hpart : done <+: inputs.record.scheduled := ⟨_, hsplit.symm⟩
    have hfacts := projectLoop_facts hpart hrelease hlock htracking hnodup hdone
    rw [← hrelease]
    rw [StepRecord.scheduledIds, hsplit, map_append] at hnodup
    exact hfacts.gap hlock (fun hmem => disjoint_of_nodup_append hnodup hmem (by simp)) htracking
      (by simp [hsplit])
  · intro projected hprojected result ends
    have hfacts := projectLoop_facts (prefix_refl _) hrelease hlock htracking hnodup hprojected
    obtain ⟨hspan, hdivisor⟩ := accepted.step_span hclassified
    have hindex := accepted.index
    obtain ⟨report, hreport, hreportIndex, hstep, hkept⟩ :=
      BottleneckReport.make_sorted hindex hdivisor (hfacts.owners.nodup hnodup)
    have hrows : ∀ metric ∈ result.requestMetrics, ∃ row ∈ report.requests,
        RowFacts metric row := by
      intro metric hmetric
      obtain ⟨owner, howner, hid⟩ := htracking.emitted metric hmetric
      obtain ⟨row, hrow, hrowFacts⟩ := hfacts.rows metric hmetric
        (mem_map.mpr ⟨owner, howner, hid.symm⟩)
      exact ⟨row, hkept row hrow, hrowFacts⟩
    have hends : ends ↔ (report.step.spanPs : Int) = result.stepLatencyPs := by
      rw [hstep, hspan]
      show realizedEnd inputs.graph inputs.report = inputs.result.completedAtPs ↔
        _ = (inputs.result.completedAtPs : Int) - inputs.graph.releasedAtPs
      omega
    refine ⟨report, hreport, hends, hends.trans (validateResult_iff hreportIndex hrows).symm, ?_⟩
    intro metric hmetric
    obtain ⟨row, hrow, hrowFacts⟩ := hrows metric hmetric
    exact ⟨row, hrow, hrowFacts.owner, hrowFacts.ttft, hrowFacts.single, hrowFacts.tpot,
      hrowFacts.divisor⟩
  · intro segment visits context hvisits
    have howner := fun visit hvisit => (hvisits visit hvisit).1
    have hwithin := fun visit hvisit => (hvisits visit hvisit).2
    obtain ⟨parts, hparts⟩ := selectedParts_accepts segment.startedAtPs howner hwithin
    refine ⟨parts, hparts, ?_, ?_⟩
    · intro kernels tails made hmade
      have hsum := (ranking_span hmade).1
      have htotal := selectedParts_sum hparts
      have hlatency := segment.breakdown_conserves
      omega
    · intro hwidth
      obtain ⟨made, hmade⟩ := classifySegment_accepts hwidth howner hwithin
      exact ⟨made, hmade, (classifySegment_span hmade).1⟩

def rankedLaunch (path : List (String × Nat)) : ReducerInputs KernelEvidence.kernelId :=
  let report := { launchReport "x" 0 with
    realizedCriticalPathOperationIds := path.map Prod.fst, realizedCriticalPathSegments := path }
  let rankings := classifyRuntime KernelEvidence.kernelId (launchGraph "x" 0 0) report
    [(("o", 0), [launchVisit "x" 0])] ⟨"gpu", 1, 1⟩ none
  { launchInputs "x" 0 0 with
    report := report, bottleneckSegments := some (rankings.toOption.getD []) }

def rankingReducer : CompletionReducer Unit KernelEvidence.kernelId :=
  { clock := .start 0, bottleneckHistory := some {} }

theorem rankingReducer_starts : ReducerRun Classified [] rankingReducer := by
  have hnew : CompletionReducer.new (.start 0) none none true =
      (.ok rankingReducer : Except PyError (CompletionReducer Unit KernelEvidence.kernelId)) := rfl
  exact .start (by simp [LifetimesReached]) hnew

theorem toOption_getD {ε β : Type} {x : Except ε β} {b : β} (h : x.isOk = true) :
    x = .ok (x.toOption.getD b) := by
  cases x with
  | error e => cases h
  | ok a => rfl

theorem rankedLaunch_classified (path : List (String × Nat)) : Classified (rankedLaunch path) := by
  have hok : (classifyRuntime KernelEvidence.kernelId (launchGraph "x" 0 0) (rankedLaunch []).report
      [(("o", 0), [launchVisit "x" 0])] ⟨"gpu", 1, 1⟩ none).isOk = true := by decide +kernel
  exact ⟨_, _, _, _, toOption_getD hok, rfl⟩

def CompletionReducer.accept (reducer : CompletionReducer α kernelKey)
    (inputs : ReducerInputs kernelKey) :
    Except PyError (List String × Reducing kernelKey × BottleneckRanking kernelKey) := do
  let segments ← validateInputs inputs.record inputs.graph inputs.result inputs.report
    reducer.clock.nowPs
  let sampled ← sampledRequestIds inputs.record
  reducer.checkArrivals inputs.record
  let acc ← inputs.record.scheduled.foldlM
    (reduceRequest reducer.requestArrivals inputs segments sampled) { states := reducer.requests }
  let step ← combineChain (inputs.bottleneckSegments.getD [])
    inputs.report.realizedCriticalPathSegments
  return (sampled, acc, step)

theorem accept_accepted {reducer : CompletionReducer α kernelKey} {inputs : ReducerInputs kernelKey}
    (h : (reducer.accept inputs).isOk = true) :
    ∃ sampled acc step, Accepted reducer inputs sampled acc step := by
  obtain ⟨⟨sampled, acc, step⟩, h⟩ := exists_of_isOk h
  obtain ⟨segments, hvalid, h⟩ := of_bind h
  obtain ⟨sampled', hsampled, h⟩ := of_bind h
  obtain ⟨⟨⟩, harrived, h⟩ := of_bind h
  obtain ⟨acc', hacc, h⟩ := of_bind h
  obtain ⟨step', hstep, -⟩ := of_bind h
  exact ⟨sampled', acc', step', ⟨segments, hvalid, hacc⟩, hsampled, harrived, hstep⟩

def refusal : EStateM.Result PyError (CompletionReducer α kernelKey) StepResult → Option PyError
  | .ok _ _ => none
  | .error error _ => some error

/-- A report whose realized critical path is empty is accepted, although its step takes time, and
then refused by its own bottleneck report. -/
theorem empty_path_disagrees :
    ReducerRun Classified [] rankingReducer ∧ Classified (rankedLaunch []) ∧
      (∃ sampled acc step, Accepted rankingReducer (rankedLaunch []) sampled acc step) ∧
      refusal (CompletionReducer.reduce (rankedLaunch []) rankingReducer) =
        some (valueError "bottleneck report disagrees with StepResult") :=
  ⟨rankingReducer_starts, rankedLaunch_classified [], accept_accepted (by decide +kernel),
    by decide +kernel⟩

/-- With its critical path the same launch is reported. -/
theorem launch_history_agrees :
    ∃ (sampled : List String) (acc : Reducing KernelEvidence.kernelId)
      (step : BottleneckRanking KernelEvidence.kernelId) (projected : Projecting _)
      (report : BottleneckReport _),
      (rankedLaunch [("o", 0)]).record.scheduled.foldlM
        (projectRequest (rankedLaunch [("o", 0)]).record sampled acc.intervals acc.origins)
        ⟨[], []⟩ = .ok projected ∧
      BottleneckReport.make (rankedLaunch [("o", 0)]).record.stepIndex step
        (projected.rows.insertionSort fun a b => a.requestId ≤ b.requestId) = .ok report ∧
      report.validateResult (stepResult (rankedLaunch [("o", 0)]) acc.metrics) = .ok () := by
  have hreduced : refusal (CompletionReducer.reduce (rankedLaunch [("o", 0)]) rankingReducer) =
      none := by decide +kernel
  cases hresult : CompletionReducer.reduce (rankedLaunch [("o", 0)]) rankingReducer with
  | error error after =>
    rw [hresult] at hreduced
    cases hreduced
  | ok result after =>
    obtain ⟨staged, lifetimes, hstage, -⟩ :=
      ends_of_eq_ok (reduce_ends rankingReducer_starts.lifetimes _) hresult
    obtain ⟨sampled, acc, step, report, projected, accepted, hprojected, -⟩ :=
      stage_projects hstage rfl
    have hagrees := bottleneck_history_agrees rankingReducer_starts rfl
      (rankedLaunch_classified _) accepted
    obtain ⟨report, hreport, -, hvalid, -⟩ := hagrees.2.1 projected hprojected
    exact ⟨sampled, acc, step, projected, report, hprojected, hreport,
      hvalid.mp (by decide +kernel)⟩

end SimLLM
