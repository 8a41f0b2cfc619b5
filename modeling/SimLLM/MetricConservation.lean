import SimLLM.ReducerAtomicity

namespace SimLLM

open List

variable {α : Type} {kernelKey : KernelEvidence → String}

def metricsOf (requestId : String) (metrics : List RequestMetric) : List RequestMetric :=
  metrics.filter (·.requestId == requestId)

structure EmittedFacts (observed first : Int) (metric : RequestMetric) : Prop where
  ttft : metric.ttftPs = first - observed
  single : metric.tpotPs = none ↔ metric.tokenIndex = 1
  tpot : ∀ tpot, metric.tpotPs = some tpot →
    tpot * ((metric.tokenIndex : ℚ) - 1) = (metric.completedAtPs : ℚ) - first

/-- A request's metric state accounts for all its time up to a bound, and for every metric
emitted so far. -/
structure MetricFacts (boundPs : Int) (state : RequestMetricState) (metrics : List RequestMetric) :
    Prop where
  accounted : state.accountedThroughPs ≤ boundPs
  tokens : state.tokenCount = metrics.length
  last : state.lastTokenAtPs = metrics.getLast?.map (·.completedAtPs)
  waiting : state.firstTokenAtPs = none → metrics = [] ∧ state.interTokenCount = 0 ∧
    state.interTokenSumPs = 0
  started : ∀ first, state.firstTokenAtPs = some first → ∃ last, state.lastTokenAtPs = some last ∧
    state.interTokenCount + 1 = state.tokenCount ∧ state.interTokenSumPs = last - first
  pending : (state.pendingAttribution.totalPs : Int) =
    state.accountedThroughPs - state.lastTokenAtPs.getD state.firstObservedAtPs
  spent : (metrics.map (·.latencyPs)).sum =
    state.lastTokenAtPs.getD state.firstObservedAtPs - state.firstObservedAtPs
  emitted : ∀ metric ∈ metrics, ∃ first, state.firstTokenAtPs = some first ∧
    EmittedFacts state.firstObservedAtPs first metric

variable {state next : RequestMetricState} {metric : RequestMetric} {metrics : List RequestMetric}
  {boundPs endpointAtPs : Int} {attribution : LatencyAttribution} {scheduled : ScheduledRequest}

theorem MetricFacts.fresh {observed : Int} (h : observed ≤ boundPs) :
    MetricFacts boundPs { firstObservedAtPs := observed, accountedThroughPs := observed } [] := by
  constructor <;> simp [h, LatencyAttribution.totalPs]

theorem MetricFacts.mono {later : Int} (facts : MetricFacts boundPs state metrics)
    (h : boundPs ≤ later) : MetricFacts later state metrics :=
  { facts with accounted := facts.accounted.trans h }

structure TokenFacts (state next : RequestMetricState) (metric : RequestMetric)
    (scheduled : ScheduledRequest) (endpointAtPs : Int) (attribution : LatencyAttribution) :
    Prop where
  owner : metric.requestId = scheduled.requestId
  index : metric.tokenIndex = state.tokenCount + 1
  completed : metric.completedAtPs = endpointAtPs
  latency : metric.latencyPs = attribution.totalPs
  observed : next.firstObservedAtPs = state.firstObservedAtPs
  accounted : next.accountedThroughPs = state.accountedThroughPs
  count : next.tokenCount = state.tokenCount + 1
  last : next.lastTokenAtPs = some endpointAtPs
  pending : next.pendingAttribution = {}
  tpot : metric.tpotPs = if next.interTokenCount = 0 then none
    else some ((next.interTokenSumPs : ℚ) / next.interTokenCount)
  first : ∃ counted, state.countToken endpointAtPs =
      .ok (metric.latencyPs, metric.ttftPs, counted) ∧
    next.firstTokenAtPs = counted.firstTokenAtPs ∧
    next.interTokenSumPs = counted.interTokenSumPs ∧
    next.interTokenCount = counted.interTokenCount

theorem countToken_frame {counted : RequestMetricState} {latency ttft : Int}
    (h : state.countToken endpointAtPs = .ok (latency, ttft, counted)) :
    counted.firstObservedAtPs = state.firstObservedAtPs ∧
      counted.accountedThroughPs = state.accountedThroughPs ∧
      counted.tokenCount = state.tokenCount := by
  unfold RequestMetricState.countToken at h
  split at h
  all_goals cases h
  all_goals exact ⟨rfl, rfl, rfl⟩

theorem sampleToken_facts {additive : AdditiveVisitTotals}
    (h : state.sampleToken scheduled endpointAtPs attribution additive = .ok (next, metric)) :
    TokenFacts state next metric scheduled endpointAtPs attribution := by
  obtain ⟨⟨latency, ttft, counted⟩, hcount, h⟩ := of_bind h
  obtain ⟨_, htotal, h⟩ := of_bind h
  obtain ⟨made, hmade, h⟩ := of_bind h
  obtain ⟨hobserved, haccounted, htokens⟩ := countToken_frame hcount
  have hlatency : (attribution.totalPs : Int) = latency := by simpa using htotal
  have hdata := RequestMetric.make_eq_ok hmade
  cases h
  have hfields : ∀ {β : Type} (field : MetricData → β), field metric.toMetricData = field _ :=
    fun field => congrArg field hdata
  refine ⟨hfields (·.requestId), ?_, hfields (·.completedAtPs), ?_, hobserved, haccounted,
    congrArg (· + 1) htokens, rfl, rfl, hfields (·.tpotPs), counted, ?_, rfl, rfl, rfl⟩
  · rw [hfields (·.tokenIndex), htokens]
  · rw [hfields (·.latencyPs), hlatency]
  · rw [hcount, hfields (·.latencyPs), hfields (·.ttftPs)]

section Interval

variable {released : Nat} (facts : MetricFacts released state metrics)
  (hchain : (attribution.totalPs : Int) = endpointAtPs - released)

include facts hchain

theorem MetricFacts.interval_total :
    ((intervalAttribution state released attribution).totalPs : Int) =
      endpointAtPs - state.lastTokenAtPs.getD state.firstObservedAtPs := by
  have hpending := facts.pending
  have hgap : (({ queuePs := (released - state.accountedThroughPs).toNat } :
      LatencyAttribution).totalPs : Int) = released - state.accountedThroughPs := by
    have hle := facts.accounted
    simp only [LatencyAttribution.totalPs]
    omega
  unfold intervalAttribution
  rw [LatencyAttribution.add_totalPs, LatencyAttribution.add_totalPs]
  omega

theorem MetricFacts.countToken_total (accountedPs : Int) : ∃ latency ttft counted,
      RequestMetricState.countToken { state with accountedThroughPs := accountedPs } endpointAtPs =
        .ok (latency, ttft, counted) ∧
      ((intervalAttribution state released attribution).totalPs : Int) = latency := by
  have htotal := facts.interval_total hchain
  cases hfirst : state.firstTokenAtPs with
  | none =>
    have hnone : state.lastTokenAtPs = none := by
      rw [facts.last, (facts.waiting hfirst).1]
      rfl
    rw [hnone] at htotal
    exact ⟨_, _, _, by simp only [RequestMetricState.countToken]; rfl, htotal⟩
  | some first =>
    obtain ⟨last, hlast, -⟩ := facts.started first hfirst
    exact ⟨_, _, _, by simp only [RequestMetricState.countToken, hlast]; rfl, htotal⟩

theorem MetricFacts.unsampled (hbound : endpointAtPs ≤ boundPs) (additive : AdditiveVisitTotals) :
    MetricFacts boundPs
      { state with accountedThroughPs := endpointAtPs
                   pendingAttribution := intervalAttribution state released attribution
                   pendingAdditive := additive } metrics where
  accounted := hbound
  tokens := facts.tokens
  last := facts.last
  waiting := facts.waiting
  started := facts.started
  pending := facts.interval_total hchain
  spent := facts.spent
  emitted := facts.emitted

theorem MetricFacts.sampled (hbound : endpointAtPs ≤ boundPs)
    (token : TokenFacts { state with accountedThroughPs := endpointAtPs } next metric scheduled
      endpointAtPs (intervalAttribution state released attribution)) :
    MetricFacts boundPs next (metrics ++ [metric]) := by
  have htotal := facts.interval_total hchain
  have hobserved := token.observed
  have haccounted := token.accounted
  have hcount : next.tokenCount = state.tokenCount + 1 := token.count
  have hindex : metric.tokenIndex = state.tokenCount + 1 := token.index
  obtain ⟨counted, hcounted, hfirst', hsum', hcount'⟩ := token.first
  have hspent : ((metrics ++ [metric]).map (·.latencyPs)).sum =
      endpointAtPs - state.firstObservedAtPs := by
    have hold := facts.spent
    have hlatency := token.latency
    simp only [map_append, map_cons, map_nil, sum_append, sum_cons, sum_nil]
    omega
  -- the first token fixes the time to first token; later ones only extend the sums
  obtain ⟨first, hfirst, hkept, hcounting⟩ : ∃ first, next.firstTokenAtPs = some first ∧
      (∀ old, state.firstTokenAtPs = some old → old = first) ∧
      next.interTokenCount + 1 = next.tokenCount ∧
      next.interTokenSumPs = endpointAtPs - first ∧
      metric.ttftPs = first - state.firstObservedAtPs := by
    rw [hfirst', hsum', hcount', hcount]
    cases hold : state.firstTokenAtPs with
    | none =>
      obtain ⟨hempty, hzero, hsum⟩ := facts.waiting hold
      have hlength := facts.tokens
      simp only [RequestMetricState.countToken, hold, Except.ok.injEq, Prod.mk.injEq] at hcounted
      obtain ⟨-, httft, rfl⟩ := hcounted
      rw [hempty, length_nil] at hlength
      refine ⟨endpointAtPs, rfl, by simp, ?_, ?_, httft.symm⟩
      all_goals
        dsimp only
        omega
    | some first =>
      obtain ⟨last, hlast, hnumber, hsum⟩ := facts.started first hold
      simp only [RequestMetricState.countToken, hold, hlast, Except.ok.injEq,
        Prod.mk.injEq] at hcounted
      obtain ⟨-, httft, rfl⟩ := hcounted
      refine ⟨first, rfl, by simp, ?_, ?_, httft.symm⟩
      all_goals
        dsimp only
        omega
  obtain ⟨hnumber, hsum, httft⟩ := hcounting
  have hnew : EmittedFacts state.firstObservedAtPs first metric := by
    have htpot := token.tpot
    by_cases hzero : next.interTokenCount = 0
    · rw [if_pos hzero] at htpot
      refine ⟨httft, iff_of_true htpot (by omega), fun tpot hsome => ?_⟩
      rw [htpot] at hsome
      cases hsome
    · rw [if_neg hzero] at htpot
      refine ⟨httft, iff_of_false (by simp [htpot]) (by omega), fun tpot hsome => ?_⟩
      rw [htpot] at hsome
      cases hsome
      have hindex' : (metric.tokenIndex : ℚ) - 1 = next.interTokenCount := by
        have hnat : metric.tokenIndex = next.interTokenCount + 1 := by omega
        rw [hnat]
        push_cast
        ring
      have hpos : (next.interTokenCount : ℚ) ≠ 0 := by exact_mod_cast hzero
      rw [hindex', div_mul_cancel₀ _ hpos, hsum, token.completed]
      push_cast
      ring
  refine ⟨?_, ?_, ?_, ?_, ?_, ?_, ?_, ?_⟩
  · rw [haccounted]
    exact hbound
  · rw [hcount, facts.tokens, length_append, length_singleton]
  · rw [token.last, getLast?_append, getLast?_singleton, Option.some_or,
      Option.map_some, token.completed]
  · intro hnone
    rw [hfirst] at hnone
    cases hnone
  · intro other hother
    rw [hfirst] at hother
    cases hother
    exact ⟨endpointAtPs, token.last, hnumber, hsum⟩
  · rw [token.pending, token.last, haccounted]
    simp [LatencyAttribution.totalPs]
  · rw [token.last, hobserved]
    exact hspent
  · rw [hobserved]
    refine forall_mem_concat (fun emitted hemitted => ?_) ⟨first, hfirst, hnew⟩
    obtain ⟨old, hold, hfacts⟩ := facts.emitted emitted hemitted
    exact ⟨first, hfirst, hkept old hold ▸ hfacts⟩

end Interval

variable {nowPs : Int} {segments : List RuntimeCriticalSegment}
  {endpoint : RuntimeOperationRecord} {requestId : String}

section Inputs

open FirstExtremum

variable {record : StepRecord} {graph : ExecutionGraph} {result : ExecutionResult}
  {report : RuntimeReport}

theorem validateInputs_boundary (h : validateInputs record graph result report nowPs = .ok segments)
    {id : String} (hid : id ∈ requiredIds graph) {required : RuntimeOperationRecord}
    (hlookup : lookupRecord report id = .ok required) :
    required.completedAtPs ≤ result.completedAtPs := by
  obtain ⟨-, -, records, hrecords, hmax⟩ := validateInputs_eq_ok h
  obtain ⟨found, hfound, hsame⟩ := mapM_of_mem hrecords hid
  rw [hlookup] at hsame
  cases hsame
  have hmem : required.completedAtPs ∈ records.map (·.completedAtPs) :=
    mem_map.mpr ⟨required, hfound, rfl⟩
  obtain ⟨best, hbest⟩ := exists_maxBy (fun value : Nat => value) (ne_nil_of_mem hmem)
  have hle := le_maxBy hbest hmem
  have hdefault : maxOrDefault (records.map (·.completedAtPs)) graph.releasedAtPs = best := by
    simp [maxOrDefault, hbest]
  omega

theorem requestEndpoint_required
    (h : requestEndpoint graph report requestId = .ok endpoint) :
    ∃ id ∈ requiredIds graph, lookupRecord report id = .ok endpoint := by
  obtain ⟨records, hrecords, h⟩ := of_bind h
  split at h
  next best hbest =>
    cases h
    obtain ⟨id, hid, hlookup⟩ := mapM_mem hrecords (maxBy_mem hbest)
    exact ⟨id, (mem_filter.mp hid).1, hlookup⟩
  next => cases h

theorem requestCriticalChain_total {releasedAtPs : Nat} {chain : List RuntimeCriticalSegment}
    (h : requestCriticalChain segments endpoint releasedAtPs = .ok (chain, attribution)) :
    (attribution.totalPs : Int) = endpoint.completedAtPs - releasedAtPs := by
  obtain ⟨_, -, h⟩ := of_bind h
  obtain ⟨_, -, h⟩ := of_bind h
  obtain ⟨_, htotal, h⟩ := of_bind h
  cases h
  simpa using htotal

end Inputs

theorem metricsOf_append (requestId : String) (l r : List RequestMetric) :
    metricsOf requestId (l ++ r) = metricsOf requestId l ++ metricsOf requestId r :=
  filter_append l r

theorem metricsOf_owned {owner id : String}
    (h : ∀ metric ∈ metrics, metric.requestId = owner) :
    metricsOf id metrics = if owner = id then metrics else [] := by
  split
  next heq => exact filter_eq_self.mpr fun metric hmetric => by simp [h metric hmetric, heq]
  next hne => exact filter_eq_nil_iff.mpr fun metric hmetric => by simp [h metric hmetric, hne]

/-- The states in the middle of the loop of one step: the requests in `done` are accounted for up
to the completion of the step, the others up to its release. -/
structure LoopFacts (before : Dict RequestMetricState) (emitted : List RequestMetric)
    (released completed : Nat) (done : List String) (acc : Reducing kernelKey) : Prop where
  untouched : ∀ id, id ∉ done → acc.states.get? id = before.get? id
  known : ∀ id state, acc.states.get? id = some state →
    MetricFacts (if id ∈ done then completed else released) state
      (metricsOf id (emitted ++ acc.metrics))
  unknown : ∀ id, acc.states.get? id = none → metricsOf id (emitted ++ acc.metrics) = []

variable {inputs : ReducerInputs kernelKey}

section Step

variable {before : Dict RequestMetricState} {emitted : List RequestMetric}
  {arrivals : Option (Dict Nat)} {sampled done : List String} {acc next : Reducing kernelKey}
  {released completed : Nat}

theorem noteBottleneck_frame {rankings : Option (SegmentRankings kernelKey)}
    {chain : List RuntimeCriticalSegment} {observed : Int}
    (h : noteBottleneck rankings chain requestId observed acc = .ok next) :
    next.states = acc.states ∧ next.metrics = acc.metrics := by
  unfold noteBottleneck at h
  split at h
  next =>
    cases h
    exact ⟨rfl, rfl⟩
  next =>
    obtain ⟨interval, -, h⟩ := of_bind h
    cases h
    exact ⟨rfl, rfl⟩

def ArrivedBy (arrivals : Option (Dict Nat)) (record : StepRecord)
    (before : Dict RequestMetricState) (released : Nat) (requestId : String) : Prop :=
  before.get? requestId = none → ∀ observed, firstObservation arrivals record requestId = .ok observed →
    observed ≤ released

theorem LoopFacts.current (facts : LoopFacts before emitted released completed done acc)
    (hnew : scheduled.requestId ∉ done)
    (harrived : ArrivedBy arrivals inputs.record before released scheduled.requestId)
    (h : currentState arrivals inputs.record acc.states scheduled.requestId = .ok state) :
    MetricFacts released state (metricsOf scheduled.requestId (emitted ++ acc.metrics)) := by
  unfold currentState at h
  split at h
  next state' hget =>
    cases h
    have hfacts := facts.known _ _ hget
    rwa [if_neg hnew] at hfacts
  next hget =>
    obtain ⟨observed, hobserved, h⟩ := of_bind h
    cases h
    rw [facts.unknown _ hget]
    exact MetricFacts.fresh (harrived ((facts.untouched _ hnew).symm.trans hget) observed hobserved)

theorem LoopFacts.replace (facts : LoopFacts before emitted released completed done acc)
    (more : List RequestMetric) (howner : ∀ metric ∈ more, metric.requestId = requestId)
    (hstate : MetricFacts completed state (metricsOf requestId (emitted ++ acc.metrics) ++ more))
    (hstates : next.states = acc.states.set requestId state)
    (hmetrics : next.metrics = acc.metrics ++ more) :
    LoopFacts before emitted released completed (done ++ [requestId]) next := by
  refine ⟨?_, ?_, ?_⟩
  · intro id hid
    have hparts : id ∉ done ∧ requestId ≠ id := by
      simpa [eq_comm] using hid
    rw [hstates, Table.get?_set, if_neg hparts.2]
    exact facts.untouched id hparts.1
  · intro id current hget
    rw [hstates] at hget
    rw [hmetrics, ← append_assoc, metricsOf_append, metricsOf_owned howner]
    rcases Table.of_get?_set hget with ⟨rfl, rfl⟩ | ⟨hid, hget⟩
    · simpa using hstate
    · rw [if_neg hid, append_nil]
      simpa [Ne.symm hid] using facts.known id current hget
  · intro id hget
    rw [hstates, Table.get?_set] at hget
    split at hget
    next => cases hget
    next hid =>
      rw [hmetrics, ← append_assoc, metricsOf_append, metricsOf_owned howner, if_neg hid,
        append_nil]
      exact facts.unknown id hget

section

variable (hvalid : validateInputs inputs.record inputs.graph inputs.result inputs.report nowPs =
  .ok segments)

include hvalid

theorem reduceRequest_facts
    (facts : LoopFacts before emitted inputs.graph.releasedAtPs inputs.result.completedAtPs
      done acc)
    (hnew : scheduled.requestId ∉ done)
    (harrived : ArrivedBy arrivals inputs.record before inputs.graph.releasedAtPs
      scheduled.requestId)
    (h : reduceRequest arrivals inputs segments sampled acc scheduled = .ok next) :
    LoopFacts before emitted inputs.graph.releasedAtPs inputs.result.completedAtPs
      (done ++ [scheduled.requestId]) next := by
  obtain ⟨endpoint, hendpoint, h⟩ := of_bind h
  obtain ⟨⟨chain, attribution⟩, hchain, h⟩ := of_bind h
  obtain ⟨state, hstate, h⟩ := of_bind h
  replace h := of_check h
  obtain ⟨noted, hnoted, h⟩ := of_bind h
  obtain ⟨hstates, hmetrics⟩ := noteBottleneck_frame hnoted
  obtain ⟨id, hid, hlookup⟩ := requestEndpoint_required hendpoint
  have hbound : (endpoint.completedAtPs : Int) ≤ inputs.result.completedAtPs := by
    exact_mod_cast validateInputs_boundary hvalid hid hlookup
  have htotal := requestCriticalChain_total hchain
  have hcurrent := facts.current hnew harrived hstate
  split at h
  next =>
    obtain ⟨⟨sampledState, metric⟩, hsample, h⟩ := of_bind h
    cases h
    have htoken := sampleToken_facts hsample
    refine facts.replace [metric] ?_ (hcurrent.sampled htotal hbound htoken) ?_ ?_
    · simpa using htoken.owner
    · simp only [hstates]
    · simp only [hmetrics]
  next =>
    cases h
    have hpending := hcurrent.unsampled htotal hbound
      (state.pendingAdditive + requestAdditiveTotals scheduled.requestId inputs.graph inputs.report)
    rw [← append_nil (metricsOf scheduled.requestId (emitted ++ acc.metrics))] at hpending
    refine facts.replace [] (by simp) hpending ?_ ?_
    · simp only [hstates]
    · simp [hmetrics]

theorem reduceLoop_facts {requests : List ScheduledRequest}
    (facts : LoopFacts before emitted inputs.graph.releasedAtPs inputs.result.completedAtPs [] acc)
    (hnodup : (requests.map (·.requestId)).Nodup) (harrived : ∀ request ∈ requests,
      ArrivedBy arrivals inputs.record before inputs.graph.releasedAtPs request.requestId)
    (h : requests.foldlM (reduceRequest arrivals inputs segments sampled) acc = .ok next) :
    LoopFacts before emitted inputs.graph.releasedAtPs inputs.result.completedAtPs
      (requests.map (·.requestId)) next := by
  refine foldlM_done (fun done => LoopFacts before emitted _ _ (done.map (·.requestId))) h facts ?_
  rintro done request rest acc next rfl hfacts hnext
  rw [map_append] at hnodup ⊢
  exact reduceRequest_facts hvalid hfacts
    (fun hmem => disjoint_of_nodup_append hnodup hmem (by simp))
    (harrived request (by simp)) hnext

end

end Step

/-- What the reducer keeps between steps: every request it knows is accounted for up to the
clock, and nothing was emitted for one it does not know. -/
structure HistoryFacts (results : List StepResult) (reducer : CompletionReducer α kernelKey) :
    Prop where
  known : ∀ id state, reducer.requests.get? id = some state →
    MetricFacts reducer.clock.nowPs state (metricsOf id (results.flatMap (·.requestMetrics)))
  unknown : ∀ id, reducer.requests.get? id = none →
    metricsOf id (results.flatMap (·.requestMetrics)) = []

variable {results : List StepResult} {reducer : CompletionReducer α kernelKey}

theorem HistoryFacts.loop (facts : HistoryFacts results reducer)
    (hvalid : validateInputs inputs.record inputs.graph inputs.result inputs.report
      reducer.clock.nowPs = .ok segments) :
    LoopFacts reducer.requests (results.flatMap (·.requestMetrics)) inputs.graph.releasedAtPs
      inputs.result.completedAtPs [] ({ states := reducer.requests } : Reducing kernelKey) := by
  obtain ⟨hrelease, hnow, -⟩ := validateInputs_identities hvalid
  refine ⟨fun id _ => rfl, ?_, ?_⟩
  · intro id state hget
    have hfacts := facts.known id state hget
    rw [hnow.trans hrelease.symm] at hfacts
    simpa using hfacts
  · intro id hget
    simpa using facts.unknown id hget

theorem checkArrivals_arrived (h : reducer.checkArrivals inputs.record = .ok ())
    (hrelease : (inputs.graph.releasedAtPs : Int) = inputs.record.virtualTimePs)
    {request : ScheduledRequest} (hmem : request ∈ inputs.record.scheduled) :
    ArrivedBy reducer.requestArrivals inputs.record reducer.requests inputs.graph.releasedAtPs
      request.requestId := by
  intro hnone observed hobserved
  unfold CompletionReducer.checkArrivals at h
  cases harrivals : reducer.requestArrivals with
  | none =>
    rw [harrivals] at hobserved
    cases hobserved
    omega
  | some arrivals =>
    rw [harrivals] at h hobserved
    have hcheck := forM_eq_ok.mp h request hmem
    obtain ⟨arrived, hlookup, hobserved⟩ := of_bind hobserved
    cases hobserved
    unfold lookupKey at hlookup
    unfold checkArrival at hcheck
    cases hget : arrivals.get? request.requestId with
    | none =>
      rw [hget] at hlookup
      cases hlookup
    | some value =>
      rw [hget] at hlookup
      cases hlookup
      simp only [hnone, hget, require_eq_ok, decide_eq_true_eq] at hcheck
      omega

variable {staged : Reduced kernelKey}

theorem stage_loop (h : reducer.stage inputs = .ok staged) : ∃ segments sampled acc,
      validateInputs inputs.record inputs.graph inputs.result inputs.report
        reducer.clock.nowPs = .ok segments ∧
      sampledRequestIds inputs.record = .ok sampled ∧
      reducer.checkArrivals inputs.record = .ok () ∧
      inputs.record.scheduled.foldlM
        (reduceRequest reducer.requestArrivals inputs segments sampled)
        { states := reducer.requests } = .ok acc ∧
      projectStep reducer.bottleneckHistory inputs acc (stepResult inputs acc.metrics) =
        .ok staged.projection ∧
      staged.states = acc.states ∧ staged.result = stepResult inputs acc.metrics := by
  replace h := of_check h
  obtain ⟨segments, hsegments, h⟩ := of_bind h
  replace h := of_check h
  obtain ⟨sampled, hsampled, h⟩ := of_bind h
  obtain ⟨⟨⟩, harrivals, h⟩ := of_bind h
  obtain ⟨acc, hacc, h⟩ := of_bind h
  replace h := of_check h
  obtain ⟨projection, hprojection, h⟩ := of_bind h
  cases h
  exact ⟨segments, sampled, acc, hsegments, hsampled, harrivals, hacc, hprojection, rfl, rfl⟩

theorem HistoryFacts.reduced (facts : HistoryFacts results reducer)
    (h : reducer.stage inputs = .ok staged) (lifetimes : Option RequestLifetimeRegistry) :
    HistoryFacts (results ++ [staged.result]) (reducer.commit inputs staged lifetimes) := by
  obtain ⟨segments, sampled, acc, hvalid, hsampled, harrivals, hacc, -, hstates, hresult⟩ :=
    stage_loop h
  obtain ⟨hrelease, -, hcompleted⟩ := validateInputs_identities hvalid
  have hloop := reduceLoop_facts hvalid (facts.loop hvalid) (sampledRequestIds_nodup hsampled)
    (fun request hmem => checkArrivals_arrived harrivals hrelease hmem) hacc
  have hmetrics : (results ++ [staged.result]).flatMap (·.requestMetrics) =
      results.flatMap (·.requestMetrics) ++ acc.metrics := by
    rw [hresult]
    simp [stepResult]
  refine ⟨?_, ?_⟩
  · intro id state hget
    have hget' : acc.states.get? id = some state := hstates ▸ hget
    rw [hmetrics]
    refine (hloop.known id state hget').mono ?_
    show _ ≤ (inputs.result.completedAtPs : Int)
    split <;> omega
  · intro id hget
    have hget' : acc.states.get? id = none := hstates ▸ hget
    rw [hmetrics]
    exact hloop.unknown id hget'

theorem ReducerRun.history {admits : ReducerInputs kernelKey → Prop}
    (run : ReducerRun admits results reducer) : HistoryFacts results reducer := by
  induction run with
  | start _ h =>
    obtain ⟨arrivals, -, h⟩ := of_bind h
    cases h
    exact ⟨by simp, by simp [metricsOf]⟩
  | reduced hrun _ h ih =>
    obtain ⟨staged, lifetimes, hstage, -, rfl, rfl⟩ :=
      ends_of_eq_ok (reduce_ends hrun.lifetimes _) h
    exact ih.reduced hstage lifetimes
  | refused hrun _ h ih =>
    obtain rfl := ends_of_eq_error (reduce_ends hrun.lifetimes _) h
    exact ih
  | advanced _ hforward ih =>
    exact ⟨fun id state hget => (ih.known id state hget).mono hforward, ih.unknown⟩
  | registered _ _ _ _ ih => exact ⟨ih.known, ih.unknown⟩

/-- The loop of `reduce` has reached a scheduled request, found its endpoint and its critical
chain, and looked up its state. -/
def AtRequest (reducer : CompletionReducer α kernelKey) (inputs : ReducerInputs kernelKey)
    (scheduled : ScheduledRequest) (endpoint : RuntimeOperationRecord)
    (attribution : LatencyAttribution) (state : RequestMetricState) : Prop :=
  ∃ segments sampled done rest acc chain,
    validateInputs inputs.record inputs.graph inputs.result inputs.report
      reducer.clock.nowPs = .ok segments ∧
    sampledRequestIds inputs.record = .ok sampled ∧
    reducer.checkArrivals inputs.record = .ok () ∧
    inputs.record.scheduled = done ++ scheduled :: rest ∧
    done.foldlM (reduceRequest reducer.requestArrivals inputs segments sampled)
      { states := reducer.requests } = .ok acc ∧
    requestEndpoint inputs.graph inputs.report scheduled.requestId = .ok endpoint ∧
    requestCriticalChain segments endpoint inputs.graph.releasedAtPs = .ok (chain, attribution) ∧
    currentState reducer.requestArrivals inputs.record acc.states scheduled.requestId = .ok state

theorem HistoryFacts.at_request (facts : HistoryFacts results reducer)
    (h : AtRequest reducer inputs scheduled endpoint attribution state) :
    (attribution.totalPs : Int) = endpoint.completedAtPs - inputs.graph.releasedAtPs ∧
      ∃ metrics, MetricFacts inputs.graph.releasedAtPs state metrics := by
  obtain ⟨segments, sampled, done, rest, acc, chain, hvalid, hsampled, harrivals, hscheduled, hacc,
    -, hchain, hstate⟩ := h
  obtain ⟨hrelease, -, -⟩ := validateInputs_identities hvalid
  have hnodup := sampledRequestIds_nodup hsampled
  rw [StepRecord.scheduledIds, hscheduled, map_append] at hnodup
  have harrived : ∀ request ∈ inputs.record.scheduled, ArrivedBy reducer.requestArrivals
      inputs.record reducer.requests inputs.graph.releasedAtPs request.requestId :=
    fun request hmem => checkArrivals_arrived harrivals hrelease hmem
  have hloop := reduceLoop_facts hvalid (facts.loop hvalid) (nodup_append.mp hnodup).1
    (fun request hmem => harrived request (by simp [hscheduled, hmem])) hacc
  exact ⟨requestCriticalChain_total hchain, _, hloop.current
    (fun hmem => disjoint_of_nodup_append hnodup hmem (by simp))
    (harrived scheduled (by simp [hscheduled])) hstate⟩

/-- Over every run the two consistency errors of the loop are unreachable, and the metrics of a
request add up: their latencies are the time from its first observation to its last token, its
time to first token never changes, and its time per token is exact. -/
theorem request_metrics_conserve {admits : ReducerInputs kernelKey → Prop}
    {results : List StepResult} {reducer : CompletionReducer α kernelKey}
    (run : ReducerRun admits results reducer) :
    (∀ inputs scheduled endpoint attribution state,
      AtRequest reducer inputs scheduled endpoint attribution state →
      state.accountedThroughPs ≤ inputs.graph.releasedAtPs ∧
      ∃ latency ttft counted, RequestMetricState.countToken
          { state with accountedThroughPs := endpoint.completedAtPs } endpoint.completedAtPs =
          .ok (latency, ttft, counted) ∧
        ((intervalAttribution state inputs.graph.releasedAtPs attribution).totalPs : Int) =
          latency) ∧
    ∀ id state, reducer.requests.get? id = some state →
      let metrics := metricsOf id (results.flatMap (·.requestMetrics))
      (metrics.map (·.latencyPs)).sum =
        state.lastTokenAtPs.getD state.firstObservedAtPs - state.firstObservedAtPs ∧
      state.lastTokenAtPs = metrics.getLast?.map (·.completedAtPs) ∧
      ∀ metric ∈ metrics, (metric.attribution.totalPs : Int) = metric.latencyPs ∧
        ∃ first, state.firstTokenAtPs = some first ∧
          metric.ttftPs = first - state.firstObservedAtPs ∧
          (metric.tpotPs = none ↔ metric.tokenIndex = 1) ∧
          ∀ tpot, metric.tpotPs = some tpot →
            tpot * ((metric.tokenIndex : ℚ) - 1) = (metric.completedAtPs : ℚ) - first := by
  have facts := run.history
  refine ⟨?_, ?_⟩
  · intro inputs scheduled endpoint attribution state h
    obtain ⟨htotal, metrics, hfacts⟩ := facts.at_request h
    exact ⟨hfacts.accounted, hfacts.countToken_total htotal _⟩
  · intro id state hget
    have hfacts := facts.known id state hget
    refine ⟨hfacts.spent, hfacts.last, ?_⟩
    intro metric hmem
    obtain ⟨first, hfirst, hemitted⟩ := hfacts.emitted metric hmem
    exact ⟨metric.conserves, first, hfirst, hemitted.ttft, hemitted.single, hemitted.tpot⟩

def launchedOnce : CompletionReducer Unit KernelEvidence.kernelId :=
  match CompletionReducer.reduce (launchInputs "x" 0 0) { clock := .start 0 } with
  | .ok _ after => after
  | .error _ after => after

def emittedTokens : EStateM.Result PyError (CompletionReducer α kernelKey) StepResult → List Nat
  | .ok result _ => result.requestMetrics.map (·.tokenIndex)
  | .error _ _ => []

theorem launch_metrics_conserve :
    ∃ first second after, ReducerRun (fun _ => True) [first, second]
        (after : CompletionReducer Unit KernelEvidence.kernelId) ∧
      second.requestMetrics.map (·.tokenIndex) = [2] ∧
      ∀ state, after.requests.get? "r" = some state →
        ((metricsOf "r" (first.requestMetrics ++ second.requestMetrics)).map (·.latencyPs)).sum =
          state.lastTokenAtPs.getD state.firstObservedAtPs - state.firstObservedAtPs := by
  have hfirst : CompletionReducer.reduce (launchInputs "x" 0 0)
      { clock := .start 0 } = .ok _ launchedOnce := rfl
  have htokens : emittedTokens (CompletionReducer.reduce (launchInputs "y" 1 10) launchedOnce) =
      [2] := by decide +kernel
  cases hsecond : CompletionReducer.reduce (launchInputs "y" 1 10) launchedOnce with
  | error error after =>
    rw [hsecond] at htokens
    cases htokens
  | ok second after =>
    rw [hsecond] at htokens
    have run := (unused_reducer_run.reduced trivial hfirst).reduced trivial hsecond
    refine ⟨_, second, after, run, htokens, ?_⟩
    intro state hget
    simpa using ((request_metrics_conserve run).2 "r" state hget).1

end SimLLM
