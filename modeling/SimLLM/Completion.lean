import SimLLM.BottleneckHistory
import SimLLM.Clock
import SimLLM.CompletionInputs
import SimLLM.RequestLifetime

namespace SimLLM

open FirstExtremum

def frameworkArrival (acc : Dict Nat) (entry : BookkeepingEntry) : Except PyError (Dict Nat) :=
  match entry.fact with
  | .object record =>
    if record.ref.kind ≠ .frameworkRequest then .ok acc
    else if record.owner ≠ .framework then
      .error (valueError
        "ledger.entries[{}].fact.owner: framework request must be owned by the framework"
        [toString entry.sequence])
    else
      match record.scope.correlation.requestIds with
      | [requestId] =>
        if (acc.get? requestId).isSome then
          .error (valueError
            "bookkeeping ledger contains more than one framework request object for {}" [requestId])
        else .ok (acc.set requestId record.createdAtPs)
      | _ => .error (valueError ("ledger.entries[{}].fact.scope.correlation.request_ids: " ++
          "framework request must name exactly one request") [toString entry.sequence])
  | _ => .ok acc

def frameworkRequestArrivals (entries : List BookkeepingEntry) : Except PyError (Dict Nat) := do
  let _ ← validateLedgerState entries
  entries.foldlM frameworkArrival []

def requestChain (segments : List RuntimeCriticalSegment) :
    Nat → List (String × Nat) → String × Nat → Except PyError (List RuntimeCriticalSegment)
  | 0, _, _ => .error (valueError "request critical predecessor chain contains a cycle")
  | fuel + 1, seen, key => do
    require (!seen.contains key)
      (valueError "request critical predecessor chain contains a cycle")
    match segment? segments key with
    | none => .error (keyError "{}" [key.1])
    | some segment =>
      match segment.predecessor with
      | none => .ok [segment]
      | some predecessor => do
        let rest ← requestChain segments fuel (key :: seen) predecessor
        .ok (segment :: rest)

def chainAttribution (chain : List RuntimeCriticalSegment) : LatencyAttribution :=
  chain.foldl (fun acc segment => acc + segment.attribution) {}

def requestCriticalChain (segments : List RuntimeCriticalSegment)
    (endpoint : RuntimeOperationRecord) (releasedAtPs : Nat) :
    Except PyError (List RuntimeCriticalSegment × LatencyAttribution) := do
  let last ← endpointSegment endpoint
  let reversed ← requestChain segments (segments.length + 1) [] last.key
  let chain := reversed.reverse
  let attribution := chainAttribution chain
  require ((attribution.totalPs : Int) == endpoint.completedAtPs - releasedAtPs)
    (valueError "request endpoint {} critical chain does not conserve" [endpoint.operationId])
  return (chain, attribution)

def requestEndpoint (graph : ExecutionGraph) (report : RuntimeReport) (requestId : String) :
    Except PyError RuntimeOperationRecord := do
  let candidates := (requiredIds graph).filter fun id =>
    (graph.operation? id).any (·.correlation.requestIds.contains requestId)
  let records ← candidates.mapM (lookupRecord report)
  match maxBy (fun record => toLex (record.completedAtPs,
      graph.operations.findIdx (·.operationId == record.operationId))) records with
  | some endpoint => return endpoint
  | none => throw (valueError "scheduled request {} has no required endpoint" [requestId])

def requestAdditiveTotals (requestId : String) (graph : ExecutionGraph) (report : RuntimeReport) :
    AdditiveVisitTotals :=
  let operations := graph.operations.filter (·.correlation.requestIds.contains requestId)
  visitTotals (report.visits.filter fun visit =>
    (operations.map (·.operationId)).contains visit.operationId)

structure RequestMetricState where
  firstObservedAtPs : Int
  accountedThroughPs : Int
  firstTokenAtPs : Option Int := none
  lastTokenAtPs : Option Int := none
  tokenCount : Nat := 0
  interTokenSumPs : Int := 0
  interTokenCount : Nat := 0
  pendingAttribution : LatencyAttribution := {}
  pendingAdditive : AdditiveVisitTotals := {}
  latestMetric : Option RequestMetric := none

def movesBackward (requestId : String) : PyError :=
  valueError "request {} would move backward in time" [requestId]

def losesTime (requestId : String) : PyError :=
  valueError "request {} interval attribution does not conserve elapsed time" [requestId]

def intervalAttribution (state : RequestMetricState) (releasedAtPs : Nat)
    (attribution : LatencyAttribution) : LatencyAttribution :=
  state.pendingAttribution + { queuePs := (releasedAtPs - state.accountedThroughPs).toNat } +
    attribution

def RequestMetricState.countToken (state : RequestMetricState) (endpointAtPs : Int) :
    Except PyError (Int × Int × RequestMetricState) :=
  match state.firstTokenAtPs, state.lastTokenAtPs with
  | none, _ =>
    let latency := endpointAtPs - state.firstObservedAtPs
    .ok (latency, latency, { state with firstTokenAtPs := some endpointAtPs })
  | some first, some last =>
    let latency := endpointAtPs - last
    .ok (latency, first - state.firstObservedAtPs,
      { state with interTokenSumPs := state.interTokenSumPs + latency,
                   interTokenCount := state.interTokenCount + 1 })
  | some _, none => .error (assertionError "")

def RequestMetricState.sampleToken (state : RequestMetricState) (scheduled : ScheduledRequest)
    (endpointAtPs : Int) (attribution : LatencyAttribution) (additive : AdditiveVisitTotals) :
    Except PyError (RequestMetricState × RequestMetric) := do
  let (latency, ttft, counted) ← state.countToken endpointAtPs
  require ((attribution.totalPs : Int) == latency) (losesTime scheduled.requestId)
  let tokenCount := counted.tokenCount + 1
  let tpot : Option ℚ :=
    if counted.interTokenCount = 0 then none
    else some ((counted.interTokenSumPs : ℚ) / counted.interTokenCount)
  let metric ← RequestMetric.make
    ⟨scheduled.requestId, scheduled.phase, tokenCount, endpointAtPs, latency, ttft, tpot,
      attribution, additive⟩
  return ({ counted with
    tokenCount := tokenCount
    lastTokenAtPs := some endpointAtPs
    latestMetric := some metric
    pendingAttribution := {}
    pendingAdditive := {} }, metric)

structure ReducerInputs (kernelKey : KernelEvidence → String) where
  record : StepRecord
  graph : ExecutionGraph
  result : ExecutionResult
  report : RuntimeReport
  bottleneckSegments : Option (SegmentRankings kernelKey) := none

section Reduce

variable {α : Type} {kernelKey : KernelEvidence → String}

structure Reducing (kernelKey : KernelEvidence → String) where
  states : Dict RequestMetricState
  metrics : List RequestMetric := []
  intervals : Dict (BottleneckRanking kernelKey) := []
  origins : Dict Int := []

def lookupRanking (rankings : SegmentRankings kernelKey) (key : String × Nat) :
    Except PyError (BottleneckRanking kernelKey) :=
  match rankings.find? (·.1 == key) with
  | some entry => .ok entry.2
  | none => .error (keyError "{}" [key.1])

def combineChain (rankings : SegmentRankings kernelKey) (keys : List (String × Nat)) :
    Except PyError (BottleneckRanking kernelKey) := do
  let values ← keys.mapM (lookupRanking rankings)
  combine kernelKey values

def firstObservation (arrivals : Option (Dict Nat)) (record : StepRecord) (requestId : String) :
    Except PyError Int :=
  match arrivals with
  | none => .ok record.virtualTimePs
  | some arrivals => do
    let arrived ← lookupKey arrivals requestId
    .ok arrived

def currentState (arrivals : Option (Dict Nat)) (record : StepRecord)
    (states : Dict RequestMetricState) (requestId : String) :
    Except PyError RequestMetricState :=
  match states.get? requestId with
  | some state => .ok state
  | none => do
    let first ← firstObservation arrivals record requestId
    .ok { firstObservedAtPs := first, accountedThroughPs := first }

def noteBottleneck (rankings : Option (SegmentRankings kernelKey))
    (chain : List RuntimeCriticalSegment) (requestId : String) (firstObservedAtPs : Int)
    (acc : Reducing kernelKey) : Except PyError (Reducing kernelKey) :=
  match rankings with
  | none => .ok acc
  | some rankings => do
    let interval ← combineChain rankings (chain.map (·.key))
    .ok { acc with intervals := acc.intervals.set requestId interval,
                   origins := acc.origins.set requestId firstObservedAtPs }

def reduceRequest (arrivals : Option (Dict Nat)) (inputs : ReducerInputs kernelKey)
    (segments : List RuntimeCriticalSegment) (sampled : List String) (acc : Reducing kernelKey)
    (scheduled : ScheduledRequest) : Except PyError (Reducing kernelKey) := do
  let requestId := scheduled.requestId
  let released := inputs.graph.releasedAtPs
  let endpoint ← requestEndpoint inputs.graph inputs.report requestId
  let (chain, attribution) ← requestCriticalChain segments endpoint released
  let state ← currentState arrivals inputs.record acc.states requestId
  require (state.accountedThroughPs ≤ released) (movesBackward requestId)
  let acc ← noteBottleneck inputs.bottleneckSegments chain requestId state.firstObservedAtPs acc
  let interval := intervalAttribution state released attribution
  let additive := state.pendingAdditive + requestAdditiveTotals requestId inputs.graph inputs.report
  let accounted : RequestMetricState := { state with accountedThroughPs := endpoint.completedAtPs }
  if requestId ∈ sampled then
    let (next, metric) ← accounted.sampleToken scheduled endpoint.completedAtPs interval additive
    return { acc with states := acc.states.set requestId next, metrics := acc.metrics ++ [metric] }
  else
    let pending : RequestMetricState :=
      { accounted with pendingAttribution := interval, pendingAdditive := additive }
    return { acc with states := acc.states.set requestId pending }

def checkArrival (arrivals : Dict Nat) (record : StepRecord) (states : Dict RequestMetricState)
    (scheduled : ScheduledRequest) : Except PyError Unit :=
  match states.get? scheduled.requestId with
  | some _ => .ok ()
  | none =>
    match arrivals.get? scheduled.requestId with
    | none => .error (valueError
        "scheduled request {} has no framework-request bookkeeping origin" [scheduled.requestId])
    | some arrived => require ((arrived : Int) ≤ record.virtualTimePs)
        (valueError "scheduled request {} predates its bookkeeping arrival at {} ps"
          [scheduled.requestId, toString arrived])

/-- `CompletionReducer`: the clock it advances, the arrivals it was given, the stores it shares
or owns, and the executions it has reduced. -/
structure CompletionReducer (α : Type) (kernelKey : KernelEvidence → String) where
  clock : VirtualClock α
  requestArrivals : Option (Dict Nat) := none
  lifetimes : Option RequestLifetimeRegistry := none
  bottleneckHistory : Option (BottleneckHistory kernelKey) := none
  requests : Dict RequestMetricState := []
  consumedExecutionIds : List String := []

def reducerArrivals : Option (List BookkeepingEntry) → Except PyError (Option (Dict Nat))
  | none => .ok none
  | some entries => some <$> frameworkRequestArrivals entries

def CompletionReducer.new (clock : VirtualClock α) (bookkeeping : Option (List BookkeepingEntry))
    (lifetimes : Option RequestLifetimeRegistry) (emitBottleneckReport : Bool) :
    Except PyError (CompletionReducer α kernelKey) := do
  let arrivals ← reducerArrivals bookkeeping
  return { clock := clock
           requestArrivals := arrivals
           lifetimes := lifetimes
           bottleneckHistory := if emitBottleneckReport then some {} else none }

structure Reduced (kernelKey : KernelEvidence → String) where
  result : StepResult
  states : Dict RequestMetricState
  projection : Option (BottleneckReport kernelKey × Dict (RankingState kernelKey))

def projectStep (history : Option (BottleneckHistory kernelKey)) (inputs : ReducerInputs kernelKey)
    (acc : Reducing kernelKey) (result : StepResult) :
    Except PyError (Option (BottleneckReport kernelKey × Dict (RankingState kernelKey))) :=
  match history with
  | none => .ok none
  | some history => do
    let step ← combineChain (inputs.bottleneckSegments.getD [])
      inputs.report.realizedCriticalPathSegments
    let projection ← history.project inputs.record result step acc.intervals acc.origins
    return some projection

def stepResult (inputs : ReducerInputs kernelKey) (metrics : List RequestMetric) : StepResult where
  stepIndex := inputs.record.stepIndex
  stepLatencyPs := inputs.result.completedAtPs - inputs.graph.releasedAtPs
  completedAtPs := inputs.result.completedAtPs
  requestMetrics := metrics
  additiveVisitTotals := some (visitTotals inputs.report.visits)

def CompletionReducer.checkArrivals (reducer : CompletionReducer α kernelKey)
    (record : StepRecord) : Except PyError Unit :=
  match reducer.requestArrivals with
  | none => .ok ()
  | some arrivals => record.scheduled.forM (checkArrival arrivals record reducer.requests)

def CompletionReducer.stage (reducer : CompletionReducer α kernelKey)
    (inputs : ReducerInputs kernelKey) : Except PyError (Reduced kernelKey) := do
  require (!reducer.consumedExecutionIds.contains inputs.graph.executionId)
    (valueError "execution ID has already been reduced: {}" [inputs.graph.executionId])
  let segments ← validateInputs inputs.record inputs.graph inputs.result inputs.report
    reducer.clock.nowPs
  require (inputs.bottleneckSegments.isSome == reducer.bottleneckHistory.isSome)
    (valueError "bottleneck selection requires complete segment rankings")
  let sampled ← sampledRequestIds inputs.record
  reducer.checkArrivals inputs.record
  let acc ← inputs.record.scheduled.foldlM
    (reduceRequest reducer.requestArrivals inputs segments sampled) { states := reducer.requests }
  let result := stepResult inputs acc.metrics
  result.check
  let projection ← projectStep reducer.bottleneckHistory inputs acc result
  return ⟨result, acc.states, projection⟩

def consumeLifetimes (inputs : ReducerInputs kernelKey) :
    EStateM PyError (CompletionReducer α kernelKey) Unit := fun reducer =>
  match reducer.lifetimes with
  | none => .ok () reducer
  | some registry =>
    match RequestLifetimeRegistry.consumeStep inputs.record inputs.graph inputs.result registry with
    | .ok () after => .ok () { reducer with lifetimes := some after }
    | .error error after => .error error { reducer with lifetimes := some after }

def commitBottleneck
    (projection : Option (BottleneckReport kernelKey × Dict (RankingState kernelKey)))
    (reducer : CompletionReducer α kernelKey) : CompletionReducer α kernelKey :=
  match projection with
  | none => reducer
  | some projection =>
    { reducer with bottleneckHistory := reducer.bottleneckHistory.map (·.commit projection) }

def advanceClock (atPs : Int) : EStateM PyError (CompletionReducer α kernelKey) Unit :=
  fun reducer =>
    match reducer.clock.advanceTo atPs with
    | .ok clock => .ok () { reducer with clock := clock }
    | .error error => .error error reducer

def CompletionReducer.reduce (inputs : ReducerInputs kernelKey) :
    EStateM PyError (CompletionReducer α kernelKey) StepResult := do
  let reducer ← get
  let staged ← liftExcept (reducer.stage inputs)
  consumeLifetimes inputs
  modify (commitBottleneck staged.projection)
  advanceClock inputs.result.completedAtPs
  modify fun reducer => { reducer with
    requests := staged.states
    consumedExecutionIds := reducer.consumedExecutionIds ++ [inputs.graph.executionId] }
  return staged.result

end Reduce

end SimLLM
