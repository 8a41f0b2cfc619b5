import SimLLM.Completion
import SimLLM.RequestCloseout

namespace SimLLM

variable {α : Type} {kernelKey : KernelEvidence → String}

variable {reducer : CompletionReducer α kernelKey}

def LifetimesReached (lifetimes : Option RequestLifetimeRegistry) : Prop :=
  ∀ registry ∈ lifetimes, ∃ layers history, LifetimeRun layers history registry

/-- The reducers that accepted and refused steps reach, with the results emitted so far. Between
the steps the owner of the clock may move it forward, and requests may join the registry. -/
inductive ReducerRun (admits : ReducerInputs kernelKey → Prop) :
    List StepResult → CompletionReducer α kernelKey → Prop
  | start {clock : VirtualClock α} {bookkeeping : Option (List BookkeepingEntry)}
      {lifetimes : Option RequestLifetimeRegistry} {emits : Bool}
      {reducer : CompletionReducer α kernelKey} :
      LifetimesReached lifetimes →
      CompletionReducer.new clock bookkeeping lifetimes emits = .ok reducer →
      ReducerRun admits [] reducer
  | reduced {results : List StepResult} {reducer after : CompletionReducer α kernelKey}
      {inputs : ReducerInputs kernelKey} {result : StepResult} :
      ReducerRun admits results reducer → admits inputs →
      CompletionReducer.reduce inputs reducer = .ok result after →
      ReducerRun admits (results ++ [result]) after
  | refused {results : List StepResult} {reducer after : CompletionReducer α kernelKey}
      {inputs : ReducerInputs kernelKey} {error : PyError} :
      ReducerRun admits results reducer → admits inputs →
      CompletionReducer.reduce inputs reducer = .error error after →
      ReducerRun admits results after
  | advanced {results : List StepResult} {reducer : CompletionReducer α kernelKey}
      {clock : VirtualClock α} :
      ReducerRun admits results reducer → reducer.clock.nowPs ≤ clock.nowPs →
      ReducerRun admits results { reducer with clock := clock }
  | registered {results : List StepResult} {reducer : CompletionReducer α kernelKey}
      {registry joined : RequestLifetimeRegistry} {requestId : String}
      {view : RoutingViewDescriptor} :
      ReducerRun admits results reducer → reducer.lifetimes = some registry →
      view.releaseCallback = .ok () → registry.register requestId view = .ok joined →
      ReducerRun admits results { reducer with lifetimes := some joined }

theorem validateInputs_identities {record : StepRecord} {graph : ExecutionGraph}
    {result : ExecutionResult} {report : RuntimeReport} {nowPs : Int}
    {segments : List RuntimeCriticalSegment}
    (h : validateInputs record graph result report nowPs = .ok segments) :
    (graph.releasedAtPs : Int) = record.virtualTimePs ∧ nowPs = record.virtualTimePs ∧
      graph.releasedAtPs ≤ result.completedAtPs := by
  obtain ⟨_, hids, -⟩ := of_bind h
  replace hids := of_check hids
  obtain ⟨_, hrelease, hids⟩ := of_bind hids
  obtain ⟨_, hnow, hids⟩ := of_bind hids
  replace hids := of_check hids
  replace hids := of_check hids
  obtain ⟨_, hcompleted, -⟩ := of_bind hids
  exact ⟨by simpa using hrelease, by simpa using hnow, by simpa using hcompleted⟩

theorem stage_validated {inputs : ReducerInputs kernelKey}
    {staged : Reduced kernelKey} (h : reducer.stage inputs = .ok staged) :
    ∃ segments, validateInputs inputs.record inputs.graph inputs.result inputs.report
      reducer.clock.nowPs = .ok segments := by
  replace h := of_check h
  obtain ⟨segments, hsegments, -⟩ := of_bind h
  exact ⟨segments, hsegments⟩

def CompletionReducer.commit (reducer : CompletionReducer α kernelKey)
    (inputs : ReducerInputs kernelKey) (staged : Reduced kernelKey)
    (lifetimes : Option RequestLifetimeRegistry) : CompletionReducer α kernelKey :=
  { commitBottleneck staged.projection { reducer with lifetimes := lifetimes } with
    clock := { reducer.clock with nowPs := inputs.result.completedAtPs }
    requests := staged.states
    consumedExecutionIds := reducer.consumedExecutionIds ++ [inputs.graph.executionId] }

@[simp] theorem commitBottleneck_clock
    (projection : Option (BottleneckReport kernelKey × Dict (RankingState kernelKey)))
    (reducer : CompletionReducer α kernelKey) :
    (commitBottleneck projection reducer).clock = reducer.clock := by
  cases projection <;> rfl

@[simp] theorem commitBottleneck_consumed
    (projection : Option (BottleneckReport kernelKey × Dict (RankingState kernelKey)))
    (reducer : CompletionReducer α kernelKey) :
    (commitBottleneck projection reducer).consumedExecutionIds = reducer.consumedExecutionIds := by
  cases projection <;> rfl

theorem consumeLifetimes_ends
    (reached : LifetimesReached reducer.lifetimes) (inputs : ReducerInputs kernelKey) :
    (consumeLifetimes inputs reducer).Ends (fun _ after => ∃ lifetimes,
      LifetimesReached lifetimes ∧ after = { reducer with lifetimes := lifetimes })
      (· = reducer) := by
  have hsame : ∀ {lifetimes}, reducer.lifetimes = lifetimes →
      { reducer with lifetimes := lifetimes } = reducer := by
    rintro _ rfl
    rfl
  unfold consumeLifetimes
  cases hlifetimes : reducer.lifetimes with
  | none => exact ⟨none, by simp [LifetimesReached], (hsame hlifetimes).symm⟩
  | some registry =>
    obtain ⟨layers, history, run⟩ := reached registry (by simp [hlifetimes])
    dsimp only
    cases hstep : RequestLifetimeRegistry.consumeStep inputs.record inputs.graph inputs.result
        registry with
    | ok u after =>
      refine ⟨some after, ?_, rfl⟩
      intro registry' hmem
      cases hmem
      exact ⟨layers, _, run.accepted hstep⟩
    | error error after =>
      obtain rfl := ends_of_eq_error run.facts.consumeStep_ends hstep
      exact hsame hlifetimes

/-- Everything `reduce` can do: refuse with every store as it was, or commit a staged step. -/
theorem reduce_ends
    (reached : LifetimesReached reducer.lifetimes) (inputs : ReducerInputs kernelKey) :
    (CompletionReducer.reduce inputs reducer).Ends (fun result after => ∃ staged lifetimes,
      reducer.stage inputs = .ok staged ∧ LifetimesReached lifetimes ∧ result = staged.result ∧
        after = reducer.commit inputs staged lifetimes) (· = reducer) := by
  apply ends_get_bind
  apply ends_bind
  cases hstage : reducer.stage inputs with
  | error error => exact Eq.refl reducer
  | ok staged =>
    refine (consumeLifetimes_ends reached inputs).bind ?_
    rintro _ _ ⟨lifetimes, hreached, rfl⟩
    apply ends_bind
    apply ends_modify
    -- the clock cannot refuse: the step was validated to start at it
    obtain ⟨segments, hsegments⟩ := stage_validated hstage
    obtain ⟨hrelease, hnow, hcompleted⟩ := validateInputs_identities hsegments
    have hforward : ¬ ((inputs.result.completedAtPs : Int) < reducer.clock.nowPs) := by omega
    apply ends_bind
    simp only [advanceClock, commitBottleneck_clock, VirtualClock.advanceTo, if_neg hforward]
    refine ⟨staged, lifetimes, rfl, hreached, rfl, ?_⟩
    simp [CompletionReducer.commit]

@[simp] theorem commit_lifetimes (reducer : CompletionReducer α kernelKey)
    (inputs : ReducerInputs kernelKey) (staged : Reduced kernelKey)
    (lifetimes : Option RequestLifetimeRegistry) :
    (reducer.commit inputs staged lifetimes).lifetimes = lifetimes := by
  unfold CompletionReducer.commit commitBottleneck
  cases staged.projection <;> rfl

theorem ReducerRun.lifetimes {admits : ReducerInputs kernelKey → Prop}
    {results : List StepResult} (run : ReducerRun admits results reducer) :
    LifetimesReached reducer.lifetimes := by
  induction run with
  | start hreached h =>
    obtain ⟨arrivals, -, h⟩ := of_bind h
    cases h
    exact hreached
  | reduced _ _ h ih =>
    obtain ⟨staged, lifetimes, -, hreached, -, rfl⟩ := ends_of_eq_ok (reduce_ends ih _) h
    rwa [commit_lifetimes]
  | refused _ _ h ih =>
    obtain rfl := ends_of_eq_error (reduce_ends ih _) h
    exact ih
  | advanced _ _ ih => exact ih
  | registered _ hregistry hreturn h ih =>
    obtain ⟨layers, history, hrun⟩ := ih _ hregistry
    intro registry hmem
    cases hmem
    exact ⟨layers, history, hrun.register hreturn h⟩

/-- A refused step leaves the clock, the metric and bottleneck histories, the consumed
executions and every lifetime as they were; a reduced one leaves the clock at its completion. -/
theorem reduce_atomic {admits : ReducerInputs kernelKey → Prop} {results : List StepResult}
    {reducer : CompletionReducer α kernelKey} (run : ReducerRun admits results reducer)
    (inputs : ReducerInputs kernelKey) :
    (∀ error after, CompletionReducer.reduce inputs reducer = .error error after →
      after = reducer) ∧
    ∀ result after, CompletionReducer.reduce inputs reducer = .ok result after →
      after.clock.nowPs = inputs.result.completedAtPs := by
  have hends := reduce_ends run.lifetimes inputs
  refine ⟨fun error after h => ?_, fun result after h => ?_⟩
  · obtain rfl := ends_of_eq_error hends h
    rfl
  · obtain ⟨staged, lifetimes, -, -, -, rfl⟩ := ends_of_eq_ok hends h
    rfl

def launchGraph (executionId : String) (step released : Nat) : ExecutionGraph where
  executionId := executionId
  stepIndex := step
  releasedAtPs := released
  operations := [{ operationId := "o", rank := 0, logicalQueue := "q",
                   work := .compute { kernel := "k" }, correlation := { requestIds := ["r"] } }]

def launchVisit (executionId : String) (released : Nat) : QueueVisit where
  executionId := executionId
  operationId := "o"
  resource := ⟨.hostLaunchQueue, "host"⟩
  submittedAtPs := released
  eligibleAtPs := released
  startedAtPs := released
  finishedAtPs := released + 10
  completedAtPs := released + 10
  submitted_le_eligible := le_rfl
  eligible_le_started := le_rfl
  started_le_finished := Nat.le_add_right _ _
  finished_le_completed := le_rfl

def launchBreakdown : CriticalPathBreakdown := ⟨10, 0, 0, 0, 0, 10, 0, rfl⟩

def launchSegment (released : Nat) : RuntimeCriticalSegment where
  operationId := "o"
  participantRank := 0
  startedAtPs := released
  completedAtPs := released + 10
  predecessor := none
  breakdown := launchBreakdown
  attribution := { controlPs := 10 }
  started_le_completed := Nat.le_add_right _ _
  breakdown_conserves := (Nat.add_sub_cancel_left released 10).symm
  attribution_conserves := (Nat.add_sub_cancel_left released 10).symm

def launchReport (executionId : String) (released : Nat) : RuntimeReport where
  executionId := executionId
  authority := "runtime"
  operations := [⟨"o", 0, released, released, released + 10, released + 10, [(0, released + 10)],
    [launchSegment released], launchBreakdown, { controlPs := 10 }, none, none, none, 0⟩]
  visits := [launchVisit executionId released]
  wqes := []
  sumVisitWaitPs := 0
  criticalPathQueuePs := 0
  realizedCriticalPathOperationIds := ["o"]
  realizedCriticalPathSegments := [("o", 0)]
  classServiceBytes := []
  randomDrawCount := 0

def launchResult (executionId : String) (released : Nat) : ExecutionResult where
  executionId := executionId
  completedAtPs := released + 10
  events := visitEvents (launchGraph executionId 0 released) "o" none
      (launchVisit executionId released) ++
    [⟨executionId, "o", .completed, released + 10, some ⟨.hostLaunchQueue, "host"⟩, some 0, none⟩]

def launchInputs (executionId : String) (step released : Nat) :
    ReducerInputs KernelEvidence.kernelId where
  record := { stepIndex := step, virtualTimePs := released, scheduled := [⟨"r", .decode, 1, 0, 1⟩] }
  graph := launchGraph executionId step released
  result := launchResult executionId released
  report := launchReport executionId released

theorem unused_reducer_run : ReducerRun (fun _ => True) []
    ({ clock := .start 0 } : CompletionReducer Unit KernelEvidence.kernelId) :=
  .start (by simp [LifetimesReached])
    (show CompletionReducer.new (.start 0) none none false = .ok _ from rfl)

theorem launch_reduced_once :
    ∃ result after, CompletionReducer.reduce (launchInputs "x" 0 0)
        { clock := (VirtualClock.start 0 : VirtualClock Unit) } = .ok result after ∧
      after.clock.nowPs = 10 ∧
      ∀ error again, CompletionReducer.reduce (launchInputs "x" 0 0) after = .error error again →
        again = after := by
  have hfirst : CompletionReducer.reduce (launchInputs "x" 0 0)
      ({ clock := .start 0 } : CompletionReducer Unit KernelEvidence.kernelId) = .ok _ _ := rfl
  exact ⟨_, _, hfirst, (reduce_atomic unused_reducer_run _).2 _ _ hfirst,
    (reduce_atomic (unused_reducer_run.reduced trivial hfirst) _).1⟩

end SimLLM
