import SimLLM.TableTotals
import SimLLM.GraphValidation
import SimLLM.StepRecord

namespace SimLLM

/-- One request's slice of an externally owned routing arena. `releaseCallback` is what calling
its release callback does: return, or raise. -/
structure RoutingViewDescriptor where
  tokenCount : Nat
  promptTokenCount : Nat
  releaseCallback : Except PyError Unit
  tokens_pos : 0 < tokenCount
  prompt_pos : 0 < promptTokenCount
  prompt_le : promptTokenCount ≤ tokenCount

structure MoeLayers where
  layers : List Nat
  nonempty : layers ≠ []
  few : layers.length ≤ 64
  increasing : layers.Pairwise (· < ·)

inductive RequestLifecycleState where
  | joined | admitted | executing | finishFlagged | drained | closed
  deriving DecidableEq, Repr

def RequestLifecycleState.value : RequestLifecycleState → String
  | .joined => "joined"
  | .admitted => "admitted"
  | .executing => "executing"
  | .finishFlagged => "finish-flagged"
  | .drained => "drained"
  | .closed => "closed"

def RequestLifecycleState.place : RequestLifecycleState → Nat
  | .joined => 0
  | .admitted => 1
  | .executing => 2
  | .finishFlagged => 3
  | .drained => 4
  | .closed => 5

structure RequestRoutingLifetime where
  requestId : String
  routingView : RoutingViewDescriptor
  moeLayers : MoeLayers
  state : RequestLifecycleState := .joined
  consumptionCursor : Nat := 0
  schedulerFinished : Bool := false
  dispatchEndMask : Nat := 0
  combineEndMask : Nat := 0
  viewReleased : Bool := false
  cursor_le : consumptionCursor ≤ routingView.tokenCount

namespace RequestRoutingLifetime

def join (requestId : String) (view : RoutingViewDescriptor) (layers : MoeLayers) :
    RequestRoutingLifetime where
  requestId := requestId
  routingView := view
  moeLayers := layers
  cursor_le := Nat.zero_le _

variable (lifetime : RequestRoutingLifetime)

def tokenCount : Nat := lifetime.routingView.tokenCount

def fullEndMask : Nat := (1 <<< lifetime.moeLayers.layers.length) - 1

def dispatchComplete : Bool := lifetime.dispatchEndMask == lifetime.fullEndMask

def combineComplete : Bool := lifetime.combineEndMask == lifetime.fullEndMask

def routingConsumed : Bool := lifetime.consumptionCursor == lifetime.tokenCount

def isDrained : Bool :=
  lifetime.routingConsumed && lifetime.dispatchComplete && lifetime.combineComplete

def enterExecution : Except PyError RequestRoutingLifetime :=
  if lifetime.state = .closed then
    .error (lifecycleError "closed request {} was scheduled again" [lifetime.requestId])
  else if lifetime.schedulerFinished then
    .error (lifecycleError "finished request {} was scheduled again" [lifetime.requestId])
  else
    let admitted := if lifetime.state = .joined then .admitted else lifetime.state
    .ok { lifetime with state := if admitted = .admitted then .executing else admitted }

def nonnegativeInteger (value : Int) (name : String) : Except PyError Nat :=
  if value < 0 then .error (valueError "{} must be nonnegative" [name]) else .ok value.toNat

/-- Moves the cursor over the scheduled tokens, and says whether the last token was reached now.
A gap is accepted only at the start, when the cached prefix covers it. -/
def coverScheduledTokens (scheduled : ScheduledRequest) :
    Except PyError (RequestRoutingLifetime × Bool) := do
  let newTokens ← nonnegativeInteger scheduled.numNewTokens "scheduled.num_new_tokens"
  let context ← nonnegativeInteger scheduled.contextLength "scheduled.context_length"
  let cached ← nonnegativeInteger scheduled.numCachedTokens "scheduled.num_cached_tokens"
  let start := context - newTokens
  if newTokens = 0 then
    .ok (lifetime, false)
  else if context < newTokens then
    .error (valueError "request {} schedules more tokens than its context" [lifetime.requestId])
  else if fits : context ≤ lifetime.routingView.tokenCount then
    if lifetime.consumptionCursor < start ∧
        ¬ (lifetime.consumptionCursor = 0 ∧ cached = start) then
      .error (lifecycleError "request {} has uncovered token gap [{}, {})"
        [lifetime.requestId, toString lifetime.consumptionCursor, toString start])
    else
      let cursor := max lifetime.consumptionCursor context
      .ok ({ lifetime with consumptionCursor := cursor,
                           cursor_le := Nat.max_le.mpr ⟨lifetime.cursor_le, fits⟩ },
        decide (lifetime.consumptionCursor < lifetime.tokenCount ∧ lifetime.tokenCount = cursor))
  else
    .error (lifecycleError "request {} cursor overflow: {}/{}"
      [lifetime.requestId, toString context, toString lifetime.tokenCount])

def flagFinish : Except PyError RequestRoutingLifetime :=
  if lifetime.state = .joined then
    .error (lifecycleError "request {} finished before admission" [lifetime.requestId])
  else if lifetime.schedulerFinished then
    .error (lifecycleError "request {} has a duplicate scheduler finish" [lifetime.requestId])
  else
    .ok { lifetime with schedulerFinished := true }

def markEndFlag (phase : String) (layer : Nat) : Except PyError RequestRoutingLifetime :=
  match lifetime.moeLayers.layers.findIdx? (· == layer) with
  | none => .error (valueError "MoE completion names unknown model layer {}" [toString layer])
  | some bit =>
    if phase = "dispatch" then
      .ok { lifetime with dispatchEndMask := lifetime.dispatchEndMask ||| (1 <<< bit) }
    else if phase = "combine" then
      .ok { lifetime with combineEndMask := lifetime.combineEndMask ||| (1 <<< bit) }
    else
      .error (valueError "unknown MoE phase {}" [phase])

def reconcile : RequestRoutingLifetime :=
  let flagged :=
    if lifetime.schedulerFinished ∧ lifetime.state = .executing then .finishFlagged
    else lifetime.state
  let drained :=
    if flagged = .finishFlagged ∧ lifetime.isDrained then .drained else flagged
  { lifetime with state := if drained = .drained then .closed else drained }

end RequestRoutingLifetime

/-- All joined request lifetimes in join order, the executions consumed so far, and the requests
whose release callback has run, in the order of the calls. -/
structure RequestLifetimeRegistry where
  moeLayers : MoeLayers
  records : Dict RequestRoutingLifetime := []
  consumedExecutionIds : List String := []
  released : List String := []

namespace RequestLifetimeRegistry

variable (registry : RequestLifetimeRegistry)

def register (requestId : String) (view : RoutingViewDescriptor) :
    Except PyError RequestLifetimeRegistry :=
  if !nonblank requestId then
    .error (valueError "{} must be a nonblank string" ["request_id"])
  else if (registry.records.get? requestId).isSome then
    .error (valueError "duplicate request lifetime {}" [requestId])
  else
    let joined := RequestRoutingLifetime.join requestId view registry.moeLayers
    .ok { registry with records := registry.records.set requestId joined }

end RequestLifetimeRegistry

def validateStepContract (record : StepRecord) (graph : ExecutionGraph) (result : ExecutionResult) :
    Except PyError Unit := do
  require ((graph.stepIndex : Int) == record.stepIndex)
    (valueError "graph step index disagrees with StepRecord")
  require ((graph.releasedAtPs : Int) == record.virtualTimePs)
    (valueError "graph release disagrees with StepRecord virtual time")
  require (result.executionId == graph.executionId)
    (valueError "ExecutionResult execution ID disagrees with graph")
  require (graph.operations.map (·.operationId)).Nodup
    (valueError "ExecutionGraph contains duplicate operation IDs")
  result.events.forM fun event => do
    require (event.executionId == graph.executionId)
      (valueError "completion event execution ID disagrees with graph")
    require (graph.operation? event.operationId).isSome
      (valueError "completion event names an unknown operation")

def stagedLifetime (staged : Dict RequestRoutingLifetime) (requestId : String) :
    Except PyError RequestRoutingLifetime :=
  match staged.get? requestId with
  | some lifetime => .ok lifetime
  | none => .error (keyError "{}" [requestId])

def stageScheduled (acc : Dict RequestRoutingLifetime × List String)
    (scheduled : ScheduledRequest) :
    Except PyError (Dict RequestRoutingLifetime × List String) := do
  let lifetime ← stagedLifetime acc.1 scheduled.requestId
  let entered ← lifetime.enterExecution
  let (covered, reached) ← entered.coverScheduledTokens scheduled
  return (acc.1.set scheduled.requestId covered,
    if reached then acc.2 ++ [scheduled.requestId] else acc.2)

def stageFinish (staged : Dict RequestRoutingLifetime) (requestId : String) :
    Except PyError (Dict RequestRoutingLifetime) := do
  let lifetime ← stagedLifetime staged requestId
  let flagged ← lifetime.flagFinish
  return staged.set requestId flagged

def moePhase : WorkPayload → Option String
  | .collective work =>
    match work.channelHint with
    | some phase =>
      if work.collective = "all-to-allv" ∧ work.algorithmHint = some "pairwise" ∧
          (phase = "dispatch" ∨ phase = "combine") then some phase else none
    | none => none
  | _ => none

def stageMark (finalReachers : List String) (phase : String) (layer : Nat)
    (staged : Dict RequestRoutingLifetime) (requestId : String) :
    Except PyError (Dict RequestRoutingLifetime) :=
  if requestId ∈ finalReachers then do
    let lifetime ← stagedLifetime staged requestId
    let marked ← lifetime.markEndFlag phase layer
    return staged.set requestId marked
  else
    .ok staged

/-- One completion event: a completed dispatch or combine marks its layer for the requests that
reached their last token in this step. -/
def stageEvent (layers : MoeLayers) (graph : ExecutionGraph) (finalReachers : List String)
    (staged : Dict RequestRoutingLifetime) (event : CompletionEvent) :
    Except PyError (Dict RequestRoutingLifetime) :=
  if event.phase ≠ .completed ∨ event.subjectObjectId.isSome then .ok staged
  else
    match graph.operation? event.operationId with
    | none => .error (keyError "{}" [event.operationId])
    | some operation =>
      match moePhase operation.work with
      | none => .ok staged
      | some phase =>
        match operation.correlation.layer with
        | none =>
          .error (valueError "MoE operation {} has no correlation layer" [operation.operationId])
        | some layer =>
          if layer ∈ layers.layers then
            operation.correlation.requestIds.foldlM (stageMark finalReachers phase layer) staged
          else
            .error (valueError "MoE operation {} names unknown layer {}"
              [operation.operationId, toString layer])

namespace RequestLifetimeRegistry

variable (registry : RequestLifetimeRegistry)

def stageStep (record : StepRecord) (graph : ExecutionGraph) (result : ExecutionResult) :
    Except PyError (Dict RequestRoutingLifetime) := do
  require (!registry.consumedExecutionIds.contains graph.executionId)
    (valueError "execution ID already consumed: {}" [graph.executionId])
  validateStepContract record graph result
  require record.scheduledIds.Nodup
    (valueError "StepRecord.scheduled contains duplicate request IDs")
  require record.finishedRequestIds.Nodup
    (valueError "finished_request_ids contains duplicate request IDs")
  let mentioned := record.scheduledIds ++ record.finishedRequestIds ++ record.preemptedRequestIds
  let unknown := sortedSet (mentioned.filter fun id => (registry.records.get? id).isNone)
  require unknown.isEmpty
    (lifecycleError "step names requests absent from lifetime registry: {}" [toString unknown])
  let (scheduled, finalReachers) ←
    record.scheduled.foldlM stageScheduled (registry.records, [])
  let finished ← record.finishedRequestIds.foldlM stageFinish scheduled
  let marked ← result.events.foldlM (stageEvent registry.moeLayers graph finalReachers) finished
  return marked.mapValues RequestRoutingLifetime.reconcile

end RequestLifetimeRegistry

/-- What releasing views left: the records, the callbacks called, and the exception that ended
it, if one did. -/
structure ReleaseOutcome where
  records : Dict RequestRoutingLifetime
  called : List String
  raised : Option PyError

/-- The closed records release their views in join order, each at most once. A raising callback
leaves its record unreleased and the later ones untouched. -/
def releaseViews : Dict RequestRoutingLifetime → ReleaseOutcome
  | [] => ⟨[], [], none⟩
  | (requestId, lifetime) :: rest =>
    if lifetime.state = .closed ∧ lifetime.viewReleased = false then
      match lifetime.routingView.releaseCallback with
      | .error error => ⟨(requestId, lifetime) :: rest, [requestId], some error⟩
      | .ok () =>
        let after := releaseViews rest
        ⟨(requestId, { lifetime with viewReleased := true }) :: after.records,
          requestId :: after.called, after.raised⟩
    else
      let after := releaseViews rest
      ⟨(requestId, lifetime) :: after.records, after.called, after.raised⟩

/-- Consumes one step: the staged records replace the old ones at once, and then the views of
the closed requests are released. -/
def RequestLifetimeRegistry.consumeStep (record : StepRecord) (graph : ExecutionGraph)
    (result : ExecutionResult) : EStateM PyError RequestLifetimeRegistry Unit := fun registry =>
  match registry.stageStep record graph result with
  | .error error => .error error registry
  | .ok staged =>
    let outcome := releaseViews staged
    let after := { registry with
      records := outcome.records
      consumedExecutionIds := registry.consumedExecutionIds ++ [graph.executionId]
      released := registry.released ++ outcome.called }
    match outcome.raised with
    | some error => .error error after
    | none => .ok () after

end SimLLM
