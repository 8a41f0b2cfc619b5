import SimLLM.CollectiveSchedule
import SimLLM.GraphValidation

namespace SimLLM

open FirstExtremum

variable {κ σ τ : Type}

structure ActionResult where
  completedAtPs : Nat
  witness : Option CausalWitness
  path : List QueueVisit

/-- How plan candidates compare; unlike the other selections the rank does not take part. -/
def actionKey (result : ActionResult) : Nat ×ₗ Bool ×ₗ Int ×ₗ String :=
  match result.witness with
  | none => toLex (result.completedAtPs, toLex (false, toLex (-1, "")))
  | some w => toLex (result.completedAtPs, toLex (true, toLex (w.completedAtPs, w.predecessorId)))

structure ActionResults where
  entries : List (String × ActionResult) := []

def ActionResults.get? (results : ActionResults) (actionId : String) : Option ActionResult :=
  (results.entries.find? (·.1 == actionId)).map Prod.snd

def ActionResults.lookup (results : ActionResults) (actionId : String) :
    Except PyError ActionResult :=
  match results.get? actionId with
  | some result => .ok result
  | none => .error (keyError "{}" [actionId])

def ActionResults.set (results : ActionResults) (actionId : String) (result : ActionResult) :
    ActionResults :=
  ⟨(actionId, result) :: results.entries⟩

def latestResult (entry : ReadyEntry) (rank : Nat) (results : List ActionResult) : ActionResult :=
  let own : ActionResult :=
    ⟨entry.ready.byRank.get rank, entry.ready.witnesses.get rank, [entry.launch]⟩
  (maxBy actionKey (own :: results)).getD own

def actionReady (entry : ReadyEntry) (plan : CollectivePlan) (results : ActionResults)
    (actionId : String) : Except PyError ActionResult :=
  match plan.action? actionId with
  | none => .error (keyError "{}" [actionId])
  | some action => do
    let finished ← action.dependsOn.mapM results.lookup
    .ok (latestResult entry action.rank finished)

def planRequest (plan : CollectivePlan) (round : CollectivePlanRound)
    (extent : CollectivePlanExtent) (index : Nat) : HopRequest where
  source := extent.sourceRank
  destination := extent.destinationRank
  payloadBytes := extent.payloadBytes
  goalTag := round.tag
  extentIndex := index
  channel := plan.channelId
  channelId := round.channelId

def ActionResult.frontier (result : ActionResult) :
    Frontier := ⟨result.completedAtPs, result.witness⟩

variable (cfg : RuntimeConfig κ σ τ) (graph : ExecutionGraph) (entry : ReadyEntry)

def scheduleExtent (plan : CollectivePlan) (acc : Expansion τ × ActionResults)
    (extent : CollectivePlanExtent × Nat) : Except PyError (Expansion τ × ActionResults) :=
  match plan.rounds.find? (·.roundIndex == extent.1.roundIndex) with
  | none => .error (keyError "{}" [toString extent.1.roundIndex])
  | some round => do
    let sendReady ← actionReady entry plan acc.2 extent.1.sendActionId
    let receiveReady ← actionReady entry plan acc.2 extent.1.receiveActionId
    let (hop, machine) ← scheduleHop cfg graph entry.operation entry.launch
      (planRequest plan round extent.1 extent.2) sendReady.frontier receiveReady.frontier
      acc.1.machine
    let result : ActionResult := ⟨hop.completedAtPs, hop.witness, sendReady.path ++ hop.visits⟩
    .ok (acc.1.record hop machine,
      (acc.2.set extent.1.sendActionId result).set extent.1.receiveActionId result)

def terminalResult (results : ActionResults) (terminal : Nat × List String) :
    Except PyError (Nat × ActionResult) := do
  let finished ← terminal.2.mapM results.lookup
  .ok (terminal.1, latestResult entry terminal.1 finished)

def planProgress (terminals : List (Nat × ActionResult)) : Progress :=
  terminals.foldl (fun progress terminal =>
    { completed := progress.completed.set terminal.1 terminal.2.completedAtPs
      witnesses := progress.witnesses.set terminal.1 terminal.2.witness
      paths := progress.paths.set terminal.1 terminal.2.path })
    ⟨.const [] 0, .const [] none, .const [] []⟩

def scheduleCollectivePlan (plan : CollectivePlan) (m : Machine τ) :
    Except PyError (ScheduledOperation × Machine τ) := do
  let (expansion, results) ← plan.extents.zipIdx.foldlM (scheduleExtent cfg graph entry plan)
    (expansionStart entry m, {})
  let terminals ← plan.terminalActionIds.mapM (terminalResult entry results)
  let outcome ← finishCollective graph entry expansion (planProgress terminals)
    (terminals.map (·.2.path)) (terminals.map (·.2.witness))
  .ok (outcome, expansion.machine)

def scheduleCollective (work : CollectiveWork) (goalTags : List Nat) (plan : Option CollectivePlan) (m : Machine τ) :
    Except PyError (ScheduledOperation × Machine τ) :=
  match plan with
  | some plan => scheduleCollectivePlan cfg graph entry plan m
  | none =>
    if work.isRing then
      scheduleRing cfg graph entry work goalTags m
    else if work.isPairwise then
      match goalTags with
      | [] => .error (indexError "tuple index out of range")
      | goalTag :: _ => schedulePairwise cfg graph entry work goalTag m
    else .error (assertionError "collective tag preflight accepted an unsupported algorithm")

end SimLLM
