import SimLLM.Execute
import SimLLM.StateRules

namespace SimLLM

open EStateM

variable {κ π σ τ : Type} {cfg : RuntimeConfig κ σ τ} {policy : ArbitrationPolicy π}
  {runtime : Runtime σ π} {graph : ExecutionGraph} {bookkeeper : Option RequestBookkeeper}
  {error : PyError}

theorem approve_append {ledger : RequestBookkeeper} {staged : Staged τ} {u : Unit}
    (h : approve cfg graph (some ledger) staged = .ok u) :
    ∃ appended, staged.append graph ledger = .ok () appended := by
  have hchecked : (validateBookkeepingAppend ledger graph staged >>= fun _ =>
      cfg.authority.prepare staged.loop.machine.wqe) = .ok u := by
    unfold approve at h
    dsimp only at h
    split at h
    · exact of_check h
    · exact h
  obtain ⟨_, hcopy, -⟩ := of_bind hchecked
  unfold validateBookkeepingAppend at hcopy
  rw [RequestBookkeeper.ofLedger_entries, ok_bind] at hcopy
  split at hcopy
  next => cases hcopy
  next appended happended => exact ⟨appended, happended⟩

theorem execute_refused (h : (execute cfg policy runtime graph bookkeeper).answer = .error error) :
    (execute cfg policy runtime graph bookkeeper).bookkeeper = bookkeeper ∧
      (execute cfg policy runtime graph bookkeeper).runtime = { runtime with
        policy := (stageExecution cfg policy runtime graph runtime.policy).state } := by
  unfold execute at h ⊢
  cases hstage : stageExecution cfg policy runtime graph runtime.policy with
  | error error after => exact ⟨rfl, rfl⟩
  | ok staged after =>
    simp only [hstage] at h
    cases happrove : approve cfg graph bookkeeper staged with
    | error error => simp only [happrove, refused, Result.state, and_self]
    | ok u =>
      simp only [happrove] at h
      cases bookkeeper with
      | none => cases h
      | some ledger =>
        obtain ⟨appended, happended⟩ := approve_append happrove
        simp only [happended] at h
        cases h

def ArbitrationPolicy.Memoryless (policy : ArbitrationPolicy π) : Prop :=
  ∀ memory candidates, (policy.select memory candidates).2 = memory

theorem keeps_liftExcept {α : Type} (result : Except PyError α) :
    Keeps (id : π → π) (liftExcept result) := by
  intro memory
  cases result with
  | error error => rfl
  | ok value => rfl

namespace ArbitrationPolicy.Memoryless

variable {entries : List ReadyEntry} {fuel : Nat} {context : GraphContext} {loop : LoopState τ}
  {edges : List EffectiveDependencyEdge} {launched : List Launched} (h : policy.Memoryless)

include h

theorem keeps_grant (candidates : List ArbitrationCandidate) :
    Keeps id (grant policy candidates) := by
  intro memory
  have hmemory := h memory candidates
  unfold grant
  split
  next error after hselect =>
    rw [hselect] at hmemory
    exact hmemory
  next selected after hselect =>
    rw [hselect] at hmemory
    split
    · exact hmemory
    · exact hmemory

theorem keeps_arbitratedOrder : Keeps id (arbitratedOrder policy fuel entries) := by
  induction fuel generalizing entries with
  | zero => exact .pure []
  | succ fuel ih =>
    unfold arbitratedOrder
    split
    · exact .pure []
    · refine .bind (h.keeps_grant _) fun granted => .bind (keeps_liftExcept _) fun entry => ?_
      exact .bind ih fun rest => .pure _

theorem keeps_grantSelected {selected : ReadyEntry} {m : Machine τ} :
    Keeps id (grantSelected cfg policy context entries selected m) := by
  unfold grantSelected
  split
  · refine .bind ?_ fun group => .bind (keeps_liftExcept _) fun _ => .pure _
    unfold computeGroup
    split
    · exact .pure _
    · exact h.keeps_arbitratedOrder
  · exact .bind (keeps_liftExcept _) fun _ => .pure _

theorem keeps_scheduleStep : Keeps id (scheduleStep cfg policy context edges launched loop) := by
  refine .bind (keeps_liftExcept _) fun entries => ?_
  split
  · exact .throw _
  · refine .bind ?_ fun selected => .bind h.keeps_grantSelected fun _ => .pure _
    exact .bind (h.keeps_grant _) fun granted => keeps_liftExcept _

theorem keeps_scheduleLoop :
    Keeps id (scheduleLoop cfg policy context edges launched fuel loop) := by
  induction fuel generalizing loop with
  | zero =>
    unfold scheduleLoop
    split
    · exact .pure loop
    · exact .throw _
  | succ fuel ih =>
    unfold scheduleLoop
    split
    · exact .pure loop
    · exact .bind h.keeps_scheduleStep fun next => ih

theorem keeps_stageExecution : Keeps id (stageExecution cfg policy runtime graph) := by
  refine .bind ?_ fun scheduled => .bind (keeps_liftExcept _) fun _ => .pure _
  refine .bind (keeps_liftExcept _) fun _ => .bind (keeps_liftExcept _) fun pending => ?_
  refine .bind (keeps_liftExcept _) fun _ => .bind (keeps_liftExcept _) fun transaction => ?_
  refine .bind (keeps_liftExcept _) fun _ => .bind (keeps_liftExcept _) fun tags => ?_
  refine .bind (keeps_liftExcept _) fun edges => .bind (keeps_liftExcept _) fun launched => ?_
  exact .bind h.keeps_scheduleLoop fun loop => .pure _

end ArbitrationPolicy.Memoryless

structure Shown (σ : Type) where
  answer : Except PyError ExecutionResult
  report : Option RuntimeReport
  kvReport : Option KvAccountingReport
  session : σ
  bookkeeper : Option RequestBookkeeper

def Executed.shown (executed : Executed σ π) : Shown σ :=
  ⟨executed.answer, executed.runtime.lastReport, executed.runtime.lastKvReport,
    executed.runtime.session, executed.bookkeeper⟩

def shownBy (cfg : RuntimeConfig κ σ τ) (policy : ArbitrationPolicy π) (runtime : Runtime σ π) :
    List (ExecutionGraph × Option RequestBookkeeper) → List (Shown σ)
  | [] => []
  | call :: calls =>
    let executed := execute cfg policy runtime call.1 call.2
    executed.shown :: shownBy cfg policy executed.runtime calls

def RefusalsInvisible (policy : ArbitrationPolicy π) : Prop :=
  ∀ (κ σ τ : Type) (cfg : RuntimeConfig κ σ τ) (runtime : Runtime σ π) (graph : ExecutionGraph)
    (bookkeeper : Option RequestBookkeeper) (error : PyError),
    (execute cfg policy runtime graph bookkeeper).answer = .error error →
      (execute cfg policy runtime graph bookkeeper).bookkeeper = bookkeeper ∧
      ∀ calls, shownBy cfg policy (execute cfg policy runtime graph bookkeeper).runtime calls =
        shownBy cfg policy runtime calls

theorem ArbitrationPolicy.Memoryless.invisible (h : policy.Memoryless) :
    RefusalsInvisible policy := by
  intro κ σ τ cfg runtime graph bookkeeper error hrefused
  obtain ⟨hledger, hruntime⟩ := execute_refused hrefused
  have hmemory : (stageExecution cfg policy runtime graph runtime.policy).state = runtime.policy :=
    h.keeps_stageExecution.state runtime.policy
  refine ⟨hledger, fun calls => ?_⟩
  rw [hruntime, hmemory]

def notification (operationId : String) (classLabel : Int) : ExecutionOperation where
  operationId := operationId
  rank := 0
  logicalQueue := operationId
  priority := classLabel
  work := .control { message := operationId, destinationRanks := [8], payloadBytes := 8 }

def notifications (executionId : String) (operations : List ExecutionOperation) :
    ExecutionGraph where
  executionId := executionId
  stepIndex := 0
  releasedAtPs := 0
  operations := operations

def takenLedger : RequestBookkeeper :=
  (registerGraph (notifications "first" [notification "a" 0]) ⟨[], {}, rfl⟩).state

def refusedCall (config : RoundRobinWeights) (credits : RoundRobinCredits) :
    Executed AtlahsWqeLedger RoundRobinCredits :=
  execute (RuntimeOptions.bypass ({} : RuntimeOptions Unit))
    (weightedRoundRobinArbitrationPolicy config) (.fresh credits)
    (notifications "first" [notification "a" 0]) (some takenLedger)

def competitionEnds (config : RoundRobinWeights)
    (runtime : Runtime AtlahsWqeLedger RoundRobinCredits) : Option (List (String × Nat)) :=
  (execute (RuntimeOptions.bypass ({} : RuntimeOptions Unit))
    (weightedRoundRobinArbitrationPolicy config) runtime
    (notifications "second" [notification "b" 0, notification "c" 1]) none).runtime.lastReport.map
      fun report => report.wqes.map fun wqe => (wqe.operationId, wqe.completedAtPs)

def lastCredits (credit : Nat) : RoundRobinCredits := ⟨[(1, 1), (0, credit)]⟩

section

variable {config : RoundRobinWeights} (h : config.classAware = true)

include h

/-! Both classes have a recorded credit, so no weight decides who is granted. -/

theorem refusedCall_refused :
    ∃ error, (refusedCall config (lastCredits 1)).answer = .error error := by
  cases config
  cases h
  exact ⟨_, rfl⟩

theorem refusedCall_runtime :
    (refusedCall config (lastCredits 1)).runtime = .fresh (lastCredits 0) := by
  obtain ⟨error, hrefused⟩ := refusedCall_refused h
  cases config
  cases h
  rfl

theorem competitionEnds_credit :
    competitionEnds config (.fresh (lastCredits 1)) = some [("b", 160), ("c", 320)] := by
  cases config
  cases h
  rfl

theorem competitionEnds_spent :
    competitionEnds config (.fresh (lastCredits 0)) = some [("c", 160), ("b", 320)] := by
  cases config
  cases h
  rfl

theorem round_robin_visible : ¬ RefusalsInvisible (weightedRoundRobinArbitrationPolicy config) := by
  intro hinvisible
  obtain ⟨error, hrefused⟩ := refusedCall_refused h
  have hshown := (hinvisible _ _ _ _ _ _ _ error hrefused).2
    [(notifications "second" [notification "b" 0, notification "c" 1], none)]
  have hreport := congrArg Shown.report (List.cons.inj hshown).1
  have hends : competitionEnds config (refusedCall config (lastCredits 1)).runtime =
      competitionEnds config (.fresh (lastCredits 1)) := by
    exact congrArg (Option.map _) hreport
  rw [refusedCall_runtime h, competitionEnds_spent h, competitionEnds_credit h] at hends
  exact absurd hends (by decide)

end

theorem round_robin_memoryless {config : RoundRobinWeights} (h : config.classAware = false) :
    (weightedRoundRobinArbitrationPolicy config).Memoryless := by
  intro credits candidates
  simp only [weightedRoundRobinArbitrationPolicy, h, Bool.not_false, if_true]
  split
  · rfl
  · rfl

/-- A refused call leaves everything but the memory of the policy. It is therefore invisible with
the identity policy and with strict priority; with a weighted round robin it is invisible exactly
when the classes are ignored, since the credits it has spent stay spent. -/
theorem refused_execution_invisible_iff (config : RoundRobinWeights) :
    (∀ {κ π σ τ : Type} (cfg : RuntimeConfig κ σ τ) (policy : ArbitrationPolicy π)
      (runtime : Runtime σ π) (graph : ExecutionGraph) (bookkeeper : Option RequestBookkeeper)
      (error : PyError), (execute cfg policy runtime graph bookkeeper).answer = .error error →
        (execute cfg policy runtime graph bookkeeper).bookkeeper = bookkeeper ∧
        ∃ memory, (execute cfg policy runtime graph bookkeeper).runtime =
          { runtime with policy := memory }) ∧
    RefusalsInvisible identityArbitrationPolicy ∧
    (∀ classAware, RefusalsInvisible (strictPriorityArbitrationPolicy classAware)) ∧
    (RefusalsInvisible (weightedRoundRobinArbitrationPolicy config) ↔
      config.classAware = false) := by
  refine ⟨?_, ?_, ?_, ?_⟩
  · intro κ π σ τ cfg policy runtime graph bookkeeper error h
    obtain ⟨hledger, hruntime⟩ := execute_refused h
    exact ⟨hledger, _, hruntime⟩
  · exact ArbitrationPolicy.Memoryless.invisible fun _ _ => rfl
  · exact fun classAware => ArbitrationPolicy.Memoryless.invisible fun _ _ => rfl
  · constructor
    · intro hinvisible
      by_contra haware
      exact round_robin_visible (Bool.not_eq_false _ ▸ haware) hinvisible
    · intro hignores
      exact (round_robin_memoryless hignores).invisible

/-- After a refused call on a fresh runtime, class 0 has no credit and yields to class 1. -/
theorem refused_call_spends_credit :
    (refusedCall {} {}).answer.isOk = false ∧
      competitionEnds {} (.fresh {}) = some [("b", 160), ("c", 320)] ∧
      competitionEnds {} (refusedCall {} {}).runtime = some [("c", 160), ("b", 320)] := by
  decide +kernel

end SimLLM
