import SimLLM.Execute
import SimLLM.RunFacts

namespace SimLLM

variable {result : ExecutionResult} {report : RuntimeReport} {operation : ExecutionOperation}
variable {outcome : ScheduledOperation}

variable {κ π σ τ : Type} {cfg : RuntimeConfig κ σ τ} {policy : ArbitrationPolicy π}
  {graph : ExecutionGraph} {scheduled : List ScheduledOperation}

variable {runtime : Runtime σ π}

theorem execute_committed {bookkeeper : Option RequestBookkeeper}
    (h : (execute cfg policy runtime graph bookkeeper).answer = .ok result) :
    ∃ staged after, stageExecution cfg policy runtime graph runtime.policy = .ok staged after ∧
      approve cfg graph bookkeeper staged = .ok () ∧ staged.result = result ∧
      (execute cfg policy runtime graph bookkeeper).runtime =
        runtime.commit cfg graph staged after := by
  unfold execute at h ⊢
  cases hstage : stageExecution cfg policy runtime graph runtime.policy with
  | error error after => simp [hstage, refused] at h
  | ok staged after =>
    cases happrove : approve cfg graph bookkeeper staged with
    | error error => simp [hstage, happrove, refused] at h
    | ok u =>
      simp only [hstage, happrove] at h ⊢
      refine ⟨staged, after, rfl, happrove, ?_⟩
      cases bookkeeper with
      | none => exact ⟨Except.ok.inj h, rfl⟩
      | some ledger =>
        cases happend : staged.append graph ledger with
        | error error ledger' => simp [happend, refused] at h
        | ok u ledger' =>
          simp only [happend] at h
          exact ⟨Except.ok.inj h, by simp only [happend]⟩

theorem stageExecution_eq_ok {staged : Staged τ} {p p' : π}
    (h : stageExecution cfg policy runtime graph p = .ok staged p') :
    scheduleGraph cfg policy runtime graph p = .ok staged.toScheduledGraph p' ∧
      summarize cfg graph staged.loop = .ok (staged.result, staged.report) := by
  obtain ⟨plan, middle, hschedule, hrest⟩ := EStateM.bind_eq_ok.mp h
  obtain ⟨⟨result, report⟩, last, hsummary, hdone⟩ := EStateM.bind_eq_ok.mp hrest
  obtain ⟨hanswer, hlast⟩ := liftExcept_ok hsummary
  cases hdone
  subst hlast
  exact ⟨hschedule, hanswer⟩

theorem summarize_eq_ok {loop : LoopState τ} (h : summarize cfg graph loop = .ok (result, report)) :
    executionResult graph loop.scheduled = .ok result ∧
      validateExecutionResult result = .ok () ∧
      runtimeReport graph loop.scheduled (loop.scheduled.flatMap (·.wqes)) (requiredIds graph)
        (cfg.authority.transactionName loop.machine.wqe)
        (cfg.authority.randomDrawCount loop.machine.wqe) = .ok report := by
  obtain ⟨result', hresult, h⟩ := of_bind h
  obtain ⟨_, hvalid, h⟩ := of_bind h
  obtain ⟨report', hreport, h⟩ := of_bind h
  cases h
  exact ⟨hresult, hvalid, hreport⟩

structure ReportFacts (graph : ExecutionGraph) (scheduled : List ScheduledOperation)
    (wqes : List WqeLifecycleProjection) (required : List String) (report : RuntimeReport)
    (chain : List RuntimeCriticalSegment) (outcomes : List ScheduledOperation) : Prop where
  executionId : report.executionId = graph.executionId
  records : graph.operations.mapM (reportOperation graph scheduled) = .ok report.operations
  keys_nodup : ((report.operations.flatMap (·.criticalSegments)).map (·.key)).Nodup
  links : ∀ segment ∈ report.operations.flatMap (·.criticalSegments),
    checkSegmentLink graph (report.operations.flatMap (·.criticalSegments)) segment = .ok ()
  chained : criticalChain report.operations (report.operations.flatMap (·.criticalSegments))
    required = .ok chain
  conserved : checkChainLatency graph chain = .ok ()
  looked : (graph.operations.mapM fun operation =>
    lookupScheduled scheduled operation.operationId) = .ok outcomes
  visits : report.visits = outcomes.flatMap (·.visits)
  wqes_eq : report.wqes = wqes
  chain_ids : report.realizedCriticalPathOperationIds = chain.map (·.operationId)
  chain_keys : report.realizedCriticalPathSegments = chain.map (·.key)
  sumVisitWait : report.sumVisitWaitPs = (report.visits.map QueueVisit.queueWaitPs).sum
  queue : report.criticalPathQueuePs = (chain.map (·.breakdown.criticalPathQueuePs)).sum

theorem runtimeReport_facts {wqes : List WqeLifecycleProjection} {required : List String}
    {authority : String} {draws : Nat}
    (h : runtimeReport graph scheduled wqes required authority draws = .ok report) :
    ∃ chain outcomes, ReportFacts graph scheduled wqes required report chain outcomes := by
  obtain ⟨records, hrecords, h⟩ := of_bind h
  obtain ⟨_, hnodup, h⟩ := of_bind h
  obtain ⟨_, hlinks, h⟩ := of_bind h
  obtain ⟨chain, hchain, h⟩ := of_bind h
  obtain ⟨_, hconserved, h⟩ := of_bind h
  obtain ⟨outcomes, houtcomes, h⟩ := of_bind h
  cases h
  rw [require_eq_ok, decide_eq_true_eq] at hnodup
  exact ⟨chain, outcomes, rfl, hrecords, hnodup, forM_eq_ok.mp hlinks, hchain, hconserved,
    houtcomes, rfl, rfl, rfl, rfl, rfl, rfl⟩

structure SegmentFacts (graph : ExecutionGraph) (operation : ExecutionOperation)
    (outcome : ScheduledOperation) (rank : Nat) (segment : RuntimeCriticalSegment) : Prop where
  key : segment.key = (operation.operationId, rank)
  completed : segment.completedAtPs = outcome.participantCompletedAtPs.get rank
  predecessor : segment.predecessor = (outcome.participantCausalWitnesses.get rank).map
    fun w => (w.predecessorId, w.participantRank)
  started : segment.startedAtPs =
    ((outcome.participantCausalWitnesses.get rank).map (·.completedAtPs)).getD graph.releasedAtPs

theorem participantSegment_facts {rank : Nat} {segment : RuntimeCriticalSegment}
    (h : participantSegment graph operation outcome rank = .ok segment) :
    SegmentFacts graph operation outcome rank segment := by
  obtain ⟨breakdown, -, h⟩ := of_bind h
  obtain ⟨attribution, -, h⟩ := of_bind h
  unfold RuntimeCriticalSegment.make at h
  split at h
  next =>
    split at h
    next =>
      split at h
      next =>
        cases h
        exact ⟨rfl, rfl, rfl, rfl⟩
      next => cases h
    next => cases h
  next => cases h

theorem operationSegments_facts {segments : List RuntimeCriticalSegment}
    (h : operationSegments graph operation outcome = .ok segments) :
    List.Forall₂ (SegmentFacts graph operation outcome)
      (sortedSet outcome.participantCompletedAtPs.ranks) segments := by
  replace h := of_check h
  replace h := of_check h
  exact (mapM_eq_ok.mp h).imp fun _ _ => participantSegment_facts

structure RecordFacts (graph : ExecutionGraph) (scheduled : List ScheduledOperation)
    (operation : ExecutionOperation) (outcome : ScheduledOperation)
    (record : RuntimeOperationRecord) : Prop where
  found : scheduled? scheduled operation.operationId = some outcome
  segments : operationSegments graph operation outcome = .ok record.criticalSegments
  additive : additivePredecessor scheduled outcome = .ok record.criticalPredecessorId
  operationId : record.operationId = operation.operationId
  submitted : record.submittedAtPs = graph.releasedAtPs
  completed : record.completedAtPs = outcome.logicalCompletedAtPs
  physical : record.physicalCompletedAtPs = outcome.physicalCompletedAtPs
  participants : record.participantCompletedAtPs =
    (sortedSet outcome.participantCompletedAtPs.ranks).map
      fun rank => (rank, outcome.participantCompletedAtPs.get rank)
  causalId : record.causalPredecessorId = outcome.criticalPredecessorId
  causalTime : record.causalPredecessorCompletedAtPs = outcome.criticalPredecessorCompletedAtPs
  waits : record.sumVisitWaitPs = (outcome.visits.map QueueVisit.queueWaitPs).sum

theorem reportOperation_facts {record : RuntimeOperationRecord}
    (h : reportOperation graph scheduled operation = .ok record) :
    ∃ outcome, RecordFacts graph scheduled operation outcome record := by
  obtain ⟨outcome, hlookup, h⟩ := of_bind h
  obtain ⟨segments, hsegments, h⟩ := of_bind h
  obtain ⟨index, -, h⟩ := of_bind h
  obtain ⟨additive, hadditive, h⟩ := of_bind h
  obtain ⟨breakdown, -, h⟩ := of_bind h
  obtain ⟨attribution, -, h⟩ := of_bind h
  replace h := of_check h
  cases h
  exact ⟨outcome, lookupScheduled_eq_ok.mp hlookup, hsegments, hadditive, rfl, rfl, rfl, rfl, rfl,
    rfl, rfl, rfl⟩

theorem record_ids {operations : List ExecutionOperation} {records : List RuntimeOperationRecord}
    (h : operations.mapM (reportOperation graph scheduled) = .ok records) :
    records.map (·.operationId) = operations.map (·.operationId) := by
  refine (mapM_eq_ok.mp h).map_eq_map fun operation record hrecord => ?_
  obtain ⟨outcome, facts⟩ := reportOperation_facts hrecord
  exact facts.operationId

theorem reported_operation (valid : GraphFacts graph)
    (hrecords : graph.operations.mapM (reportOperation graph scheduled) = .ok report.operations)
    (hmem : operation ∈ graph.operations) :
    ∃ record outcome, report.operation? operation.operationId = some record ∧
      RecordFacts graph scheduled operation outcome record := by
  obtain ⟨record, hrecord, hreport⟩ := mapM_of_mem hrecords hmem
  obtain ⟨outcome, facts⟩ := reportOperation_facts hreport
  refine ⟨record, outcome, ?_, facts⟩
  have hnodup : (report.operations.map (·.operationId)).Nodup := by
    rw [record_ids hrecords]
    exact valid.ids_nodup
  rw [← facts.operationId]
  exact List.find?_key hnodup hrecord

end SimLLM
