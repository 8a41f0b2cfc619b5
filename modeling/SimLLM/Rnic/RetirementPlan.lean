import SimLLM.Rnic.CqeHorizon
import SimLLM.Rnic.Retirement

namespace SimLLM.Rnic

open List

variable {φ : Type} {service : PcieService φ} {setup : WorkQueueSetup} {memory : VirtualHostMemory}
  {lastPs : Nat} {polled : List CompletionEntry} {lost : Option CompletionEntry}

theorem PendingCqes.emplace_last {pending : PendingCqes} {key : Nat × Nat} {entry : CompletionEntry}
    (h : ∀ item ∈ pending, item.1.1 ≤ key.1 ∧ item.1.2 < key.2) :
    pending.emplace key entry = pending ++ [(key, entry)] := by
  induction pending with
  | nil => rfl
  | cons first rest ih =>
    obtain ⟨htime, hnumber⟩ := h first mem_cons_self
    have hne : key ≠ first.1 := by
      rintro rfl
      omega
    rw [PendingCqes.emplace, if_neg (by omega), if_neg hne,
      ih fun item hitem => h item (mem_cons_of_mem _ hitem)]
    rfl

theorem PendingCqes.merge_append {pending added : PendingCqes}
    (h : (pending ++ added).Pairwise fun a b => a.1.1 ≤ b.1.1 ∧ a.1.2 < b.1.2) :
    pending.merge added = pending ++ added := by
  unfold PendingCqes.merge
  induction added generalizing pending with
  | nil => simp
  | cons first rest ih =>
    obtain ⟨_, _, hcross⟩ := pairwise_append.mp h
    rw [foldl_cons, PendingCqes.emplace_last fun item hitem =>
      hcross item hitem first mem_cons_self, ih]
    · simp
    · simpa using h

section Queue

variable {horizonPs : Nat} {queue : WorkQueue}

theorem Consistent.pending_numbered (h : Consistent setup lastPs horizonPs polled lost queue)
    {item : (Nat × Nat) × CompletionEntry} (hitem : item ∈ queue.pendingCqes) :
    item.2.cqeSequence < queue.nextCqeSequence := by
  have hmem : item.2 ∈ queue.cqes polled lost :=
    mem_append_right _ (mem_map_of_mem hitem)
  have hnumber := h.cqes.numbered.numbers ▸ mem_map_of_mem hmem
  have hrange := mem_range'_1.mp hnumber
  have hnext := h.cqes.numbered.next
  omega

theorem Consistent.pending_sorted (h : Consistent setup lastPs horizonPs polled lost queue) :
    queue.pendingCqes.Pairwise fun a b => a.1.1 ≤ b.1.1 ∧ a.1.2 < b.1.2 := by
  have hpending := (pairwise_append.mp h.cqes.numbered.pairwise).2.1
  rw [pairwise_map] at hpending
  refine (h.cqes.sorted.and hpending).imp_of_mem ?_
  rintro a b ha hb ⟨htime, hnumber⟩
  rw [h.cqes.keys a ha, h.cqes.keys b hb]
  exact ⟨htime, hnumber⟩

end Queue

structure RetireStep where
  record : WqeRecord
  item : PlannedRetirement
  added : Option CompletionEntry

def RetireStep.pending (step : RetireStep) : PendingCqes :=
  step.added.toList.map fun entry => ((entry.visibleAtPs, entry.cqeSequence), entry)

def WorkQueue.retireStep (queue : WorkQueue) (step : RetireStep) : WorkQueue :=
  queue.retireNext step.record step.item step.added

def WorkQueue.retireAll (queue : WorkQueue) (steps : List RetireStep) : WorkQueue :=
  steps.foldl WorkQueue.retireStep queue

def InTurn : WorkQueue → List RetireStep → Prop
  | _, [] => True
  | queue, step :: rest =>
    queue.wqe queue.nextRetireSequence = .ok step.record ∧
      step.item.wqeId = queue.nextRetireSequence ∧ InTurn (queue.retireStep step) rest

theorem WorkQueue.retireAll_pending (queue : WorkQueue) (steps : List RetireStep) :
    (queue.retireAll steps).pendingCqes =
      queue.pendingCqes ++ steps.flatMap RetireStep.pending := by
  induction steps generalizing queue with
  | nil => simp [WorkQueue.retireAll]
  | cons step rest ih =>
    have hrest := ih (queue.retireStep step)
    show ((queue.retireStep step).retireAll rest).pendingCqes = _
    rw [hrest, flatMap_cons, ← append_assoc]
    rfl

def RetirementPlan.horizon (setup : WorkQueueSetup) (plan : RetirementPlan φ) : Nat :=
  cqeHorizon setup plan.cqeWriteCursorPs plan.fabricPlan.fabric

structure PlanAdds (setup : WorkQueueSetup) (plan plan' : RetirementPlan φ) (record : WqeRecord)
    (outcome : PendingOutcome) (step : RetireStep) : Prop where
  retirements : plan'.retirements = plan.retirements ++ [step.item]
  wqe : step.item.wqeId = record.wqeId
  status : step.item.status = outcome.status
  completes : step.item.completionPending = completionPending record.request outcome.status
  adds : step.added.isSome = step.item.completionPending
  pending : plan'.pendingCqes = step.pending.foldl (fun result item => result.emplace item.1 item.2)
    plan.pendingCqes
  nextCqe : plan'.nextCqeSequence = plan.nextCqeSequence + step.added.toList.length
  nextRetire : plan'.nextRetireSequence = plan.nextRetireSequence + 1
  later : plan.horizon setup ≤ plan'.horizon setup
  entry : ∀ entry ∈ step.added, entry.sqSequence = record.sqSequence ∧
    entry.wqeId = record.wqeId ∧ entry.cqeSequence = plan.nextCqeSequence ∧
    plan.horizon setup ≤ entry.visibleAtPs ∧ entry.visibleAtPs ≤ plan'.horizon setup

variable {plan plan' : RetirementPlan φ} {record : WqeRecord}

theorem RetirementPlan.retire_eq_ok {queue : WorkQueue} {outcome : PendingOutcome}
    (h : plan.retire service setup memory queue record outcome = .ok plan') (found : WqeRecord) :
    ∃ step : RetireStep, step.record = found ∧ PlanAdds setup plan plan' record outcome step := by
  unfold RetirementPlan.retire at h
  by_cases hpending : completionPending record.request outcome.status = true
  · simp only [hpending, ↓reduceIte] at h
    replace h := of_check h
    obtain ⟨⟨entry, fabricPlan⟩, hmake, h⟩ := of_bind h
    replace h := of_check h
    obtain ⟨hsequence, hwqe, hnumber, hle, heq⟩ := makeCqe_eq_ok hmake
    cases h
    refine ⟨⟨found, _, some entry⟩, rfl, rfl, rfl, rfl, hpending.symm, rfl, rfl, rfl, rfl, ?_, ?_⟩
    · exact Nat.le_trans hle heq.symm.le
    · rintro other hother
      cases hother
      exact ⟨hsequence, hwqe, hnumber, hle, heq.symm.le⟩
  · have hpending : completionPending record.request outcome.status =
      false := by simpa using hpending
    simp only [hpending, Bool.false_eq_true, ↓reduceIte] at h
    cases h
    exact ⟨⟨found, _, none⟩, rfl, rfl, rfl, rfl, hpending.symm, rfl, rfl, rfl, rfl,
      Nat.le_refl _, nofun⟩

/-- `ghost` is the planned queue as it will be when the candidate's outcome is written: from
its retirement cursor on, it holds the same requests and the outcomes the plan looks up. -/
structure Foresees (queue : WorkQueue) (candidate : CandidateOutcome) (ghost : WorkQueue) :
    Prop where
  length : ghost.records.length = queue.records.length
  record : ∀ index record, ghost.nextRetireSequence ≤ index + 1 →
    queue.records[index]? = some record →
    record.wqeId = index + 1 ∧ record.sqSequence = index + 1 ∧
      ∃ later, ghost.wqe (index + 1) = .ok later ∧ later.request = record.request
  outcome : ∀ index, ghost.nextRetireSequence ≤ index + 1 →
    ghost.pendingOutcomes.get? (index + 1) =
      if candidate.wqeId = index + 1 then some candidate.outcome
      else queue.pendingOutcomes.get? (index + 1)

variable {candidate : CandidateOutcome} {queue ghost : WorkQueue}

theorem Foresees.retireStep (h : Foresees queue candidate ghost) {step : RetireStep}
    (hrecord : ghost.wqe ghost.nextRetireSequence = .ok step.record) :
    Foresees queue candidate (ghost.retireStep step) := by
  have hnext : (step.record.retired step.item).wqeId = ghost.nextRetireSequence :=
    (WorkQueue.wqe_eq_ok.mp hrecord).2.2
  refine ⟨?_, ?_, ?_⟩
  · exact (length_set).trans h.length
  · intro index record hle hget
    have hlater : ghost.nextRetireSequence + 1 ≤ index + 1 := hle
    obtain ⟨hid, hsequence, later, hlookup, hrequest⟩ := h.record index record (by omega) hget
    refine ⟨hid, hsequence, later, ?_, hrequest⟩
    refine (WorkQueue.setWqe_wqe hrecord hnext (index + 1)).trans ?_
    rw [if_neg (by omega)]
    exact hlookup
  · intro index hle
    have hlater : ghost.nextRetireSequence + 1 ≤ index + 1 := hle
    show (ghost.pendingOutcomes.erase ghost.nextRetireSequence).get? (index + 1) = _
    rw [Table.get?_erase, if_neg (by omega)]
    exact h.outcome index (by omega)

theorem retiringOutcome_eq_ok (h : Foresees queue candidate ghost) {index : Nat}
    (hle : ghost.nextRetireSequence ≤ index + 1) (hget : queue.records[index]? = some record)
    {outcome : Option PendingOutcome}
    (hretiring : retiringOutcome queue candidate record = .ok outcome) :
    ghost.pendingOutcomes.get? (index + 1) = outcome := by
  obtain ⟨hid, _⟩ := h.record index record hle hget
  rw [h.outcome index hle]
  unfold retiringOutcome at hretiring
  rw [hid] at hretiring
  split at hretiring
  next hcandidate =>
    replace hretiring := of_check hretiring
    replace hretiring := of_check hretiring
    cases hretiring
    rw [if_pos hcandidate]
  next hcandidate =>
    rw [if_neg hcandidate]
    split at hretiring
    next hnone =>
      cases hretiring
      exact hnone
    next found hfound =>
      replace hretiring := of_check hretiring
      cases hretiring
      exact hfound

/-- What a finished plan amounts to: retirements of the WQEs in turn, from the ghost to a
consistent queue whose next WQE has no outcome. -/
structure PlanEnds (setup : WorkQueueSetup) (lastPs : Nat) (polled : List CompletionEntry)
    (lost : Option CompletionEntry) (plan plan' : RetirementPlan φ) (ghost : WorkQueue)
    (steps : List RetireStep) : Prop where
  retirements : plan'.retirements = plan.retirements ++ steps.map (·.item)
  pending : plan'.pendingCqes = plan.pendingCqes ++ steps.flatMap RetireStep.pending
  inTurn : InTurn ghost steps
  nextCqe : plan'.nextCqeSequence = (ghost.retireAll steps).nextCqeSequence
  nextRetire : plan'.nextRetireSequence = (ghost.retireAll steps).nextRetireSequence
  later : plan.horizon setup ≤ plan'.horizon setup
  consistent : Consistent setup lastPs (plan'.horizon setup) polled lost (ghost.retireAll steps)
  settled : (ghost.retireAll steps).pendingOutcomes.get?
    (ghost.retireAll steps).nextRetireSequence = none

theorem planRetirementsFrom_ends {rest : List WqeRecord}
    (hghost : Consistent setup lastPs (plan.horizon setup) polled lost ghost)
    (hforesees : Foresees queue candidate ghost)
    (hrest : rest = queue.records.drop (ghost.nextRetireSequence - 1))
    (hnextCqe : plan.nextCqeSequence = ghost.nextCqeSequence)
    (hnextRetire : plan.nextRetireSequence = ghost.nextRetireSequence)
    (hpending : ∀ item ∈ plan.pendingCqes, item ∈ ghost.pendingCqes)
    (h : planRetirementsFrom service setup memory queue candidate plan rest = .ok plan') :
    ∃ steps, PlanEnds setup lastPs polled lost plan plan' ghost steps := by
  have hpos := Nat.lt_of_le_of_lt (Nat.zero_le _) hghost.counted.reclaimedRetired
  induction rest generalizing plan ghost with
  | nil =>
    cases h
    refine ⟨[], by simp, by simp, trivial, hnextCqe, hnextRetire, Nat.le_refl _, hghost, ?_⟩
    show ghost.pendingOutcomes.get? ghost.nextRetireSequence = none
    rw [Table.get?_eq_none_iff]
    intro hmem
    obtain ⟨record, hrecord, _⟩ := hghost.inState_of_owned .awaitingOrderedRetirement rfl
      hmem
    have hlt := (List.getElem?_eq_some_iff.mp (WorkQueue.wqe_eq_ok.mp hrecord).2.1).1
    have hlength : ghost.records.length ≤ ghost.nextRetireSequence - 1 := by
      rw [hforesees.length]
      exact drop_eq_nil_iff.mp hrest.symm
    omega
  | cons record rest ih =>
    have hget : queue.records[ghost.nextRetireSequence - 1]? = some record := by
      have hhead := congrArg (·[0]?) hrest
      simpa [getElem?_drop] using hhead.symm
    have hindex : ghost.nextRetireSequence - 1 + 1 = ghost.nextRetireSequence := by omega
    have hle : ghost.nextRetireSequence ≤ ghost.nextRetireSequence - 1 + 1 := by omega
    obtain ⟨found, hretiring, h⟩ := of_bind h
    have hheld := retiringOutcome_eq_ok hforesees hle hget hretiring
    rw [hindex] at hheld
    cases found with
    | none =>
      cases h
      exact ⟨[], by simp, by simp, trivial, hnextCqe, hnextRetire, Nat.le_refl _, hghost, hheld⟩
    | some outcome =>
      obtain ⟨middle, hretire, h⟩ := of_bind h
      obtain ⟨hid, hsequence, later, hlater, hrequest⟩ := hforesees.record _ record hle hget
      rw [hindex] at hid hsequence hlater
      obtain ⟨step, rfl, hadds⟩ := RetirementPlan.retire_eq_ok hretire later
      have hretires : Retires ghost step.record outcome step.item step.added := by
        refine ⟨hlater, hheld, hadds.status, ?_, hadds.adds, ?_⟩
        · rw [hadds.completes, hrequest]
        · intro entry hentry
          obtain ⟨hseq, hwqe, hnumber, _⟩ := hadds.entry entry hentry
          exact ⟨hseq.trans hsequence, hwqe.trans hid, hnumber.trans hnextCqe⟩
      have hstep :=
        hghost.retireNext hretires hadds.later fun entry hentry => (hadds.entry entry hentry).2.2.2
      have happend : middle.pendingCqes = plan.pendingCqes ++ step.pending := by
        rw [hadds.pending]
        cases hadded : step.added with
        | none => simp [RetireStep.pending, hadded]
        | some entry =>
          obtain ⟨_, _, hnumber, hvisible, _⟩ := hadds.entry entry hadded
          simp only [RetireStep.pending, hadded, Option.toList_some, map_cons, map_nil,
            foldl_cons, foldl_nil]
          refine PendingCqes.emplace_last ?_
          intro item hitem
          have hmem := hpending item hitem
          have hbefore := hghost.pending_numbered hmem
          have htime := hghost.cqes.bounded item hmem
          rw [hghost.cqes.keys item hmem]
          exact ⟨Nat.le_trans htime hvisible, by rw [hnumber, hnextCqe]; exact hbefore⟩
      have htail : rest = queue.records.drop ((ghost.retireStep step).nextRetireSequence - 1) := by
        have htail := congrArg List.tail hrest
        rw [tail_drop, hindex] at htail
        exact htail
      have hcqe : middle.nextCqeSequence = (ghost.retireStep step).nextCqeSequence := by
        rw [hadds.nextCqe, hnextCqe]
        rfl
      have hturn : middle.nextRetireSequence = (ghost.retireStep step).nextRetireSequence := by
        rw [hadds.nextRetire, hnextRetire]
        rfl
      have hincluded : ∀ item ∈ middle.pendingCqes, item ∈ (ghost.retireStep step).pendingCqes := by
        intro item hitem
        rw [happend] at hitem
        rcases mem_append.mp hitem with hitem | hitem
        · exact mem_append_left _ (hpending item hitem)
        · exact mem_append_right _ hitem
      obtain ⟨steps, hends⟩ := ih hstep (hforesees.retireStep hlater) htail hcqe hturn hincluded h
        (Nat.succ_pos _)
      refine ⟨step :: steps, ?_, ?_, ?_, hends.nextCqe, hends.nextRetire,
        Nat.le_trans hadds.later hends.later, hends.consistent, hends.settled⟩
      · rw [hends.retirements, hadds.retirements]
        simp
      · rw [hends.pending, happend]
        simp
      · exact ⟨hlater, hadds.wqe.trans hid, hends.inTurn⟩

def WorkQueue.during (queue : WorkQueue) (pending : PendingCqes) (nextCqe nextRetire : Nat) :
    WorkQueue :=
  { queue with
    pendingCqes := pending
    nextCqeSequence := nextCqe
    nextRetireSequence := nextRetire }

variable {steps : List RetireStep} {s : Session φ}

theorem commit_steps (pending : PendingCqes) (nextCqe nextRetire : Nat)
    (hturn : InTurn ghost steps) (hqueue : s.queue = ghost.during pending nextCqe nextRetire) :
    (((steps.map (·.item)).forM fun item => do
        QueueM.modifyQueue fun queue => queue.dropOutcome item.wqeId
        QueueM.updateWqe item.wqeId (·.retired item) : QueueM φ Unit) s).Ends
      (fun _ s' => s'.queue = (ghost.retireAll steps).during pending nextCqe nextRetire ∧
        s'.fabric = s.fabric) (fun _ => False) := by
  induction steps generalizing ghost s with
  | nil => exact ⟨hqueue, rfl⟩
  | cons step rest ih =>
    obtain ⟨hrecord, hid, hturn⟩ := hturn
    have hlookup : (s.queue.dropOutcome step.item.wqeId).wqe step.item.wqeId = .ok step.record := by
      rw [hqueue, hid]
      exact hrecord
    apply ends_bind
    apply ends_modifyQueue_bind
    refine ends_updateWqe_ok hlookup ?_
    refine (ih hturn ?_).mono (fun _ _ hends => hends) fun _ hfalse => hfalse
    rw [hqueue, hid]
    rfl

theorem WorkQueue.retireAll_same (queue : WorkQueue) (steps : List RetireStep) :
    (queue.retireAll steps).counters = queue.counters ∧
      (queue.retireAll steps).sqReclaimedThrough = queue.sqReclaimedThrough ∧
      (queue.retireAll steps).lastObservedTimePs = queue.lastObservedTimePs ∧
      (queue.retireAll steps).ready = queue.ready ∧
      (queue.retireAll steps).fatal = queue.fatal := by
  induction steps generalizing queue with
  | nil => exact ⟨rfl, rfl, rfl, rfl, rfl⟩
  | cons step rest ih => exact ih (queue.retireStep step)

theorem commitRetirements_ends {start : RetirementPlan φ}
    (hends : PlanEnds setup lastPs polled lost start plan s.queue steps)
    (hfresh : start.retirements = [] ∧ start.pendingCqes = []) :
    (commitRetirements plan s).Ends (fun _ s' =>
      s'.queue = { s.queue.retireAll steps with
        retirementCursorPs := plan.retirementCursorPs
        cqeWriteCursorPs := plan.cqeWriteCursorPs } ∧ s'.fabric = s.fabric) (fun _ => False) := by
  have hretirements : plan.retirements = steps.map (·.item) := by
    rw [hends.retirements, hfresh.1, nil_append]
  have hadded : plan.pendingCqes = steps.flatMap RetireStep.pending := by
    rw [hends.pending, hfresh.2, nil_append]
  have hall := s.queue.retireAll_pending steps
  have hmerge : s.queue.pendingCqes.merge plan.pendingCqes =
      (s.queue.retireAll steps).pendingCqes := by
    rw [hall, hadded]
    refine PendingCqes.merge_append ?_
    rw [← hall]
    exact hends.consistent.pending_sorted
  apply ends_modifyQueue_bind
  apply ends_bind
  rw [hretirements]
  refine (commit_steps (s.queue.retireAll steps).pendingCqes s.queue.nextCqeSequence
    s.queue.nextRetireSequence hends.inTurn ?_).mono ?_ fun _ hfalse => hfalse
  · unfold WorkQueue.addPending
    rw [hmerge]
    rfl
  · rintro _ s' ⟨hqueue, hfabric⟩
    apply ends_modifyQueue
    refine ⟨?_, hfabric⟩
    unfold WorkQueue.advanceCursors
    rw [hqueue, hends.nextCqe, hends.nextRetire]
    rfl

end SimLLM.Rnic
