import SimLLM.Rnic.Requests

namespace SimLLM.Rnic

open List

variable {wqeId laterPs : Nat} {state : WqeState} {record next : WqeRecord}

def WorkQueue.owned (queue : WorkQueue) : WqeState → List Nat
  | .posted => queue.unpublished
  | .doorbelled => queue.ready
  | .inFlight => queue.inflight.map (·.2.wqeId)
  | .awaitingOrderedRetirement => queue.pendingOutcomes.keys
  | .completionPending => queue.pendingCqes.map (·.2.wqeId)
  | .cqeVisible => queue.cq.map (·.wqeId)
  | .retiredUnsignaled | .reclaimed | .completed | .error => []

def InState (queue : WorkQueue) (wqeId : Nat) (state : WqeState) : Prop :=
  ∃ record, queue.wqe wqeId = .ok record ∧ record.state = state

variable {queue : WorkQueue}

theorem InState.unique {other : WqeState} (h : InState queue wqeId state)
    (h' : InState queue wqeId other) : state = other := by
  obtain ⟨record, hrecord, rfl⟩ := h
  obtain ⟨record', hrecord', rfl⟩ := h'
  cases Except.ok.inj (hrecord.symm.trans hrecord')
  rfl

theorem InState.ne {other : Nat} {state' : WqeState} (h : InState queue wqeId state)
    (h' : InState queue other state') (hne : state ≠ state') : wqeId ≠ other := by
  rintro rfl
  exact hne (h.unique h')

structure Owned (queue : WorkQueue) : Prop where
  nodup : ∀ state, (queue.owned state).Nodup
  mem_iff : ∀ state, state.needsOwner = true → ∀ wqeId,
    wqeId ∈ queue.owned state ↔ InState queue wqeId state

theorem WorkQueue.wqe_zero (queue : WorkQueue) :
    queue.wqe 0 = .error (outOfRange "unknown RNIC WQE ID") := by
  unfold WorkQueue.wqe
  split <;> rfl

theorem WorkQueue.setWqe_wqe (hrecord : queue.wqe wqeId = .ok record) (hnext : next.wqeId = wqeId)
    (other : Nat) : (queue.setWqe wqeId next).wqe other =
      if other = wqeId then .ok next else queue.wqe other := by
  obtain ⟨hne, hget, _⟩ := WorkQueue.wqe_eq_ok.mp hrecord
  obtain ⟨hlt, _⟩ := List.getElem?_eq_some_iff.mp hget
  by_cases hother : other = wqeId
  · subst hother
    rw [if_pos rfl, WorkQueue.wqe_eq_ok]
    refine ⟨hne, ?_, hnext⟩
    show (queue.records.set (other - 1) next)[other - 1]? = some next
    rw [getElem?_set_self hlt]
  · rw [if_neg hother]
    by_cases hzero : other = 0
    · rw [hzero, wqe_zero, wqe_zero]
    · have hindex : wqeId - 1 ≠ other - 1 := by omega
      simp only [WorkQueue.wqe, WorkQueue.setWqe, getElem?_set_ne hindex]

section Move

variable {after : WorkQueue} (h : Owned queue) (hrecord : queue.wqe wqeId = .ok record)
  (hnext : next.wqeId = wqeId) (hrecords : after.records = (queue.setWqe wqeId next).records)
include h hrecord hnext hrecords

/-- One record changes: everyone else keeps its owner, and the WQE itself has the owner its
new state demands. -/
theorem Owned.move (hnodup : ∀ state, (after.owned state).Nodup)
    (hothers : ∀ state, state.needsOwner = true → ∀ other, other ≠ wqeId →
      (other ∈ after.owned state ↔ other ∈ queue.owned state))
    (hself : ∀ state, state.needsOwner = true →
      (wqeId ∈ after.owned state ↔ next.state = state)) : Owned after := by
  refine ⟨hnodup, ?_⟩
  intro state hneeds other
  have hlookup : after.wqe other = (queue.setWqe wqeId next).wqe other := by
    unfold WorkQueue.wqe
    rw [hrecords]
  unfold InState
  rw [hlookup, WorkQueue.setWqe_wqe hrecord hnext]
  by_cases hother : other = wqeId
  · subst hother
    rw [hself state hneeds]
    simp
  · rw [hothers state hneeds other hother, h.mem_iff state hneeds other, if_neg hother]
    rfl

theorem Owned.touch (howned : after.owned = queue.owned) (hstate : next.state = record.state) :
    Owned after := by
  refine h.move hrecord hnext hrecords (fun state => howned ▸ h.nodup state)
    (fun state _ other _ => by rw [howned]) ?_
  intro state hneeds
  rw [howned, h.mem_iff state hneeds wqeId, hstate]
  constructor
  · rintro ⟨record', hrecord', hin⟩
    cases Except.ok.inj (hrecord.symm.trans hrecord')
    exact hin
  · exact fun hin => ⟨record, hrecord, hin⟩

theorem Owned.transfer {old : WqeState} (new : WqeState) (hold : record.state = old)
    (hnew : next.state = new) (hstates : old ≠ new)
    (hleave : (queue.owned old).Perm (wqeId :: after.owned old))
    (henter : after.owned new = [] ∧ new.needsOwner = false ∨
      (after.owned new).Perm (wqeId :: queue.owned new) ∧ new.needsOwner = true)
    (hothers : ∀ state, state ≠ old → state ≠ new → after.owned state = queue.owned state) :
    Owned after := by
  have hin : InState queue wqeId old := ⟨record, hrecord, hold⟩
  obtain ⟨hgone, hleft⟩ := nodup_cons.mp (hleave.nodup_iff.mp (h.nodup old))
  refine h.move hrecord hnext hrecords ?_ ?_ ?_
  · intro state
    by_cases hfrom : state = old
    · exact hfrom ▸ hleft
    by_cases hto : state = new
    · subst hto
      rcases henter with ⟨hempty, _⟩ | ⟨henter, hneeds⟩
      · exact hempty ▸ nodup_nil
      · refine henter.nodup_iff.mpr (nodup_cons.mpr ⟨fun hmem => ?_, h.nodup state⟩)
        exact hstates (hin.unique ((h.mem_iff state hneeds wqeId).mp hmem))
    · exact hothers state hfrom hto ▸ h.nodup state
  · intro state hneeds other hother
    by_cases hfrom : state = old
    · subst hfrom
      simp [hleave.mem_iff, hother]
    by_cases hto : state = new
    · subst hto
      rcases henter with ⟨_, hfree⟩ | ⟨henter, _⟩
      · simp [hneeds] at hfree
      · simp [henter.mem_iff, hother]
    · rw [hothers state hfrom hto]
  · intro state hneeds
    rw [hnew]
    by_cases hfrom : state = old
    · subst hfrom
      simp [hgone, hstates.symm]
    by_cases hto : state = new
    · subst hto
      rcases henter with ⟨_, hfree⟩ | ⟨henter, _⟩
      · simp [hneeds] at hfree
      · simp [henter.mem_iff]
    · rw [hothers state hfrom hto, h.mem_iff state hneeds wqeId]
      exact ⟨fun hstate => absurd (hstate.unique hin) hfrom, fun heq => absurd heq.symm hto⟩

end Move

def WqeState.retired : WqeState → Bool
  | .posted | .doorbelled | .inFlight | .awaitingOrderedRetirement => false
  | .retiredUnsignaled | .completionPending | .cqeVisible | .reclaimed | .completed | .error => true

structure RecordOk (reclaimedThrough nextRetire lastPs index : Nat) (record : WqeRecord) :
    Prop where
  id : record.wqeId = index + 1
  sequence : record.sqSequence = index + 1
  phase : record.state.retired = true ↔ index + 1 < nextRetire
  retiredAt : record.timeline.transportRetiredAtPs.isSome = true ↔ index + 1 < nextRetire
  reclaimedAt : record.timeline.sqReclaimedAtPs.isSome = true ↔ index < reclaimedThrough
  outcomeAt : record.timeline.networkOutcomeAtPs.isSome = true ↔
    record.state.retired = true ∨ record.state = .awaitingOrderedRetirement
  status : record.completionStatus.isSome = true ↔ record.state.retired = true
  packets : record.timeline.packetsOrdered = true
  lastPacket : ∀ last ∈ record.timeline.lastPacketAtPs, last ≤ lastPs
  unsent : record.state = .posted ∨ record.state = .doorbelled →
    record.timeline.firstPacketAtPs = none ∧ record.timeline.lastPacketAtPs = none

theorem RecordOk.later {reclaimedThrough nextRetire lastPs index : Nat}
    (h : RecordOk reclaimedThrough nextRetire lastPs index record) (hle : lastPs ≤ laterPs) :
    RecordOk reclaimedThrough nextRetire laterPs index record :=
  { h with lastPacket := fun last hlast => Nat.le_trans (h.lastPacket last hlast) hle }

theorem RecordOk.status_none {reclaimedThrough nextRetire lastPs index : Nat}
    (h : RecordOk reclaimedThrough nextRetire lastPs index record)
    (hstate : record.state.retired = false) : record.completionStatus = none := by
  have hstatus := h.status
  rw [hstate] at hstatus
  simpa using hstatus

def WqeRecord.completes (record : WqeRecord) : Bool :=
  record.completionStatus.any (completionPending record.request)

def WorkQueue.completing (queue : WorkQueue) : List Nat :=
  queue.records.filterMap fun record => if record.completes then some record.sqSequence else none

theorem WorkQueue.completing_eq (queue : WorkQueue) :
    queue.completing = (queue.records.filter (·.completes)).map (·.sqSequence) := by
  rw [← filterMap_eq_map, filterMap_filter]
  rfl

theorem filterMap_set_of_eq {α β : Type} {f : α → Option β} {l : List α} {i : Nat} {a b : α}
    (hget : l[i]? = some a) (heq : f b = f a) : (l.set i b).filterMap f = l.filterMap f := by
  have hmap := map_set_of_eq hget heq
  calc (l.set i b).filterMap f = ((l.set i b).map f).filterMap id := by rw [filterMap_map]; rfl
    _ = (l.map f).filterMap id := by rw [hmap]
    _ = l.filterMap f := by rw [filterMap_map]; rfl

theorem completing_setWqe (hrecord : queue.wqe wqeId = .ok record)
    (hstatus : next.completes = record.completes)
    (hsequence : next.sqSequence = record.sqSequence) :
    (queue.setWqe wqeId next).completing = queue.completing :=
  filterMap_set_of_eq (WorkQueue.wqe_eq_ok.mp hrecord).2.1 (by rw [hstatus, hsequence])

structure Counted (setup : WorkQueueSetup) (queue : WorkQueue) : Prop where
  nextWqe : queue.nextWqeId = queue.records.length + 1
  nextSq : queue.nextSqSequence = queue.records.length + 1
  posted : queue.counters.postedWqes = queue.records.length
  occupied : queue.occupiedSqEntries + queue.sqReclaimedThrough = queue.records.length
  fits : queue.occupiedSqEntries ≤ setup.config.sqDepth
  reclaimed : queue.counters.sqReclaimedWqes = queue.sqReclaimedThrough
  reclaimedRetired : queue.sqReclaimedThrough < queue.nextRetireSequence
  retiredPosted : queue.nextRetireSequence ≤ queue.records.length + 1

structure Flights (queue : WorkQueue) : Prop where
  tokens : queue.inflight.keys.Nodup
  holder : ∀ item ∈ queue.inflight, ∃ record,
    queue.wqe item.2.wqeId = .ok record ∧ record.networkToken = some item.1
  attempts : ∀ item ∈ queue.packetAttempts, queue.attemptOwned item = true
  tombstones : ∀ item ∈ queue.completedPacketAttempts,
    queue.attemptOwned item = true ∧ queue.packetAttempts.get? item.1 = none

def Outcomes (queue : WorkQueue) : Prop :=
  ∀ item ∈ queue.pendingOutcomes, item.2.event.wqeId = item.1 ∧
    ∃ record, queue.wqe item.1 = .ok record ∧
      record.timeline.networkOutcomeAtPs = some item.2.event.eventTimePs

def WorkQueue.failed (queue : WorkQueue) (wqeId : Nat) : Bool :=
  queue.evidence.any fun item => item.wqeId == wqeId &&
    (item.kind == .networkDrop || item.kind == .networkRejected)

def Evidenced (queue : WorkQueue) : Prop :=
  ∀ wqeId, queue.failed wqeId = true ↔
    (∃ outcome, (wqeId, outcome) ∈ queue.pendingOutcomes ∧ outcome.status ≠ .success) ∨
    ∃ record, queue.wqe wqeId = .ok record ∧ record.completionStatus.any (· ≠ .success) = true

def WorkQueue.cqes (queue : WorkQueue) (polled : List CompletionEntry)
    (lost : Option CompletionEntry) : List CompletionEntry :=
  polled ++ queue.cq ++ lost.toList ++ queue.pendingCqes.map Prod.snd

def lastPolled (polled : List CompletionEntry) : Nat :=
  (polled.getLast?.map (·.sqSequence)).getD 0

def CompletionEntry.label (entry : CompletionEntry) : Nat × Nat × Nat :=
  (entry.sqSequence, entry.cqeSequence, entry.wqeId)

structure Numbered (completing : List Nat) (nextCqe : Nat) (entries : List CompletionEntry) :
    Prop where
  sequences : entries.map (·.sqSequence) = completing
  numbers : entries.map (·.cqeSequence) = List.range' 1 entries.length
  next : nextCqe = entries.length + 1
  wqes : ∀ entry ∈ entries, entry.wqeId = entry.sqSequence

theorem Numbered.pairwise {completing : List Nat} {nextCqe : Nat} {entries : List CompletionEntry}
    (h : Numbered completing nextCqe entries) :
    entries.Pairwise fun a b => a.cqeSequence < b.cqeSequence := by
  have hnumbers : (entries.map (·.cqeSequence)).Pairwise (· < ·) := by
    rw [h.numbers]
    exact pairwise_lt_range'
  exact pairwise_map.mp hnumbers

theorem Numbered.relabel {completing : List Nat} {nextCqe : Nat}
    {entries entries' : List CompletionEntry} (h : Numbered completing nextCqe entries)
    (hlabels : entries'.map (·.label) = entries.map (·.label)) :
    Numbered completing nextCqe entries' := by
  have hlength : entries'.length = entries.length := by
    simpa using congrArg List.length hlabels
  have hproject : ∀ f : Nat × Nat × Nat → Nat,
      entries'.map (fun entry => f entry.label) = entries.map fun entry => f entry.label := by
    intro f
    have := congrArg (List.map f) hlabels
    simpa [map_map, Function.comp_def] using this
  refine ⟨(hproject (·.1)).trans h.sequences, ?_, hlength ▸ h.next, ?_⟩
  · rw [hlength]
    exact (hproject (·.2.1)).trans h.numbers
  · intro entry hentry
    have hmem := hlabels ▸ mem_map_of_mem hentry
    obtain ⟨other, hother, heq⟩ := mem_map.mp hmem
    have hwqe := h.wqes other hother
    simp only [CompletionEntry.label, Prod.mk.injEq] at heq
    omega

structure Cqes (setup : WorkQueueSetup) (horizonPs : Nat) (polled : List CompletionEntry)
    (lost : Option CompletionEntry) (queue : WorkQueue) : Prop where
  numbered : Numbered queue.completing queue.nextCqeSequence (queue.cqes polled lost)
  placed : ∀ entry ∈ polled ++ queue.cq, entry.cqProducerIndex + 1 = entry.cqeSequence ∧
    entry.cqSlot = entry.cqProducerIndex % setup.config.cqDepth
  keys : ∀ item ∈ queue.pendingCqes, item.1 = (item.2.visibleAtPs, item.2.cqeSequence)
  sorted : queue.pendingCqes.Pairwise fun a b => a.2.visibleAtPs ≤ b.2.visibleAtPs
  bounded : ∀ item ∈ queue.pendingCqes, item.2.visibleAtPs ≤ horizonPs
  fatal : queue.fatal = lost.isSome
  lostAt : queue.fatalLostSqSequence = lost.map (·.sqSequence)
  lostState : ∀ entry ∈ lost, InState queue entry.wqeId .error
  reclaimed : queue.sqReclaimedThrough ≤ lastPolled polled
  visibleCount : queue.counters.cqesVisible = polled.length + queue.cq.length
  room : queue.cq.length ≤ setup.config.cqDepth

def Unledgered (setup : WorkQueueSetup) (queue : WorkQueue) : Prop :=
  setup.pcie = none → queue.memoryAccesses = [] ∧ queue.submissionRecords = [] ∧
    queue.cqConsumptionRecords = []

/-- The invariant of the queue, between the steps of a call as well. -/
structure Consistent (setup : WorkQueueSetup) (lastPs horizonPs : Nat)
    (polled : List CompletionEntry) (lost : Option CompletionEntry) (queue : WorkQueue) :
    Prop where
  counted : Counted setup queue
  records : ∀ index record, queue.records[index]? = some record →
    RecordOk queue.sqReclaimedThrough queue.nextRetireSequence lastPs index record
  owned : Owned queue
  flights : Flights queue
  outcomes : Outcomes queue
  evidenced : Evidenced queue
  cqes : Cqes setup horizonPs polled lost queue
  unledgered : Unledgered setup queue

/-- Between calls retirement and reclaim have caught up: the next WQE in order has no outcome,
and everything through the last polled CQE is reclaimed. -/
structure Settled (polled : List CompletionEntry) (queue : WorkQueue) : Prop where
  next : queue.pendingOutcomes.get? queue.nextRetireSequence = none
  reclaimed : queue.sqReclaimedThrough = lastPolled polled
  polledCount : queue.counters.cqesPolled = polled.length

def WorkQueue.core (queue : WorkQueue) : WorkQueue :=
  { queue with
    counters := {
      postedWqes := queue.counters.postedWqes
      cqesVisible := queue.counters.cqesVisible
      sqReclaimedWqes := queue.counters.sqReclaimedWqes }
    nextBatchId := 1
    lastObservedTimePs := 0
    doorbellCursorPs := 0
    wqeFetchCursorPs := 0
    schedulerCursorPs := 0
    retirementCursorPs := 0
    cqeWriteCursorPs := 0
    networkBlocked := false
    networkRetryAtPs := none }

section Frame

variable {setup : WorkQueueSetup} {lastPs horizonPs : Nat} {polled : List CompletionEntry}
  {lost : Option CompletionEntry} {after : WorkQueue}

theorem Consistent.core_iff : Consistent setup lastPs horizonPs polled lost queue.core ↔
      Consistent setup lastPs horizonPs polled lost queue := by
  constructor <;> intro h <;>
    exact ⟨{ h.counted with }, h.records, { h.owned with }, { h.flights with }, h.outcomes,
      h.evidenced, { h.cqes with }, h.unledgered⟩

section

variable (h : Consistent setup lastPs horizonPs polled lost queue)

include h

theorem Consistent.frame
    (hcore : after.core = queue.core) : Consistent setup lastPs horizonPs polled lost after :=
  Consistent.core_iff.mp (hcore ▸ Consistent.core_iff.mpr h)

theorem Consistent.withLedgers (hpcie : setup.pcie ≠ none) (accesses : List HostMemoryAccessRecord)
    (submissions : List RnicSubmissionRecord) (consumptions : List RnicCqConsumptionRecord) :
    Consistent setup lastPs horizonPs polled lost { queue with
      memoryAccesses := accesses
      submissionRecords := submissions
      cqConsumptionRecords := consumptions } :=
  ⟨{ h.counted with }, h.records, { h.owned with }, { h.flights with }, h.outcomes, h.evidenced,
    { h.cqes with }, fun hnone => absurd hnone hpcie⟩

theorem Consistent.withEvidence {evidence : EvidenceEvent}
    (hkind : evidence.kind ≠ .networkDrop ∧ evidence.kind ≠ .networkRejected) :
    Consistent setup lastPs horizonPs polled lost
      { queue with evidence := queue.evidence ++ [evidence] } := by
  have hfailed : ∀ wqeId, { queue with evidence := queue.evidence ++ [evidence] : WorkQueue }.failed
      wqeId = queue.failed wqeId := by
    intro wqeId
    simp [WorkQueue.failed, hkind]
  exact ⟨{ h.counted with }, h.records, { h.owned with }, { h.flights with }, h.outcomes,
    fun wqeId => hfailed wqeId ▸ h.evidenced wqeId, { h.cqes with }, h.unledgered⟩

theorem Consistent.withAccesses {accesses : List HostMemoryAccessRecord}
    (hscalar : setup.pcie = none → accesses = queue.memoryAccesses) :
    Consistent setup lastPs horizonPs polled lost { queue with memoryAccesses := accesses } := by
  by_cases hpcie : setup.pcie = none
  · rw [hscalar hpcie]
    exact h
  · exact h.withLedgers hpcie accesses queue.submissionRecords queue.cqConsumptionRecords

theorem Consistent.later (hle : lastPs ≤ laterPs) :
    Consistent setup laterPs horizonPs polled lost queue :=
  { h with records := fun index record hrecord => (h.records index record hrecord).later hle }

theorem Consistent.withHorizon {otherPs : Nat}
    (hbounded : ∀ item ∈ queue.pendingCqes, item.2.visibleAtPs ≤ otherPs) :
    Consistent setup lastPs otherPs polled lost queue :=
  { h with cqes := { h.cqes with bounded := hbounded } }

end

theorem Settled.frame (h : Settled polled queue) (hcore : after.core = queue.core)
    (hpolled : after.counters.cqesPolled = queue.counters.cqesPolled) : Settled polled after := by
  refine ⟨?_, ?_, hpolled.trans h.polledCount⟩
  · show after.core.pendingOutcomes.get? after.core.nextRetireSequence = none
    rw [hcore]
    exact h.next
  · show after.core.sqReclaimedThrough = lastPolled polled
    rw [hcore]
    exact h.reclaimed

end Frame

end SimLLM.Rnic
