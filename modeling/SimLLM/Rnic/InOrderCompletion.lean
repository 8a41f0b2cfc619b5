import SimLLM.Rnic.QueueRun

namespace SimLLM.Rnic

open List

variable {φ : Type} {setup : WorkQueueSetup} {polled : List CompletionEntry}
  {lost : Option CompletionEntry} {lastPs horizonPs : Nat} {queue : WorkQueue}

def WorkQueue.arrivedThrough (queue : WorkQueue) (wqeId : Nat) : Bool :=
  (queue.records.take wqeId).all (·.timeline.networkOutcomeAtPs.isSome)

def WorkQueue.wantsCqe (queue : WorkQueue) (record : WqeRecord) : Bool :=
  record.request.signaled || queue.failed record.wqeId

variable {wqeId : Nat} {record : WqeRecord}

section

variable (h : Consistent setup lastPs horizonPs polled lost queue)

include h

theorem Consistent.completes_eq
    (hrecord : queue.wqe wqeId = .ok record) (hretired : wqeId < queue.nextRetireSequence) :
    record.completes = queue.wantsCqe record := by
  have hok := h.recordOk hrecord
  obtain ⟨hne, _, hid⟩ := WorkQueue.wqe_eq_ok.mp hrecord
  have hstate := hok.phase.mpr (by omega)
  obtain ⟨status, hstatus⟩ := Option.isSome_iff_exists.mp (hok.status.mpr hstate)
  have hfailed : queue.failed record.wqeId = true ↔ status ≠ .success := by
    rw [hid, h.evidenced wqeId]
    constructor
    · rintro (⟨outcome, hmem, _⟩ | ⟨found, hfound, hany⟩)
      · have hin := h.state_of_owned .awaitingOrderedRetirement rfl
          (mem_map_of_mem hmem) hrecord
        rw [hin] at hstate
        cases hstate
      · cases Except.ok.inj (hrecord.symm.trans hfound)
        simpa [hstatus] using hany
    · exact fun hne => .inr ⟨record, hrecord, by simpa [hstatus] using hne⟩
  have hbool : (status != .success) = queue.failed record.wqeId := by
    rw [Bool.eq_iff_iff, hfailed]
    simp
  simp [WqeRecord.completes, WorkQueue.wantsCqe, hstatus, completionPending, hbool]

/-- Between calls a WQE has retired exactly when every outcome through its own has arrived. -/
theorem Consistent.retired_iff_arrived
    (hsettled : Settled polled queue) (hrecord : queue.wqe wqeId = .ok record) :
    wqeId < queue.nextRetireSequence ↔ queue.arrivedThrough wqeId = true := by
  obtain ⟨hne, hget, _⟩ := WorkQueue.wqe_eq_ok.mp hrecord
  have hlength := (List.getElem?_eq_some_iff.mp hget).1
  unfold WorkQueue.arrivedThrough
  rw [all_eq_true]
  constructor
  · intro hretired found hmem
    obtain ⟨index, hindex⟩ := mem_iff_getElem?.mp hmem
    rw [getElem?_take] at hindex
    split at hindex
    next hlt =>
      have hok := h.records index found hindex
      exact hok.outcomeAt.mpr (.inl (hok.phase.mpr (by omega)))
    next => cases hindex
  · intro harrived
    -- otherwise the WQE at the retirement cursor has an outcome nobody retired
    by_contra hlate
    have hpos := h.counted.reclaimedRetired
    have hcursor : queue.nextRetireSequence - 1 < queue.records.length := by omega
    have hcget := getElem?_eq_getElem hcursor
    have hok := h.records _ _ hcget
    have hmem : queue.records[queue.nextRetireSequence - 1] ∈ queue.records.take wqeId := by
      refine mem_iff_getElem?.mpr ⟨queue.nextRetireSequence - 1, ?_⟩
      rw [getElem?_take, if_pos (by omega)]
      exact hcget
    have houtcome := hok.outcomeAt.mp (harrived _ hmem)
    have hindex : queue.nextRetireSequence - 1 + 1 = queue.nextRetireSequence := by omega
    rcases houtcome with hretired | hawaiting
    · have := hok.phase.mp hretired
      omega
    · have hlookup := h.wqe_of_get hcget
      rw [hindex] at hlookup
      have howned := (h.owned.mem_iff .awaitingOrderedRetirement rfl _).mpr ⟨_, hlookup, hawaiting⟩
      exact Table.get?_eq_none_iff.mp hsettled.next howned

theorem Consistent.mem_completing_iff
    (hsettled : Settled polled queue) (hrecord : queue.wqe wqeId = .ok record) :
    wqeId ∈ queue.completing ↔
      queue.wantsCqe record = true ∧ queue.arrivedThrough wqeId = true := by
  rw [← h.retired_iff_arrived hsettled hrecord]
  constructor
  · intro hmem
    have hretired := (h.completing_retired hmem).2
    obtain ⟨found, hfound, hcompletes⟩ := h.mem_completing.mp hmem
    cases Except.ok.inj (hrecord.symm.trans hfound)
    exact ⟨h.completes_eq hrecord hretired ▸ hcompletes, hretired⟩
  · rintro ⟨hwants, hretired⟩
    exact h.mem_completing.mpr ⟨record, hrecord, (h.completes_eq hrecord hretired).trans hwants⟩

end

theorem mod_ne_of_window {x y d : Nat} (hlt : x < y) (hwindow : y < x + d) : x % d ≠ y % d := by
  intro heq
  have hdvd : d ∣ y - x := Nat.dvd_of_mod_eq_zero (Nat.sub_mod_eq_zero_of_mod_eq heq.symm)
  have := Nat.le_of_dvd (by omega) hdvd
  omega

section

variable (h : Consistent setup lastPs horizonPs polled lost queue)

include h

theorem Consistent.cq_numbers :
    queue.cq.map (·.cqeSequence) = List.range' (polled.length + 1) queue.cq.length := by
  have hnumbers := h.cqes.numbered.numbers
  rw [WorkQueue.cqes_eq, map_append, length_append, ← List.range'_append_1] at hnumbers
  obtain ⟨_, hrest⟩ := append_inj hnumbers (by simp)
  rw [append_assoc, map_append, length_append, ← List.range'_append_1] at hrest
  obtain ⟨hcq, _⟩ := append_inj hrest (by simp)
  rw [hcq, Nat.add_comm]

theorem Consistent.cq_slots : queue.cq.Pairwise fun a b => a.cqSlot ≠ b.cqSlot := by
  have hpairs := h.cqes.numbered.pairwise
  rw [WorkQueue.cqes_eq, append_assoc, pairwise_append] at hpairs
  have hcq := (pairwise_append.mp hpairs.2.1).1
  have hroom := h.cqes.room
  have hrange : ∀ entry ∈ queue.cq, polled.length + 1 ≤ entry.cqeSequence ∧
      entry.cqeSequence < polled.length + 1 + queue.cq.length := by
    intro entry hentry
    have hmem := h.cq_numbers ▸ mem_map_of_mem hentry
    exact mem_range'_1.mp hmem
  refine hcq.imp_of_mem ?_
  intro a b ha hb hlt
  obtain ⟨hindex, hslot⟩ := h.cqes.placed a (mem_append_right _ ha)
  obtain ⟨hindex', hslot'⟩ := h.cqes.placed b (mem_append_right _ hb)
  have hra := hrange a ha
  have hrb := hrange b hb
  rw [hslot, hslot']
  exact mod_ne_of_window (by omega) (by omega)

theorem Consistent.sq_slots {a b : WqeRecord} (ha : a ∈ queue.records) (hb : b ∈ queue.records)
    (hfree : a.timeline.sqReclaimedAtPs = none) (hlt : a.sqSequence < b.sqSequence) :
    (a.sqSequence - 1) % setup.config.sqDepth ≠ (b.sqSequence - 1) % setup.config.sqDepth := by
  obtain ⟨i, hi⟩ := mem_iff_getElem?.mp ha
  obtain ⟨j, hj⟩ := mem_iff_getElem?.mp hb
  have hoka := h.records i a hi
  have hokb := h.records j b hj
  have hbound := (List.getElem?_eq_some_iff.mp hj).1
  have hlive : ¬ i < queue.sqReclaimedThrough := by
    intro hi
    have := hoka.reclaimedAt.mpr hi
    rw [hfree] at this
    cases this
  have hoccupied := h.counted.occupied
  have hfits := h.counted.fits
  rw [hoka.sequence, hokb.sequence] at hlt ⊢
  exact mod_ne_of_window (by omega) (by omega)

end

def QueueRun.cqesOf (run : QueueRun φ) (wqeId : Nat) : Nat :=
  (run.polled ++ run.session.queue.cq ++ run.session.queue.pendingCqes.map Prod.snd).countP
    (·.wqeId == wqeId)

/-- In-order, exactly-once completion, as a property of the queue and of what was polled. -/
structure InOrder (setup : WorkQueueSetup) (run : QueueRun φ) : Prop where
  ordered : run.polled.Pairwise fun a b => a.sqSequence < b.sqSequence ∧ a.cqeSequence < b.cqeSequence
  producer : ∀ entry ∈ run.polled, entry.cqProducerIndex = entry.cqeSequence - 1
  once : run.session.queue.fatal = false → ∀ wqeId record,
    run.session.queue.wqe wqeId = .ok record → run.cqesOf wqeId =
      if run.session.queue.wantsCqe record && run.session.queue.arrivedThrough wqeId then 1 else 0
  reclaimed : ∀ record ∈ run.session.queue.records,
    record.timeline.sqReclaimedAtPs.isSome = true ↔ record.sqSequence ≤ lastPolled run.polled
  sqSlots : ∀ a ∈ run.session.queue.records, ∀ b ∈ run.session.queue.records,
    a.timeline.sqReclaimedAtPs = none → b.timeline.sqReclaimedAtPs = none →
    a.sqSequence ≠ b.sqSequence →
    (a.sqSequence - 1) % setup.config.sqDepth ≠ (b.sqSequence - 1) % setup.config.sqDepth
  cqSlots : run.session.queue.cq.Pairwise fun a b => a.cqSlot ≠ b.cqSlot
  beforeLost : ∀ lostSequence ∈ run.session.queue.fatalLostSqSequence,
    (run.polled ++ run.session.queue.cq).map (·.sqSequence) =
      (run.session.queue.records.filter fun record =>
        decide (record.sqSequence < lostSequence) && run.session.queue.wantsCqe record).map
          (·.sqSequence)
  afterLost : ∀ lostSequence ∈ run.session.queue.fatalLostSqSequence,
    ∀ record ∈ run.session.queue.records, lostSequence ≤ record.sqSequence →
      record.timeline.sqReclaimedAtPs = none
  fatal : run.session.queue.fatal = run.session.queue.fatalLostSqSequence.isSome

theorem Consistent.completing_eq_filter (h : Consistent setup lastPs horizonPs polled lost queue)
    {bound : Nat} (hbound : bound ≤ queue.nextRetireSequence) :
    queue.completing.filter (· < bound) = (queue.records.filter fun record =>
      decide (record.sqSequence < bound) && queue.wantsCqe record).map (·.sqSequence) := by
  rw [queue.completing_eq, filter_map, filter_filter]
  congr 1
  refine filter_congr ?_
  intro record hmem
  obtain ⟨index, hget⟩ := mem_iff_getElem?.mp hmem
  have hok := h.records index record hget
  by_cases hlt : record.sqSequence < bound
  · have hretired : index + 1 < queue.nextRetireSequence := by
      rw [hok.sequence] at hlt
      omega
    simp [hlt, h.completes_eq (h.wqe_of_get hget) hretired]
  · simp [hlt]

theorem Consistent.cqesOf (h : Consistent setup lastPs horizonPs polled none queue) (wqeId : Nat) :
    (polled ++ queue.cq ++ queue.pendingCqes.map Prod.snd).countP (·.wqeId == wqeId) =
      if wqeId ∈ queue.completing then 1 else 0 := by
  have hlist : queue.cqes polled none = polled ++ queue.cq ++ queue.pendingCqes.map Prod.snd := by
    simp [WorkQueue.cqes]
  have hids : (polled ++ queue.cq ++ queue.pendingCqes.map Prod.snd).map (·.wqeId) =
      queue.completing := by
    rw [← hlist, ← h.cqes.numbered.sequences]
    exact map_congr_left fun entry hentry => h.cqes.numbered.wqes entry hentry
  have hnodup : queue.completing.Nodup := h.completing_sorted.imp Nat.ne_of_lt
  rw [← hnodup.count, ← hids, List.count, countP_map]
  rfl

theorem filter_lt_of_sorted {before after : List Nat} {x : Nat}
    (h : (before ++ x :: after).Pairwise (· < ·)) :
    (before ++ x :: after).filter (· < x) = before := by
  obtain ⟨_, hafter, hcross⟩ := pairwise_append.mp h
  have hlater := (pairwise_cons.mp hafter).1
  rw [filter_append, filter_eq_self.mpr, filter_eq_nil_iff.mpr, append_nil]
  · intro y hy
    rcases mem_cons.mp hy with rfl | hy
    · simp
    · have := hlater y hy
      simp only [decide_eq_true_eq]
      omega
  · intro y hy
    simpa using hcross y hy x mem_cons_self

theorem Consistent.before_lost {entry : CompletionEntry}
    (h : Consistent setup lastPs horizonPs polled (some entry) queue) :
    (polled ++ queue.cq).map (·.sqSequence) = (queue.records.filter fun record =>
      decide (record.sqSequence < entry.sqSequence) && queue.wantsCqe record).map
        (·.sqSequence) := by
  have hsplit : queue.completing = (polled ++ queue.cq).map (·.sqSequence) ++ entry.sqSequence ::
      (queue.pendingCqes.map Prod.snd).map (·.sqSequence) := by
    rw [← h.cqes.numbered.sequences]
    simp [WorkQueue.cqes]
  have hsorted := h.completing_sorted
  have hmem : entry.sqSequence ∈ queue.completing := by rw [hsplit]; simp
  have hretired := (h.completing_retired hmem).2
  rw [hsplit] at hsorted
  rw [← h.completing_eq_filter (Nat.le_of_lt hretired), hsplit, filter_lt_of_sorted hsorted]

theorem QueueRun.inOrder {run : QueueRun φ} (hinv : run.session.Inv setup run.polled lost) :
    InOrder setup run := by
  have h := hinv.consistent
  have hsettled := hinv.settled
  have hordered := h.cqes_sorted.and h.cqes.numbered.pairwise
  rw [WorkQueue.cqes_eq, pairwise_append] at hordered
  refine ⟨hordered.1, ?_, ?_, ?_, ?_, h.cq_slots, ?_, ?_, ?_⟩
  · intro entry hentry
    have hindex := (h.cqes.placed entry (mem_append_left _ hentry)).1
    omega
  · intro hlive wqeId record hrecord
    obtain rfl := hinv.not_lost (by simp [hlive])
    have hiff := h.mem_completing_iff hsettled hrecord
    refine (h.cqesOf wqeId).trans ?_
    by_cases hmem : wqeId ∈ run.session.queue.completing
    · obtain ⟨hwants, harrived⟩ := hiff.mp hmem
      simp [hmem, hwants, harrived]
    · rw [if_neg hmem, if_neg]
      simpa using fun hwants harrived => hmem (hiff.mpr ⟨hwants, harrived⟩)
  · intro record hmem
    obtain ⟨index, hget⟩ := mem_iff_getElem?.mp hmem
    have hok := h.records index record hget
    rw [hok.reclaimedAt, hsettled.reclaimed, hok.sequence]
    omega
  · intro a ha b hb hfree hfree' hne
    rcases Nat.lt_or_gt_of_ne hne with hlt | hlt
    · exact h.sq_slots ha hb hfree hlt
    · exact (h.sq_slots hb ha hfree' hlt).symm
  · intro lostSequence hlost
    rw [h.cqes.lostAt] at hlost
    obtain ⟨entry, rfl, rfl⟩ := Option.map_eq_some_iff.mp hlost
    exact h.before_lost
  · intro lostSequence hlost record hmem hle
    rw [h.cqes.lostAt] at hlost
    obtain ⟨entry, rfl, rfl⟩ := Option.map_eq_some_iff.mp hlost
    obtain ⟨index, hget⟩ := mem_iff_getElem?.mp hmem
    have hok := h.records index record hget
    have hlt := h.lastPolled_lt (show entry ∈ _ by simp)
    have hreclaimed := h.cqes.reclaimed
    have hsequence := hok.sequence
    cases hat : record.timeline.sqReclaimedAtPs with
    | none => rfl
    | some atPs =>
      have := hok.reclaimedAt.mp (by rw [hat]; rfl)
      omega
  · rw [h.cqes.fatal, h.cqes.lostAt]
    cases lost <;> rfl

/-- After any run the completions are in order and exactly once, and the next poll returns
unless its time goes back; on a queue that lost a CQE it returns the visible CQEs in order. -/
theorem completions_in_order (service : PcieService φ) (setup : WorkQueueSetup)
    (fabric : PcieFabric φ) (actions : List QueueAction) :
    let run := QueueRun.start service setup fabric actions
    InOrder setup run ∧ ∀ maxEntries nowPs,
      (pollCompletionQueue setup maxEntries nowPs run.session).Ends
        (fun entries _ => run.session.queue.fatal = true →
          entries = (run.session.queue.cq.take maxEntries).map ({ · with polledAtPs := nowPs }))
        (fun session => nowPs < run.session.queue.lastObservedTimePs ∧ session = run.session) := by
  intro run
  obtain ⟨lost, hinv⟩ := QueueRun.inv_start service setup fabric actions
  refine ⟨QueueRun.inOrder hinv, ?_⟩
  intro maxEntries nowPs
  exact (pollCompletionQueue_inv hinv).mono (fun _ _ hout => hout.2) fun _ hback =>
    ⟨hback.2, hback.1⟩

def oneEntrySetup : WorkQueueSetup := scalarSetup 64 1 (by decide)

def refusingPort : NetworkPort where
  trySubmit := fun _ _ _ => {
    status := .rejected, rejectionLocation := .txPort, rejectionReason := .policyRejected }

def overrunAtFive : List QueueAction :=
  [.call {} (.postBatch [{}, {}] 5), .call {} (.doorbell 5 none),
    .call {} (.progress refusingPort 5)]

def pollError (setup : WorkQueueSetup) (maxEntries nowPs : Nat) (session : Session φ) :
    Option CppError :=
  match pollCompletionQueue setup maxEntries nowPs session with
  | .ok _ _ => none
  | .error error _ => some error

/-- After the overrun a poll at an earlier time throws. -/
theorem pollCompletionQueue_throws_back :
    let run := QueueRun.start promptService oneEntrySetup promptFabric overrunAtFive
    run.session.queue.fatal = true ∧ pollError oneEntrySetup 1 4 run.session =
      some (logicError "RNIC model time regressed") := by
  decide +kernel

end SimLLM.Rnic
