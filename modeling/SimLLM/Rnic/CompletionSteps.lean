import SimLLM.Rnic.QueueSteps

namespace SimLLM.Rnic

open List

variable {sequence : Nat} {entry : CompletionEntry} {record : WqeRecord} {key : Nat × Nat}
variable {rest : PendingCqes}

variable {setup : WorkQueueSetup} {lastPs horizonPs : Nat} {polled : List CompletionEntry}
  {lost : Option CompletionEntry} {queue : WorkQueue}

theorem Numbered.number {completing : List Nat} {nextCqe : Nat}
    {before after : List CompletionEntry}
    (h : Numbered completing nextCqe (before ++ entry :: after)) :
    entry.cqeSequence = before.length + 1 := by
  have hnumbers := h.numbers
  have hat := congrArg (·[before.length]?) hnumbers
  simp at hat
  omega

theorem RecordOk.retiredTo {through reclaimedThrough nextRetire index : Nat} {next : WqeRecord}
    (h : RecordOk through nextRetire lastPs index record)
    (hretired : record.state.retired = true) (hnext : next.state.retired = true)
    (hid : next.wqeId = record.wqeId) (hsequence : next.sqSequence = record.sqSequence)
    (hstatus : next.completionStatus = record.completionStatus)
    (htransport : next.timeline.transportRetiredAtPs = record.timeline.transportRetiredAtPs)
    (hreclaimed : next.timeline.sqReclaimedAtPs.isSome = true ↔ index < reclaimedThrough)
    (houtcome : next.timeline.networkOutcomeAtPs = record.timeline.networkOutcomeAtPs)
    (hpackets : next.timeline.packetsOrdered = record.timeline.packetsOrdered ∧
      next.timeline.lastPacketAtPs = record.timeline.lastPacketAtPs) :
    RecordOk reclaimedThrough nextRetire lastPs index next := by
  refine ⟨hid ▸ h.id, hsequence ▸ h.sequence, ?_, htransport ▸ h.retiredAt, hreclaimed, ?_, ?_,
    hpackets.1 ▸ h.packets, hpackets.2 ▸ h.lastPacket, ?_⟩
  · exact ⟨fun _ => h.phase.mp hretired, fun _ => hnext⟩
  · rw [houtcome]
    exact ⟨fun _ => .inl hnext, fun _ => h.outcomeAt.mpr (.inl hretired)⟩
  · rw [hstatus]
    exact ⟨fun _ => hnext, fun _ => h.status.mpr hretired⟩
  · rintro (hstate | hstate) <;> rw [hstate] at hnext <;> cases hnext

theorem lastPolled_concat (polled : List CompletionEntry) (entry : CompletionEntry) :
    lastPolled (polled ++ [entry]) = entry.sqSequence := by
  simp [lastPolled]

section Publishing

variable (h : Consistent setup lastPs horizonPs polled none queue)
  (hpending : queue.pendingCqes = (key, entry) :: rest)
  (hrecord : queue.wqe entry.wqeId = .ok record)
include h hpending hrecord

theorem Consistent.pending_state : record.state = .completionPending := by
  refine h.state_of_owned _ rfl ?_ hrecord
  show entry.wqeId ∈ queue.pendingCqes.map (·.2.wqeId)
  simp [hpending]

theorem Consistent.visible (hroom : queue.cq.length ≠ setup.config.cqDepth) :
    Consistent setup lastPs horizonPs polled none
      (({ queue with pendingCqes := rest }.setWqe entry.wqeId
        (record.visible entry.visibleAtPs)).pushCqe
          (entry.placed queue.counters.cqesVisible setup.config.cqDepth)) := by
  have hok := h.recordOk hrecord
  have hnext : (record.visible entry.visibleAtPs).wqeId = entry.wqeId :=
    (WorkQueue.wqe_eq_ok.mp hrecord).2.2
  have hstate := h.pending_state hpending hrecord
  have hq := h.cqes.setWqe hrecord hnext rfl rfl (by simp [hstate, WqeRecord.visible])
  have hsplit : queue.cqes polled none = polled ++ queue.cq ++ entry :: rest.map Prod.snd := by
    simp [WorkQueue.cqes, hpending]
  have hsorted := h.cqes.sorted
  rw [hpending] at hsorted
  refine ⟨{ h.counted.setWqe _ _ with }, records_set h.records ?_,
    h.owned.transfer hrecord hnext rfl .cqeVisible hstate rfl (by decide)
      (.of_eq (congrArg (·.map (·.2.wqeId)) hpending)) (.inr ⟨?_, rfl⟩) ?_,
    { h.flights.setWqe hrecord hnext rfl with }, h.outcomes.setWqe hrecord hnext rfl,
    h.evidenced.setWqe hrecord hnext rfl,
    { hq with
      numbered := hq.numbered.relabel ?_
      placed := ?_
      keys := fun item hitem => h.cqes.keys item (hpending ▸ mem_cons_of_mem _ hitem)
      sorted := (pairwise_cons.mp hsorted).2
      bounded := fun item hitem => h.cqes.bounded item (hpending ▸ mem_cons_of_mem _ hitem)
      visibleCount := ?_
      room := ?_ }, h.unledgered⟩
  · exact hok.retiredTo (by rw [hstate]; rfl) rfl rfl rfl rfl rfl hok.reclaimedAt rfl ⟨rfl, rfl⟩
  · show ((queue.cq ++ [_]).map _).Perm _
    exact (perm_append_singleton (entry.placed _ _) queue.cq).map (·.wqeId)
  · intro state hfrom hto
    cases state <;> first | rfl | contradiction
  · show (polled ++ (queue.cq ++ [entry.placed _ _]) ++ [] ++ rest.map Prod.snd).map _ =
      (queue.cqes polled none).map _
    simp [hsplit, CompletionEntry.label, CompletionEntry.placed]
  · intro other hother
    have hother : other ∈ polled ++ (queue.cq ++ [entry.placed queue.counters.cqesVisible
        setup.config.cqDepth]) := hother
    rw [← append_assoc] at hother
    rcases mem_append.mp hother with hold | hnew
    · exact h.cqes.placed other hold
    · have hnumbered := h.cqes.numbered
      rw [hsplit] at hnumbered
      have hnumber : entry.cqeSequence = queue.counters.cqesVisible + 1 := by
        rw [hnumbered.number, h.cqes.visibleCount, length_append]
      rw [mem_singleton.mp hnew]
      exact ⟨hnumber.symm, rfl⟩
  · have hcount := h.cqes.visibleCount
    show queue.counters.cqesVisible + 1 = polled.length + (queue.cq ++ [_]).length
    rw [length_append, hcount]
    rfl
  · have hcq := h.cqes.room
    show (queue.cq ++ [_]).length ≤ _
    rw [length_append, length_singleton]
    omega

theorem Consistent.overrun : Consistent setup lastPs horizonPs polled (some entry)
      (({ queue with pendingCqes := rest }.overrun entry record).setWqe entry.wqeId
        { record with state := .error }) := by
  have hok := h.recordOk hrecord
  have hnext : ({ record with state := .error } : WqeRecord).wqeId = entry.wqeId :=
    (WorkQueue.wqe_eq_ok.mp hrecord).2.2
  have hstate := h.pending_state hpending hrecord
  have hself := WorkQueue.setWqe_wqe hrecord hnext entry.wqeId
  rw [if_pos rfl] at hself
  have hcompleting : (queue.setWqe entry.wqeId { record with state := .error }).completing =
      queue.completing := completing_setWqe hrecord rfl rfl
  have hlist : queue.cqes polled none = polled ++ queue.cq ++ [entry] ++ rest.map Prod.snd := by
    simp [WorkQueue.cqes, hpending]
  have hsorted := h.cqes.sorted
  rw [hpending] at hsorted
  refine ⟨{ h.counted.setWqe _ _ with }, records_set h.records ?_,
    h.owned.transfer hrecord hnext rfl .error hstate rfl (by decide)
      (.of_eq (congrArg (·.map (·.2.wqeId)) hpending)) (.inl ⟨rfl, rfl⟩) ?_,
    { h.flights.setWqe hrecord hnext rfl with }, h.outcomes.setWqe hrecord hnext rfl, ?_,
    { h.cqes with
      numbered := hcompleting.symm ▸ h.cqes.numbered.relabel (by rw [hlist]; rfl)
      keys := fun item hitem => h.cqes.keys item (hpending ▸ mem_cons_of_mem _ hitem)
      sorted := (pairwise_cons.mp hsorted).2
      bounded := fun item hitem => h.cqes.bounded item (hpending ▸ mem_cons_of_mem _ hitem)
      fatal := rfl
      lostAt := rfl
      lostState := ?_ }, h.unledgered⟩
  · exact hok.retiredTo (by rw [hstate]; rfl) rfl rfl rfl rfl rfl hok.reclaimedAt rfl ⟨rfl, rfl⟩
  · intro state hfrom hto
    cases state <;> first | rfl | contradiction
  · intro other
    refine Iff.trans ?_ (h.evidenced.setWqe hrecord hnext rfl other)
    show (queue.evidence ++ [_]).any _ = true ↔ queue.evidence.any _ = true
    simp
  · rintro other hother
    cases hother
    exact ⟨_, hself, rfl⟩

end Publishing

section Invariant

variable (h : Consistent setup lastPs horizonPs polled lost queue)
include h

theorem Consistent.completing_sorted : queue.completing.Pairwise (· < ·) := by
  have hrecords : queue.records.Pairwise fun a b => a.sqSequence < b.sqSequence := by
    rw [pairwise_iff_getElem]
    intro i j hi hj hij
    rw [(h.records i _ (getElem?_eq_getElem hi)).sequence,
      (h.records j _ (getElem?_eq_getElem hj)).sequence]
    omega
  rw [queue.completing_eq]
  exact pairwise_map.mpr (hrecords.filter _)

theorem Consistent.mem_completing : sequence ∈ queue.completing ↔
      ∃ record, queue.wqe sequence = .ok record ∧ record.completes = true := by
  simp only [queue.completing_eq, mem_map, mem_filter]
  constructor
  · rintro ⟨record, ⟨hmem, hcompletes⟩, rfl⟩
    obtain ⟨index, hget⟩ := mem_iff_getElem?.mp hmem
    rw [(h.records index record hget).sequence]
    exact ⟨record, h.wqe_of_get hget, hcompletes⟩
  · rintro ⟨record, hrecord, hcompletes⟩
    obtain ⟨hne, hget, _⟩ := WorkQueue.wqe_eq_ok.mp hrecord
    have hsequence := (h.recordOk hrecord).sequence
    exact ⟨record, ⟨mem_of_getElem? hget, hcompletes⟩, by omega⟩

theorem Consistent.completing_retired (hmem : sequence ∈ queue.completing) :
    0 < sequence ∧ sequence < queue.nextRetireSequence := by
  obtain ⟨record, hrecord, hcompletes⟩ := h.mem_completing.mp hmem
  have hok := h.recordOk hrecord
  have hne := (WorkQueue.wqe_eq_ok.mp hrecord).1
  have hstatus : record.completionStatus.isSome = true := by
    unfold WqeRecord.completes at hcompletes
    cases hs : record.completionStatus with
    | none => rw [hs] at hcompletes; cases hcompletes
    | some status => rfl
  have hretired := hok.phase.mp (hok.status.mp hstatus)
  omega

theorem Consistent.cqes_sorted :
    (queue.cqes polled lost).Pairwise fun a b => a.sqSequence < b.sqSequence := by
  have hsorted := h.completing_sorted
  rw [← h.cqes.numbered.sequences] at hsorted
  exact pairwise_map.mp hsorted

omit h in
theorem WorkQueue.cqes_eq : queue.cqes polled lost =
    polled ++ (queue.cq ++ lost.toList ++ queue.pendingCqes.map Prod.snd) := by
  simp [WorkQueue.cqes]

theorem Consistent.lastPolled_lt
    (hmem : entry ∈ queue.cq ++ lost.toList ++ queue.pendingCqes.map Prod.snd) :
    lastPolled polled < entry.sqSequence := by
  cases hlast : polled.getLast? with
  | none =>
    have hmem' := h.cqes.numbered.sequences ▸
      mem_map_of_mem (WorkQueue.cqes_eq ▸ mem_append_right _ hmem)
    simpa [lastPolled, hlast] using (h.completing_retired hmem').1
  | some last =>
    have hsorted := h.cqes_sorted
    rw [WorkQueue.cqes_eq, pairwise_append] at hsorted
    have hlt := hsorted.2.2 last (mem_of_getLast? hlast) entry hmem
    simpa [lastPolled, hlast] using hlt

theorem Consistent.poll {rest : List CompletionEntry} (nowPs : Nat) (hcq : queue.cq = entry :: rest)
    (hrecord : queue.wqe entry.wqeId = .ok record) :
    Consistent setup lastPs horizonPs (polled ++ [{ entry with polledAtPs := nowPs }]) lost
      ({ queue with cq := rest }.setWqe entry.wqeId (record.polled nowPs)) := by
  have hok := h.recordOk hrecord
  have hnext : (record.polled nowPs).wqeId = entry.wqeId := (WorkQueue.wqe_eq_ok.mp hrecord).2.2
  have hstate : record.state = .cqeVisible := by
    refine h.state_of_owned _ rfl ?_ hrecord
    show entry.wqeId ∈ queue.cq.map (·.wqeId)
    simp [hcq]
  have hq := h.cqes.setWqe hrecord hnext rfl rfl (by simp [hstate, WqeRecord.polled])
  refine ⟨{ h.counted.setWqe _ _ with }, records_set h.records ?_,
    h.owned.transfer hrecord hnext rfl .completed hstate rfl (by decide)
      (.of_eq (congrArg (·.map (·.wqeId)) hcq)) (.inl ⟨rfl, rfl⟩) ?_,
    { h.flights.setWqe hrecord hnext rfl with }, h.outcomes.setWqe hrecord hnext rfl,
    h.evidenced.setWqe hrecord hnext rfl,
    { hq with
      numbered := hq.numbered.relabel ?_
      placed := ?_
      reclaimed := ?_
      visibleCount := ?_
      room := ?_ }, h.unledgered⟩
  · exact hok.retiredTo (by rw [hstate]; rfl) rfl rfl rfl rfl rfl hok.reclaimedAt rfl ⟨rfl, rfl⟩
  · intro state hfrom hto
    cases state <;> first | rfl | contradiction
  · show (polled ++ [_] ++ rest ++ lost.toList ++ queue.pendingCqes.map Prod.snd).map _ =
      (polled ++ queue.cq ++ lost.toList ++ queue.pendingCqes.map Prod.snd).map _
    simp [hcq, CompletionEntry.label]
  · intro other hother
    have hother : other ∈ polled ++ [{ entry with polledAtPs := nowPs }] ++ rest := hother
    rcases mem_append.mp hother with hother | hother
    · rcases mem_append.mp hother with hother | hother
      · exact h.cqes.placed other (mem_append_left _ hother)
      · rw [mem_singleton.mp hother]
        exact h.cqes.placed entry (by simp [hcq])
    · exact h.cqes.placed other (by simp [hcq, hother])
  · have hlt : lastPolled polled < entry.sqSequence := h.lastPolled_lt (by simp [hcq])
    have hle := h.cqes.reclaimed
    rw [lastPolled_concat]
    show queue.sqReclaimedThrough ≤ entry.sqSequence
    omega
  · have hcount := h.cqes.visibleCount
    show queue.counters.cqesVisible = (polled ++ [_]).length + rest.length
    rw [hcount, hcq, length_append]
    simp only [length_cons, length_nil]
    omega
  · have hroom := h.cqes.room
    rw [hcq, length_cons] at hroom
    show rest.length ≤ _
    omega

theorem Consistent.lastPolled_retired : lastPolled polled < queue.nextRetireSequence := by
  cases hlast : polled.getLast? with
  | none =>
    have hpos := h.counted.reclaimedRetired
    simp only [lastPolled, hlast, Option.map_none, Option.getD_none]
    omega
  | some last =>
    have hmem : last ∈ queue.cqes polled lost := by
      simp [WorkQueue.cqes, mem_of_getLast? hlast]
    have hcompleting := h.cqes.numbered.sequences ▸ mem_map_of_mem hmem
    simpa [lastPolled, hlast] using (h.completing_retired hcompleting).2

theorem Consistent.free_of_le {wqeId : Nat} (hrecord : queue.wqe wqeId = .ok record)
    (hle : wqeId ≤ lastPolled polled) :
    record.state.retired = true ∧ record.state.needsOwner = false ∧
      ∀ entry ∈ lost, entry.wqeId ≠ wqeId := by
  have hwqes := h.cqes.numbered.wqes
  have hafter : ∀ entry ∈ queue.cq ++ lost.toList ++ queue.pendingCqes.map Prod.snd,
      entry.wqeId ≠ wqeId := by
    intro entry hentry
    have hlt := h.lastPolled_lt hentry
    have hwqe := hwqes entry (WorkQueue.cqes_eq ▸ mem_append_right _ hentry)
    omega
  have hretired : record.state.retired = true := by
    have hlast := h.lastPolled_retired
    have hne := (WorkQueue.wqe_eq_ok.mp hrecord).1
    exact (h.recordOk hrecord).phase.mpr (by omega)
  refine ⟨hretired, ?_, fun entry hentry => hafter entry (by simp [Option.mem_def.mp hentry])⟩
  have hin :=
    fun state hneeds hstate => (h.owned.mem_iff state hneeds wqeId).mpr ⟨record, hrecord, hstate⟩
  cases hstate : record.state with
  | posted | doorbelled | inFlight | awaitingOrderedRetirement =>
    rw [hstate] at hretired
    cases hretired
  | completionPending =>
    obtain ⟨item, hitem, heq⟩ := mem_map.mp (hin .completionPending rfl hstate)
    exact absurd heq (hafter item.2 (mem_append_right _ (mem_map_of_mem hitem)))
  | cqeVisible =>
    obtain ⟨entry, hentry, heq⟩ := mem_map.mp (hin .cqeVisible rfl hstate)
    exact absurd heq (hafter entry (by simp [hentry]))
  | retiredUnsignaled | reclaimed | completed | error => rfl

theorem Consistent.reclaim (nowPs : Nat)
    (hget : queue.records[queue.sqReclaimedThrough]? = some record)
    (hle : queue.sqReclaimedThrough + 1 ≤ lastPolled polled) :
    record.timeline.transportRetiredAtPs.isSome = true ∧
      record.timeline.sqReclaimedAtPs.isNone = true ∧
      Consistent setup lastPs horizonPs polled lost (queue.reclaimOne record nowPs) := by
  have hrecord := h.wqe_of_get hget
  have hok := h.records _ _ hget
  obtain ⟨hretired, hfree, hlost⟩ := h.free_of_le hrecord hle
  have hnext : (record.reclaim nowPs).wqeId = queue.sqReclaimedThrough + 1 := hok.id
  have hnextState : (record.reclaim nowPs).state.retired = true ∧
      (record.reclaim nowPs).state.needsOwner = false := by
    unfold WqeRecord.reclaim
    split <;> exact ⟨rfl, rfl⟩
  have hnone : record.timeline.sqReclaimedAtPs.isNone = true := by simpa using hok.reclaimedAt
  refine ⟨hok.retiredAt.mpr (hok.phase.mp hretired), hnone, ?_⟩
  unfold WorkQueue.reclaimOne
  rw [if_pos hnone]
  have hlength := (List.getElem?_eq_some_iff.mp hget).1
  have hcompleting : (queue.setWqe (queue.sqReclaimedThrough + 1)
      (record.reclaim nowPs)).completing = queue.completing := completing_setWqe hrecord rfl rfl
  refine ⟨?_, ?_, ?_, { h.flights.setWqe hrecord hnext rfl with },
    h.outcomes.setWqe hrecord hnext rfl, h.evidenced.setWqe hrecord hnext rfl,
    { h.cqes with
      numbered := hcompleting.symm ▸ h.cqes.numbered
      lostState := ?_
      reclaimed := hle }, h.unledgered⟩
  · have hc := h.counted.setWqe (queue.sqReclaimedThrough + 1) (record.reclaim nowPs)
    have hoccupied := h.counted.occupied
    have hfits := h.counted.fits
    have hlast := h.lastPolled_retired
    refine ⟨hc.1, hc.2, hc.3, ?_, ?_, ?_, ?_, hc.8⟩
    · show queue.occupiedSqEntries - 1 + (queue.sqReclaimedThrough + 1) =
        (queue.records.set _ _).length
      rw [length_set]
      omega
    · show queue.occupiedSqEntries - 1 ≤ _
      omega
    · exact congrArg (· + 1) h.counted.reclaimed
    · show queue.sqReclaimedThrough + 1 < queue.nextRetireSequence
      omega
  · show ∀ index found, (queue.records.set _ _)[index]? = some found → _
    intro index found hfound
    by_cases hindex : queue.sqReclaimedThrough = index
    · subst hindex
      rw [getElem?_set_self hlength] at hfound
      cases hfound
      exact hok.retiredTo hretired hnextState.1 rfl rfl rfl rfl (by simp [WqeRecord.reclaim]) rfl
        ⟨rfl, rfl⟩
    · rw [getElem?_set_ne hindex] at hfound
      have hfound := h.records index found hfound
      refine { hfound with reclaimedAt := hfound.reclaimedAt.trans ?_ }
      show index < queue.sqReclaimedThrough ↔ index < queue.sqReclaimedThrough + 1
      omega
  · refine h.owned.move hrecord hnext rfl h.owned.nodup (fun _ _ _ _ => Iff.rfl) ?_
    intro state hneeds
    constructor
    · intro hmem
      have hstate := h.state_of_owned _ hneeds hmem hrecord
      rw [hstate, hneeds] at hfree
      cases hfree
    · intro hstate
      rw [hstate, hneeds] at hnextState
      cases hnextState.2
  · intro entry hentry
    obtain ⟨found, hfound, hstate⟩ := h.cqes.lostState entry hentry
    refine ⟨found, ?_, hstate⟩
    refine (WorkQueue.setWqe_wqe hrecord hnext entry.wqeId).trans ?_
    rw [if_neg (hlost entry hentry)]
    exact hfound

end Invariant

end SimLLM.Rnic
