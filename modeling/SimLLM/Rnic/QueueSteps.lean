import SimLLM.Rnic.Ownership

namespace SimLLM.Rnic

open List WorkQueue WqeRecord

variable {state : WqeState} {atPs token : Nat} {rest : List Nat} {item : Nat × PacketAttemptState}
variable {after : WorkQueue} {completed : Table Nat PacketAttemptState} {extent : InflightExtent}
variable {attempt : PacketAttemptState} {wqeId : Nat} {record next : WqeRecord}

variable {setup : WorkQueueSetup} {lastPs horizonPs : Nat} {polled : List CompletionEntry}
  {lost : Option CompletionEntry} {queue : WorkQueue}

theorem records_set {P : Nat → WqeRecord → Prop} {records : List WqeRecord} {at_ : Nat}
    (h : ∀ index record, records[index]? = some record → P index record)
    (hnext : P at_ next) :
    ∀ index record, (records.set at_ next)[index]? = some record → P index record := by
  intro index record hget
  by_cases hindex : at_ = index
  · subst hindex
    rw [getElem?_set] at hget
    split at hget
    next =>
      split at hget
      next => cases Option.some.inj hget; exact hnext
      next => cases hget
    next hne => exact absurd rfl hne
  · rw [getElem?_set_ne hindex] at hget
    exact h index record hget

theorem exists_setWqe_iff (hrecord : queue.wqe wqeId = .ok record) (hnext : next.wqeId = wqeId)
    {P : WqeRecord → Prop} (hkeep : P next ↔ P record) (other : Nat) :
    (∃ found, (queue.setWqe wqeId next).wqe other = .ok found ∧ P found) ↔
      ∃ found, queue.wqe other = .ok found ∧ P found := by
  rw [setWqe_wqe hrecord hnext]
  by_cases hother : other = wqeId
  · subst hother
    simp [hrecord, hkeep]
  · simp [hother]

theorem Counted.setWqe (h : Counted setup queue) (wqeId : Nat) (next : WqeRecord) :
    Counted setup (queue.setWqe wqeId next) := by
  have hlength : (queue.setWqe wqeId next).records.length = queue.records.length :=
    length_set
  exact ⟨hlength ▸ h.nextWqe, hlength ▸ h.nextSq, hlength ▸ h.posted, hlength ▸ h.occupied, h.fits,
    h.reclaimed, h.reclaimedRetired, hlength ▸ h.retiredPosted⟩

section SetWqe

variable (hrecord : queue.wqe wqeId = .ok record) (hnext : next.wqeId = wqeId)

include hrecord hnext

theorem Flights.setWqe (h : Flights queue) (htoken : next.networkToken = record.networkToken) :
    Flights (queue.setWqe wqeId next) :=
  ⟨h.tokens, fun item hitem => (exists_setWqe_iff hrecord hnext (by rw [htoken]) _).mpr
    (h.holder item hitem), h.attempts, h.tombstones⟩

theorem Outcomes.setWqe (h : Outcomes queue)
    (houtcome : next.timeline.networkOutcomeAtPs = record.timeline.networkOutcomeAtPs) :
    Outcomes (queue.setWqe wqeId next) := by
  intro item hitem
  obtain ⟨hid, hrecorded⟩ := h item hitem
  exact ⟨hid, (exists_setWqe_iff hrecord hnext (by rw [houtcome]) _).mpr hrecorded⟩

theorem Evidenced.setWqe (h : Evidenced queue)
    (hstatus : next.completionStatus = record.completionStatus) :
    Evidenced (queue.setWqe wqeId next) := by
  intro other
  refine (h other).trans (or_congr Iff.rfl ?_)
  exact (exists_setWqe_iff hrecord hnext (by rw [hstatus]) other).symm

theorem Cqes.setWqe (h : Cqes setup horizonPs polled lost queue)
    (hcompletes : next.completes = record.completes)
    (hsequence : next.sqSequence = record.sqSequence)
    (herror : next.state = .error ↔ record.state = .error) :
    Cqes setup horizonPs polled lost (queue.setWqe wqeId next) :=
  { h with
    numbered := (completing_setWqe hrecord hcompletes hsequence).symm ▸ h.numbered
    lostState := fun entry hentry =>
      (exists_setWqe_iff hrecord hnext herror _).mpr (h.lostState entry hentry) }

end SetWqe

theorem packetSeen_ordered {timeline : WqeTimeline} (hordered : timeline.packetsOrdered = true)
    (hlast : ∀ last ∈ timeline.lastPacketAtPs, last ≤ atPs)
    (haccepted : timeline.networkAcceptedAtPs.any (· ≤ atPs) = true) :
    (timeline.packetSeen atPs).packetsOrdered = true := by
  unfold WqeTimeline.packetsOrdered at hordered ⊢
  cases hfirst : timeline.firstPacketAtPs with
  | none =>
    simp only [WqeTimeline.packetSeen, hfirst, Option.getD_none]
    simp [haccepted]
  | some first =>
    cases hlastAt : timeline.lastPacketAtPs with
    | none => rw [hfirst, hlastAt] at hordered; cases hordered
    | some last =>
      simp only [hfirst, hlastAt, Bool.and_eq_true, decide_eq_true_eq] at hordered
      have hle := hlast last (by rw [hlastAt]; rfl)
      simp only [WqeTimeline.packetSeen, hfirst, Option.getD_some, Bool.and_eq_true,
        decide_eq_true_eq]
      exact ⟨by omega, hordered.2⟩

theorem WorkQueue.attemptOwned_iff : queue.attemptOwned item = true ↔
      ∃ extent, queue.inflight.get? item.2.extentToken = some extent ∧
        item.1 = item.2.started.token ∧ item.2.started.parentToken = item.2.extentToken ∧
        item.2.started.wqeId = extent.wqeId ∧ item.1 ∈ queue.seenNetworkTokens := by
  unfold attemptOwned
  cases queue.inflight.get? item.2.extentToken with
  | none => simp
  | some extent => simp [and_assoc]

theorem attemptOwned_mono (h : queue.attemptOwned item = true)
    (hinflight : ∀ extent, queue.inflight.get? item.2.extentToken = some extent →
      after.inflight.get? item.2.extentToken = some extent)
    (hseen : ∀ token ∈ queue.seenNetworkTokens, token ∈ after.seenNetworkTokens) :
    after.attemptOwned item = true := by
  obtain ⟨extent, hget, htoken, hparent, hwqe, hmem⟩ := WorkQueue.attemptOwned_iff.mp h
  exact WorkQueue.attemptOwned_iff.mpr
    ⟨extent, hinflight extent hget, htoken, hparent, hwqe, hseen _ hmem⟩

section Invariant

variable (h : Consistent setup lastPs horizonPs polled lost queue)
include h

theorem Consistent.wqe_of_get {index : Nat}
    (hget : queue.records[index]? = some record) : queue.wqe (index + 1) = .ok record :=
  WorkQueue.wqe_eq_ok.mpr ⟨by omega, hget, (h.records index record hget).id⟩

theorem Consistent.recordOk (hrecord : queue.wqe wqeId = .ok record) :
    RecordOk queue.sqReclaimedThrough queue.nextRetireSequence lastPs (wqeId - 1) record :=
  h.records _ _ (WorkQueue.wqe_eq_ok.mp hrecord).2.1

theorem Consistent.inState_of_owned (state : WqeState) (hneeds : state.needsOwner = true)
    (hmem : wqeId ∈ queue.owned state) : InState queue wqeId state :=
  (h.owned.mem_iff state hneeds wqeId).mp hmem

theorem Consistent.state_of_owned (state : WqeState) (hneeds : state.needsOwner = true)
    (hmem : wqeId ∈ queue.owned state) (hrecord : queue.wqe wqeId = .ok record) :
    record.state = state :=
  InState.unique ⟨record, hrecord, rfl⟩ (h.inState_of_owned state hneeds hmem)

section

variable (hrecord : queue.wqe wqeId = .ok record)

include hrecord

theorem Consistent.touch
    (hok : RecordOk queue.sqReclaimedThrough queue.nextRetireSequence lastPs (wqeId - 1) next)
    (hrequest : next.request = record.request) (hstate : next.state = record.state)
    (htoken : next.networkToken = record.networkToken)
    (houtcome : next.timeline.networkOutcomeAtPs = record.timeline.networkOutcomeAtPs)
    (hstatus : next.completionStatus = record.completionStatus) :
    Consistent setup lastPs horizonPs polled lost (queue.setWqe wqeId next) := by
  have hpos : wqeId ≠ 0 := (WorkQueue.wqe_eq_ok.mp hrecord).1
  have hnext : next.wqeId = wqeId := by rw [hok.id]; omega
  exact ⟨h.counted.setWqe wqeId next, records_set h.records hok,
    h.owned.touch hrecord hnext rfl rfl hstate, h.flights.setWqe hrecord hnext htoken,
    h.outcomes.setWqe hrecord hnext houtcome, h.evidenced.setWqe hrecord hnext hstatus,
    h.cqes.setWqe hrecord hnext (by simp [completes, hstatus, hrequest])
      (by rw [hok.sequence, (h.recordOk hrecord).sequence]) (by rw [hstate]), h.unledgered⟩

theorem Consistent.ecnMarked : Consistent setup lastPs horizonPs polled lost
      (queue.setWqe wqeId { record with ecnMarked := true }) := by
  exact h.touch hrecord { h.recordOk hrecord with } rfl rfl rfl rfl rfl

theorem Consistent.packetSeen (hle : lastPs ≤ atPs) (hstate : record.state = .inFlight)
    (haccepted : record.timeline.networkAcceptedAtPs.any (· ≤ atPs) = true) :
    Consistent setup atPs horizonPs polled lost
      (queue.setWqe wqeId { record with timeline := record.timeline.packetSeen atPs }) := by
  have hlater := h.later hle
  have hok := hlater.recordOk hrecord
  refine hlater.touch hrecord { hok with
    packets := packetSeen_ordered hok.packets hok.lastPacket haccepted
    lastPacket := ?_
    unsent := ?_ } rfl rfl rfl rfl rfl
  · intro last hlast
    cases hlast
    exact Nat.le_refl _
  · intro hunsent
    rw [hstate] at hunsent
    rcases hunsent with hunsent | hunsent <;> cases hunsent

end

omit h in
theorem getElem?_concat {α : Type} (l : List α) (a : α) (i : Nat) :
    (l ++ [a])[i]? = if i = l.length then some a else l[i]? := by
  rw [getElem?_append]
  grind

theorem Consistent.append_wqe (request : WorkRequest) (nowPs other : Nat) :
    (queue.append request nowPs).wqe other =
      if other = queue.records.length + 1 then .ok (queue.newRecord request nowPs)
      else queue.wqe other := by
  have hid : (queue.newRecord request nowPs).wqeId = queue.records.length + 1 := h.counted.nextWqe
  by_cases hzero : other = 0
  · rw [hzero, wqe_zero, wqe_zero]
    rfl
  · have hplace : other - 1 = queue.records.length ↔ other = queue.records.length + 1 := by omega
    unfold WorkQueue.wqe WorkQueue.append
    simp only [getElem?_concat, hplace]
    by_cases hother : other = queue.records.length + 1
    · simp [hother, hid]
    · simp only [if_neg hother]

theorem Consistent.newRecordOk (request : WorkRequest) (nowPs : Nat) :
    RecordOk queue.sqReclaimedThrough queue.nextRetireSequence lastPs queue.records.length
      (queue.newRecord request nowPs) := by
  have hretired := h.counted.retiredPosted
  have hreclaimed := h.counted.reclaimedRetired
  refine ⟨h.counted.nextWqe, h.counted.nextSq, ?_, ?_, ?_, ?_, ?_, rfl, ?_, fun _ => ⟨rfl, rfl⟩⟩
  · simp [newRecord, WqeState.retired]; omega
  · simp [newRecord]; omega
  · simp [newRecord]; omega
  · simp [newRecord, WqeState.retired]
  · simp [newRecord, WqeState.retired]
  · intro last hlast
    cases hlast

theorem Consistent.records_le (state : WqeState) (hneeds : state.needsOwner = true)
    (hmem : wqeId ∈ queue.owned state) : wqeId ≤ queue.records.length := by
  obtain ⟨record, hrecord, _⟩ := h.inState_of_owned state hneeds hmem
  obtain ⟨hne, hget, _⟩ := WorkQueue.wqe_eq_ok.mp hrecord
  have hlt := (List.getElem?_eq_some_iff.mp hget).1
  omega

theorem Consistent.post (request : WorkRequest) (nowPs : Nat)
    (hroom : queue.occupiedSqEntries ≠ setup.config.sqDepth) :
    Consistent setup lastPs horizonPs polled lost (queue.append request nowPs) := by
  have hlength : (queue.append request nowPs).records.length = queue.records.length + 1 := by
    simp [WorkQueue.append]
  have hkeep : ∀ {P : WqeRecord → Prop} {other : Nat},
    (∃ found, queue.wqe other = .ok found ∧ P found) →
      ∃ found, (queue.append request nowPs).wqe other = .ok found ∧ P found := by
    rintro P other ⟨found, hfound, hp⟩
    obtain ⟨_, hget, _⟩ := WorkQueue.wqe_eq_ok.mp hfound
    have hlt := (List.getElem?_eq_some_iff.mp hget).1
    refine ⟨found, ?_, hp⟩
    rw [h.append_wqe, if_neg (by omega)]
    exact hfound
  refine ⟨?_, ?_, ⟨?_, ?_⟩, ?_, ?_, ?_, ?_, h.unledgered⟩
  · have hc := h.counted
    have hfits := hc.fits
    refine ⟨?_, ?_, ?_, ?_, ?_, hc.reclaimed, hc.reclaimedRetired, ?_⟩
    · rw [hlength]; exact congrArg (· + 1) hc.nextWqe
    · rw [hlength]; exact congrArg (· + 1) hc.nextSq
    · rw [hlength]; exact congrArg (· + 1) hc.posted
    · rw [hlength]
      show queue.occupiedSqEntries + 1 + queue.sqReclaimedThrough = _
      have := hc.occupied
      omega
    · show queue.occupiedSqEntries + 1 ≤ _
      omega
    · rw [hlength]
      exact Nat.le_succ_of_le hc.retiredPosted
  · intro index record hget
    replace hget : (queue.records ++ [queue.newRecord request nowPs])[index]? = some record := hget
    rw [getElem?_concat] at hget
    split at hget
    next hindex =>
      cases hget
      exact hindex ▸ h.newRecordOk request nowPs
    next => exact h.records index record hget
  · intro state
    by_cases hposted : state = .posted
    · subst hposted
      refine nodup_append.mpr ⟨h.owned.nodup .posted, nodup_singleton _, ?_⟩
      intro wqeId hmem other hother
      have hle := h.records_le .posted rfl hmem
      have hnew := h.counted.nextWqe
      rw [mem_singleton.mp hother]
      omega
    · have hsame : (queue.append request nowPs).owned state = queue.owned state := by
        cases state <;> first | rfl | exact absurd rfl hposted
      rw [hsame]
      exact h.owned.nodup state
  · intro state hneeds other
    have hnew := h.counted.nextWqe
    have hmem : other ∈ (queue.append request nowPs).owned state ↔
        other ∈ queue.owned state ∨ state = .posted ∧ other = queue.records.length + 1 := by
      cases state <;> simp [WorkQueue.append, WorkQueue.owned, hnew]
    unfold InState
    rw [hmem, h.append_wqe]
    by_cases hother : other = queue.records.length + 1
    · subst hother
      have hout : queue.records.length + 1 ∉ queue.owned state := fun hin => by
        have := h.records_le _ hneeds hin
        omega
      simp only [hout, and_true, false_or, ↓reduceIte, Except.ok.injEq, exists_eq_left']
      exact eq_comm
    · simp only [hother, and_false, or_false, ↓reduceIte]
      exact h.owned.mem_iff state hneeds other
  · exact ⟨h.flights.tokens, fun item hitem => hkeep (h.flights.holder item hitem),
      h.flights.attempts, h.flights.tombstones⟩
  · exact fun item hitem => ⟨(h.outcomes item hitem).1, hkeep (h.outcomes item hitem).2⟩
  · intro other
    refine (h.evidenced other).trans (or_congr Iff.rfl ⟨hkeep, ?_⟩)
    rintro ⟨found, hfound, hfailed⟩
    rw [h.append_wqe] at hfound
    split at hfound
    next =>
      cases hfound
      cases hfailed
    next => exact ⟨found, hfound, hfailed⟩
  · have hcompleting : (queue.append request nowPs).completing = queue.completing := by
      show (queue.records ++ [queue.newRecord request nowPs]).filterMap _ = _
      simp [newRecord, completes, WorkQueue.completing]
    exact { h.cqes with
      numbered := hcompleting.symm ▸ h.cqes.numbered
      lostState := fun entry hentry => hkeep (h.cqes.lostState entry hentry) }

theorem Consistent.ring (batchId nowPs observedAtPs : Nat) (item : PlannedDoorbellWqe)
    (hunpublished : queue.unpublished = wqeId :: rest) (hrecord : queue.wqe wqeId = .ok record) :
    Consistent setup lastPs horizonPs polled lost
      { queue.setWqe wqeId (record.doorbelled batchId nowPs observedAtPs item) with
        unpublished := rest
        ready := queue.ready ++ [wqeId] } := by
  have hok := h.recordOk hrecord
  have hnext : (record.doorbelled batchId nowPs observedAtPs item).wqeId = wqeId :=
    (WorkQueue.wqe_eq_ok.mp hrecord).2.2
  have hstate : record.state = .posted := h.state_of_owned _ rfl
    (show wqeId ∈ queue.unpublished by rw [hunpublished]; exact mem_cons_self) hrecord
  refine ⟨{ h.counted.setWqe _ _ with }, records_set h.records ?_,
    h.owned.transfer hrecord hnext rfl .doorbelled hstate rfl (by decide) (.of_eq hunpublished)
      (.inr ⟨perm_append_singleton _ _, rfl⟩) ?_,
    { h.flights.setWqe hrecord hnext rfl with }, h.outcomes.setWqe hrecord hnext rfl,
    h.evidenced.setWqe hrecord hnext rfl,
    { h.cqes.setWqe hrecord hnext rfl rfl (by simp [hstate, doorbelled]) with },
    h.unledgered⟩
  · have hphase := hok.phase
    have houtcome := hok.outcomeAt
    have hstatus := hok.status
    rw [hstate] at hphase houtcome hstatus
    refine ⟨hok.id, hok.sequence, hphase, hok.retiredAt, hok.reclaimedAt, ?_, hstatus, hok.packets,
      hok.lastPacket, fun _ => hok.unsent (.inl hstate)⟩
    simpa [doorbelled, WqeState.retired] using houtcome
  · intro state hfrom hto
    cases state <;> first | rfl | contradiction

theorem Consistent.accept (nowPs : Nat) (extent : InflightExtent)
    (hready : queue.ready = wqeId :: rest) (hrecord : queue.wqe wqeId = .ok record)
    (hnew : queue.inflight.get? token = none) (hextent : extent.wqeId = wqeId) :
    Consistent setup lastPs horizonPs polled lost
      { queue.setWqe wqeId (record.accepted token nowPs) with
        ready := rest
        inflight := queue.inflight.set token extent
        seenNetworkTokens := token :: queue.seenNetworkTokens } := by
  have hok := h.recordOk hrecord
  have hnext : (record.accepted token nowPs).wqeId = wqeId := (WorkQueue.wqe_eq_ok.mp hrecord).2.2
  have hstate : record.state = .doorbelled := h.state_of_owned _ rfl
    (show wqeId ∈ queue.ready by rw [hready]; exact mem_cons_self) hrecord
  have hkept : ∀ other found, queue.inflight.get? other = some found →
      (queue.inflight.set token extent).get? other = some found := by
    intro other found hget
    rw [Table.get?_set, if_neg]
    · exact hget
    · rintro rfl
      rw [hnew] at hget
      cases hget
  refine ⟨{ h.counted.setWqe _ _ with }, records_set h.records ?_,
    h.owned.transfer hrecord hnext rfl .inFlight hstate rfl (by decide) (.of_eq hready)
      (.inr ⟨?_, rfl⟩) ?_,
    ⟨Table.set_keys_nodup h.flights.tokens token extent, ?_, ?_, ?_⟩,
    h.outcomes.setWqe hrecord hnext rfl, h.evidenced.setWqe hrecord hnext rfl,
    { h.cqes.setWqe hrecord hnext rfl rfl (by simp [hstate, accepted]) with },
    h.unledgered⟩
  · have hphase := hok.phase
    have houtcome := hok.outcomeAt
    have hstatus := hok.status
    rw [hstate] at hphase houtcome hstatus
    have hempty := hok.unsent (.inr hstate)
    refine ⟨hok.id, hok.sequence, hphase, hok.retiredAt, hok.reclaimedAt, ?_, hstatus, ?_,
      hok.lastPacket, ?_⟩
    · simpa [accepted, WqeState.retired] using houtcome
    · simp [accepted, WqeTimeline.packetsOrdered, hempty]
    · rintro (hunsent | hunsent) <;> cases hunsent
  · show ((queue.inflight.set token extent).map _).Perm _
    rw [Table.set_of_get?_none hnew extent, ← hextent]
    exact (perm_append_singleton (token, extent) queue.inflight).map fun item => item.2.wqeId
  · intro state hfrom hto
    cases state <;> first | rfl | contradiction
  · intro item hitem
    rcases Table.mem_set hitem with rfl | hitem
    · refine ⟨record.accepted token nowPs, ?_, rfl⟩
      refine (setWqe_wqe hrecord hnext extent.wqeId).trans ?_
      rw [if_pos hextent]
    · obtain ⟨found, hfound, htoken⟩ := h.flights.holder item hitem
      refine ⟨found, ?_, htoken⟩
      refine (setWqe_wqe hrecord hnext item.2.wqeId).trans ?_
      rw [if_neg]
      · exact hfound
      · exact (h.inState_of_owned .inFlight rfl
          (mem_map_of_mem hitem)).ne ⟨record, hrecord, hstate⟩ (by decide)
  · exact fun item hitem => attemptOwned_mono (h.flights.attempts item hitem) (hkept _)
      fun _ => mem_cons_of_mem _
  · intro item hitem
    obtain ⟨howned, hgone⟩ := h.flights.tombstones item hitem
    exact ⟨attemptOwned_mono howned (hkept _) fun _ => mem_cons_of_mem _, hgone⟩

def WqeRecord.outcomeMarked (record : WqeRecord) (atPs : Nat) (ecnMarked : Bool) : WqeRecord :=
  { record.outcomeAt atPs with ecnMarked := ecnMarked }

theorem Consistent.no_outcome (hrecord : queue.wqe wqeId = .ok record)
    (hstate : record.state ≠ .awaitingOrderedRetirement) :
    queue.pendingOutcomes.get? wqeId = none := by
  rw [Table.get?_eq_none_iff]
  intro hmem
  exact hstate (h.state_of_owned .awaitingOrderedRetirement rfl hmem hrecord)

theorem Consistent.outcome (ecnMarked : Bool) {outcome : PendingOutcome}
    {evidence : List EvidenceEvent} {ready : List Nat} {inflight : Table Nat InflightExtent}
    (hafter : after = { queue.setWqe wqeId (record.outcomeMarked atPs ecnMarked) with
      pendingOutcomes := queue.pendingOutcomes.set wqeId outcome
      evidence := evidence
      ready := ready
      inflight := inflight
      completedPacketAttempts := completed }) (hrecord : queue.wqe wqeId = .ok record)
    (hstate : record.state = state) (hold : state = .inFlight ∨ state = .doorbelled)
    (hwqe : outcome.event.wqeId = wqeId) (htime : outcome.event.eventTimePs = atPs)
    (hfailed : ∀ other, after.failed other = true ↔
      queue.failed other = true ∨ other = wqeId ∧ outcome.status ≠ .success)
    (hleave : (queue.owned state).Perm (wqeId :: after.owned state))
    (hothers : ∀ other, other ≠ state → other ≠ .awaitingOrderedRetirement →
      after.owned other = queue.owned other) (hflights : Flights after) :
    Consistent setup lastPs horizonPs polled lost after := by
  have hok := h.recordOk hrecord
  have hnext : (record.outcomeMarked atPs ecnMarked).wqeId = wqeId :=
    (WorkQueue.wqe_eq_ok.mp hrecord).2.2
  have hne : state ≠ .awaitingOrderedRetirement := by
    rcases hold with rfl | rfl <;> decide
  have hunretired : record.state.retired = false := by
    rcases hold with rfl | rfl <;> rw [hstate] <;> rfl
  have hset := Table.set_of_get?_none (h.no_outcome hrecord (hstate.trans_ne hne)) outcome
  subst hafter
  refine ⟨{ h.counted.setWqe _ _ with }, records_set h.records ?_,
    h.owned.transfer hrecord hnext rfl .awaitingOrderedRetirement hstate rfl hne hleave
      (.inr ⟨?_, rfl⟩) hothers, hflights, ?_, ?_, { h.cqes.setWqe hrecord hnext rfl rfl ?_ with },
        h.unledgered⟩
  · have hphase := hok.phase
    have hstatus := hok.status
    rw [hunretired] at hphase hstatus
    refine ⟨hok.id, hok.sequence, hphase, hok.retiredAt, hok.reclaimedAt, ?_, hstatus, hok.packets,
      hok.lastPacket, ?_⟩
    · simp [outcomeMarked, outcomeAt]
    · rintro (hunsent | hunsent) <;> cases hunsent
  · show (queue.pendingOutcomes.set wqeId outcome).keys.Perm _
    rw [hset]
    exact (perm_append_singleton _ _).map Prod.fst
  · intro item hitem
    rcases Table.mem_set hitem with rfl | hitem
    · refine ⟨hwqe, record.outcomeMarked atPs ecnMarked, ?_, by rw [htime]; rfl⟩
      refine (setWqe_wqe hrecord hnext wqeId).trans ?_
      rw [if_pos rfl]
    · obtain ⟨hids, found, hfound, htimes⟩ := h.outcomes item hitem
      refine ⟨hids, found, ?_, htimes⟩
      refine (setWqe_wqe hrecord hnext item.1).trans ?_
      rw [if_neg]
      · exact hfound
      · exact (h.inState_of_owned .awaitingOrderedRetirement rfl
          (mem_map_of_mem hitem)).ne ⟨record, hrecord, hstate⟩ hne.symm
  · intro other
    rw [hfailed, h.evidenced other]
    have hrecords := (exists_setWqe_iff hrecord hnext
      (P := fun found => found.completionStatus.any (· ≠ .success) = true) Iff.rfl other)
    constructor
    · rintro ((⟨found, hfound, hstatus⟩ | hfound) | ⟨rfl, hstatus⟩)
      · exact .inl ⟨found, by rw [hset]; exact mem_append_left _ hfound, hstatus⟩
      · exact .inr (hrecords.mpr hfound)
      · exact .inl ⟨outcome, by rw [hset]; simp, hstatus⟩
    · rintro (⟨found, hfound, hstatus⟩ | hfound)
      · rcases Table.mem_set hfound with heq | hfound
        · cases Prod.mk.inj heq with
          | intro hid hout =>
            subst hid hout
            exact .inr ⟨rfl, hstatus⟩
        · exact .inl (.inl ⟨found, hfound, hstatus⟩)
      · exact .inl (.inr (hrecords.mp hfound))
  · rw [hstate]
    rcases hold with rfl | rfl <;> simp [outcomeMarked, outcomeAt]

theorem Consistent.reject (outcome : PendingOutcome) (evidence : EvidenceEvent)
    (hready : queue.ready = wqeId :: rest) (hrecord : queue.wqe wqeId = .ok record)
    (hwqe : outcome.event.wqeId = wqeId) (htime : outcome.event.eventTimePs = atPs)
    (hstatus : outcome.status ≠ .success)
    (hevidence : evidence.wqeId = wqeId ∧ evidence.kind = .networkRejected) :
    Consistent setup lastPs horizonPs polled lost
      { queue.setWqe wqeId (record.outcomeAt atPs) with
        pendingOutcomes := queue.pendingOutcomes.set wqeId outcome
        evidence := queue.evidence ++ [evidence]
        ready := rest } := by
  have hstate : record.state = .doorbelled := h.state_of_owned _ rfl
    (show wqeId ∈ queue.ready by rw [hready]; exact mem_cons_self) hrecord
  have hnext : (record.outcomeAt atPs).wqeId = wqeId := (WorkQueue.wqe_eq_ok.mp hrecord).2.2
  refine h.outcome record.ecnMarked rfl hrecord hstate (.inr rfl) hwqe htime ?_ (.of_eq hready) ?_
    { h.flights.setWqe hrecord hnext rfl with }
  · intro other
    unfold failed
    rw [any_append, Bool.or_eq_true]
    refine or_congr Iff.rfl ?_
    simp only [any_cons, any_nil, hevidence.1, hevidence.2]
    simpa [hstatus] using eq_comm
  · intro state hfrom hto
    cases state <;> first | rfl | contradiction

theorem Consistent.terminate (ecnMarked dropped : Bool) (outcome : PendingOutcome)
    (evidence : EvidenceEvent) (hget : queue.inflight.get? token = some extent)
    (hextent : extent.wqeId = wqeId)
    (hdone : ∀ item ∈ queue.packetAttempts, item.2.extentToken ≠ token)
    (hrecord : queue.wqe wqeId = .ok record) (hwqe : outcome.event.wqeId = wqeId)
    (htime : outcome.event.eventTimePs = atPs)
    (hstatus : outcome.status = if dropped then .transportError else .success)
    (hevidence : evidence.wqeId = wqeId ∧ evidence.kind = .networkDrop) :
    Consistent setup lastPs horizonPs polled lost
      { queue.setWqe wqeId (record.outcomeMarked atPs ecnMarked) with
        pendingOutcomes := queue.pendingOutcomes.set wqeId outcome
        evidence := if dropped then queue.evidence ++ [evidence] else queue.evidence
        inflight := queue.inflight.erase token
        completedPacketAttempts :=
          queue.completedPacketAttempts.filter (·.2.extentToken != token) } := by
  have hnext : (record.outcomeMarked atPs ecnMarked).wqeId = wqeId :=
    (WorkQueue.wqe_eq_ok.mp hrecord).2.2
  have hstate : record.state = .inFlight := by
    refine h.state_of_owned _ rfl ?_ hrecord
    rw [← hextent]
    exact mem_map_of_mem (Table.mem_of_get? hget)
  have hkept : ∀ other found, other ≠ token → queue.inflight.get? other = some found →
      (queue.inflight.erase token).get? other = some found := by
    intro other found hne hfound
    rw [Table.get?_erase, if_neg hne.symm]
    exact hfound
  refine h.outcome ecnMarked rfl hrecord hstate (.inl rfl) hwqe htime ?_
    ?_ ?_ ?_
  · intro other
    cases dropped with
    | false => simp [hstatus]; rfl
    | true =>
      show (queue.evidence ++ [evidence]).any _ = true ↔ _
      rw [any_append, Bool.or_eq_true]
      refine or_congr Iff.rfl ?_
      simp only [any_cons, any_nil, hevidence.1, hevidence.2]
      simpa [hstatus] using eq_comm
  · rw [← hextent]
    exact (Table.perm_cons_erase h.flights.tokens hget).map fun item => item.2.wqeId
  · intro state hfrom hto
    cases state <;> first | rfl | contradiction
  · refine ⟨Table.erase_keys_nodup h.flights.tokens token, ?_, ?_, ?_⟩
    · intro item hitem
      exact (exists_setWqe_iff hrecord hnext Iff.rfl _).mpr
        (h.flights.holder item (Table.mem_erase.mp hitem).1)
    · intro item hitem
      exact attemptOwned_mono (h.flights.attempts item hitem)
        (fun found => hkept _ found (hdone item hitem)) fun _ hseen => hseen
    · intro item hitem
      obtain ⟨hitem, hne⟩ := mem_filter.mp hitem
      have hne : item.2.extentToken ≠ token := by simpa using hne
      obtain ⟨howned, hgone⟩ := h.flights.tombstones item hitem
      exact ⟨attemptOwned_mono howned (fun found => hkept _ found hne) fun _ hseen => hseen, hgone⟩

theorem Consistent.attempts {live : Table Nat PacketAttemptState} {seen : List Nat}
    (hlive : ∀ item ∈ live,
      { queue with seenNetworkTokens := seen : WorkQueue }.attemptOwned item = true)
    (hcompleted : ∀ item ∈ completed,
      { queue with seenNetworkTokens := seen : WorkQueue }.attemptOwned item = true ∧
        live.get? item.1 = none) : Consistent setup lastPs horizonPs polled lost
      { queue with
        packetAttempts := live
        completedPacketAttempts := completed
        seenNetworkTokens := seen } := by
  have hc := h.counted
  refine ⟨⟨hc.1, hc.2, hc.3, hc.4, hc.5, hc.6, hc.7, hc.8⟩, h.records,
    ⟨h.owned.nodup, h.owned.mem_iff⟩, ⟨h.flights.tokens, h.flights.holder, hlive, hcompleted⟩,
    h.outcomes, h.evidenced, ?_, h.unledgered⟩
  exact { h.cqes with numbered := h.cqes.numbered }

theorem Consistent.startAttempt {event : NetworkEvent}
    (hget : queue.inflight.get? event.parentToken = some extent) (hwqe : extent.wqeId = event.wqeId)
    (hnew : queue.completedPacketAttempts.get? event.token = none) :
    Consistent setup lastPs horizonPs polled lost
      { queue with
        seenNetworkTokens := event.token :: queue.seenNetworkTokens
        packetAttempts :=
          queue.packetAttempts.set event.token ⟨event.parentToken, event, false, false⟩ } := by
  refine h.attempts ?_ ?_
  · intro item hitem
    rcases Table.mem_set hitem with rfl | hitem
    · exact WorkQueue.attemptOwned_iff.mpr ⟨extent, hget, rfl, rfl, hwqe.symm, by simp⟩
    · exact attemptOwned_mono (h.flights.attempts item hitem) (fun _ hfound => hfound)
        fun _ => mem_cons_of_mem _
  · intro item hitem
    obtain ⟨howned, hgone⟩ := h.flights.tombstones item hitem
    refine ⟨attemptOwned_mono howned (fun _ hfound => hfound) fun _ => mem_cons_of_mem _, ?_⟩
    rw [Table.get?_set, if_neg]
    · exact hgone
    · intro heq
      have hkeys := Table.get?_eq_none_iff.mp hnew
      exact hkeys (heq ▸ mem_map_of_mem hitem)

theorem Consistent.advanceAttempt {next : PacketAttemptState}
    (hget : queue.packetAttempts.get? token = some attempt)
    (hsame : next.extentToken = attempt.extentToken ∧ next.started = attempt.started) :
    Consistent setup lastPs horizonPs polled lost
      { queue with packetAttempts := queue.packetAttempts.set token next } := by
  refine h.attempts ?_ ?_
  · intro item hitem
    rcases Table.mem_set hitem with rfl | hitem
    · have howned := h.flights.attempts _ (Table.mem_of_get? hget)
      unfold attemptOwned at howned ⊢
      rw [hsame.1, hsame.2]
      exact howned
    · exact h.flights.attempts item hitem
  · intro item hitem
    obtain ⟨howned, hgone⟩ := h.flights.tombstones item hitem
    refine ⟨howned, ?_⟩
    rw [Table.get?_set, if_neg]
    · exact hgone
    · rintro rfl
      rw [hget] at hgone
      cases hgone

theorem Consistent.completeAttempt (hget : queue.packetAttempts.get? token = some attempt) :
    Consistent setup lastPs horizonPs polled lost
      { queue with
        completedPacketAttempts := queue.completedPacketAttempts.set token attempt
        packetAttempts := queue.packetAttempts.erase token } := by
  refine h.attempts ?_ ?_
  · exact fun item hitem => h.flights.attempts item (Table.mem_erase.mp hitem).1
  · intro item hitem
    rcases Table.mem_set hitem with rfl | hitem
    · refine ⟨h.flights.attempts _ (Table.mem_of_get? hget), ?_⟩
      rw [Table.get?_erase, if_pos rfl]
    · obtain ⟨howned, hgone⟩ := h.flights.tombstones item hitem
      refine ⟨howned, ?_⟩
      rw [Table.get?_erase]
      split
      next => rfl
      next => exact hgone

end Invariant

end SimLLM.Rnic
