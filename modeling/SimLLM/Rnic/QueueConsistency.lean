import SimLLM.Rnic.QueueRun

namespace SimLLM.Rnic

open List

variable {state : WqeState} {done counts : List Nat} {states : List WqeState}

variable {φ : Type} {setup : WorkQueueSetup} {polled : List CompletionEntry}
  {lost : Option CompletionEntry} {lastPs horizonPs : Nat} {queue : WorkQueue}

structure CountsOf (length : Nat) (done counts : List Nat) : Prop where
  length_eq : counts.length = length
  count : ∀ index < length, counts.getD index 0 = if index + 1 ∈ done then 1 else 0

theorem markOwned_ok {wqeId : Nat} (hcounts : CountsOf queue.records.length done counts)
    (hin : InState queue wqeId state) (hnew : wqeId ∉ done) :
    ∃ next, queue.markOwned state counts wqeId = .ok next ∧
      CountsOf queue.records.length (done ++ [wqeId]) next := by
  obtain ⟨record, hrecord, hstate⟩ := hin
  obtain ⟨hne, hget, _⟩ := WorkQueue.wqe_eq_ok.mp hrecord
  have hlt := (List.getElem?_eq_some_iff.mp hget).1
  have hsucc : wqeId - 1 + 1 = wqeId := by omega
  have hzero : counts.getD (wqeId - 1) 0 = 0 := by
    rw [hcounts.count (wqeId - 1) hlt, hsucc, if_neg hnew]
  refine ⟨counts.set (wqeId - 1) 1, ?_, ?_, ?_⟩
  · unfold WorkQueue.markOwned
    rw [hrecord, hzero]
    simp [require, hstate]
  · rw [length_set]
    exact hcounts.length_eq
  · intro index hindex
    have hbound : wqeId - 1 < counts.length := by rw [hcounts.length_eq]; exact hlt
    by_cases hsame : wqeId - 1 = index
    · subst hsame
      simp [getD_eq_getElem?_getD, getElem?_set_self hbound, hsucc]
    · have hother : index + 1 ≠ wqeId := by omega
      rw [getD_eq_getElem?_getD, getElem?_set_ne hsame, ← getD_eq_getElem?_getD,
        hcounts.count index hindex]
      simp [hother]

def WorkQueue.ownedBy (queue : WorkQueue) (states : List WqeState) : List Nat :=
  states.flatMap queue.owned

variable {α : Type} {id : α → Nat} {items : List α}

theorem foldlM_marks {mark : List Nat → α → Except CppError (List Nat)}
    (hcounts : CountsOf queue.records.length done counts)
    (hmark : ∀ counts, ∀ item ∈ items, mark counts item = queue.markOwned state counts (id item))
    (hin : ∀ item ∈ items, InState queue (id item) state) (hnodup : (done ++ items.map id).Nodup) :
    ∃ next, items.foldlM mark counts = .ok next ∧
      CountsOf queue.records.length (done ++ items.map id) next := by
  induction items generalizing done counts with
  | nil => exact ⟨counts, rfl, by simpa using hcounts⟩
  | cons item rest ih =>
    have hnew : id item ∉ done := by
      intro hmem
      exact (nodup_append.mp hnodup).2.2 _ hmem _ mem_cons_self rfl
    obtain ⟨next, hnext, hcounted⟩ := markOwned_ok hcounts (hin item mem_cons_self) hnew
    have hlist : done ++ [id item] ++ rest.map id = done ++ (item :: rest).map id := by simp
    obtain ⟨last, hlast, hall⟩ := ih hcounted
      (fun counts other hother => hmark counts other (mem_cons_of_mem _ hother))
      (fun other hother => hin other (mem_cons_of_mem _ hother)) (by rw [hlist]; exact hnodup)
    refine ⟨last, ?_, hlist ▸ hall⟩
    rw [foldlM_cons, hmark counts item mem_cons_self, hnext]
    exact hlast

theorem Owned.ownedBy_nodup (h : Owned queue) (hstates : states.Nodup)
    (hneeds : ∀ state ∈ states, state.needsOwner = true) : (queue.ownedBy states).Nodup := by
  refine nodup_flatMap.mpr ⟨fun state _ => h.nodup state, ?_⟩
  refine List.Pairwise.imp_of_mem ?_ hstates
  intro state other hstate hother hne wqeId hmem hmem'
  have hin := (h.mem_iff state (hneeds state hstate) wqeId).mp hmem
  exact hne (hin.unique ((h.mem_iff other (hneeds other hother) wqeId).mp hmem'))

def ownerStates : List WqeState :=
  [.posted, .doorbelled, .inFlight, .awaitingOrderedRetirement, .completionPending, .cqeVisible]

theorem mem_ownerStates : state ∈ ownerStates ↔ state.needsOwner = true := by
  cases state <;> decide

theorem Owned.mark (h : Owned queue) (mark : List Nat → α → Except CppError (List Nat))
    (hcounts : CountsOf queue.records.length (queue.ownedBy states) counts)
    (hitems : items.map id = queue.owned state) (hstates : states ++ [state] <+: ownerStates)
    (hmark : ∀ counts, ∀ item ∈ items, mark counts item = queue.markOwned state counts (id item)) :
    ∃ next, items.foldlM mark counts = .ok next ∧
      CountsOf queue.records.length (queue.ownedBy (states ++ [state])) next := by
  have hlist : queue.ownedBy (states ++ [state]) = queue.ownedBy states ++ items.map id := by
    simp [WorkQueue.ownedBy, hitems]
  have hneeds := fun other hother => mem_ownerStates.mp (hstates.subset (a := other) hother)
  rw [hlist]
  refine foldlM_marks hcounts hmark ?_
    (hlist ▸ h.ownedBy_nodup (hstates.sublist.nodup (by decide)) hneeds)
  intro item hitem
  refine (h.mem_iff state (hneeds state (by simp)) _).mp ?_
  rw [← hitems]
  exact mem_map_of_mem hitem

theorem Consistent.ownerCounts (h : Consistent setup lastPs horizonPs polled lost queue) :
    ∃ counts, queue.ownerCounts = .ok counts ∧
      CountsOf queue.records.length (queue.ownedBy ownerStates) counts := by
  have hstart : CountsOf queue.records.length (queue.ownedBy [])
    (List.replicate queue.records.length 0) := by
    refine ⟨length_replicate, ?_⟩
    intro index hindex
    simp [WorkQueue.ownedBy, getD_eq_getElem?_getD, hindex]
  obtain ⟨c₁, h₁, hc₁⟩ := h.owned.mark (queue.markOwned .posted) hstart (map_id queue.unpublished)
    (by decide) fun _ _ _ => rfl
  obtain ⟨c₂, h₂, hc₂⟩ := h.owned.mark (queue.markOwned .doorbelled) hc₁ (map_id queue.ready)
    (by decide) fun _ _ _ => rfl
  have hinflight : ∀ counts, ∀ item ∈ queue.inflight, queue.markInflight counts item =
      queue.markOwned .inFlight counts item.2.wqeId := by
    intro counts item hitem
    obtain ⟨record, hrecord, htoken⟩ := h.flights.holder item hitem
    unfold WorkQueue.markInflight
    rw [hrecord]
    simp [require, htoken]
  obtain ⟨c₃, h₃, hc₃⟩ := h.owned.mark queue.markInflight hc₂
    (show queue.inflight.map (·.2.wqeId) = _ from rfl) (by decide) hinflight
  have houtcomes : ∀ counts, ∀ item ∈ queue.pendingOutcomes, queue.markOutcome counts item =
      queue.markOwned .awaitingOrderedRetirement counts item.1 := by
    intro counts item hitem
    have hid := (h.outcomes item hitem).1
    unfold WorkQueue.markOutcome
    simp [require, hid]
  obtain ⟨c₄, h₄, hc₄⟩ := h.owned.mark queue.markOutcome hc₃
    (show queue.pendingOutcomes.map (·.1) = _ from rfl) (by decide) houtcomes
  have hpending : ∀ counts, ∀ item ∈ queue.pendingCqes, queue.markPendingCqe counts item =
      queue.markOwned .completionPending counts item.2.wqeId := by
    intro counts item hitem
    have hkey := h.cqes.keys item hitem
    unfold WorkQueue.markPendingCqe
    simp [require, hkey]
  obtain ⟨c₅, h₅, hc₅⟩ := h.owned.mark queue.markPendingCqe hc₄
    (show queue.pendingCqes.map (·.2.wqeId) = _ from rfl) (by decide) hpending
  obtain ⟨c₆, h₆, hc₆⟩ := h.owned.mark (queue.markOwned .cqeVisible) hc₅
    (map_id (queue.cq.map (·.wqeId))) (by decide) fun _ _ _ => rfl
  have hattempts : (queue.packetAttempts.forM fun item => require (queue.attemptOwned item)
      (logicError "RNIC packet-attempt ownership accounting mismatch")) = .ok () :=
    forM_eq_ok.mpr fun item hitem => require_eq_ok.mpr (h.flights.attempts item hitem)
  have htombstones : (queue.completedPacketAttempts.forM fun item => require
      (queue.attemptOwned item && (queue.packetAttempts.get? item.1).isNone)
      (logicError "RNIC completed packet tombstone accounting mismatch")) = .ok () := by
    refine forM_eq_ok.mpr fun item hitem => require_eq_ok.mpr ?_
    obtain ⟨howned, hgone⟩ := h.flights.tombstones item hitem
    simp [howned, hgone]
  refine ⟨c₆, ?_, hc₆⟩
  unfold WorkQueue.ownerCounts
  rw [h₁, ok_bind, h₂, ok_bind, h₃, ok_bind, hattempts, ok_bind,
    htombstones, ok_bind, h₄, ok_bind, h₅, ok_bind]
  exact h₆

theorem countP_eq_of_lt {p : α → Bool} {l : List α} {k : Nat} (hk : k ≤ l.length)
    (h : ∀ i a, l[i]? = some a → (p a = true ↔ i < k)) : l.countP p = k := by
  have htake : (l.take k).countP p = k := by
    rw [countP_eq_length.mpr]
    · simp [hk]
    · intro a ha
      obtain ⟨i, hi⟩ := mem_iff_getElem?.mp ha
      rw [getElem?_take] at hi
      split at hi
      next hlt => exact (h i a hi).mpr hlt
      next => cases hi
  have hdrop : (l.drop k).countP p = 0 := by
    rw [countP_eq_zero]
    intro a ha hp
    obtain ⟨i, hi⟩ := mem_iff_getElem?.mp ha
    rw [getElem?_drop] at hi
    have := (h (k + i) a hi).mp hp
    omega
  calc l.countP p = (l.take k ++ l.drop k).countP p := by rw [take_append_drop]
    _ = k := by rw [countP_append, htake, hdrop, Nat.add_zero]

section

variable (h : Consistent setup lastPs horizonPs polled lost queue)

include h

theorem Consistent.validateRecord
    (hcounts : CountsOf queue.records.length (queue.ownedBy ownerStates) counts) {index : Nat}
    {record : WqeRecord} (hget : queue.records[index]? = some record) :
    validateRecord counts (record, index) = .ok () := by
  have hok := h.records index record hget
  have hlt := (List.getElem?_eq_some_iff.mp hget).1
  have hreclaimed : (record.timeline.sqReclaimedAtPs.isNone ||
      record.timeline.transportRetiredAtPs.isSome) = true := by
    cases hat : record.timeline.sqReclaimedAtPs with
    | none => rfl
    | some atPs =>
      have hbefore := hok.reclaimedAt.mp (by rw [hat]; rfl)
      have hretired := h.counted.reclaimedRetired
      rw [hok.retiredAt.mpr (by omega)]
      rfl
  have hmem : index + 1 ∈ queue.ownedBy ownerStates ↔ record.state.needsOwner = true := by
    have hin : InState queue (index + 1) record.state := ⟨record, h.wqe_of_get hget, rfl⟩
    unfold WorkQueue.ownedBy
    rw [mem_flatMap]
    constructor
    · rintro ⟨state, hstate, howned⟩
      have hneeds := mem_ownerStates.mp hstate
      rw [hin.unique ((h.owned.mem_iff state hneeds _).mp howned)]
      exact hneeds
    · exact fun hneeds => ⟨record.state, mem_ownerStates.mpr hneeds,
        (h.owned.mem_iff record.state hneeds _).mpr hin⟩
  have hcount : counts.getD index 0 = if record.state.needsOwner then 1 else 0 := by
    rw [hcounts.count index hlt]
    simp only [hmem]
  unfold Rnic.validateRecord
  simp only [require, hok.id, hok.sequence, hreclaimed, hok.packets, hcount, beq_self_eq_true,
    Bool.and_self, ↓reduceIte, ok_bind]

theorem Consistent.reclaimed_count :
    queue.records.countP (·.timeline.sqReclaimedAtPs.isSome) = queue.sqReclaimedThrough := by
  have hoccupied := h.counted.occupied
  exact countP_eq_of_lt (by omega) fun index record hget =>
    (h.records index record hget).reclaimedAt

theorem Consistent.validateLost : queue.validateLost = .ok () := by
  unfold WorkQueue.validateLost
  rw [h.cqes.lostAt]
  cases lost with
  | none => rfl
  | some entry =>
    obtain ⟨record, hrecord, hstate⟩ := h.cqes.lostState entry rfl
    have hmem : entry ∈ queue.cqes polled (some entry) := by simp [WorkQueue.cqes]
    rw [h.cqes.numbered.wqes entry hmem] at hrecord
    have hlt := h.lastPolled_lt (show entry ∈ _ by simp)
    have hle := h.cqes.reclaimed
    have hnone : record.timeline.sqReclaimedAtPs = none := by
      have hok := (h.recordOk hrecord).reclaimedAt
      cases hat : record.timeline.sqReclaimedAtPs with
      | none => rfl
      | some atPs =>
        rw [hat] at hok
        have := hok.mp rfl
        omega
    simp [hrecord, hstate, hnone, require]

theorem Consistent.validateInvariants
    (hsettled : Settled polled queue) (hscalar : setup.pcie = none) :
    queue.validateInvariants setup = .ok () := by
  obtain ⟨haccesses, hsubmissions, hconsumptions⟩ := h.unledgered hscalar
  obtain ⟨counts, hcounts, hcounted⟩ := h.ownerCounts
  have hrecords : queue.records.zipIdx.forM (Rnic.validateRecord counts) = .ok () := by
    refine forM_eq_ok.mpr ?_
    rintro ⟨record, index⟩ hmem
    exact h.validateRecord hcounted (mem_zipIdx_iff_getElem?.mp hmem)
  have hledgers : queue.validateLedgers setup = .ok () := by
    unfold WorkQueue.validateLedgers
    rw [hscalar, hsubmissions, hconsumptions]
    rfl
  have hoccupied := h.counted.occupied
  have hvisible := h.cqes.visibleCount
  have hpolled := hsettled.polledCount
  have hfatal : (queue.fatal == queue.fatalLostSqSequence.isSome) = true := by
    rw [h.cqes.fatal, h.cqes.lostAt]
    cases lost <;> rfl
  have hcount := h.reclaimed_count
  have hreclaimed := h.counted.reclaimed
  refine bind_eq_ok.mpr ⟨(), require_eq_ok.mpr (by simpa using h.counted.fits), ?_⟩
  refine bind_eq_ok.mpr ⟨(), require_eq_ok.mpr (by simpa using h.cqes.room), ?_⟩
  refine bind_eq_ok.mpr ⟨(), require_eq_ok.mpr (by simpa using h.counted.posted), ?_⟩
  refine bind_eq_ok.mpr ⟨(), require_eq_ok.mpr (by simp [haccesses]), ?_⟩
  refine bind_eq_ok.mpr ⟨(), by rw [haccesses]; rfl, ?_⟩
  refine bind_eq_ok.mpr ⟨(), hledgers, ?_⟩
  refine bind_eq_ok.mpr ⟨counts, hcounts, ?_⟩
  refine bind_eq_ok.mpr ⟨(), hrecords, ?_⟩
  refine bind_eq_ok.mpr ⟨(), require_eq_ok.mpr ?_, ?_⟩
  · simp only [hcount, hreclaimed, beq_self_eq_true, Bool.and_true, beq_iff_eq]
    omega
  refine bind_eq_ok.mpr ⟨(), require_eq_ok.mpr ?_, ?_⟩
  · simp only [Bool.and_eq_true, decide_eq_true_eq, beq_iff_eq]
    omega
  refine bind_eq_ok.mpr ⟨(), require_eq_ok.mpr hfatal, ?_⟩
  exact h.validateLost

end

/-- Whatever was called on a scalar queue and whatever the port answered, the queue validates:
each WQE is in the one container of its state, the occupied entries are the unreclaimed WQEs,
both rings fit, and each packet attempt belongs to an extent in flight. -/
theorem validateInvariants_run (service : PcieService φ) (setup : WorkQueueSetup)
    (fabric : PcieFabric φ) (actions : List QueueAction) (hscalar : setup.pcie = none) :
    let queue := (QueueRun.start service setup fabric actions).session.queue
    queue.validateInvariants setup = .ok () ∧
      Owned queue ∧
      queue.occupiedSqEntries = queue.records.countP (·.timeline.sqReclaimedAtPs.isNone) ∧
      queue.occupiedSqEntries ≤ setup.config.sqDepth ∧
      queue.cq.length ≤ setup.config.cqDepth ∧
      ∀ item ∈ queue.packetAttempts ++ queue.completedPacketAttempts,
        (queue.inflight.get? item.2.extentToken).isSome = true := by
  intro queue
  obtain ⟨lost, hinv⟩ := QueueRun.inv_start service setup fabric actions
  have h := hinv.consistent
  refine ⟨h.validateInvariants hinv.settled hscalar, h.owned, ?_, h.counted.fits, h.cqes.room, ?_⟩
  · have hoccupied := h.counted.occupied
    have hcount := h.reclaimed_count
    have hsplit : queue.records.length = queue.records.countP (·.timeline.sqReclaimedAtPs.isSome) +
        queue.records.countP (·.timeline.sqReclaimedAtPs.isNone) := by
      rw [length_eq_countP_add_countP (·.timeline.sqReclaimedAtPs.isSome)]
      congr 2
      funext record
      cases record.timeline.sqReclaimedAtPs <;> rfl
    have hoccupied : queue.occupiedSqEntries + queue.sqReclaimedThrough = queue.records.length :=
      hoccupied
    have hcount : queue.records.countP (·.timeline.sqReclaimedAtPs.isSome) =
        queue.sqReclaimedThrough := hcount
    omega
  · intro item hitem
    have howned : queue.attemptOwned item = true := by
      rcases mem_append.mp hitem with hitem | hitem
      · exact h.flights.attempts item hitem
      · exact (h.flights.tombstones item hitem).1
    obtain ⟨extent, hextent, _⟩ := WorkQueue.attemptOwned_iff.mp howned
    rw [hextent]
    rfl

def smallSetup : WorkQueueSetup := scalarSetup 2 1 (by decide)

def rejectingPort : NetworkPort where
  trySubmit := fun _ _ _ => {
    status := .rejected, rejectionLocation := .txPort, rejectionReason := .policyRejected }

def overrunActions : List QueueAction :=
  [.call {} (.post {} 0), .call {} (.post {} 0), .call {} (.doorbell 0 none),
    .call {} (.progress rejectingPort 0)]

theorem validateInvariants_run_overrun :
    let queue := (QueueRun.start promptService smallSetup promptFabric overrunActions).session.queue
    queue.fatal = true ∧ queue.validateInvariants smallSetup = .ok () :=
  ⟨by decide +kernel,
    (validateInvariants_run promptService smallSetup promptFabric overrunActions rfl).1⟩

end SimLLM.Rnic
