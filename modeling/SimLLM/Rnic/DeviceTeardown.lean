import SimLLM.Rnic.PeerMemory
import SimLLM.Rnic.QueueRun

namespace SimLLM.Rnic

open List

variable {φ : Type} {queue : WorkQueue} {setup : WorkQueueSetup} {lastPs horizonPs : Nat}
  {polled : List CompletionEntry} {lost : Option CompletionEntry}

theorem WqeState.retired_of_free {state : WqeState} (hfree : state.needsOwner = false) :
    state.retired = true := by
  cases state <;> first | rfl | cases hfree

theorem WorkQueue.hasPendingPhysicalWork_iff : queue.hasPendingPhysicalWork = false ↔
    queue.fatal = false ∧ queue.packetAttempts = [] ∧
      ∀ state, state.needsOwner = true → queue.owned state = [] := by
  simp only [hasPendingPhysicalWork, Bool.or_eq_false_iff, Bool.not_eq_false', List.isEmpty_iff]
  constructor
  · intro hidle
    refine ⟨by simp [hidle], by simp [hidle], fun state _ => ?_⟩
    cases state <;> simp [owned, Table.keys, hidle]
  · rintro ⟨hfatal, hattempts, hempty⟩
    have hposted := hempty .posted rfl
    have hrung := hempty .doorbelled rfl
    have hflying := map_eq_nil_iff.mp (hempty .inFlight rfl)
    have hawaiting := map_eq_nil_iff.mp (hempty .awaitingOrderedRetirement rfl)
    have hpending := map_eq_nil_iff.mp (hempty .completionPending rfl)
    have hvisible := map_eq_nil_iff.mp (hempty .cqeVisible rfl)
    exact ⟨⟨⟨⟨⟨⟨⟨hfatal, hposted⟩, hrung⟩, hflying⟩, hattempts⟩, hawaiting⟩, hpending⟩, hvisible⟩

section Idle

variable (h : Consistent setup lastPs horizonPs polled lost queue)

include h

theorem Consistent.idle_of_free (hfatal : queue.fatal = false)
    (hfree : ∀ wqeId record, queue.wqe wqeId = .ok record → record.state.needsOwner = false) :
    queue.hasPendingPhysicalWork = false := by
  have hempty : ∀ state, state.needsOwner = true → queue.owned state = [] := by
    intro state hneeds
    refine eq_nil_iff_forall_not_mem.mpr fun wqeId hmem => ?_
    obtain ⟨record, hrecord, rfl⟩ := (h.owned.mem_iff state hneeds wqeId).mp hmem
    rw [hfree wqeId record hrecord] at hneeds
    cases hneeds
  refine WorkQueue.hasPendingPhysicalWork_iff.mpr ⟨hfatal, ?_, hempty⟩
  refine eq_nil_iff_forall_not_mem.mpr fun item hitem => ?_
  obtain ⟨extent, hextent, -⟩ := WorkQueue.attemptOwned_iff.mp (h.flights.attempts item hitem)
  rw [map_eq_nil_iff.mp (hempty .inFlight rfl)] at hextent
  cases hextent

theorem Consistent.idle_iff : queue.hasPendingPhysicalWork = false ↔
    queue.fatal = false ∧ queue.nextRetireSequence = queue.records.length + 1 ∧
      polled.map (·.sqSequence) = queue.completing := by
  have hsequences := h.cqes.numbered.sequences
  have hbound := h.counted.retiredPosted
  have hreclaimed := h.counted.reclaimedRetired
  constructor
  · intro hidle
    obtain ⟨hfatal, -, hempty⟩ := WorkQueue.hasPendingPhysicalWork_iff.mp hidle
    refine ⟨hfatal, ?_, ?_⟩
    · -- the next WQE in order would have no owner
      by_contra hlate
      obtain ⟨record, hget⟩ : ∃ record, queue.records[queue.nextRetireSequence - 1]? = some record :=
        ⟨_, getElem?_eq_getElem (by omega)⟩
      have hok := h.records _ _ hget
      have hfree : record.state.needsOwner = false := by
        by_contra hneeds
        have hid := hok.id
        have hmem := (h.owned.mem_iff record.state (by simpa using hneeds) _).mpr
          ⟨record, WorkQueue.wqe_eq_ok.mpr ⟨by omega, hget, by omega⟩, rfl⟩
        rw [hempty record.state (by simpa using hneeds)] at hmem
        cases hmem
      have hpast := hok.phase.mp (WqeState.retired_of_free hfree)
      omega
    · have hpending := map_eq_nil_iff.mp (hempty .completionPending rfl)
      have hvisible := map_eq_nil_iff.mp (hempty .cqeVisible rfl)
      have hlost : lost = none := by simpa [hfatal] using h.cqes.fatal
      rw [← hsequences, WorkQueue.cqes, hlost, hpending, hvisible]
      simp
  · rintro ⟨hfatal, hretired, hpolled⟩
    have hcounts := congrArg length (hpolled.trans hsequences.symm)
    simp only [WorkQueue.cqes, length_map, length_append] at hcounts
    refine h.idle_of_free hfatal fun wqeId record hrecord => ?_
    by_contra hneeds
    have hmem := (h.owned.mem_iff record.state (by simpa using hneeds) wqeId).mpr
      ⟨record, hrecord, rfl⟩
    have hdone : record.state.retired = true := by
      obtain ⟨hlt, -⟩ := List.getElem?_eq_some_iff.mp (WorkQueue.wqe_eq_ok.mp hrecord).2.1
      exact (h.recordOk hrecord).phase.mpr (by omega)
    have hpos := length_pos_of_mem hmem
    cases hstate : record.state with
    | completionPending | cqeVisible =>
      rw [hstate] at hpos
      simp only [WorkQueue.owned, length_map] at hpos
      omega
    | posted | doorbelled | inFlight | awaitingOrderedRetirement =>
      rw [hstate] at hdone
      cases hdone
    | retiredUnsignaled | reclaimed | completed | error =>
      rw [hstate] at hmem
      cases hmem

end Idle

end SimLLM.Rnic
