import SimLLM.Rnic.CompletionSteps

namespace SimLLM.Rnic

open List

variable {setup : WorkQueueSetup} {lastPs horizonPs : Nat} {polled : List CompletionEntry}
  {lost : Option CompletionEntry} {queue : WorkQueue}

theorem filterMap_set_last {α β : Type} {f : α → Option β} {l : List α} {i : Nat} {a b : α}
    (hget : l[i]? = some a) (hold : f a = none)
    (hlater : ∀ j c, i < j → l[j]? = some c → f c = none) :
    (l.set i b).filterMap f = l.filterMap f ++ (f b).toList := by
  obtain ⟨hi, rfl⟩ := List.getElem?_eq_some_iff.mp hget
  have hdrop : (l.drop (i + 1)).filterMap f = [] := by
    rw [filterMap_eq_nil_iff]
    intro c hc
    obtain ⟨j, hj⟩ := mem_iff_getElem?.mp hc
    rw [getElem?_drop] at hj
    exact hlater (i + 1 + j) c (by omega) hj
  have hbefore : l.filterMap f = (l.take i).filterMap f := by
    conv_lhs => rw [← take_append_drop i l, drop_eq_getElem_cons hi]
    rw [filterMap_append, filterMap_cons_none hold, hdrop, append_nil]
  rw [set_eq_take_append_cons_drop, if_pos hi, filterMap_append, hbefore]
  cases hb : f b with
  | none => rw [filterMap_cons_none hb, hdrop]; rfl
  | some x => rw [filterMap_cons_some hb, hdrop]; rfl

theorem Consistent.unretired_completes (h : Consistent setup lastPs horizonPs polled lost queue)
    {index : Nat} {record : WqeRecord} (hget : queue.records[index]? = some record)
    (hle : queue.nextRetireSequence ≤ index + 1) : record.completes = false := by
  have hok := h.records index record hget
  have hstate : record.state.retired = false := by
    rw [← Bool.not_eq_true, hok.phase]
    omega
  simp [WqeRecord.completes, hok.status_none hstate]

def WorkQueue.retireNext (queue : WorkQueue) (record : WqeRecord) (item : PlannedRetirement)
    (added : Option CompletionEntry) : WorkQueue :=
  { queue.setWqe queue.nextRetireSequence (record.retired item) with
    pendingOutcomes := queue.pendingOutcomes.erase queue.nextRetireSequence
    pendingCqes := queue.pendingCqes ++
      added.toList.map fun entry => ((entry.visibleAtPs, entry.cqeSequence), entry)
    nextCqeSequence := queue.nextCqeSequence + added.toList.length
    nextRetireSequence := queue.nextRetireSequence + 1 }

theorem Numbered.append {completing : List Nat} {nextCqe sequence : Nat}
    {entries : List CompletionEntry} (h : Numbered completing nextCqe entries)
    (added : Option CompletionEntry) (hadded : ∀ entry ∈ added, entry.sqSequence = sequence ∧
      entry.wqeId = sequence ∧ entry.cqeSequence = nextCqe) :
    Numbered (completing ++ if added.isSome then [sequence] else [])
      (nextCqe + added.toList.length) (entries ++ added.toList) := by
  cases added with
  | none =>
    simpa using h
  | some entry =>
    obtain ⟨hsequence, hwqe, hnumber⟩ := hadded entry rfl
    have hnext := h.next
    refine ⟨?_, ?_, ?_, ?_⟩
    · simp [h.sequences, hsequence]
    · simp [h.numbers, hnumber, hnext, List.range'_1_concat, Nat.add_comm]
    · simp [hnext]
    · exact forall_mem_concat h.wqes (by rw [hwqe, hsequence])

structure Retires (queue : WorkQueue) (record : WqeRecord) (outcome : PendingOutcome)
    (item : PlannedRetirement) (added : Option CompletionEntry) : Prop where
  found : queue.wqe queue.nextRetireSequence = .ok record
  held : queue.pendingOutcomes.get? queue.nextRetireSequence = some outcome
  status : item.status = outcome.status
  pending : item.completionPending = completionPending record.request outcome.status
  adds : added.isSome = item.completionPending
  entry : ∀ entry ∈ added, entry.sqSequence = queue.nextRetireSequence ∧
    entry.wqeId = queue.nextRetireSequence ∧ entry.cqeSequence = queue.nextCqeSequence

section RetireNext

variable (h : Consistent setup lastPs horizonPs polled lost queue) {record : WqeRecord}
  {outcome : PendingOutcome} {item : PlannedRetirement} {added : Option CompletionEntry}
  (hretires : Retires queue record outcome item added)
include h hretires

theorem Consistent.retires_state : record.state = .awaitingOrderedRetirement :=
  h.state_of_owned .awaitingOrderedRetirement rfl
    (mem_map_of_mem (Table.mem_of_get? hretires.held)) hretires.found

theorem Consistent.retireNext_records : ∀ index found,
    (queue.retireNext record item added).records[index]? = some found →
    RecordOk queue.sqReclaimedThrough (queue.nextRetireSequence + 1) lastPs index found := by
  have hok := h.recordOk hretires.found
  have hstate := h.retires_state hretires
  obtain ⟨hne, hget, _⟩ := WorkQueue.wqe_eq_ok.mp hretires.found
  have hlength := (List.getElem?_eq_some_iff.mp hget).1
  have hretired : (record.retired item).state.retired = true := by
    show (if item.completionPending then _ else _ : WqeState).retired = true
    split <;> rfl
  show ∀ index found, (queue.records.set _ _)[index]? = some found → _
  intro index found hfound
  by_cases hindex : queue.nextRetireSequence - 1 = index
  · subst hindex
    rw [getElem?_set_self hlength] at hfound
    cases hfound
    have hlt : queue.nextRetireSequence - 1 + 1 < queue.nextRetireSequence + 1 := by omega
    refine ⟨hok.id, hok.sequence, ⟨fun _ => hlt, fun _ => hretired⟩, ⟨fun _ => hlt, fun _ => rfl⟩,
      hok.reclaimedAt, ?_, ⟨fun _ => hretired, fun _ => rfl⟩, hok.packets, hok.lastPacket, ?_⟩
    · exact ⟨fun _ => .inl hretired, fun _ => hok.outcomeAt.mpr (.inr hstate)⟩
    · rintro (hunsent | hunsent) <;> rw [hunsent] at hretired <;> cases hretired
  · rw [getElem?_set_ne hindex] at hfound
    have hfound := h.records index found hfound
    have hcursor : index + 1 < queue.nextRetireSequence ↔
        index + 1 < queue.nextRetireSequence + 1 := by omega
    exact { hfound with
      phase := hfound.phase.trans hcursor
      retiredAt := hfound.retiredAt.trans hcursor }

theorem Consistent.retireNext_owned : Owned (queue.retireNext record item added) := by
  have hnext : (record.retired item).wqeId = queue.nextRetireSequence :=
    (WorkQueue.wqe_eq_ok.mp hretires.found).2.2
  have hstate := h.retires_state hretires
  have hleave :=
    (Table.perm_cons_erase (h.owned.nodup .awaitingOrderedRetirement) hretires.held).map Prod.fst
  have hnextState : (record.retired item).state =
      if added.isSome then .completionPending else .retiredUnsignaled := by
    rw [hretires.adds]
    rfl
  cases added with
  | none =>
    refine h.owned.transfer hretires.found hnext rfl .retiredUnsignaled hstate hnextState
      (by decide) hleave (.inl ⟨rfl, rfl⟩) ?_
    intro state hfrom hto
    cases state <;> first
      | rfl | contradiction | exact congrArg (·.map (·.2.wqeId)) (append_nil queue.pendingCqes)
  | some entry =>
    refine h.owned.transfer hretires.found hnext rfl .completionPending hstate hnextState
      (by decide) hleave (.inr ⟨?_, rfl⟩) ?_
    · show ((queue.pendingCqes ++ [_]).map _).Perm _
      rw [← (hretires.entry entry rfl).2.1]
      exact (perm_append_singleton ((entry.visibleAtPs, entry.cqeSequence), entry)
        queue.pendingCqes).map fun item => item.2.wqeId
    · intro state hfrom hto
      cases state <;> first | rfl | contradiction

theorem Consistent.retireNext_evidenced : Evidenced (queue.retireNext record item added) := by
  have hnext : (record.retired item).wqeId = queue.nextRetireSequence :=
    (WorkQueue.wqe_eq_ok.mp hretires.found).2.2
  intro other
  rw [show (queue.retireNext record item added).failed other = queue.failed other from rfl,
    h.evidenced other]
  have hlookup := WorkQueue.setWqe_wqe hretires.found hnext other
  by_cases hother : other = queue.nextRetireSequence
  · subst hother
    rw [if_pos rfl] at hlookup
    have hnostatus := (h.recordOk hretires.found).status_none
      (congrArg WqeState.retired (h.retires_state hretires))
    constructor
    · rintro (⟨found, hfound, hfailed⟩ | ⟨found, hfound, hfailed⟩)
      · have hheld := Table.get?_of_mem (h.owned.nodup .awaitingOrderedRetirement) hfound
        cases Option.some.inj (hretires.held.symm.trans hheld)
        refine .inr ⟨record.retired item, hlookup, ?_⟩
        simpa [WqeRecord.retired, hretires.status] using hfailed
      · cases Except.ok.inj (hretires.found.symm.trans hfound)
        rw [hnostatus] at hfailed
        cases hfailed
    · rintro (⟨found, hfound, _⟩ | ⟨found, hfound, hfailed⟩)
      · exact absurd rfl (Table.mem_erase.mp hfound).2
      · cases Except.ok.inj (hlookup.symm.trans hfound)
        refine .inl ⟨outcome, Table.mem_of_get? hretires.held, ?_⟩
        simpa [WqeRecord.retired, hretires.status] using hfailed
  · rw [if_neg hother] at hlookup
    refine or_congr ?_ ?_
    · constructor
      · rintro ⟨found, hfound, hfailed⟩
        exact ⟨found, Table.mem_erase.mpr ⟨hfound, hother⟩, hfailed⟩
      · rintro ⟨found, hfound, hfailed⟩
        exact ⟨found, (Table.mem_erase.mp hfound).1, hfailed⟩
    · rw [← hlookup]
      rfl

theorem Consistent.retireNext_completing : (queue.retireNext record item added).completing =
    queue.completing ++ if added.isSome then [queue.nextRetireSequence] else [] := by
  obtain ⟨hne, hget, _⟩ := WorkQueue.wqe_eq_ok.mp hretires.found
  refine (filterMap_set_last hget ?_ ?_).trans (congrArg _ ?_)
  · rw [h.unretired_completes hget (by omega)]
    rfl
  · intro later found hlater hfound
    rw [h.unretired_completes hfound (by omega)]
    rfl
  · have hcompletes : (record.retired item).completes = added.isSome := by
      rw [hretires.adds, hretires.pending]
      simp [WqeRecord.completes, WqeRecord.retired, hretires.status]
    rw [hcompletes]
    cases added with
    | none => rfl
    | some entry =>
      show [record.sqSequence] = [queue.nextRetireSequence]
      rw [(h.recordOk hretires.found).sequence, Nat.sub_add_cancel (by omega)]

theorem Consistent.retireNext {laterPs : Nat} (hle : horizonPs ≤ laterPs)
    (hvisible : ∀ entry ∈ added, horizonPs ≤ entry.visibleAtPs ∧ entry.visibleAtPs ≤ laterPs) :
    Consistent setup lastPs laterPs polled lost (queue.retireNext record item added) := by
  have hrecord := hretires.found
  obtain ⟨hne, hget, hid⟩ := WorkQueue.wqe_eq_ok.mp hrecord
  have hnext : (record.retired item).wqeId = queue.nextRetireSequence := hid
  have hlength := (List.getElem?_eq_some_iff.mp hget).1
  have hlist : (queue.retireNext record item added).cqes polled lost =
      queue.cqes polled lost ++ added.toList := by
    show polled ++ queue.cq ++ lost.toList ++ (queue.pendingCqes ++ _).map Prod.snd = _
    simp [WorkQueue.cqes, Function.comp_def]
  have hc := h.counted.setWqe queue.nextRetireSequence (record.retired item)
  refine ⟨{ hc with
      reclaimedRetired := Nat.lt_succ_of_lt hc.reclaimedRetired
      retiredPosted := ?_ },
    h.retireNext_records hretires, h.retireNext_owned hretires,
    { h.flights.setWqe hrecord hnext rfl with },
    fun found hfound => h.outcomes.setWqe hrecord hnext rfl found (Table.mem_erase.mp hfound).1,
    h.retireNext_evidenced hretires,
    { h.cqes with
      numbered := ?_
      keys := ?_
      sorted := ?_
      bounded := ?_
      lostState := ?_ }, h.unledgered⟩
  · show queue.nextRetireSequence + 1 ≤ (queue.records.set _ _).length + 1
    rw [length_set]
    omega
  · rw [h.retireNext_completing hretires, hlist]
    exact h.cqes.numbered.append added hretires.entry
  · intro found hfound
    rcases mem_append.mp hfound with hfound | hfound
    · exact h.cqes.keys found hfound
    · obtain ⟨entry, _, rfl⟩ := mem_map.mp hfound
      rfl
  · show (queue.pendingCqes ++ _).Pairwise _
    refine pairwise_append.mpr ⟨h.cqes.sorted, by cases added <;> simp, ?_⟩
    intro earlier hearlier found hfound
    obtain ⟨entry, hentry, rfl⟩ := mem_map.mp hfound
    exact Nat.le_trans (h.cqes.bounded earlier hearlier)
      (hvisible entry (Option.mem_toList.mp hentry)).1
  · intro found hfound
    rcases mem_append.mp hfound with hfound | hfound
    · exact Nat.le_trans (h.cqes.bounded found hfound) hle
    · obtain ⟨entry, hentry, rfl⟩ := mem_map.mp hfound
      exact (hvisible entry (Option.mem_toList.mp hentry)).2
  · intro entry hentry
    refine (exists_setWqe_iff hrecord hnext ?_ _).mpr (h.cqes.lostState entry hentry)
    rw [h.retires_state hretires]
    constructor
    · intro herror
      have herror : (if item.completionPending then _ else _ : WqeState) = .error := herror
      split at herror <;> cases herror
    · intro herror
      cases herror

end RetireNext

end SimLLM.Rnic
