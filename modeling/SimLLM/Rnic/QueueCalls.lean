import SimLLM.Rnic.DoorbellFacts
import SimLLM.Rnic.RetirementPlan

namespace SimLLM.Rnic

open List

variable {nowPs lastPs horizonPs boundaryPs count : Nat} {includeBoundary : Bool}

variable {φ : Type} {service : PcieService φ} {setup : WorkQueueSetup} {memory : VirtualHostMemory}
  {polled : List CompletionEntry} {lost : Option CompletionEntry} {s : Session φ}

structure Session.Inv (setup : WorkQueueSetup) (polled : List CompletionEntry)
    (lost : Option CompletionEntry) (s : Session φ) : Prop where
  consistent : Consistent setup s.queue.lastObservedTimePs
    (cqeHorizon setup s.queue.cqeWriteCursorPs s.fabric) polled lost s.queue
  settled : Settled polled s.queue

theorem ring_items {batchId observedAtPs : Nat} {items : List PlannedDoorbellWqe} {ready : List Nat}
    (h : Consistent setup lastPs horizonPs polled lost
      { s.queue with unpublished := items.map (·.wqeId), ready := ready }) :
    ((items.forM fun item => QueueM.updateWqe item.wqeId
        (·.doorbelled batchId nowPs observedAtPs item) : QueueM φ Unit) s).Ends
      (fun _ s' => ∃ records, s' = { s with queue := { s.queue with records := records } } ∧
        Consistent setup lastPs horizonPs polled lost { s.queue with
          records := records
          unpublished := []
          ready := ready ++ items.map (·.wqeId) })
      (fun _ => False) := by
  induction items generalizing s ready with
  | nil => exact ⟨s.queue.records, rfl, by simpa using h⟩
  | cons item rest ih =>
    obtain ⟨record, hrecord, _⟩ := h.inState_of_owned .posted rfl
      (show item.wqeId ∈ (item :: rest).map (·.wqeId) by simp)
    apply ends_bind
    refine ends_updateWqe_ok hrecord ?_
    have hrung := h.ring batchId nowPs observedAtPs item rfl hrecord
    refine (ih hrung).mono ?_ fun _ hfalse => hfalse
    rintro _ s' ⟨records, rfl, hrest⟩
    refine ⟨records, rfl, ?_⟩
    have hlist : ready ++ [item.wqeId] ++ rest.map (·.wqeId) =
        ready ++ (item :: rest).map (·.wqeId) := by simp
    exact hlist ▸ hrest

section

variable (h : s.Inv setup polled lost)

include h

theorem Session.Inv.frame {after : WorkQueue}
    (hcore : after.core = s.queue.core)
    (hpolled : after.counters.cqesPolled = s.queue.counters.cqesPolled)
    (hcursor : after.cqeWriteCursorPs = s.queue.cqeWriteCursorPs)
    (htime : s.queue.lastObservedTimePs ≤ after.lastObservedTimePs) :
    Session.Inv setup polled lost { s with queue := after } := by
  refine ⟨?_, h.settled.frame hcore hpolled⟩
  rw [hcursor]
  exact (h.consistent.frame hcore).later htime

theorem observeTime_ends :
    ((QueueM.observeTime nowPs : QueueM φ Unit) s).Ends
      (fun _ s' => s'.Inv setup polled lost ∧
        s'.queue = { s.queue with lastObservedTimePs := nowPs } ∧ s'.fabric = s.fabric ∧
        s.queue.lastObservedTimePs ≤ nowPs)
      (fun s' => s' = s ∧ nowPs < s.queue.lastObservedTimePs) := by
  apply ends_get_bind
  by_cases htime : s.queue.lastObservedTimePs ≤ nowPs
  · have hok : s.queue.validateTime nowPs = .ok () := by
      exact require_eq_ok.mpr (by simpa using htime)
    rw [hok]
    exact ⟨h.frame rfl rfl rfl htime, rfl, rfl, htime⟩
  · refine ends_ofExcept_bind ?_ ⟨rfl, by omega⟩
    intro _ hvalid
    exact absurd (by simpa using require_eq_ok.mp hvalid) htime

theorem postSend_inv {request : WorkRequest} :
    (postSend setup memory request nowPs s).Ends (fun _ => (·.Inv setup polled lost)) (· = s) := by
  apply ends_check_bind
  refine (observeTime_ends h).bind ?_ fun _ hback => hback.1
  rintro _ s' ⟨h', _, _⟩
  apply ends_get_bind
  split
  next => exact ends_pure h'
  next =>
    split
    next =>
      apply ends_modifyQueue_bind
      apply ends_pure
      have hfull : Consistent setup s'.queue.lastObservedTimePs
          (cqeHorizon setup s'.queue.cqeWriteCursorPs s'.fabric) polled lost
          { s'.queue with evidence := s'.queue.evidence ++
            [⟨.sqFull, 0, request.wrId, nowPs, .none, .queueOverflow⟩] } :=
        h'.consistent.withEvidence (by simp)
      exact ⟨hfull.frame rfl, { h'.settled with }⟩
    next hroom =>
      apply ends_modifyQueue_bind
      apply ends_pure
      exact ⟨h'.consistent.post request nowPs hroom, { h'.settled with }⟩

theorem postSendFrom_inv {requests : List WorkRequest} {index : Nat} {batch : PostBatchResult} :
    (postSendFrom setup memory nowPs index batch requests s).EndsIn (·.Inv setup polled lost) := by
  induction requests generalizing s index batch with
  | nil => exact ends_pure h
  | cons request rest ih =>
    refine (postSend_inv h).bind ?_ fun _ hsame => hsame ▸ h
    intro result s' h'
    split
    next => exact ends_pure h'
    next => exact ih h'

theorem ringDoorbell_inv {producerTask : Option RnicProducerTaskLink} :
    (ringDoorbell service setup memory nowPs producerTask s).Ends
      (fun _ => (·.Inv setup polled lost)) (· = s) := by
  apply ends_get_bind
  refine ends_ofExcept_bind ?_ rfl
  intro _ htime
  have hle : s.queue.lastObservedTimePs ≤ nowPs := by
    simpa using require_eq_ok.mp htime
  split
  next =>
    apply ends_check_bind
    apply ends_modifyQueue_bind
    exact ends_pure (h.frame rfl rfl rfl hle)
  next =>
    refine ends_ofExcept_bind ?_ rfl
    rintro ⟨observedAt, plan⟩ hplan
    obtain ⟨_, hgrows, hitems⟩ := planDoorbell_grows hplan
    refine ends_ofExcept_bind ?_ rfl
    rintro ⟨rows, fabric⟩ hcommit
    obtain ⟨hrows, hhorizon⟩ := commitDoorbell_eq_ok hgrows hcommit
    have haccesses : setup.pcie = none →
        s.queue.memoryAccesses ++ plan.fabricPlan.accesses = s.queue.memoryAccesses := by
      intro hscalar
      rw [hgrows.scalar hscalar, append_nil]
    have hstart := (h.consistent.withAccesses haccesses).later hle
    apply ends_bind
    apply ends_set
    apply ends_bind
    have hghost : Consistent setup nowPs (cqeHorizon setup s.queue.cqeWriteCursorPs s.fabric) polled
        lost { s.queue with
          memoryAccesses := s.queue.memoryAccesses ++ plan.fabricPlan.accesses
          unpublished := plan.items.map (·.wqeId)
          ready := s.queue.ready } := by
      rw [hitems]
      exact hstart
    refine (ring_items hghost).mono ?_ fun _ hfalse => hfalse.elim
    rintro _ s' ⟨records, rfl, hrung⟩
    apply ends_modifyQueue_bind
    refine ends_pure ⟨?_, { h.settled with }⟩
    have hbounded := hrung.withHorizon fun item hitem =>
      Nat.le_trans (hrung.cqes.bounded item hitem) (hhorizon s.queue.cqeWriteCursorPs)
    rw [hitems] at hbounded
    by_cases hpcie : setup.pcie = none
    · refine hbounded.frame ?_
      unfold WorkQueue.published
      rw [hrows hpcie, append_nil]
      rfl
    · exact (hbounded.withLedgers hpcie _ _ _).frame rfl

end

structure SameClock (before after : Session φ) : Prop where
  time : after.queue.lastObservedTimePs = before.queue.lastObservedTimePs
  ready : after.queue.ready = before.queue.ready
  fabric : after.fabric = before.fabric

def WorkQueue.work (queue : WorkQueue) : Nat :=
  queue.counters.cqesVisible + queue.counters.networkSubmitAttempts + queue.fatal.toNat

def WorkQueue.cqeDue (queue : WorkQueue) (nowPs : Nat) : Bool :=
  queue.pendingCqes.head?.any (·.1.1 ≤ nowPs)

def WorkQueue.headAdmission (queue : WorkQueue) : Option Nat :=
  queue.ready.head?.bind fun wqeId =>
    (queue.wqe wqeId).toOption.bind (·.timeline.admittedAtPs)

structure Published (boundaryPs : Nat) (includeBoundary : Bool) (before after : Session φ) : Prop
    extends SameClock before after where
  blocked : after.queue.networkBlocked = before.queue.networkBlocked
  retry : after.queue.networkRetryAtPs = before.queue.networkRetryAtPs
  admission : after.queue.headAdmission = before.queue.headAdmission
  work : before.queue.work ≤ after.queue.work
  due : includeBoundary = true → before.queue.cqeDue boundaryPs = true →
    before.queue.work < after.queue.work
  idle : includeBoundary = true → before.queue.cqeDue boundaryPs = false → after = before
  done : includeBoundary = true →
    after.queue.fatal = true ∨ after.queue.cqeDue boundaryPs = false

theorem Published.refl (hnone : includeBoundary = true → s.queue.cqeDue boundaryPs = false) :
    Published boundaryPs includeBoundary s s where
  time := rfl
  ready := rfl
  fabric := rfl
  blocked := rfl
  retry := rfl
  admission := rfl
  work := Nat.le_refl _
  due := fun hall hdue => absurd hdue (by simp [hnone hall])
  idle := fun _ _ => rfl
  done := fun hall => .inr (hnone hall)

theorem WorkQueue.headAdmission_set {queue : WorkQueue} {wqeId : Nat} {record next : WqeRecord}
    (hrecord : queue.wqe wqeId = .ok record) (hnext : next.wqeId = wqeId)
    (hadmitted : next.timeline.admittedAtPs = record.timeline.admittedAtPs) :
    (queue.setWqe wqeId next).headAdmission = queue.headAdmission := by
  unfold WorkQueue.headAdmission
  congr 1
  funext other
  rw [WorkQueue.setWqe_wqe hrecord hnext]
  split
  next heq =>
    subst heq
    rw [hrecord]
    exact hadmitted
  next => rfl

theorem publishFrom_inv {published : Nat} {pending : PendingCqes} (h : s.Inv setup polled none)
    (hpending : s.queue.pendingCqes = pending) :
    (publishFrom setup boundaryPs includeBoundary published pending s).Ends
      (fun _ s' => (∃ lost, s'.Inv setup polled lost) ∧
        Published boundaryPs includeBoundary s s') (fun _ => False) := by
  induction pending generalizing s published with
  | nil => exact ⟨⟨none, h⟩, .refl fun _ => by simp [WorkQueue.cqeDue, hpending]⟩
  | cons item rest ih =>
    obtain ⟨key, entry⟩ := item
    have hc := h.consistent
    obtain ⟨record, hrecord, _⟩ := hc.inState_of_owned .completionPending rfl
      (show entry.wqeId ∈ s.queue.pendingCqes.map (·.2.wqeId) by simp [hpending])
    have hlookup : { s.queue with pendingCqes := rest : WorkQueue }.wqe entry.wqeId = .ok record :=
      hrecord
    have hid := (WorkQueue.wqe_eq_ok.mp hrecord).2.2
    unfold publishFrom
    split
    next hlater =>
      refine ⟨⟨none, h⟩, .refl fun hall => ?_⟩
      simpa [WorkQueue.cqeDue, hpending, hall] using hlater
    next hreached =>
      have hbusy : includeBoundary = true → ¬s.queue.cqeDue boundaryPs = false := by
        intro hall
        simpa [WorkQueue.cqeDue, hpending, hall] using hreached
      apply ends_modifyQueue_bind
      apply ends_get_bind
      refine ends_ofExcept_ok_bind hlookup ?_
      split
      next =>
        apply ends_modifyQueue_bind
        apply ends_bind
        refine ends_updateWqe_ok hlookup ?_
        apply ends_pure
        have hlive : s.queue.fatal = false := hc.cqes.fatal
        have hfatal : s.queue.work <
            s.queue.counters.cqesVisible + s.queue.counters.networkSubmitAttempts + 1 := by
          simp [WorkQueue.work, hlive]
        exact ⟨⟨some entry, hc.overrun hpending hrecord,
          { h.settled with }⟩, ⟨rfl, rfl, rfl⟩, rfl, rfl,
          WorkQueue.headAdmission_set hrecord hid rfl, Nat.le_of_lt hfatal, fun _ _ => hfatal,
          fun hall hnone => absurd hnone (hbusy hall), fun _ => .inl rfl⟩
      next hroom =>
        apply ends_bind
        refine ends_updateWqe_ok hlookup ?_
        apply ends_modifyQueue_bind
        have hnext : Session.Inv setup polled none ({ s with
            queue := (({ s.queue with pendingCqes := rest }.setWqe entry.wqeId
              (record.visible entry.visibleAtPs)).pushCqe
                (entry.placed s.queue.counters.cqesVisible setup.config.cqDepth)) } : Session φ) :=
          ⟨hc.visible hpending hrecord hroom,
            { h.settled with }⟩
        refine (ih hnext rfl).mono ?_ fun _ hfalse => hfalse
        rintro _ s' ⟨hinv, hrest⟩
        have hwork : s.queue.work < s'.queue.work := by
          refine Nat.lt_of_lt_of_le ?_ hrest.work
          show _ < s.queue.counters.cqesVisible + 1 + s.queue.counters.networkSubmitAttempts +
            s.queue.fatal.toNat
          unfold WorkQueue.work
          omega
        exact ⟨hinv, ⟨hrest.time, hrest.ready, hrest.fabric⟩, hrest.blocked, hrest.retry,
          hrest.admission.trans (WorkQueue.headAdmission_set hrecord hid rfl), Nat.le_of_lt hwork,
          fun _ _ => hwork, fun hall hnone => absurd hnone (hbusy hall), hrest.done⟩

theorem publishCqes_inv (h : s.Inv setup polled none) :
    (publishCqes setup boundaryPs includeBoundary s).Ends
      (fun _ s' => (∃ lost, s'.Inv setup polled lost) ∧
        Published boundaryPs includeBoundary s s') (fun _ => False) :=
  ends_get_bind (publishFrom_inv h rfl)

theorem Session.Inv.not_lost (h : s.Inv setup polled lost) (hlive : s.queue.fatal ≠ true) :
    lost = none := by
  have hfatal := h.consistent.cqes.fatal
  cases lost with
  | none => rfl
  | some entry => exact absurd hfatal hlive

def WorkQueue.withReclaimed (queue : WorkQueue) (records : List WqeRecord)
    (occupied reclaimed through : Nat) : WorkQueue :=
  { queue with
    records := records
    occupiedSqEntries := occupied
    counters := { queue.counters with sqReclaimedWqes := reclaimed }
    sqReclaimedThrough := through }

def Session.ReclaimedTo (s : Session φ) (polled : List CompletionEntry) (consistent : WorkQueue → Prop)
    (s' : Session φ) : Prop :=
  consistent s'.queue ∧ s'.queue.sqReclaimedThrough = lastPolled polled ∧
    ∃ records occupied reclaimed through, s' = { s with
      queue := s.queue.withReclaimed records occupied reclaimed through }

theorem reclaimNext_ends (h : Consistent setup lastPs horizonPs polled lost s.queue)
    (hcount : s.queue.sqReclaimedThrough + count = lastPolled polled) :
    ((reclaimNext nowPs count : QueueM φ Unit) s).Ends
      (fun _ => s.ReclaimedTo polled (Consistent setup lastPs horizonPs polled lost))
      (fun _ => False) := by
  induction count generalizing s with
  | zero => exact ⟨h, hcount, _, _, _, _, rfl⟩
  | succ count ih =>
    have hlast := h.lastPolled_retired
    have hposted := h.counted.retiredPosted
    have hlt : s.queue.sqReclaimedThrough < s.queue.records.length := by omega
    have hget := getElem?_eq_getElem hlt
    obtain ⟨hretired, hnone, hnext⟩ := h.reclaim nowPs hget (by omega)
    apply ends_get_bind
    refine ends_ofExcept_ok_bind (WorkQueue.recordAt_eq_ok.mpr hget) ?_
    refine ends_require_bind hretired ?_
    apply ends_modifyQueue_bind
    have hstep : s.queue.reclaimOne s.queue.records[s.queue.sqReclaimedThrough] nowPs =
        s.queue.withReclaimed (s.queue.records.set s.queue.sqReclaimedThrough
            (s.queue.records[s.queue.sqReclaimedThrough].reclaim nowPs))
          (s.queue.occupiedSqEntries - 1) (s.queue.counters.sqReclaimedWqes + 1)
          (s.queue.sqReclaimedThrough + 1) := by
      unfold WorkQueue.reclaimOne WorkQueue.withReclaimed
      rw [if_pos hnone]
    rw [hstep] at hnext ⊢
    refine (ih hnext ?_).mono ?_ fun _ hfalse => hfalse
    · show s.queue.sqReclaimedThrough + 1 + count = _
      omega
    · rintro _ s' ⟨hcons, hthrough, records, occupied, reclaimed, through, rfl⟩
      exact ⟨hcons, hthrough, records, occupied, reclaimed, through, rfl⟩

theorem reclaimThrough_ends {sqSequence : Nat}
    (h : Consistent setup lastPs horizonPs polled lost s.queue)
    (hsequence : sqSequence = lastPolled polled) :
    ((reclaimThrough sqSequence nowPs : QueueM φ Unit) s).Ends
      (fun _ => s.ReclaimedTo polled (Consistent setup lastPs horizonPs polled lost))
      (fun _ => False) := by
  have hle := h.cqes.reclaimed
  have hbefore : s.queue.fatalLostSqSequence.all (sqSequence < ·) = true := by
    rw [h.cqes.lostAt]
    cases lost with
    | none => rfl
    | some entry =>
      have hlt := h.lastPolled_lt (show entry ∈ _ by simp)
      simpa [hsequence] using hlt
  apply ends_get_bind
  refine ends_require_bind (by simpa [hsequence] using hle) ?_
  refine ends_require_bind hbefore ?_
  exact reclaimNext_ends h (by omega)

theorem pollOne_inv {entry : CompletionEntry} {rest : List CompletionEntry}
    (h : s.Inv setup polled lost) (hcq : s.queue.cq = entry :: rest) :
    (pollOne setup nowPs entry rest s).Ends (fun result s' =>
      result = { entry with polledAtPs := nowPs } ∧ s'.Inv setup (polled ++ [result]) lost ∧
        s'.queue.cq = rest ∧ SameClock s s') (fun _ => False) := by
  have hc := h.consistent
  obtain ⟨record, hrecord, _⟩ := hc.inState_of_owned .cqeVisible rfl
    (show entry.wqeId ∈ s.queue.cq.map (·.wqeId) by simp [hcq])
  apply ends_modifyQueue_bind
  apply ends_bind
  refine ends_updateWqe_ok hrecord ?_
  refine (reclaimThrough_ends (hc.poll nowPs hcq hrecord)
    (lastPolled_concat polled { entry with polledAtPs := nowPs }).symm).bind ?_
  rintro _ s' ⟨hpolled, hthrough, records, occupied, reclaimed, through, rfl⟩
  apply ends_modifyQueue_bind
  apply ends_pure
  refine ⟨rfl, ⟨?_, ?_⟩, rfl, rfl, rfl, rfl⟩
  · unfold WorkQueue.countPolled WorkQueue.consumption
    cases hpcie : setup.pcie with
    | none =>
      refine hpolled.frame ?_
      simp only [append_nil]
      rfl
    | some attachment =>
      have hpresent : setup.pcie ≠ none := by rw [hpcie]; simp
      exact (hpolled.withLedgers hpresent _ _ _).frame rfl
  · refine ⟨h.settled.next, hthrough, ?_⟩
    show s.queue.counters.cqesPolled + 1 = (polled ++ [_]).length
    rw [h.settled.polledCount, length_append]
    rfl

theorem pollFrom_inv {result entries : List CompletionEntry}
    (h : s.Inv setup (polled ++ result) lost) (hcq : s.queue.cq = entries) :
    (pollFrom setup nowPs result count entries s).Ends (fun out s' =>
      out = result ++ (entries.take count).map ({ · with polledAtPs := nowPs }) ∧
        s'.Inv setup (polled ++ out) lost ∧ s'.queue.cq = entries.drop count ∧ SameClock s s')
      (fun _ => False) := by
  induction count generalizing s result entries with
  | zero =>
    unfold pollFrom
    exact ⟨by simp, h, hcq, rfl, rfl, rfl⟩
  | succ count ih =>
    cases entries with
    | nil => exact ⟨by simp, h, hcq, rfl, rfl, rfl⟩
    | cons entry rest =>
      refine (pollOne_inv h hcq).bind ?_
      rintro one s' ⟨rfl, h', hrest, hsame⟩
      rw [append_assoc] at h'
      refine (ih h' hrest).mono ?_ fun _ hfalse => hfalse
      rintro out s'' ⟨rfl, h'', hrest', hsame'⟩
      refine ⟨by simp, h'', hrest', hsame'.time.trans hsame.time, hsame'.ready.trans hsame.ready,
        hsame'.fabric.trans hsame.fabric⟩

theorem pollCompletionQueue_inv {maxEntries : Nat} (h : s.Inv setup polled lost) :
    (pollCompletionQueue setup maxEntries nowPs s).Ends (fun out s' =>
      (∃ lost, s'.Inv setup (polled ++ out) lost) ∧
        (s.queue.fatal = true →
          out = (s.queue.cq.take maxEntries).map ({ · with polledAtPs := nowPs })))
      (fun s' => s' = s ∧ nowPs < s.queue.lastObservedTimePs) := by
  refine (observeTime_ends h).bind ?_
  rintro _ s' ⟨h', hqueue, _⟩
  apply ends_get_bind
  split
  next hfatal =>
    apply ends_get_bind
    have h'' : s'.Inv setup (polled ++ []) lost := by rw [append_nil]; exact h'
    refine (pollFrom_inv h'' rfl).mono ?_ fun _ hfalse => hfalse.elim
    rintro out s'' ⟨rfl, hinv, _⟩
    refine ⟨⟨lost, hinv⟩, fun _ => ?_⟩
    rw [hqueue]
    rfl
  next hlive =>
    obtain rfl := h'.not_lost (by simpa using hlive)
    refine (publishCqes_inv h').bind ?_ fun _ hfalse => hfalse.elim
    rintro _ s'' ⟨⟨lost', h''⟩, _⟩
    apply ends_get_bind
    have hstart : s''.Inv setup (polled ++ []) lost' := by rw [append_nil]; exact h''
    refine (pollFrom_inv hstart rfl).mono ?_ fun _ hfalse => hfalse.elim
    rintro out s₃ ⟨_, hinv, _⟩
    refine ⟨⟨lost', hinv⟩, fun hfatal => ?_⟩
    rw [hqueue] at hlive
    exact absurd hfatal hlive

end SimLLM.Rnic
