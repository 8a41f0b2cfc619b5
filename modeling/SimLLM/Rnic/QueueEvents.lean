import SimLLM.Rnic.QueueCalls

namespace SimLLM.Rnic

variable {queue : WorkQueue} {recorded : RecordedOutcome} {record : WqeRecord}
variable {result : NetworkSubmitResult} {nowPs admittedAtPs wqeId : Nat} {rest : List Nat}
variable {port : NetworkPort} {extent : InflightExtent} {event : NetworkEvent}
variable {attempt : PacketAttemptState}

variable {φ : Type} {service : PcieService φ} {setup : WorkQueueSetup} {memory : VirtualHostMemory}
  {polled : List CompletionEntry} {lost : Option CompletionEntry} {s : Session φ}

structure OutcomeOnly (recorded : RecordedOutcome) : Prop where
  request : ∀ record, (recorded.record record).request = record.request
  records : ∀ queue, (recorded.update queue).records = queue.records
  outcomes : ∀ queue, (recorded.update queue).pendingOutcomes = queue.pendingOutcomes
  cqes : ∀ queue, (recorded.update queue).pendingCqes = queue.pendingCqes
  cursors : ∀ queue, (recorded.update queue).nextRetireSequence = queue.nextRetireSequence ∧
    (recorded.update queue).nextCqeSequence = queue.nextCqeSequence ∧
    (recorded.update queue).sqReclaimedThrough = queue.sqReclaimedThrough
  clock : ∀ queue, (recorded.update queue).lastObservedTimePs = queue.lastObservedTimePs
  polled : ∀ queue, (recorded.update queue).counters.cqesPolled = queue.counters.cqesPolled

def WorkQueue.withOutcome (queue : WorkQueue) (recorded : RecordedOutcome)
    (accesses : List HostMemoryAccessRecord) (record : WqeRecord) : WorkQueue :=
  (recorded.update { queue with
    memoryAccesses := accesses
    pendingOutcomes := queue.pendingOutcomes.set recorded.candidate.wqeId
      recorded.candidate.outcome }).setWqe recorded.candidate.wqeId (recorded.record record)

theorem foresees_withOutcome {lastPs horizonPs : Nat} {accesses : List HostMemoryAccessRecord}
    (h : Consistent setup lastPs horizonPs polled lost queue) (honly : OutcomeOnly recorded)
    (hrecord : queue.wqe recorded.candidate.wqeId = .ok record)
    (hid : (recorded.record record).wqeId = recorded.candidate.wqeId) :
    Foresees queue recorded.candidate (queue.withOutcome recorded accesses record) := by
  have hrecords : (queue.withOutcome recorded accesses record).records =
      (queue.setWqe recorded.candidate.wqeId (recorded.record record)).records := by
    show (recorded.update _).records.set _ _ = _
    rw [honly.records]
    rfl
  refine ⟨?_, ?_, ?_⟩
  · rw [hrecords]
    exact List.length_set
  · intro index found _ hget
    have hok := h.records index found hget
    refine ⟨hok.id, hok.sequence, ?_⟩
    have hlookup : (queue.withOutcome recorded accesses record).wqe (index + 1) =
        (queue.setWqe recorded.candidate.wqeId (recorded.record record)).wqe (index + 1) := by
      unfold WorkQueue.wqe
      rw [hrecords]
    rw [hlookup]
    exact (exists_setWqe_iff hrecord hid (by rw [honly.request]) (index + 1)).mpr
      ⟨found, h.wqe_of_get hget, rfl⟩
  · intro index _
    show (recorded.update _).pendingOutcomes.get? (index + 1) = _
    rw [honly.outcomes]
    exact Table.get?_set _ _ _ _

theorem commitRetirementPcie_eq_ok {plan : RetirementPlan φ} {s' : Session φ}
    (h : commitRetirementPcie setup s plan = .ok s') :
    ∃ accesses, (setup.pcie = none → accesses = s.queue.memoryAccesses) ∧
      s'.queue = { s.queue with memoryAccesses := accesses } ∧
      ((∀ domain, s'.fabric.posted domain = plan.fabricPlan.fabric.posted domain) ∨
        s'.fabric = s.fabric ∧ (setup.pcie = none ∨ plan.pendingCqes = [])) := by
  unfold commitRetirementPcie at h
  split at h
  next hcommits =>
    simp only [Bool.and_eq_true] at hcommits
    obtain ⟨fabric, hcommit, h⟩ := of_bind h
    replace hcommit := of_check hcommit
    cases hcommit
    cases h
    refine ⟨_, fun hnone => ?_, rfl, .inl fun _ => rfl⟩
    rw [hnone] at hcommits
    cases hcommits.1
  next hcommits =>
    cases h
    refine ⟨_, fun _ => rfl, rfl, .inr ⟨rfl, ?_⟩⟩
    cases hpcie : setup.pcie with
    | none => exact .inl rfl
    | some attachment => exact .inr (by simpa [hpcie] using hcommits)

section

variable (h : s.Inv setup polled lost)

include h

theorem recordOutcome_inv (honly : OutcomeOnly recorded)
    (hrecord : s.queue.wqe recorded.candidate.wqeId = .ok record)
    (hid : (recorded.record record).wqeId = recorded.candidate.wqeId)
    (hwritten : ∀ accesses, (setup.pcie = none → accesses = s.queue.memoryAccesses) →
      Consistent setup s.queue.lastObservedTimePs
        (cqeHorizon setup s.queue.cqeWriteCursorPs s.fabric) polled lost
        (s.queue.withOutcome recorded accesses record)) :
    (recordOutcome service setup memory recorded s).Ends (fun _ s' =>
      s'.Inv setup polled lost ∧ s'.queue.lastObservedTimePs = s.queue.lastObservedTimePs ∧
        ∃ accesses, s'.queue.ready = (s.queue.withOutcome recorded accesses record).ready ∧
          s'.queue.work = (s.queue.withOutcome recorded accesses record).work)
      (fun s' => s' = s) := by
  apply ends_get_bind
  refine ends_ofExcept_bind ?_ rfl
  intro plan hplan
  apply ends_check_bind
  refine ends_ofExcept_bind ?_ rfl
  intro committed hcommitted
  obtain ⟨accesses, hscalar, hqueue, hfabric⟩ := commitRetirementPcie_eq_ok hcommitted
  have hghost := hwritten accesses hscalar
  let written : WorkQueue := { s.queue with
    memoryAccesses := accesses
    pendingOutcomes := s.queue.pendingOutcomes.set recorded.candidate.wqeId
      recorded.candidate.outcome }
  obtain ⟨hretire, hcqe, hreclaimed⟩ := honly.cursors written
  -- the plan was made on the queue before the outcome was written
  obtain ⟨steps, hends⟩ := planRetirementsFrom_ends hghost
    (foresees_withOutcome h.consistent honly hrecord hid)
    (congrArg (fun next => s.queue.records.drop (next - 1)) hretire.symm) hcqe.symm hretire.symm
    (fun _ hitem => absurd hitem List.not_mem_nil) hplan
  apply ends_bind
  apply ends_set
  apply ends_modifyQueue_bind
  apply ends_bind
  have hlookup : (recorded.update written).wqe recorded.candidate.wqeId = .ok record := by
    unfold WorkQueue.wqe
    rw [honly.records]
    exact hrecord
  rw [hqueue]
  refine ends_updateWqe_ok hlookup ?_
  refine (commitRetirements_ends (s := { committed with
    queue := s.queue.withOutcome recorded accesses record }) hends ⟨rfl, rfl⟩).mono ?_
    fun _ hfalse => hfalse.elim
  rintro _ s' ⟨hqueue', hfabric'⟩
  obtain ⟨hcounters, hthrough, hclock, hready, hfatal⟩ :=
    (s.queue.withOutcome recorded accesses record).retireAll_same steps
  have htime : s'.queue.lastObservedTimePs = s.queue.lastObservedTimePs := by
    rw [hqueue']
    exact hclock.trans (honly.clock _)
  have hwork : s'.queue.work = (s.queue.withOutcome recorded accesses record).work := by
    rw [hqueue']
    unfold WorkQueue.work
    rw [hcounters, hfatal]
  refine ⟨⟨?_, ?_, ?_, ?_⟩, htime, accesses, by rw [hqueue']; exact hready, hwork⟩
  · rw [htime]
    have hpending : s'.queue.pendingCqes =
        ((s.queue.withOutcome recorded accesses record).retireAll steps).pendingCqes := by
      rw [hqueue']
    have hcursor : s'.queue.cqeWriteCursorPs = plan.cqeWriteCursorPs := by rw [hqueue']
    have hframed : Consistent setup s.queue.lastObservedTimePs (plan.horizon setup) polled lost
        s'.queue := hends.consistent.frame (by rw [hqueue']; rfl)
    refine hframed.withHorizon ?_
    intro item hitem
    rw [hcursor, hfabric']
    have hplanned := hframed.cqes.bounded item hitem
    rcases hfabric with hposted | ⟨hkept, hunwritten⟩
    · exact Nat.le_trans hplanned (Nat.le_of_eq (cqeHorizon_congr hposted).symm)
    · cases hpcie : setup.pcie with
      | none =>
        refine Nat.le_trans hplanned (Nat.le_of_eq ?_)
        unfold RetirementPlan.horizon cqeHorizon
        rw [hpcie]
      | some attachment =>
        -- no CQE was written: the pending ones are the old ones
        have hadded := hends.pending
        rw [hunwritten.resolve_left (by simp [hpcie])] at hadded
        have hsteps := (List.append_eq_nil_iff.mp hadded.symm).2
        rw [hpending, WorkQueue.retireAll_pending, hsteps, List.append_nil] at hitem
        refine Nat.le_trans (hghost.cqes.bounded item hitem) (Nat.le_of_eq ?_)
        rw [hkept]
        unfold cqeHorizon
        rw [hpcie]
  · rw [hqueue']
    exact hends.settled
  · rw [hqueue']
    exact (hthrough.trans hreclaimed).trans h.settled.reclaimed
  · rw [hqueue']
    exact ((congrArg (·.cqesPolled) hcounters).trans (honly.polled _)).trans h.settled.polledCount

theorem busyAnswer_inv : ((busyAnswer result nowPs : QueueM φ Unit) s).Ends
      (fun _ s' => s'.Inv setup polled lost ∧ s'.queue.stillBlocked nowPs = true ∧
        s'.queue.work = s.queue.work) (· = s) := by
  refine ends_ofExcept_bind ?_ rfl
  intro _ hfuture
  apply ends_check_bind
  refine ends_modifyQueue ⟨h.frame rfl rfl rfl (Nat.le_refl _), ?_, rfl⟩
  replace hfuture := require_eq_ok.mp hfuture
  simp only [Bool.and_eq_true] at hfuture
  exact hfuture.2

section

variable (hready : s.queue.ready = wqeId :: rest) (hrecord : s.queue.wqe wqeId = .ok record)

include hready hrecord

theorem acceptedAnswer_inv :
    ((acceptedAnswer result (setup.descriptor record admittedAtPs) rest nowPs : QueueM φ Unit)
      s).Ends
      (fun _ s' => s'.Inv setup polled lost ∧ s'.queue.ready = rest ∧
        s'.queue.work = s.queue.work) (· = s) := by
  obtain rfl := (WorkQueue.wqe_eq_ok.mp hrecord).2.2
  apply ends_check_bind
  apply ends_get_bind
  refine ends_ofExcept_bind ?_ rfl
  intro _ hfresh
  have hnew : s.queue.inflight.get? result.token = none := by
    have hfresh := require_eq_ok.mp hfresh
    simp only [Bool.and_eq_true, Option.isNone_iff_eq_none] at hfresh
    exact hfresh.1.2
  apply ends_modifyQueue_bind
  apply ends_bind
  refine ends_updateWqe_ok hrecord ?_
  apply ends_modifyQueue
  refine ⟨⟨?_, { h.settled with }⟩, rfl, rfl⟩
  have haccepted := h.consistent.accept nowPs
    ⟨record.wqeId, setup.capabilities.abiVersion,
      (setup.descriptor record admittedAtPs).extentIndex⟩
    hready hrecord hnew rfl
  exact haccepted.frame rfl

theorem rejectedAnswer_inv : (rejectedAnswer service setup memory result record rest nowPs s).Ends
      (fun _ s' => s'.Inv setup polled lost ∧ s'.queue.ready = rest ∧
        s'.queue.work = s.queue.work) (· = s) := by
  obtain rfl := (WorkQueue.wqe_eq_ok.mp hrecord).2.2
  apply ends_check_bind
  refine (recordOutcome_inv h ?_ hrecord rfl ?_).mono ?_ fun _ hsame => hsame
  · exact ⟨fun _ => rfl, fun _ => rfl, fun _ => rfl, fun _ => rfl, fun _ => ⟨rfl, rfl, rfl⟩,
      fun _ => rfl, fun _ => rfl⟩
  · intro accesses hscalar
    have hrejected := (h.consistent.withAccesses hscalar).reject
      ⟨{ kind := .dropped
         wqeId := record.wqeId
         eventTimePs := nowPs
         dropLocation := result.rejectionLocation
         dropReason := result.rejectionReason }, .networkRejected⟩
      ⟨.networkRejected, record.wqeId, record.request.wrId, nowPs, result.rejectionLocation,
        result.rejectionReason⟩ hready hrecord rfl rfl (by simp) ⟨rfl, rfl⟩
    exact hrejected.frame rfl
  · rintro _ s' ⟨hinv, _, accesses, hrest, hwork⟩
    exact ⟨hinv, hrest, hwork⟩

theorem takeAnswer_inv :
    (takeAnswer service setup memory result record admittedAtPs rest nowPs s).Ends
      (fun left s' => s'.Inv setup polled lost ∧ s'.queue.work = s.queue.work ∧
        if left then s'.queue.ready = rest else s'.queue.stillBlocked nowPs = true) (· = s) := by
  unfold takeAnswer
  cases result.status with
  | busy =>
    exact (busyAnswer_inv h).bind fun _ s' h' => ⟨h'.1, h'.2.2, h'.2.1⟩
  | accepted =>
    exact (acceptedAnswer_inv h hready hrecord).bind fun _ s' h' => ⟨h'.1, h'.2.2, h'.2.1⟩
  | rejected =>
    exact (rejectedAnswer_inv h hready hrecord).bind fun _ s' h' => ⟨h'.1, h'.2.2, h'.2.1⟩
  | invalid => exact ends_throw rfl

end

def WorkQueue.submitDue (queue : WorkQueue) (nowPs : Nat) : Bool :=
  !queue.stillBlocked nowPs && queue.headAdmission.any (· ≤ nowPs)

structure Session.Advanced (setup : WorkQueueSetup) (polled : List CompletionEntry)
    (lost : Option CompletionEntry) (due : Bool) (before after : Session φ) : Prop where
  inv : after.Inv setup polled lost
  work : before.queue.work ≤ after.queue.work
  idle : due = false → after = before
  due : due = true → before.queue.work < after.queue.work

theorem Session.Advanced.refl {due : Bool} (hnone : due = false) :
    s.Advanced setup polled lost due s :=
  ⟨h, Nat.le_refl _, fun _ => rfl, fun hdue => absurd hdue (by simp [hnone])⟩

omit h in
theorem Session.Advanced.of_lt {due : Bool} {s' : Session φ} (h' : s'.Inv setup polled lost)
    (hlt : s.queue.work < s'.queue.work) (hdue : due = true) :
    s.Advanced setup polled lost due s' :=
  ⟨h', Nat.le_of_lt hlt, fun hnone => absurd hdue (by simp [hnone]), fun _ => hlt⟩

theorem submitReady_inv {changes : Nat} {ready : List Nat} (hready : s.queue.ready = ready) :
    (submitReady service setup memory port nowPs changes ready s).Ends
      (fun _ s' => s.Advanced setup polled lost (s.queue.headAdmission.any (· ≤ nowPs)) s' ∧
        s'.queue.submitDue nowPs = false)
      (s.Advanced setup polled lost (s.queue.headAdmission.any (· ≤ nowPs))) := by
  induction ready generalizing s changes with
  | nil =>
    have hnone : s.queue.headAdmission = none := by simp [WorkQueue.headAdmission, hready]
    exact ends_pure ⟨.refl h (by rw [hnone]; rfl), by simp [WorkQueue.submitDue, hnone]⟩
  | cons wqeId rest ih =>
    apply ends_get_bind
    cases hrecord : s.queue.wqe wqeId with
    | error error =>
      exact .refl h (by simp [WorkQueue.headAdmission, hready, hrecord, Except.toOption])
    | ok record =>
      have hadmission : s.queue.headAdmission = record.timeline.admittedAtPs := by
        simp [WorkQueue.headAdmission, hready, hrecord, Except.toOption]
      refine ends_ofExcept_ok_bind rfl ?_
      unfold WqeRecord.admittedAt
      cases hadmitted : record.timeline.admittedAtPs with
      | none => exact .refl h (by rw [hadmission, hadmitted]; rfl)
      | some admitted =>
        refine ends_ofExcept_ok_bind rfl ?_
        split
        next hearly =>
          refine ends_pure ⟨.refl h ?_, ?_⟩ <;>
            simp [WorkQueue.submitDue, hadmission, hadmitted, hearly]
        next hdue =>
          apply ends_modifyQueue_bind
          have hcounted : Session.Inv setup polled lost { s with queue := s.queue.countAttempt } :=
            h.frame rfl rfl rfl (Nat.le_refl _)
          have hgrown : s.queue.work < s.queue.countAttempt.work := by
            show _ < s.queue.counters.cqesVisible + (s.queue.counters.networkSubmitAttempts + 1) +
              s.queue.fatal.toNat
            unfold WorkQueue.work
            omega
          have hadvanced : ∀ s' : Session φ, s'.Inv setup polled lost →
              s.queue.countAttempt.work ≤ s'.queue.work →
              s.Advanced setup polled lost (s.queue.headAdmission.any (· ≤ nowPs)) s' :=
            fun s' h' hle => .of_lt h' (Nat.lt_of_lt_of_le hgrown hle)
              (by simpa [hadmission, hadmitted] using hdue)
          refine (takeAnswer_inv hcounted hready hrecord).bind ?_ fun _ hsame =>
            hsame ▸ hadvanced _ hcounted (Nat.le_refl _)
          rintro left s' ⟨h', hwork, hrest⟩
          cases left with
          | true =>
            refine (ih h' hrest).mono ?_ ?_
            · rintro _ s'' ⟨hlater, hdone⟩
              exact ⟨hadvanced s'' hlater.inv (hwork ▸ hlater.work), hdone⟩
            · exact fun s'' hlater => hadvanced s'' hlater.inv (hwork ▸ hlater.work)
          | false =>
            have hblocked : s'.queue.stillBlocked nowPs = true := hrest
            exact ends_pure ⟨hadvanced s' h' (Nat.le_of_eq hwork.symm),
              by simp [WorkQueue.submitDue, hblocked]⟩

omit h in
theorem Published.submitDue {after : Session φ} (hpublished : Published nowPs true s after) :
    after.queue.submitDue nowPs = s.queue.submitDue nowPs := by
  unfold WorkQueue.submitDue WorkQueue.stillBlocked
  rw [hpublished.blocked, hpublished.retry, hpublished.admission]

def WorkQueue.due (queue : WorkQueue) (nowPs : Nat) : Bool :=
  !queue.fatal && (queue.cqeDue nowPs || queue.submitDue nowPs)

structure Idle (nowPs : Nat) (before after : Session φ) : Prop where
  fabric : after.fabric = before.fabric
  queue : after.queue = { before.queue with lastObservedTimePs := nowPs } ∨
    after.queue = { before.queue with lastObservedTimePs := nowPs }.unblocked

def Advances (nowPs : Nat) (before after : Session φ) : Prop :=
  before.queue.lastObservedTimePs ≤ nowPs ∧
    if before.queue.due nowPs then before.queue.work < after.queue.work
    else Idle nowPs before after

theorem progress_inv : (progress service setup memory port nowPs s).Ends
      (fun _ s' => (∃ lost, s'.Inv setup polled lost) ∧ s'.queue.due nowPs = false ∧
        Advances nowPs s s')
      (fun s' => (∃ lost, s'.Inv setup polled lost) ∧
        (s' = s ∧ nowPs < s.queue.lastObservedTimePs ∨ Advances nowPs s s')) := by
  refine (observeTime_ends h).bind ?_ fun s' hback => ⟨⟨lost, hback.1 ▸ h⟩, .inl hback⟩
  rintro _ s' ⟨h', hqueue, hfabric, htime⟩
  -- seen from the state with the new clock
  have hadvances : ∀ after, (s'.queue.due nowPs = true → s'.queue.work < after.queue.work) →
      (s'.queue.due nowPs = false → after.fabric = s'.fabric ∧
        (after.queue = s'.queue ∨ after.queue = s'.queue.unblocked)) →
      Advances nowPs s after := by
    intro after hworks hidle
    refine ⟨htime, ?_⟩
    rw [hfabric, hqueue] at hidle
    rw [hqueue] at hworks
    split
    next hdue => exact hworks hdue
    next hnone =>
      obtain ⟨hfabric, hqueue⟩ := hidle (Bool.eq_false_of_not_eq_true hnone)
      exact ⟨hfabric, hqueue⟩
  apply ends_get_bind
  split
  next hfatal =>
    have hnone : s'.queue.due nowPs = false := by simp [WorkQueue.due, hfatal]
    refine ends_pure ⟨⟨lost, h'⟩, hnone, hadvances s' ?_ fun _ => ⟨rfl, .inl rfl⟩⟩
    exact fun hdue => absurd hdue (by simp [hnone])
  next hlive =>
    obtain rfl := h'.not_lost hlive
    refine (publishCqes_inv h').bind ?_ fun _ hfalse => hfalse.elim
    rintro changes s₂ ⟨⟨lost₂, h₂⟩, hpublished⟩
    -- either a CQE was due, and the first pass published, or the first pass changed nothing
    have hfirst : s'.queue.due nowPs = true ∧ s'.queue.work < s₂.queue.work ∨
        s₂ = s' ∧ s'.queue.cqeDue nowPs = false ∧
          s'.queue.due nowPs = s'.queue.submitDue nowPs := by
      cases hcqe : s'.queue.cqeDue nowPs with
      | true => exact .inl ⟨by simp [WorkQueue.due, hcqe, hlive], hpublished.due rfl hcqe⟩
      | false => exact .inr ⟨hpublished.idle rfl hcqe, rfl, by simp [WorkQueue.due, hcqe, hlive]⟩
    apply ends_get_bind
    split
    next hfatal =>
      refine ends_pure ⟨⟨lost₂, h₂⟩, by simp [WorkQueue.due, hfatal], ?_⟩
      rcases hfirst with ⟨hdue, hlt⟩ | ⟨rfl, _⟩
      · exact hadvances s₂ (fun _ => hlt) fun hnone => absurd hdue (by simp [hnone])
      · exact absurd hfatal hlive
    next hlive₂ =>
      obtain rfl := h₂.not_lost hlive₂
      have hdone := (hpublished.done rfl).resolve_left hlive₂
      split
      next hblocked =>
        have hwaits : s₂.queue.submitDue nowPs = false := by
          simp [WorkQueue.submitDue, hblocked]
        refine ends_pure ⟨⟨none, h₂⟩, by simp [WorkQueue.due, hdone, hwaits], ?_⟩
        rcases hfirst with ⟨hdue, hlt⟩ | ⟨rfl, _, hdue⟩
        · exact hadvances s₂ (fun _ => hlt) fun hnone => absurd hdue (by simp [hnone])
        · exact hadvances _ (fun h => absurd h (by simp [hdue, hwaits])) fun _ => ⟨rfl, .inl rfl⟩
      next hopen =>
        apply ends_modifyQueue_bind
        have hunblocked : Session.Inv setup polled none { s₂ with queue := s₂.queue.unblocked } ∧
            s₂.queue.unblocked.ready = s₂.queue.ready ∧
            s₂.queue.unblocked.headAdmission = s₂.queue.headAdmission ∧
            s₂.queue.unblocked.work = s₂.queue.work ∧
            s₂.queue.unblocked.cqeDue nowPs = s₂.queue.cqeDue nowPs := by
          unfold WorkQueue.unblocked
          split
          next => exact ⟨h₂.frame rfl rfl rfl (Nat.le_refl _), rfl, rfl, rfl, rfl⟩
          next => exact ⟨h₂, rfl, rfl, rfl, rfl⟩
        obtain ⟨hinv, hready, hadmission, hsame, hcqes⟩ := hunblocked
        have hsubmit : s₂.queue.submitDue nowPs = s₂.queue.headAdmission.any (· ≤ nowPs) := by
          simp [WorkQueue.submitDue, hopen]
        have hsecond : ∀ s₃ s₄, Session.Advanced setup polled none
            (s₂.queue.unblocked.headAdmission.any (· ≤ nowPs))
            { s₂ with queue := s₂.queue.unblocked } s₃ → s₃.queue.work ≤ s₄.queue.work →
            (s₃.queue.cqeDue nowPs = false → s₄ = s₃) → Advances nowPs s s₄ := by
          intro s₃ s₄ hadvanced hle hlast
          have hwork := hadvanced.work
          rw [hsame] at hwork
          rw [hadmission, ← hsubmit] at hadvanced
          rcases hfirst with ⟨hdue, hlt⟩ | ⟨rfl, hcqe, hdue⟩
          · exact hadvances s₄ (fun _ => by omega) fun hnone => absurd hdue (by simp [hnone])
          · rw [← hdue] at hadvanced
            refine hadvances s₄ (fun hdue => ?_) fun hnone => ?_
            · have hlt := hadvanced.due hdue
              rw [hsame] at hlt
              omega
            · obtain rfl := hadvanced.idle hnone
              rw [hlast (hcqes.trans hcqe)]
              exact ⟨rfl, .inr rfl⟩
        refine (submitReady_inv hinv hready).bind ?_ fun s₃ hadvanced => ⟨⟨none, hadvanced.inv⟩,
          .inr (hsecond s₃ s₃ hadvanced (Nat.le_refl _) fun _ => rfl)⟩
        rintro changes s₃ ⟨hadvanced, hwaits⟩
        refine (publishCqes_inv hadvanced.inv).bind ?_ fun _ hfalse => hfalse.elim
        rintro _ s₄ ⟨h₄, hlast⟩
        refine ends_pure ⟨h₄, ?_, hsecond s₃ s₄ hadvanced hlast.work (hlast.idle rfl)⟩
        unfold WorkQueue.due
        rw [hlast.submitDue, hwaits]
        rcases hlast.done rfl with hfatal | hnone <;> simp [*]

end

theorem requireInflightExtent_eq_ok {token : Nat}
    (h : queue.requireInflightExtent token wqeId = .ok extent) :
    queue.inflight.get? token = some extent ∧ extent.wqeId = wqeId := by
  unfold WorkQueue.requireInflightExtent at h
  split at h
  next => cases h
  next found hfound =>
    obtain ⟨_, hmatch, h⟩ := of_bind h
    cases h
    exact ⟨hfound, by simpa using require_eq_ok.mp hmatch⟩

def InvAt (setup : WorkQueueSetup) (polled : List CompletionEntry) (lost : Option CompletionEntry)
    (atPs : Nat) (s : Session φ) : Prop :=
  Session.Inv setup polled lost { s with queue := { s.queue with lastObservedTimePs := atPs } }

theorem Session.Inv.at {atPs : Nat} (h : s.Inv setup polled lost)
    (hle : s.queue.lastObservedTimePs ≤ atPs) : InvAt setup polled lost atPs s :=
  h.frame rfl rfl rfl hle

theorem onFlowExtentEvent_inv (h : s.Inv setup polled lost)
    (hle : s.queue.lastObservedTimePs ≤ event.eventTimePs) :
    (onFlowExtentEvent service setup memory event s).Ends
      (fun _ => InvAt setup polled lost event.eventTimePs) (· = s) := by
  apply ends_check_bind
  apply ends_get_bind
  refine ends_ofExcept_bind ?_ rfl
  intro extent hextent
  apply ends_check_bind
  refine ends_ofExcept_bind ?_ rfl
  intro _ hdone
  refine ends_ofExcept_bind ?_ rfl
  intro record hrecord
  obtain ⟨hget, hwqe⟩ := requireInflightExtent_eq_ok hextent
  have hid := (WorkQueue.wqe_eq_ok.mp hrecord).2.2
  have hnolive : ∀ item ∈ s.queue.packetAttempts, item.2.extentToken ≠ event.token := by
    have hdone := require_eq_ok.mp hdone
    simpa using hdone
  rw [← hid] at hrecord
  refine (recordOutcome_inv h ?_ hrecord rfl ?_).mono ?_ fun _ hsame => hsame
  · refine ⟨fun _ => rfl, fun _ => rfl, fun _ => rfl, fun _ => rfl, fun _ => ⟨rfl, rfl, rfl⟩,
      fun _ => rfl, ?_⟩
    intro queue
    split <;> rfl
  · intro accesses hscalar
    have hended := (h.consistent.withAccesses hscalar).terminate
      (record.ecnMarked || event.ecnMarked) (event.kind == .dropped)
      ⟨event, if event.kind == .dropped then .transportError else .success⟩
      ⟨.networkDrop, record.wqeId, record.request.wrId, event.eventTimePs, event.dropLocation,
        event.dropReason⟩ hget (hwqe.trans hid.symm) hnolive hrecord hid.symm rfl rfl ⟨rfl, rfl⟩
    refine hended.frame ?_
    cases hkind : event.kind == .dropped <;> rfl
  · rintro _ s' ⟨hinv, htime, _⟩
    exact hinv.at (htime ▸ hle)

theorem validateEventAfterAcceptance_eq_ok
    (h : queue.validateEventAfterAcceptance event extent = .ok ()) :
    ∃ record, queue.wqe extent.wqeId = .ok record ∧
      record.timeline.networkAcceptedAtPs.any (· ≤ event.eventTimePs) = true := by
  replace h := of_check h
  obtain ⟨record, hrecord, h⟩ := of_bind h
  exact ⟨record, hrecord, require_eq_ok.mp h⟩

section

variable (h : s.Inv setup polled lost)

include h

theorem completeAttempt_inv {message : String}
    (hget : s.queue.packetAttempts.get? event.token = some attempt) :
    ((completeAttempt event attempt message : QueueM φ Unit) s).Ends
      (fun _ s' => s'.Inv setup polled lost ∧
        s'.queue.lastObservedTimePs = s.queue.lastObservedTimePs) (· = s) := by
  apply ends_get_bind
  apply ends_check_bind
  refine ends_modifyQueue ⟨⟨h.consistent.completeAttempt hget, ?_⟩, rfl⟩
  exact { h.settled with }

theorem advanceAttempt_inv (hget : s.queue.packetAttempts.get? event.token = some attempt) :
    ((advanceAttempt event attempt : QueueM φ Unit) s).Ends
      (fun _ s' => s'.Inv setup polled lost ∧
        s'.queue.lastObservedTimePs = s.queue.lastObservedTimePs) (· = s) := by
  have hmoved : ∀ next : PacketAttemptState, next.extentToken = attempt.extentToken →
      next.started = attempt.started → Session.Inv setup polled lost
        { s with queue := { s.queue with
        packetAttempts := s.queue.packetAttempts.set event.token next } } :=
    fun next htoken hstarted => ⟨h.consistent.advanceAttempt hget ⟨htoken, hstarted⟩,
      { h.settled with }⟩
  unfold advanceAttempt
  cases event.kind with
  | packetTxFinished | packetRxArrived =>
    exact ends_ofExcept_bind (fun _ _ => ends_modifyQueue ⟨hmoved _ rfl rfl, rfl⟩) rfl
  | delivered | dropped => exact ends_ofExcept_bind (fun _ _ => completeAttempt_inv h hget) rfl
  | _ => exact ends_throw rfl

section

variable (hle : s.queue.lastObservedTimePs ≤ event.eventTimePs)

include hle

theorem startAttempt_inv (hget : s.queue.inflight.get? event.parentToken = some extent)
    (hwqe : extent.wqeId = event.wqeId) (hrecord : s.queue.wqe event.wqeId = .ok record)
    (haccepted : record.timeline.networkAcceptedAtPs.any (· ≤ event.eventTimePs) = true) :
    ((startAttempt event : QueueM φ Unit) s).Ends
      (fun _ => InvAt setup polled lost event.eventTimePs) (· = s) := by
  apply ends_get_bind
  refine ends_ofExcept_bind ?_ rfl
  intro _ hfresh
  have hnew : s.queue.completedPacketAttempts.get? event.token = none := by
    have hfresh := require_eq_ok.mp hfresh
    simp only [Bool.and_eq_true, Option.isNone_iff_eq_none] at hfresh
    exact hfresh.2
  have hstate : record.state = .inFlight := by
    refine h.consistent.state_of_owned _ rfl ?_ hrecord
    rw [← hwqe]
    exact List.mem_map_of_mem (Table.mem_of_get? hget)
  have hstarted := h.consistent.startAttempt hget hwqe hnew
  have hsettled := h.settled
  apply ends_modifyQueue_bind
  split
  next =>
    refine ends_updateWqe_ok hrecord ⟨?_, { hsettled with }⟩
    exact (hstarted.packetSeen hrecord hle hstate haccepted).frame rfl
  next =>
    refine ends_pure ⟨?_, { hsettled with }⟩
    exact (hstarted.later hle).frame rfl

theorem onPacketAttemptEvent_inv : ((onPacketAttemptEvent setup event : QueueM φ Unit) s).Ends
      (fun _ => InvAt setup polled lost event.eventTimePs) (· = s) := by
  apply ends_get_bind
  refine ends_ofExcept_bind ?_ rfl
  intro extent hextent
  refine ends_ofExcept_bind ?_ rfl
  intro _ henvelope
  apply ends_check_bind
  obtain ⟨hget, hwqe⟩ := requireInflightExtent_eq_ok hextent
  split
  next =>
    replace henvelope := of_check henvelope
    obtain ⟨_, hafter, _⟩ := of_bind henvelope
    obtain ⟨record, hrecord, haccepted⟩ := validateEventAfterAcceptance_eq_ok hafter
    rw [hwqe] at hrecord
    exact startAttempt_inv h hle hget hwqe hrecord haccepted
  next =>
    cases hattempt : s.queue.packetAttempts.get? event.token with
    | none => exact ends_throw rfl
    | some attempt =>
      apply ends_check_bind
      exact (advanceAttempt_inv h hattempt).mono
        (fun _ s' h' => h'.1.at (h'.2 ▸ hle)) fun _ h' => h'

theorem onTransportControlEvent_inv : ((onTransportControlEvent setup event : QueueM φ Unit) s).Ends
      (fun _ => InvAt setup polled lost event.eventTimePs) (· = s) := by
  have hat := h.at hle
  apply ends_check_bind
  apply ends_get_bind
  refine ends_ofExcept_bind ?_ rfl
  intro hasRecord _
  cases hkind : event.kind with
  | ecnMarked =>
    apply ends_check_bind
    apply ends_check_bind
    refine ends_updateWqe ?_ rfl
    intro record hrecord
    refine ⟨?_, { h.settled with }⟩
    exact ((h.consistent.ecnMarked hrecord).later hle).frame rfl
  | cnpReceived =>
    apply ends_check_bind
    apply ends_check_bind
    exact ends_pure hat
  | eligibilityUpdated | rateUpdated | pfcFrameSubmitted | pfcPaused | pfcResumed
  | linkStateChanged =>
    exact ends_ofExcept (fun _ _ => hat) rfl
  | _ => exact ends_throw rfl

end

theorem onNetworkEvent_inv : (onNetworkEvent service setup memory event s).Ends
      (fun _ => (·.Inv setup polled lost)) (· = s) := by
  apply ends_check_bind
  apply ends_check_bind
  apply ends_get_bind
  refine ends_ofExcept_bind ?_ rfl
  intro _ htime
  have hle : s.queue.lastObservedTimePs ≤ event.eventTimePs := by
    simpa using require_eq_ok.mp htime
  have hlast : ∀ s', InvAt setup polled lost event.eventTimePs s' →
      ((QueueM.modifyQueue fun queue => { queue with lastObservedTimePs := event.eventTimePs } :
        QueueM φ Unit) s').Ends (fun _ => (·.Inv setup polled lost)) (· = s) :=
    fun _ h' => ends_modifyQueue h'
  cases event.scope with
  | flowExtent =>
    exact (onFlowExtentEvent_inv h hle).bind fun _ => hlast
  | packetAttempt =>
    exact (onPacketAttemptEvent_inv h hle).bind fun _ => hlast
  | transportControl =>
    exact (onTransportControlEvent_inv h hle).bind fun _ => hlast
  | invalid => exact ends_throw rfl

end

end SimLLM.Rnic
