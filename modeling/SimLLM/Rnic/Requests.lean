import SimLLM.StateRules
import SimLLM.Rnic.Invariants

namespace SimLLM.Rnic

variable {g : WorkQueue → WorkQueue} {wqeId nowPs boundaryPs count : Nat}
variable {f : WqeRecord → WqeRecord} {record : WqeRecord} {queue after : WorkQueue}
variable {setup : WorkQueueSetup} {includeBoundary : Bool} {memory : VirtualHostMemory}
variable {port : NetworkPort} {event : NetworkEvent} {attempt : PacketAttemptState}

variable {φ : Type} {α β : Type}

section Rules

variable {Q : β → Session φ → Prop} {E : Session φ → Prop} {s : Session φ}

variable {r : Except CppError α}

theorem ends_ofExcept {Q : α → Session φ → Prop} (hok : ∀ a, r = .ok a → Q a s) (herror : E s) :
    (QueueM.ofExcept r s).Ends Q E := by
  cases r with
  | ok a => exact hok a rfl
  | error e => exact herror

theorem ends_ofExcept_bind {f : α → QueueM φ β} (hok : ∀ a, r = .ok a → (f a s).Ends Q E)
    (herror : E s) : ((QueueM.ofExcept r >>= f) s).Ends Q E :=
  ends_bind (ends_ofExcept hok herror)

theorem ends_check_bind {r : Except CppError Unit} {f : Unit → QueueM φ β}
    (h : (f () s).Ends Q (· = s)) : ((QueueM.ofExcept r >>= f) s).Ends Q (· = s) :=
  ends_ofExcept_bind (fun _ _ => h) rfl

theorem ends_ofExcept_ok_bind {f : α → QueueM φ β} {a : α} (hr : r = .ok a) (h : (f a s).Ends Q E) :
    ((QueueM.ofExcept r >>= f) s).Ends Q E := by
  subst hr
  exact h

theorem ends_require_bind {condition : Bool} {error : CppError} {f : Unit → QueueM φ β}
    (hcondition : condition = true) (h : (f () s).Ends Q E) :
    ((QueueM.ofExcept (require condition error) >>= f) s).Ends Q E :=
  ends_ofExcept_ok_bind (require_eq_ok.mpr hcondition) h

theorem ends_modifyQueue {Q : Unit → Session φ → Prop} (h : Q () { s with queue := g s.queue }) :
    ((QueueM.modifyQueue g : QueueM φ Unit) s).Ends Q E :=
  h

theorem ends_modifyQueue_bind {f : Unit → QueueM φ β}
    (h : (f () { s with queue := g s.queue }).Ends Q E) :
    ((QueueM.modifyQueue g >>= f) s).Ends Q E := h

theorem updateWqe_of_ok (h : s.queue.wqe wqeId = .ok record) :
    (QueueM.updateWqe wqeId f : QueueM φ Unit) s =
      .ok () { s with queue := s.queue.setWqe wqeId (f record) } := by
  unfold QueueM.updateWqe
  rw [get_bind, h]
  rfl

variable {Q : Unit → Session φ → Prop}

theorem ends_updateWqe_ok (hrecord : s.queue.wqe wqeId = .ok record)
    (h : Q () { s with queue := s.queue.setWqe wqeId (f record) }) :
    ((QueueM.updateWqe wqeId f : QueueM φ Unit) s).Ends Q E := by
  rw [updateWqe_of_ok hrecord]
  exact h

theorem ends_updateWqe (hok : ∀ record, s.queue.wqe wqeId = .ok record →
      Q () { s with queue := s.queue.setWqe wqeId (f record) }) (herror : E s) :
    ((QueueM.updateWqe wqeId f : QueueM φ Unit) s).Ends Q E := by
  apply ends_get_bind
  exact ends_ofExcept_bind (fun record h => ends_modifyQueue (hok record h)) herror

end Rules

theorem WorkQueue.wqe_eq_ok : queue.wqe wqeId = .ok record ↔
      wqeId ≠ 0 ∧ queue.records[wqeId - 1]? = some record ∧ record.wqeId = wqeId := by
  unfold WorkQueue.wqe
  cases h : queue.records[wqeId - 1]? with
  | none => simp
  | some found =>
    by_cases hzero : wqeId = 0
    · simp [hzero]
    · by_cases hid : found.wqeId = wqeId
      · simp only [hzero, ↓reduceIte, hid, ne_eq, not_true_eq_false, Except.ok.injEq,
          Option.some.injEq, not_false_eq_true, true_and]
        constructor
        · rintro rfl
          exact ⟨rfl, hid⟩
        · exact fun h => h.1
      · simp only [hzero, ↓reduceIte, ne_eq, hid, not_false_eq_true, reduceCtorEq,
          Option.some.injEq, true_and, false_iff, not_and]
        rintro rfl
        exact hid

/-! ### What the calls leave alone

Only a post adds a request and only a doorbell publishes one. -/

def WorkQueue.requests (queue : WorkQueue) : List (Nat × WorkRequest) :=
  queue.records.map fun record => (record.wqeId, record.request)

structure SameRequests (before after : WorkQueue) : Prop where
  requests : after.requests = before.requests
  unpublished : after.unpublished = before.unpublished
  nextWqeId : after.nextWqeId = before.nextWqeId

theorem SameRequests.trans {a b c : WorkQueue} (h : SameRequests a b) (h' : SameRequests b c) :
    SameRequests a c :=
  ⟨h'.requests.trans h.requests, h'.unpublished.trans h.unpublished,
    h'.nextWqeId.trans h.nextWqeId⟩

theorem map_set_of_eq {f : α → β} {l : List α} {i : Nat} {a b : α}
    (hget : l[i]? = some a) (heq : f b = f a) : (l.set i b).map f = l.map f := by
  obtain ⟨hi, rfl⟩ := List.getElem?_eq_some_iff.mp hget
  rw [List.map_set, heq]
  apply List.ext_getElem
  · simp
  · intro j _ _
    by_cases hj : i = j
    · subst hj
      simp
    · simp [List.getElem_set_ne hj]

theorem setWqe_requests {next : WqeRecord} (h : queue.wqe wqeId = .ok record)
    (heq : next.wqeId = record.wqeId ∧ next.request = record.request) :
    (queue.setWqe wqeId next).requests = queue.requests :=
  map_set_of_eq (WorkQueue.wqe_eq_ok.mp h).2.1 (by rw [heq.1, heq.2])

theorem SameRequests.wqe {before : WorkQueue} (h : SameRequests before after)
    (hrecord : before.wqe wqeId = .ok record) :
    ∃ later, after.wqe wqeId = .ok later ∧ later.request = record.request := by
  obtain ⟨hne, hget, hid⟩ := WorkQueue.wqe_eq_ok.mp hrecord
  have hbefore : before.requests[wqeId - 1]? = some (record.wqeId, record.request) := by
    simp [WorkQueue.requests, hget]
  rw [← h.requests] at hbefore
  unfold WorkQueue.requests at hbefore
  rw [List.getElem?_map, Option.map_eq_some_iff] at hbefore
  obtain ⟨later, hlater, heq⟩ := hbefore
  cases Prod.mk.inj heq with
  | intro hids hreq =>
    exact ⟨later, WorkQueue.wqe_eq_ok.mpr ⟨hne, hlater, hids.trans hid⟩, hreq⟩

def Session.asked (s : Session φ) : List (Nat × WorkRequest) × List Nat × Nat :=
  (s.queue.requests, s.queue.unpublished, s.queue.nextWqeId)

theorem SameRequests.of_asked {before after : Session φ} (h : after.asked = before.asked) :
    SameRequests before.queue after.queue :=
  ⟨congrArg (·.1) h, congrArg (·.2.1) h, congrArg (·.2.2) h⟩

theorem WorkQueue.recordAt_eq_ok {index : Nat} :
    queue.recordAt index = .ok record ↔ queue.records[index]? = some record := by
  unfold WorkQueue.recordAt
  cases queue.records[index]? <;> simp

section Keeps

open EStateM

variable {service : PcieService φ}

theorem keeps_ofExcept_bind {γ : Type} {part : Session φ → γ} {r : Except CppError α}
    {f : α → QueueM φ β} (h : ∀ a, Keeps part (f a)) : Keeps part (QueueM.ofExcept r >>= f) :=
  fun s => ends_ofExcept_bind (fun a _ => h a s) rfl

theorem keeps_modifyQueue
    (h : ∀ s : Session φ, Session.asked { s with queue := g s.queue } = s.asked) :
    Keeps Session.asked (QueueM.modifyQueue g : QueueM φ Unit) :=
  fun s => ends_modifyQueue (h s)

theorem keeps_updateWqe
    (hf : ∀ record, (f record).wqeId = record.wqeId ∧ (f record).request = record.request) :
    Keeps Session.asked (QueueM.updateWqe wqeId f : QueueM φ Unit) := by
  intro s
  refine ends_updateWqe (fun record hrecord => ?_) rfl
  exact congrArg (·, _) (setWqe_requests hrecord (hf record))

theorem keeps_observeTime : Keeps Session.asked (QueueM.observeTime nowPs : QueueM φ Unit) :=
  .get fun _ => keeps_ofExcept_bind fun _ => keeps_modifyQueue fun _ => rfl

theorem keeps_publishFrom {published : Nat} {pending : PendingCqes} : Keeps Session.asked
      (publishFrom setup boundaryPs includeBoundary published pending : QueueM φ Nat) := by
  induction pending generalizing published with
  | nil => exact .pure _
  | cons item rest ih =>
    unfold publishFrom
    split
    next => exact .pure _
    next =>
      refine .bind (keeps_modifyQueue fun _ => rfl) fun _ => .get fun _ =>
        keeps_ofExcept_bind fun _ => ?_
      split
      next =>
        exact .bind (keeps_modifyQueue fun _ => rfl) fun _ =>
          .bind (keeps_updateWqe fun _ => ⟨rfl, rfl⟩) fun _ => .pure _
      next =>
        exact .bind (keeps_updateWqe fun _ => ⟨rfl, rfl⟩) fun _ =>
          .bind (keeps_modifyQueue fun _ => rfl) fun _ => ih

theorem keeps_publishCqes :
    Keeps Session.asked (publishCqes setup boundaryPs includeBoundary : QueueM φ Nat) :=
  .get fun _ => keeps_publishFrom

theorem keeps_reclaimNext : Keeps Session.asked (reclaimNext nowPs count : QueueM φ Unit) := by
  induction count with
  | zero => exact .pure _
  | succ count ih =>
    intro s
    apply ends_get_bind
    refine ends_ofExcept_bind (fun record hrecord => ?_) rfl
    refine ends_ofExcept_bind ?_ rfl
    intro _ _
    apply ends_modifyQueue_bind
    have hsame : Session.asked { s with queue := s.queue.reclaimOne record nowPs } = s.asked := by
      unfold WorkQueue.reclaimOne
      split
      next => exact congrArg (·, _) (map_set_of_eq (WorkQueue.recordAt_eq_ok.mp hrecord) rfl)
      next => rfl
    exact hsame ▸ ih _

theorem keeps_pollFrom {result entries : List CompletionEntry} :
    Keeps Session.asked (pollFrom setup nowPs result count entries : QueueM φ _) := by
  induction count generalizing result entries with
  | zero =>
    unfold pollFrom
    exact .pure _
  | succ count ih =>
    cases entries with
    | nil => exact .pure _
    | cons entry rest =>
      refine .bind (.bind (keeps_modifyQueue fun _ => rfl) fun _ =>
        .bind (keeps_updateWqe fun _ => ⟨rfl, rfl⟩) fun _ => .bind ?_ fun _ =>
        .bind (keeps_modifyQueue fun _ => rfl) fun _ => .pure _) fun _ => ih
      exact .get fun _ => keeps_ofExcept_bind fun _ => keeps_ofExcept_bind fun _ =>
        keeps_reclaimNext

theorem keeps_pollCompletionQueue {maxEntries : Nat} :
    Keeps Session.asked (pollCompletionQueue setup maxEntries nowPs : QueueM φ _) := by
  refine .bind keeps_observeTime fun _ => .get fun session => ?_
  split
  next => exact .get fun _ => keeps_pollFrom
  next => exact .bind keeps_publishCqes fun _ => .get fun _ => keeps_pollFrom

theorem keeps_commitRetirements {plan : RetirementPlan φ} :
    Keeps Session.asked (commitRetirements plan) := by
  refine .bind (keeps_modifyQueue fun _ => rfl) fun _ => .bind (.forM fun item => ?_) fun _ =>
    keeps_modifyQueue fun _ => rfl
  exact .bind (keeps_modifyQueue fun _ => rfl) fun _ => keeps_updateWqe fun _ => ⟨rfl, rfl⟩

theorem commitRetirementPcie_asked {plan : RetirementPlan φ} {s s' : Session φ}
    (h : commitRetirementPcie setup s plan = .ok s') : s'.asked = s.asked := by
  unfold commitRetirementPcie at h
  split at h
  next =>
    obtain ⟨fabric, _, h⟩ := of_bind h
    cases h
    rfl
  next =>
    cases h
    rfl

theorem keeps_recordOutcome {recorded : RecordedOutcome}
    (hrecord : ∀ record, (recorded.record record).wqeId = record.wqeId ∧
      (recorded.record record).request = record.request)
    (hupdate : ∀ queue, (recorded.update queue).records = queue.records ∧
      (recorded.update queue).unpublished = queue.unpublished ∧
      (recorded.update queue).nextWqeId = queue.nextWqeId) :
    Keeps Session.asked (recordOutcome service setup memory recorded) := by
  intro s
  apply ends_get_bind
  refine ends_ofExcept_bind (fun plan _ => ?_) rfl
  refine ends_ofExcept_bind ?_ rfl
  intro _ _
  refine ends_ofExcept_bind (fun committed hcommitted => ?_) rfl
  rw [← commitRetirementPcie_asked hcommitted]
  apply ends_bind
  apply ends_set
  refine Keeps.bind (keeps_modifyQueue fun s => ?_)
    (fun _ => .bind (keeps_updateWqe hrecord) fun _ => keeps_commitRetirements) committed
  obtain ⟨hrecords, hunpublished, hnext⟩ := hupdate { s.queue with
    pendingOutcomes := s.queue.pendingOutcomes.set recorded.candidate.wqeId
      recorded.candidate.outcome }
  simp only [Session.asked, WorkQueue.requests, hrecords, hunpublished, hnext]

theorem keeps_takeAnswer {result : NetworkSubmitResult} {admittedAtPs : Nat} {rest : List Nat} :
    Keeps Session.asked
      (takeAnswer service setup memory result record admittedAtPs rest nowPs) := by
  unfold takeAnswer
  cases result.status with
  | busy =>
    refine .bind (keeps_ofExcept_bind fun _ => keeps_ofExcept_bind fun _ => ?_) fun _ => .pure _
    exact keeps_modifyQueue fun _ => rfl
  | accepted =>
    refine .bind (keeps_ofExcept_bind fun _ => .get fun _ => keeps_ofExcept_bind fun _ => ?_)
      fun _ => .pure _
    exact .bind (keeps_modifyQueue fun _ => rfl) fun _ =>
      .bind (keeps_updateWqe fun _ => ⟨rfl, rfl⟩) fun _ => keeps_modifyQueue fun _ => rfl
  | rejected =>
    refine .bind (keeps_ofExcept_bind fun _ => ?_) fun _ => .pure _
    exact keeps_recordOutcome (fun _ => ⟨rfl, rfl⟩) fun _ => ⟨rfl, rfl, rfl⟩
  | invalid => exact .throw _

theorem keeps_submitReady {changes : Nat} {ready : List Nat} :
    Keeps Session.asked (submitReady service setup memory port nowPs changes ready) := by
  induction ready generalizing changes with
  | nil => exact .pure _
  | cons wqeId rest ih =>
    refine .get fun _ => keeps_ofExcept_bind fun _ => keeps_ofExcept_bind fun _ => ?_
    split
    next => exact .pure _
    next =>
      refine .bind (keeps_modifyQueue fun _ => rfl) fun _ => .bind keeps_takeAnswer fun _ => ?_
      split
      next => exact ih
      next => exact .pure _

theorem keeps_progress : Keeps Session.asked (progress service setup memory port nowPs) := by
  refine .bind keeps_observeTime fun _ => .get fun _ => ?_
  split
  next => exact .pure _
  next =>
    refine .bind keeps_publishCqes fun _ => .get fun _ => ?_
    split
    next => exact .pure _
    next =>
      split
      next => exact .pure _
      next =>
        refine .bind (keeps_modifyQueue fun s => ?_) fun _ => .bind keeps_submitReady fun _ =>
          .bind keeps_publishCqes fun _ => .pure _
        unfold WorkQueue.unblocked
        split <;> rfl

theorem keeps_onFlowExtentEvent :
    Keeps Session.asked (onFlowExtentEvent service setup memory event) := by
  refine keeps_ofExcept_bind fun _ => .get fun _ => keeps_ofExcept_bind fun _ =>
    keeps_ofExcept_bind fun _ => keeps_ofExcept_bind fun _ => keeps_ofExcept_bind fun _ => ?_
  exact keeps_recordOutcome (fun _ => ⟨rfl, rfl⟩) fun _ => ⟨rfl, rfl, rfl⟩

theorem keeps_completeAttempt {message : String} :
    Keeps Session.asked (completeAttempt event attempt message : QueueM φ Unit) :=
  .get fun _ => keeps_ofExcept_bind fun _ => keeps_modifyQueue fun _ => rfl

theorem keeps_advanceAttempt :
    Keeps Session.asked (advanceAttempt event attempt : QueueM φ Unit) := by
  unfold advanceAttempt
  cases event.kind with
  | packetTxFinished | packetRxArrived =>
    exact keeps_ofExcept_bind fun _ => keeps_modifyQueue fun _ => rfl
  | delivered | dropped => exact keeps_ofExcept_bind fun _ => keeps_completeAttempt
  | _ => exact .throw _

theorem keeps_startAttempt : Keeps Session.asked (startAttempt event : QueueM φ Unit) := by
  refine .get fun _ => keeps_ofExcept_bind fun _ => .bind (keeps_modifyQueue fun _ => rfl)
    fun _ => ?_
  split
  next => exact keeps_updateWqe fun _ => ⟨rfl, rfl⟩
  next => exact .pure _

theorem keeps_onPacketAttemptEvent :
    Keeps Session.asked (onPacketAttemptEvent setup event : QueueM φ Unit) := by
  refine .get fun _ => keeps_ofExcept_bind fun _ => keeps_ofExcept_bind fun _ =>
    keeps_ofExcept_bind fun _ => ?_
  split
  next => exact keeps_startAttempt
  next =>
    split
    next => exact .throw _
    next => exact keeps_ofExcept_bind fun _ => keeps_advanceAttempt

theorem keeps_onTransportControlEvent :
    Keeps Session.asked (onTransportControlEvent setup event : QueueM φ Unit) := by
  refine keeps_ofExcept_bind fun _ => .get fun _ => keeps_ofExcept_bind fun _ => ?_
  have hmark : Keeps Session.asked (if event.kind = .ecnMarked then
      QueueM.updateWqe event.wqeId fun record => { record with ecnMarked := true }
      else pure () : QueueM φ Unit) := by
    split
    next => exact keeps_updateWqe fun _ => ⟨rfl, rfl⟩
    next => exact .pure _
  have hcheck : ∀ r : Except CppError Unit, Keeps Session.asked
    (QueueM.ofExcept r : QueueM φ Unit) :=
    fun r s => ends_ofExcept (fun _ _ => rfl) rfl
  split
  next => exact keeps_ofExcept_bind fun _ => keeps_ofExcept_bind fun _ => hmark
  next => exact keeps_ofExcept_bind fun _ => keeps_ofExcept_bind fun _ => hmark
  all_goals first | exact hcheck _ | exact .throw _

theorem keeps_onNetworkEvent : Keeps Session.asked (onNetworkEvent service setup memory event) := by
  refine keeps_ofExcept_bind fun _ => keeps_ofExcept_bind fun _ => .get fun _ =>
    keeps_ofExcept_bind fun _ => ?_
  have hlast : Keeps Session.asked (QueueM.modifyQueue fun queue =>
      { queue with lastObservedTimePs := event.eventTimePs } : QueueM φ Unit) :=
    keeps_modifyQueue fun _ => rfl
  cases event.scope with
  | flowExtent => exact .bind keeps_onFlowExtentEvent fun _ => hlast
  | packetAttempt => exact .bind keeps_onPacketAttemptEvent fun _ => hlast
  | transportControl => exact .bind keeps_onTransportControlEvent fun _ => hlast
  | invalid => exact .throw _

end Keeps

end SimLLM.Rnic
