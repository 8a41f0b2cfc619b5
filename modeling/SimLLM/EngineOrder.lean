import SimLLM.TableTotals
import SimLLM.StateRules
import SimLLM.EngineSteps

namespace SimLLM

open List FirstExtremum

def PendingStep.due (item : PendingStep) : Int × Nat := (item.receipt.completedAtPs, item.token)

structure EngineFacts (runtime : EngineStepRuntime) : Prop where
  idle : runtime.retiring = none
  opened : runtime.closed = false
  healthy : runtime.failure = none
  now : runtime.clock.nowPs = runtime.nowPs
  engines : runtime.pending.keys.Nodup
  owned : ∀ id item, runtime.pending.get? id = some item → item.receipt.engineId = id
  heap : (runtime.clock.heap.map fun event => (event.atPs, event.payload)).Perm
    (runtime.pending.values.map PendingStep.due)
  numbered : ∃ base, runtime.clock.tie = base + runtime.sequence ∧
    ∀ event ∈ runtime.clock.heap, event.tie = base + event.payload
  numbers : (runtime.results.map (·.1.sequence) ++ runtime.pending.values.map (·.token)).Nodup
  sequenced : ∀ item ∈ runtime.pending.values,
    item.token = item.receipt.sequence ∧ item.receipt.sequence < runtime.sequence
  ahead : ∀ item ∈ runtime.pending.values, runtime.nowPs ≤ item.receipt.completedAtPs
  past : ∀ entry ∈ runtime.results,
    entry.1.completedAtPs ≤ runtime.nowPs ∧ entry.1.sequence < runtime.sequence
  first : ∀ entry ∈ runtime.results, ∀ item ∈ runtime.pending.values,
    entry.1.order < item.receipt.order
  sorted : runtime.results.Pairwise (·.1.order < ·.1.order)
  once : ∀ number < runtime.sequence,
    (∃ item ∈ runtime.pending.values, item.receipt.sequence = number) ∨
      ∃ entry ∈ runtime.results, entry.1.sequence = number

theorem receipt_lt_iff {first second : EngineStepReceipt} :
    first.order < second.order ↔ first.completedAtPs < second.completedAtPs ∨
      first.completedAtPs = second.completedAtPs ∧ first.sequence < second.sequence := by
  simp [EngineStepReceipt.order, Prod.Lex.toLex_lt_toLex]

variable {runtime : EngineStepRuntime}

section Heap

variable (facts : EngineFacts runtime)

include facts

theorem EngineFacts.tokens : (runtime.pending.values.map (·.token)).Nodup :=
  (nodup_append.mp facts.numbers).2.1

theorem EngineFacts.active : runtime.active = runtime.pending.values := by
  unfold EngineStepRuntime.active
  rw [facts.idle]
  exact filter_eq_self.mpr fun item _ => rfl

theorem EngineFacts.heap_times : (runtime.clock.heap.map (·.atPs)).Perm
      (runtime.pending.values.map (·.receipt.completedAtPs)) := by
  have hperm := facts.heap.map Prod.fst
  rw [map_map, map_map] at hperm
  exact hperm

theorem EngineFacts.peek : runtime.clock.peekNextTime = runtime.earliest := by
  have htimes := facts.heap_times
  unfold VirtualClock.peekNextTime EngineStepRuntime.earliest
  rw [facts.active]
  by_cases hempty : runtime.clock.heap = []
  · rw [hempty, map_nil] at htimes
    rw [hempty, ← htimes.nil_eq]
    rfl
  · obtain ⟨event, hevent⟩ := exists_minBy ClockEvent.order hempty
    have hmem := htimes.mem_iff.mp (mem_map_of_mem (minBy_mem hevent))
    obtain ⟨best, hbest⟩ := exists_minBy (fun atPs => atPs) (ne_nil_of_mem hmem)
    have hle := minBy_le hbest hmem
    obtain ⟨other, hother, rfl⟩ := mem_map.mp (htimes.mem_iff.mpr (minBy_mem hbest))
    have hge := order_le_iff.mp (minBy_le hevent hother)
    rw [hevent, hbest, Option.map_some]
    congr 1
    omega

theorem EngineFacts.checkAction : checkAction runtime = .ok () runtime := by
  have hlength : runtime.clock.heap.length = runtime.active.length := by
    have hperm := facts.heap.length_eq
    rw [length_map, length_map] at hperm
    rw [facts.active]
    exact hperm
  have hlive : checkLive runtime = .ok () runtime := by
    unfold checkLive
    simp [facts.healthy, facts.opened, facts.now, hlength, facts.peek]
  show EStateM.bind checkLive _ runtime = _
  simp only [EStateM.bind, hlive]
  show (if runtime.retiring.isSome = true then _ else _ : EngineM Unit) runtime = _
  rw [facts.idle]
  rfl

end Heap

section Submit

variable {submission : Submission}

def EngineStepRuntime.submitted (runtime : EngineStepRuntime) (submission : Submission) :
    EngineStepRuntime :=
  let receipt := runtime.receiptFor submission
  { runtime with
    pending := runtime.pending.set submission.engineId ⟨receipt, submission.result,
      runtime.sequence, submission.publications, submission.claims, []⟩
    used := runtime.used ++ [(submission.engineId, submission.record.stepIndex)]
    sequence := runtime.sequence + 1
    clock := { runtime.clock with
      heap := runtime.clock.heap ++
        [⟨submission.result.completedAtPs, runtime.clock.tie, runtime.sequence⟩]
      tie := runtime.clock.tie + 1 }
    events := runtime.events ++
      [EventPhase.submitted, .queued, .started].map (engineEvent receipt · runtime.nowPs) }

theorem checkSubmission_facts (h : runtime.checkSubmission submission = .ok ()) :
    runtime.pending.get? submission.engineId = none ∧
      runtime.nowPs ≤ submission.result.completedAtPs := by
  replace h := of_check h
  replace h := of_check h
  obtain ⟨_, hfree, h⟩ := of_bind h
  replace h := of_check h
  replace h := of_check h
  obtain ⟨_, hresult, h⟩ := of_bind h
  obtain ⟨_, hprice, -⟩ := of_bind h
  replace hresult := of_check hresult
  obtain ⟨_, hlatency, -⟩ := of_bind hresult
  refine ⟨Option.isNone_iff_eq_none.mp (require_eq_ok.mp hfree), ?_⟩
  have hprice' := require_eq_ok.mp hprice
  have hlatency' := require_eq_ok.mp hlatency
  simp only [Bool.and_eq_true, beq_iff_eq, decide_eq_true_eq] at hprice' hlatency'
  omega

theorem guarded_meets {α : Type} {body : EngineM α} {Q : α → EngineStepRuntime → Prop}
    {F : PyError → Prop} (h : (body runtime).Meets Q fun error _ => F error) :
    (guarded body runtime).Meets Q fun error after => after.failure ≠ none ∧ F error := by
  unfold guarded
  cases hbody : body runtime with
  | ok value after => exact h.of_ok hbody
  | error error after =>
    exact ⟨by simp [EngineStepRuntime.invalidate], h.of_error hbody⟩

def Refused (error : PyError) (after : EngineStepRuntime) : Prop :=
  after.failure ≠ none ∧ error ≠ foreignEvent

theorem reject_meets {α : Type} {message : String} {Q : α → EngineStepRuntime → Prop} :
    (reject message runtime).Meets Q Refused :=
  ⟨by simp [EngineStepRuntime.invalidate], by simp [foreignEvent, runtimeError, valueError]⟩

theorem submit_meets (facts : EngineFacts runtime) (submission : Submission) :
    (submit submission runtime).Meets
      (fun _ after => runtime.checkSubmission submission = .ok () ∧
        after = runtime.submitted submission) fun _ after => after.failure ≠ none := by
  unfold submit
  rw [bind_of_ok facts.checkAction]
  refine (guarded_meets (F := fun _ => True) (.of_eq ?_ fun _ _ _ => trivial)).mono
    (fun _ _ h => h) fun _ _ h => h.1
  intro receipt after h
  rw [get_bind] at h
  obtain ⟨_, _, hlift, h⟩ := EStateM.bind_eq_ok.mp h
  obtain ⟨hcheck, rfl⟩ := liftExcept_ok hlift
  rw [bind_of_ok facts.checkAction] at h
  obtain ⟨_, _, hpending, h⟩ := EStateM.bind_eq_ok.mp h
  cases hpending
  obtain ⟨_, _, hused, h⟩ := EStateM.bind_eq_ok.mp h
  cases hused
  obtain ⟨_, _, hsequence, h⟩ := EStateM.bind_eq_ok.mp h
  cases hsequence
  obtain ⟨_, _, hclock, h⟩ := EStateM.bind_eq_ok.mp h
  have hforward : ¬ submission.result.completedAtPs < runtime.clock.nowPs := by
    have hnow := facts.now
    have hlate := (checkSubmission_facts hcheck).2
    omega
  simp only [scheduleClock, VirtualClock.schedule, if_neg hforward] at hclock
  cases hclock
  obtain ⟨_, _, hevents, h⟩ := EStateM.bind_eq_ok.mp h
  cases hevents
  cases h
  exact ⟨hcheck, rfl⟩

theorem EngineFacts.submitted (facts : EngineFacts runtime)
    (hcheck : runtime.checkSubmission submission = .ok ()) :
    EngineFacts (runtime.submitted submission) := by
  obtain ⟨hfree, hlate⟩ := checkSubmission_facts hcheck
  let pending : PendingStep := ⟨runtime.receiptFor submission, submission.result, runtime.sequence,
    submission.publications, submission.claims, []⟩
  have hvalues : (runtime.submitted submission).pending.values =
      runtime.pending.values ++ [pending] := Table.values_set_new pending hfree
  obtain ⟨base, htie, hties⟩ := facts.numbered
  refine ⟨facts.idle, facts.opened, facts.healthy, facts.now, ?_, ?_, ?_, ?_, ?_, ?_, ?_, ?_, ?_,
    facts.sorted, ?_⟩
  · exact Table.set_keys_nodup facts.engines _ _
  · exact Table.forall_set rfl facts.owned
  · rw [hvalues, map_append]
    show ((runtime.clock.heap ++ [_]).map _).Perm _
    rw [map_append]
    exact facts.heap.append (.refl _)
  · refine ⟨base, by show runtime.clock.tie + 1 = base + (runtime.sequence + 1); omega, ?_⟩
    exact forall_mem_concat hties htie
  · rw [hvalues, map_append, ← append_assoc]
    refine nodup_append.mpr ⟨facts.numbers, by simp, ?_⟩
    intro number hnumber other hother heq
    have hnew : other = runtime.sequence := by simpa using hother
    rcases mem_append.mp hnumber with hnumber | hnumber
    · obtain ⟨entry, hentry, rfl⟩ := mem_map.mp hnumber
      have hpast := (facts.past entry hentry).2
      omega
    · obtain ⟨item, hitem, rfl⟩ := mem_map.mp hnumber
      have hsequence := facts.sequenced item hitem
      omega
  · rw [hvalues]
    refine forall_mem_concat (fun item hitem => ?_) ⟨rfl, Nat.lt_succ_self _⟩
    have hnumber := facts.sequenced item hitem
    exact ⟨hnumber.1, Nat.lt_succ_of_lt hnumber.2⟩
  · rw [hvalues]
    exact forall_mem_concat facts.ahead hlate
  · intro entry hentry
    have hpast := facts.past entry hentry
    exact ⟨hpast.1, Nat.lt_succ_of_lt hpast.2⟩
  · intro entry hentry
    rw [hvalues]
    refine forall_mem_concat (facts.first entry hentry) (receipt_lt_iff.mpr ?_)
    -- a retired step completed by now and has a smaller number
    have hpast := facts.past entry hentry
    show entry.1.completedAtPs < submission.result.completedAtPs ∨
      entry.1.completedAtPs = submission.result.completedAtPs ∧ entry.1.sequence < runtime.sequence
    omega
  · intro number hnumber
    have hbound : number < runtime.sequence + 1 := hnumber
    by_cases hold : number < runtime.sequence
    · rcases facts.once number hold with ⟨item, hitem, hsame⟩ | hretired
      · exact .inl ⟨item, by rw [hvalues]; simp [hitem], hsame⟩
      · exact .inr hretired
    · refine .inl ⟨pending, by rw [hvalues]; simp, ?_⟩
      show runtime.sequence = number
      omega

end Submit

theorem advance_meets (facts : EngineFacts runtime) (atPs : Int) :
    (advanceEngine atPs runtime).Meets
      (fun _ after => runtime.nowPs ≤ atPs ∧
        (∀ item ∈ runtime.pending.values, atPs ≤ item.receipt.completedAtPs) ∧
        after = { runtime with clock := { runtime.clock with nowPs := atPs }, nowPs := atPs })
      fun _ after => after.failure ≠ none := by
  unfold advanceEngine
  rw [bind_of_ok facts.checkAction, get_bind]
  by_cases hmoves : atPs < runtime.nowPs ∨ (runtime.clock.peekNextTime.any (· < atPs)) = true
  · rw [if_pos hmoves]
    exact reject_meets.mono (fun _ _ h => h) fun _ _ h => h.1
  · obtain ⟨hforward, hskips⟩ := not_or.mp hmoves
    have hnow := facts.now
    have hclock : ¬ atPs < runtime.clock.nowPs := by omega
    rw [if_neg hmoves]
    simp only [VirtualClock.advanceTo, if_neg hclock]
    refine ⟨by omega, ?_, rfl⟩
    intro item hitem
    rw [facts.peek, EngineStepRuntime.earliest, facts.active] at hskips
    have hmem := mem_map_of_mem (f := (·.receipt.completedAtPs)) hitem
    obtain ⟨best, hbest⟩ := exists_minBy (fun atPs => atPs) (ne_nil_of_mem hmem)
    have hle := minBy_le hbest hmem
    rw [hbest] at hskips
    simp only [Option.any_some, decide_eq_true_eq] at hskips
    omega

theorem EngineFacts.advanced (facts : EngineFacts runtime) {atPs : Int}
    (hforward : runtime.nowPs ≤ atPs)
    (hahead : ∀ item ∈ runtime.pending.values, atPs ≤ item.receipt.completedAtPs) :
    EngineFacts { runtime with clock := { runtime.clock with nowPs := atPs }, nowPs := atPs } := by
  refine { facts with now := rfl, ahead := hahead, past := ?_ }
  intro entry hentry
  have hpast := facts.past entry hentry
  exact ⟨hpast.1.trans hforward, hpast.2⟩

section Complete

variable {receipt : EngineStepReceipt} {pending : PendingStep}

theorem EngineFacts.popped (facts : EngineFacts runtime)
    (hnext : runtime.nextPending = some pending) : ∃ event,
      minBy ClockEvent.order runtime.clock.heap = some event ∧
      event.payload = pending.token ∧ event.atPs = pending.receipt.completedAtPs := by
  have hmem := minBy_mem hnext
  obtain ⟨base, -, hties⟩ := facts.numbered
  have hdue := facts.heap.mem_iff.mpr (mem_map.mpr ⟨pending, hmem, rfl⟩)
  obtain ⟨own, hown, howner⟩ := mem_map.mp hdue
  obtain ⟨hownTime, hownToken⟩ := Prod.mk.inj howner
  obtain ⟨event, hevent⟩ := exists_minBy ClockEvent.order (ne_nil_of_mem hown)
  have heventMem := minBy_mem hevent
  -- the popped completion belongs to some pending step
  have hback := facts.heap.mem_iff.mp
    (mem_map.mpr ⟨event, heventMem, rfl⟩ : (event.atPs, event.payload) ∈ _)
  obtain ⟨other, hother, hotherDue⟩ := mem_map.mp hback
  obtain ⟨hotherTime, hotherToken⟩ := Prod.mk.inj hotherDue
  have hheap := order_le_iff.mp (minBy_le hevent hown)
  have hdueOrder := minBy_le hnext hother
  have hevenTie := hties event heventMem
  have hownTie := hties own hown
  have hnextNumber := (facts.sequenced pending hmem).1
  have hotherNumber := (facts.sequenced other hother).1
  have hnotBefore := not_lt.mpr hdueOrder
  rw [receipt_lt_iff] at hnotBefore
  refine ⟨event, hevent, ?_, ?_⟩
  · omega
  · omega

def NeverForeign {α : Type} (action : EngineM α) : Prop :=
  ∀ runtime error after, action runtime = .error error after → error ≠ foreignEvent

theorem NeverForeign.bind {α β : Type} {action : EngineM α} {next : α → EngineM β}
    (haction : NeverForeign action) (hnext : ∀ value, NeverForeign (next value)) :
    NeverForeign (action >>= next) := by
  intro runtime error after h
  cases hfirst : action runtime with
  | error error' after' =>
    rw [bind_of_error hfirst] at h
    cases h
    exact haction runtime error after hfirst
  | ok value middle =>
    rw [bind_of_ok hfirst] at h
    exact hnext value middle error after h

theorem NeverForeign.modify (f : EngineStepRuntime → EngineStepRuntime) :
    NeverForeign (modify f : EngineM PUnit) := by
  intro runtime error after h
  cases h

theorem NeverForeign.liftExcept {α : Type} {result : Except PyError α}
    (h : ∀ error, result = .error error → error ≠ foreignEvent) :
    NeverForeign (liftExcept result : EngineM α) := by
  intro runtime error after hlift
  cases result with
  | ok value => cases hlift
  | error error' =>
    cases hlift
    exact h error rfl

variable {before after : EngineStepRuntime}

theorem checkLive_ok (h : checkLive before = .ok () after) : before = after := by
  unfold checkLive at h
  repeat' split at h
  all_goals cases h
  rfl

theorem checkLive_neverForeign : NeverForeign checkLive := by
  intro runtime error after h
  unfold checkLive at h
  repeat' split at h
  all_goals cases h
  all_goals simp [foreignEvent, runtimeError, valueError]

theorem NeverForeign.get {α : Type} {next : EngineStepRuntime → EngineM α}
    (h : ∀ runtime, NeverForeign (next runtime)) : NeverForeign (MonadState.get >>= next) := by
  intro runtime error after hget
  exact h runtime runtime error after hget

theorem claimPublication_neverForeign (receipt : EngineStepReceipt) (publisher : Nat) :
    NeverForeign (claimPublication receipt publisher) := by
  refine checkLive_neverForeign.bind fun _ => .get fun runtime => ?_
  repeat' split
  all_goals
    intro before error after h
    cases h
  all_goals simp [foreignEvent, runtimeError, valueError]

theorem claims_neverForeign (receipt : EngineStepReceipt) (claims : List Nat) :
    NeverForeign (claims.forM (claimPublication receipt)) := by
  induction claims with
  | nil =>
    intro runtime error after h
    cases h
  | cons publisher rest ih =>
    exact (claimPublication_neverForeign receipt publisher).bind fun _ => ih

theorem require_error {condition : Bool} {error failure : PyError}
    (h : require condition failure = .error error) : error = failure := by
  unfold require at h
  split at h
  all_goals cases h
  rfl

theorem makeVisit_error {data : VisitData} {error : PyError}
    (h : QueueVisit.make data = .error error) : error ≠ foreignEvent := by
  unfold QueueVisit.make at h
  repeat' split at h
  all_goals cases h
  all_goals decide

theorem engineVisit_error {atPs : Int} {error : PyError}
    (h : engineVisit receipt atPs = .error error) : error ≠ foreignEvent := by
  rcases Except.of_bind_error h with h | ⟨_, h⟩
  · rw [require_error h]
    decide
  rcases Except.of_bind_error h with h | ⟨_, h⟩
  · rw [require_error h]
    decide
  exact makeVisit_error h

theorem claims_frame {claims : List Nat}
    (h : claims.forM (claimPublication receipt) before = .ok () after) :
    after = { before with retiring := after.retiring } := by
  refine EStateM.forM_invariant
    (fun reached => reached = { before with retiring := reached.retiring }) h rfl ?_
  intro publisher reached next hreached hclaim
  obtain ⟨_, live, hlive, hset⟩ := EStateM.bind_eq_ok.mp hclaim
  obtain rfl := checkLive_ok hlive
  rw [get_bind] at hset
  cases hretiring : reached.retiring with
  | none =>
    rw [hretiring] at hset
    cases hset
  | some pending =>
    simp only [hretiring] at hset
    repeat' split at hset
    all_goals cases hset
    rw [hreached]

def EngineStepRuntime.retired (runtime : EngineStepRuntime) (pending : PendingStep)
    (event : ClockEvent Nat) (events : List EngineEvent) (visits : List QueueVisit) :
    EngineStepRuntime :=
  { runtime with
    clock := { runtime.clock with
      nowPs := event.atPs, heap := runtime.clock.heap.eraseP (·.tie == event.tie) }
    pending := runtime.pending.erase pending.receipt.engineId
    events := events
    visits := visits
    results := runtime.results ++ [(pending.receipt, pending.result)]
    retiring := none }

variable {event : ClockEvent Nat}

structure Retires (runtime : EngineStepRuntime) (receipt : EngineStepReceipt)
    (after : EngineStepRuntime) : Prop where
  due : receipt.completedAtPs = runtime.clock.nowPs
  clock : after.clock.nowPs = receipt.completedAtPs
  results : after.results.map Prod.fst = runtime.results.map Prod.fst ++ [receipt]
  facts : EngineFacts after

section

variable (facts : EngineFacts runtime)

include facts

theorem retirePending_meets (hevent : minBy ClockEvent.order runtime.clock.heap = some event)
    (htoken : event.payload = pending.token) (hdue : event.atPs = runtime.nowPs) :
    (retirePending pending runtime).Meets
      (fun _ after => ∃ events visits, after = runtime.retired pending event events visits)
      fun error _ => error ≠ foreignEvent := by
  let popped : EngineStepRuntime := { runtime with clock := { runtime.clock with
    nowPs := event.atPs, heap := runtime.clock.heap.eraseP (·.tie == event.tie) } }
  have hpop : popClock runtime = .ok event popped := by
    simp only [popClock, VirtualClock.popNext, heappop, hevent, Option.map_some]
    rfl
  have hown : ¬ (event.payload ≠ pending.token ∨ event.atPs ≠ popped.nowPs) := by
    simpa [popped] using ⟨htoken, hdue⟩
  unfold retirePending
  rw [bind_of_ok facts.checkAction, bind_of_ok hpop, get_bind,
    if_neg hown]
  refine .of_eq ?_ ?_
  · intro _ after h
    obtain ⟨_, _, hretiring, h⟩ := EStateM.bind_eq_ok.mp h
    cases hretiring
    obtain ⟨_, claimed, hclaims, h⟩ := EStateM.bind_eq_ok.mp h
    have hframe := claims_frame hclaims
    obtain ⟨_, live, hlive, h⟩ := EStateM.bind_eq_ok.mp h
    obtain rfl := checkLive_ok hlive
    rw [get_bind] at h
    obtain ⟨_, _, hcounted, h⟩ := EStateM.bind_eq_ok.mp h
    obtain ⟨-, rfl⟩ := liftExcept_ok hcounted
    obtain ⟨visit, _, hvisit, h⟩ := EStateM.bind_eq_ok.mp h
    obtain ⟨-, rfl⟩ := liftExcept_ok hvisit
    rw [hframe] at h
    cases h
    exact ⟨_, _, rfl⟩
  · refine NeverForeign.bind (.modify _) (fun _ => ?_) popped
    refine (claims_neverForeign _ _).bind fun _ => checkLive_neverForeign.bind fun _ => ?_
    refine .get fun published => ?_
    refine (NeverForeign.liftExcept ?_).bind fun _ =>
      (NeverForeign.liftExcept ?_).bind fun visit => ?_
    · intro error h
      rw [require_error h]
      decide
    · exact fun error h => engineVisit_error h
    · refine (NeverForeign.modify _).bind fun _ => (NeverForeign.modify _).bind fun _ =>
        (NeverForeign.modify _).bind fun _ => (NeverForeign.modify _).bind fun _ => .modify _

theorem EngineFacts.heap_erased (hevent : event ∈ runtime.clock.heap) :
    runtime.clock.heap.Perm (event :: runtime.clock.heap.eraseP (·.tie == event.tie)) := by
  obtain ⟨base, -, hties⟩ := facts.numbered
  have hpayloads : (runtime.clock.heap.map (·.payload)).Nodup := by
    have hperm := facts.heap.map Prod.snd
    rw [map_map, map_map] at hperm
    exact hperm.nodup_iff.mpr facts.tokens
  have hnodup : (runtime.clock.heap.map (·.tie)).Nodup := by
    have hmap : runtime.clock.heap.map (·.tie) =
        (runtime.clock.heap.map (·.payload)).map (base + ·) := by
      rw [map_map]
      exact map_congr_left hties
    rw [hmap]
    exact hpayloads.map fun _ _ h => Nat.add_left_cancel h
  exact perm_cons_eraseP hnodup hevent

theorem EngineFacts.retire (hpending : runtime.pending.get? pending.receipt.engineId = some pending)
    (hnext : runtime.nextPending = some pending)
    (hevent : minBy ClockEvent.order runtime.clock.heap = some event)
    (htoken : event.payload = pending.token)
    (hcompleted : event.atPs = pending.receipt.completedAtPs) (hdue : event.atPs = runtime.nowPs)
    (events : List EngineEvent) (visits : List QueueVisit) :
    EngineFacts (runtime.retired pending event events visits) := by
  have hvalues := Table.values_perm_erase facts.engines hpending
  have hheap := facts.heap_erased (minBy_mem hevent)
  have hmem := minBy_mem hnext
  have htokens := ((hvalues.map (·.token)).nodup_iff.mp facts.tokens)
  rw [map_cons, nodup_cons] at htokens
  -- every other pending step is due strictly later
  have hlater : ∀ item ∈ (runtime.pending.erase pending.receipt.engineId).values,
      pending.receipt.order < item.receipt.order := by
    intro item hitem
    have hle := minBy_le hnext (Table.mem_values_erase hitem)
    refine lt_of_le_of_ne hle ?_
    intro heq
    have hnumber : pending.receipt.sequence = item.receipt.sequence := congrArg (·.2) heq
    have hown := (facts.sequenced pending hmem).1
    have hother := (facts.sequenced item (Table.mem_values_erase hitem)).1
    exact htokens.1 (mem_map.mpr ⟨item, hitem, by omega⟩)
  obtain ⟨base, htie, hties⟩ := facts.numbered
  refine ⟨rfl, facts.opened, facts.healthy, hdue, Table.erase_keys_nodup facts.engines _, ?_, ?_,
    ⟨base, htie, fun event hevent => hties event (mem_of_mem_eraseP hevent)⟩, ?_,
    fun item hitem => facts.sequenced item (Table.mem_values_erase hitem),
    fun item hitem => facts.ahead item (Table.mem_values_erase hitem), ?_, ?_, ?_, ?_⟩
  · intro id item hitem
    rw [EngineStepRuntime.retired, Table.get?_erase] at hitem
    split at hitem
    next => cases hitem
    next => exact facts.owned id item hitem
  · have hall := (hheap.map fun event => (event.atPs, event.payload)).symm.trans
      (facts.heap.trans (hvalues.map PendingStep.due))
    have hhead : (event.atPs, event.payload) = pending.due := by
      rw [hcompleted, htoken]
      rfl
    rw [map_cons, map_cons, hhead] at hall
    exact hall.cons_inv
  · have hsequence := (facts.sequenced pending hmem).1
    have hnumbers := ((hvalues.map (·.token)).append_left
      (runtime.results.map (·.1.sequence))).nodup_iff.mp facts.numbers
    rw [map_cons, hsequence] at hnumbers
    show ((runtime.results ++ [(pending.receipt, pending.result)]).map (·.1.sequence) ++ _).Nodup
    rw [map_append, append_assoc]
    exact hnumbers
  · refine forall_mem_concat facts.past ⟨?_, (facts.sequenced pending hmem).2⟩
    show pending.receipt.completedAtPs ≤ runtime.nowPs
    omega
  · exact forall_mem_concat
      (fun entry hentry item hitem => facts.first entry hentry item (Table.mem_values_erase hitem))
      hlater
  · refine pairwise_append.mpr ⟨facts.sorted, by simp, ?_⟩
    intro entry hentry other hother
    obtain rfl : other = (pending.receipt, pending.result) := by simpa using hother
    exact facts.first entry hentry pending hmem
  · intro number hnumber
    rcases facts.once number hnumber with ⟨item, hitem, hsequence⟩ | ⟨entry, hentry, hsequence⟩
    · rcases mem_cons.mp (hvalues.mem_iff.mp hitem) with rfl | hitem
      · exact .inr ⟨(item.receipt, item.result),
          mem_append_right _ (mem_singleton.mpr rfl), hsequence⟩
      · exact .inl ⟨item, hitem, hsequence⟩
    · exact .inr ⟨entry, mem_append_left _ hentry, hsequence⟩

theorem complete_meets (receipt : EngineStepReceipt) :
    (complete receipt runtime).Meets (fun _ => Retires runtime receipt) Refused := by
  unfold complete
  rw [bind_of_ok facts.checkAction, get_bind]
  cases hpending : runtime.pending.get? receipt.engineId with
  | none => exact reject_meets
  | some pending =>
    dsimp only
    split
    next => exact reject_meets
    next hown =>
      obtain rfl := not_not.mp hown
      split
      next => exact reject_meets
      next hturn =>
        obtain ⟨hnext, hnow⟩ := not_or.mp hturn
        rw [not_not] at hnext hnow
        -- tokens are distinct
        obtain ⟨next, hfirst, htoken⟩ := Option.map_eq_some_iff.mp hnext
        obtain rfl := inj_on_of_nodup_map facts.tokens (minBy_mem hfirst)
          (Table.value_mem_of_get? hpending) htoken
        obtain ⟨event, hevent, htoken, hcompleted⟩ := facts.popped hfirst
        have hdue := hcompleted.trans hnow
        refine (guarded_meets (retirePending_meets facts hevent htoken hdue)).mono ?_
        rintro _ _ ⟨events, visits, rfl⟩
        refine ⟨?_, hcompleted, by simp [EngineStepRuntime.retired],
          facts.retire hpending hfirst hevent htoken hcompleted hdue events visits⟩
        rw [facts.now, hnow]

end

end Complete

structure RetiresAll (runtime : EngineStepRuntime) (receipts : List EngineStepReceipt)
    (after : EngineStepRuntime) : Prop where
  due : ∀ receipt ∈ receipts, receipt.completedAtPs = runtime.clock.nowPs
  clock : after.clock.nowPs = runtime.clock.nowPs
  results : after.results.map Prod.fst = runtime.results.map Prod.fst ++ receipts
  facts : EngineFacts after

theorem completeAll_meets (facts : EngineFacts runtime) (receipts : List EngineStepReceipt) :
    (receipts.forM complete runtime).Meets (fun _ => RetiresAll runtime receipts) Refused := by
  induction receipts generalizing runtime with
  | nil => exact ⟨by simp, rfl, by simp, facts⟩
  | cons receipt rest ih =>
    refine (complete_meets facts receipt).bind ?_
    intro _ middle hretires
    refine (ih hretires.facts).mono ?_
    intro _ after hrest
    have hnow := hretires.clock.trans hretires.due
    refine ⟨?_, hrest.clock.trans hnow, ?_, hrest.facts⟩
    · exact forall_mem_cons.mpr ⟨hretires.due,
        fun other hother => (hrest.due other hother).trans hnow⟩
    · rw [hrest.results, hretires.results, append_assoc, singleton_append]

theorem completeDue_meets (facts : EngineFacts runtime) :
    (completeDue runtime).Meets (fun due => RetiresAll runtime due) Refused := by
  unfold completeDue
  rw [bind_of_ok facts.checkAction, get_bind]
  exact (completeAll_meets facts runtime.due).bind fun _ _ h => h

inductive EngineRun : EngineStepRuntime → Prop
  | start {clock : VirtualClock Nat} {runtime : EngineStepRuntime} :
      EngineStepRuntime.new clock = .ok runtime → EngineRun runtime
  | accepted {runtime after : EngineStepRuntime} {call : EngineCall} :
      EngineRun runtime → call.apply runtime = .ok () after → EngineRun after
  | refused {runtime after : EngineStepRuntime} {call : EngineCall} {error : PyError} :
      EngineRun runtime → call.apply runtime = .error error after → EngineRun after

theorem EngineFacts.start {clock : VirtualClock Nat}
    (h : EngineStepRuntime.new clock = .ok runtime) : EngineFacts runtime := by
  obtain ⟨_, hempty, h⟩ := of_bind h
  have hheap := isEmpty_iff.mp (require_eq_ok.mp hempty)
  cases h
  refine ⟨rfl, rfl, rfl, rfl, by simp [Table.keys], by simp, ?_, ⟨clock.tie, rfl, ?_⟩, ?_, ?_, ?_,
    by simp, by simp, by simp, by simp⟩
  · rw [hheap]
    exact .refl _
  · simp [hheap]
  · simp [Table.values]
  · simp [Table.values]
  · simp [Table.values]

theorem EngineFacts.apply (facts : EngineFacts runtime) (call : EngineCall) :
    (call.apply runtime).Meets (fun _ => EngineFacts) fun _ after => after.failure ≠ none := by
  cases call with
  | submit submission =>
    refine (submit_meets facts submission).bind ?_
    rintro _ _ ⟨hcheck, rfl⟩
    exact facts.submitted hcheck
  | advanceTo atPs =>
    refine (advance_meets facts atPs).mono ?_
    rintro _ _ ⟨hforward, hahead, rfl⟩
    exact facts.advanced hforward hahead
  | complete receipt =>
    exact (complete_meets facts receipt).mono (fun _ _ h => h.facts) fun _ _ h => h.1
  | completeDue =>
    refine EStateM.Result.Meets.bind ((completeDue_meets facts).mono (fun _ _ h => h)
      fun _ _ h => h.1) ?_
    exact fun _ _ h => h.facts

theorem poisoned_apply (h : runtime.failure ≠ none) (call : EngineCall) :
    ∃ error, call.apply runtime = .error error runtime := by
  obtain ⟨reason, hreason⟩ := Option.ne_none_iff_exists'.mp h
  have hlive : ∃ error, checkLive runtime = .error error runtime := by
    unfold checkLive
    rw [hreason]
    exact ⟨_, rfl⟩
  obtain ⟨error, hlive⟩ := hlive
  have haction : checkAction runtime = .error error runtime := bind_of_error hlive
  refine ⟨error, ?_⟩
  cases call with
  | submit submission => exact bind_of_error (bind_of_error haction)
  | advanceTo atPs | complete receipt => exact bind_of_error haction
  | completeDue => exact bind_of_error (bind_of_error haction)

theorem EngineRun.facts (run : EngineRun runtime) (hlive : runtime.failure = none) :
    EngineFacts runtime := by
  induction run with
  | start h => exact .start h
  | @accepted before after call _ h ih =>
    by_cases hbefore : before.failure = none
    · exact ((ih hbefore).apply call).of_ok h
    · obtain ⟨error, herror⟩ := poisoned_apply hbefore call
      rw [herror] at h
      cases h
  | @refused before after call _ _ h ih =>
    by_cases hbefore : before.failure = none
    · exact absurd hlive (((ih hbefore).apply call).of_error h)
    · obtain ⟨error, herror⟩ := poisoned_apply hbefore call
      rw [herror] at h
      cases h
      exact absurd hlive hbefore

/-- While the runtime is not poisoned, each engine has at most one pending step, the clock holds
exactly the pending completions and passes none of them. Each submitted step is either pending or
retired; the retired ones are in due order, and each retires at exactly its completion time. The
completion a retirement pops is never another step's. -/
theorem engine_completion_order {runtime : EngineStepRuntime} (run : EngineRun runtime)
    (hlive : runtime.failure = none) :
    (runtime.pending.keys.Nodup ∧
      ∀ id item, runtime.pending.get? id = some item → item.receipt.engineId = id) ∧
    (runtime.clock.heap.map fun event => (event.atPs, event.payload)).Perm
      (runtime.pending.values.map fun item => (item.receipt.completedAtPs, item.token)) ∧
    (∀ item ∈ runtime.pending.values, runtime.clock.nowPs ≤ item.receipt.completedAtPs) ∧
    runtime.results.Pairwise (·.1.order < ·.1.order) ∧
    (runtime.results.map (·.1.sequence)).Nodup ∧
    (∀ number < runtime.sequence,
      Xor (∃ item ∈ runtime.pending.values, item.receipt.sequence = number)
        (∃ entry ∈ runtime.results, entry.1.sequence = number)) ∧
    (∀ submission receipt after, submit submission runtime = .ok receipt after →
      after.results = runtime.results) ∧
    (∀ atPs after, advanceEngine atPs runtime = .ok () after → after.results = runtime.results) ∧
    (∀ receipt after, complete receipt runtime = .ok () after →
      receipt.completedAtPs = runtime.clock.nowPs ∧
      after.clock.nowPs = receipt.completedAtPs ∧
      after.results.map Prod.fst = runtime.results.map Prod.fst ++ [receipt]) ∧
    (∀ due after, completeDue runtime = .ok due after →
      (∀ receipt ∈ due, receipt.completedAtPs = runtime.clock.nowPs) ∧
      after.clock.nowPs = runtime.clock.nowPs ∧
      after.results.map Prod.fst = runtime.results.map Prod.fst ++ due) ∧
    (∀ receipt error after, complete receipt runtime = .error error after →
      error ≠ foreignEvent) ∧
    ∀ error after, completeDue runtime = .error error after → error ≠ foreignEvent := by
  have facts := run.facts hlive
  refine ⟨⟨facts.engines, facts.owned⟩, facts.heap, ?_, facts.sorted,
    (nodup_append.mp facts.numbers).1, ?_, ?_, ?_, ?_, ?_, ?_, ?_⟩
  · intro item hitem
    rw [facts.now]
    exact facts.ahead item hitem
  · intro number hnumber
    refine (xor_iff_or_and_not_and _ _).mpr ⟨facts.once number hnumber, ?_⟩
    rintro ⟨⟨item, hitem, hsame⟩, entry, hentry, hretired⟩
    refine (nodup_append.mp facts.numbers).2.2 _ (mem_map.mpr ⟨entry, hentry, rfl⟩) _
      (mem_map.mpr ⟨item, hitem, rfl⟩) ?_
    rw [hretired, (facts.sequenced item hitem).1, hsame]
  · intro submission receipt after h
    rw [((submit_meets facts submission).of_ok h).2]
    rfl
  · intro atPs after h
    rw [((advance_meets facts atPs).of_ok h).2.2]
  · intro receipt after h
    have hretires := (complete_meets facts receipt).of_ok h
    exact ⟨hretires.due, hretires.clock, hretires.results⟩
  · intro due after h
    have hretires := (completeDue_meets facts).of_ok h
    exact ⟨hretires.due, hretires.clock, hretires.results⟩
  · exact fun receipt error after h => ((complete_meets facts receipt).of_error h).2
  · exact fun error after h => ((completeDue_meets facts).of_error h).2

def shortStep (engineId : String) : Submission where
  engineId := engineId
  record := { stepIndex := 0, virtualTimePs := 0, scheduled := [⟨"r", .decode, 1, 0, 1⟩] }
  result := { stepIndex := 0, stepLatencyPs := 5, completedAtPs := 5 }

def retiredEngines :
    EStateM.Result PyError EngineStepRuntime Unit → Option (List String × Int × Bool)
  | .ok _ after =>
    some (after.results.map (·.1.engineId), after.clock.nowPs, after.failure.isNone)
  | .error _ _ => none

/-- Two engines finish at the same time and retire in submission order. -/
theorem two_engines_in_order :
    ∃ runtime, EngineRun runtime ∧ runtime.failure = none ∧
      runtime.results.map (·.1.engineId) = ["a", "b"] ∧
      runtime.results.Pairwise (·.1.order < ·.1.order) ∧ runtime.clock.nowPs = 5 := by
  let calls : List EngineCall :=
    [.submit (shortStep "a"), .submit (shortStep "b"), .advanceTo 5, .completeDue]
  let start : EngineStepRuntime := { clock := .start 0, nowPs := 0 }
  have hnew : EngineStepRuntime.new (.start 0) = .ok start := rfl
  have hretired : retiredEngines (calls.forM EngineCall.apply start) =
      some (["a", "b"], 5, true) := by decide +kernel
  cases hcalls : calls.forM EngineCall.apply start with
  | error error after =>
    rw [hcalls] at hretired
    cases hretired
  | ok u after =>
    rw [hcalls] at hretired
    simp only [retiredEngines, Option.some.injEq, Prod.mk.injEq, Option.isNone_iff_eq_none]
      at hretired
    obtain ⟨hengines, hnow, hlive⟩ := hretired
    have run := EStateM.forM_invariant EngineRun hcalls (.start hnew)
      fun _ _ _ reached hcall => reached.accepted hcall
    exact ⟨after, run, hlive, hengines, (engine_completion_order run hlive).2.2.2.1, hnow⟩

end SimLLM
