import SimLLM.PyError
import SimLLM.ExceptRules
import SimLLM.FirstExtremum

namespace SimLLM

open List FirstExtremum

variable {α : Type}

structure ClockEvent (α : Type) where
  atPs : Int
  tie : Nat
  payload : α
  deriving DecidableEq, Repr

def ClockEvent.order (event : ClockEvent α) : Int ×ₗ Nat := toLex (event.atPs, event.tie)

structure VirtualClock (α : Type) where
  nowPs : Int
  heap : List (ClockEvent α)
  tie : Nat
  deriving DecidableEq, Repr

def VirtualClock.start (startPs : Int) : VirtualClock α := ⟨startPs, [], 0⟩

def VirtualClock.schedule (clock : VirtualClock α) (atPs : Int) (payload : α) :
    Except PyError (VirtualClock α) :=
  if atPs < clock.nowPs then
    .error (valueError "cannot schedule at {} ps, now is {} ps"
      [toString atPs, toString clock.nowPs])
  else
    .ok { clock with heap := clock.heap ++ [⟨atPs, clock.tie, payload⟩], tie := clock.tie + 1 }

def VirtualClock.peekNextTime (clock : VirtualClock α) : Option Int :=
  (minBy ClockEvent.order clock.heap).map ClockEvent.atPs

def heappop (heap : List (ClockEvent α)) : Option (ClockEvent α × List (ClockEvent α)) :=
  (minBy ClockEvent.order heap).map fun event => (event, heap.eraseP (·.tie == event.tie))

def VirtualClock.popNext (clock : VirtualClock α) :
    Except PyError (ClockEvent α × VirtualClock α) :=
  match heappop clock.heap with
  | none => .error (indexError "virtual clock has no pending events")
  | some (event, rest) => .ok (event, { clock with nowPs := event.atPs, heap := rest })

def VirtualClock.advanceTo (clock : VirtualClock α) (atPs : Int) :
    Except PyError (VirtualClock α) :=
  if atPs < clock.nowPs then
    .error (valueError "cannot rewind to {} ps from {} ps" [toString atPs, toString clock.nowPs])
  else
    .ok { clock with nowPs := atPs }

inductive ClockCall (α : Type) where
  | schedule (atPs : Int) (payload : α)
  | popNext
  | advanceTo (atPs : Int)
  deriving DecidableEq, Repr

structure ClockStep (α : Type) where
  before : VirtualClock α
  call : ClockCall α
  popped : Option (ClockEvent α)
  after : VirtualClock α
  deriving DecidableEq, Repr

def ClockCall.apply (clock : VirtualClock α) : ClockCall α → Except PyError (ClockStep α)
  | .schedule atPs payload => do
    let after ← clock.schedule atPs payload
    .ok ⟨clock, .schedule atPs payload, none, after⟩
  | .popNext => do
    let (event, after) ← clock.popNext
    .ok ⟨clock, .popNext, some event, after⟩
  | .advanceTo atPs => do
    let after ← clock.advanceTo atPs
    .ok ⟨clock, .advanceTo atPs, none, after⟩

def runCalls : VirtualClock α → List (ClockCall α) → Except PyError (List (ClockStep α))
  | _, [] => .ok []
  | clock, call :: calls => do
    let step ← call.apply clock
    let steps ← runCalls step.after calls
    .ok (step :: steps)

variable {clock : VirtualClock α} {call : ClockCall α} {step : ClockStep α}

theorem apply_cases (h : call.apply clock = .ok step) :
    (∃ atPs payload, clock.nowPs ≤ atPs ∧ step = ⟨clock, .schedule atPs payload, none,
      { clock with heap := clock.heap ++ [⟨atPs, clock.tie, payload⟩], tie := clock.tie + 1 }⟩) ∨
    (∃ event, minBy ClockEvent.order clock.heap = some event ∧
      step = ⟨clock, .popNext, some event,
        { clock with nowPs := event.atPs, heap := clock.heap.eraseP (·.tie == event.tie) }⟩) ∨
    (∃ atPs, clock.nowPs ≤ atPs ∧
      step = ⟨clock, .advanceTo atPs, none, { clock with nowPs := atPs }⟩) := by
  cases call with
  | schedule atPs payload =>
    obtain ⟨after, ha, hs⟩ := of_bind h
    cases hs
    unfold VirtualClock.schedule at ha
    split at ha
    next => simp at ha
    next hle =>
      cases ha
      exact .inl ⟨atPs, payload, by omega, rfl⟩
  | popNext =>
    obtain ⟨⟨event, after⟩, ha, hs⟩ := of_bind h
    cases hs
    unfold VirtualClock.popNext heappop at ha
    cases hm : minBy ClockEvent.order clock.heap with
    | none => simp [hm] at ha
    | some best =>
      simp only [hm, Option.map_some, Except.ok.injEq, Prod.mk.injEq] at ha
      obtain ⟨rfl, rfl⟩ := ha
      exact .inr (.inl ⟨best, rfl, rfl⟩)
  | advanceTo atPs =>
    obtain ⟨after, ha, hs⟩ := of_bind h
    cases hs
    unfold VirtualClock.advanceTo at ha
    split at ha
    next => simp at ha
    next hle =>
      cases ha
      exact .inr (.inr ⟨atPs, by omega, rfl⟩)

structure PopOrder (clock : VirtualClock α) (popped : List (ClockEvent α)) : Prop where
  fresh : ∀ e ∈ clock.heap, e.tie < clock.tie
  past : ∀ e ∈ popped, e.atPs ≤ clock.nowPs ∧ e.tie < clock.tie
  ahead : ∀ e ∈ popped, ∀ f ∈ clock.heap, e.order < f.order
  distinct : clock.heap.Pairwise (fun e f => e.tie ≠ f.tie)
  sorted : popped.Pairwise (fun e f => e.order < f.order)

variable {e f : ClockEvent α}

theorem order_lt_iff : e.order < f.order ↔ e.atPs < f.atPs ∨ e.atPs = f.atPs ∧ e.tie < f.tie := by
  simp [ClockEvent.order, Prod.Lex.toLex_lt_toLex]

theorem order_le_iff : e.order ≤ f.order ↔ e.atPs < f.atPs ∨ e.atPs = f.atPs ∧ e.tie ≤ f.tie := by
  simp [ClockEvent.order, Prod.Lex.toLex_le_toLex]

theorem popOrder_start (startPs : Int) :
    PopOrder (VirtualClock.start startPs : VirtualClock α) [] := by
  constructor <;> simp [VirtualClock.start]

theorem popped_before_rest {event : ClockEvent α}
    (distinct : clock.heap.Pairwise (fun e f => e.tie ≠ f.tie))
    (hm : minBy ClockEvent.order clock.heap = some event)
    (hf : f ∈ clock.heap.eraseP (·.tie == event.tie)) : event.order < f.order := by
  have hle := order_le_iff.mp (minBy_le hm (mem_of_mem_eraseP hf))
  have hnodup : (clock.heap.map (·.tie)).Nodup := pairwise_map.mpr distinct
  rw [((perm_cons_eraseP hnodup (minBy_mem hm)).map _).nodup_iff, map_cons, nodup_cons] at hnodup
  have hne : f.tie ≠ event.tie := fun heq => hnodup.1 (mem_map.mpr ⟨f, hf, heq⟩)
  exact order_lt_iff.mpr (by omega)

variable {popped : List (ClockEvent α)}

theorem apply_popOrder (h : call.apply clock = .ok step) (inv : PopOrder clock popped) :
    PopOrder step.after (popped ++ step.popped.toList) := by
  rcases apply_cases h with ⟨atPs, payload, hle, rfl⟩ | ⟨event, hm, rfl⟩ | ⟨atPs, hle, rfl⟩
  · -- the new entry carries the largest insertion number and a time not before any popped one
    simp only [Option.toList_none, append_nil]
    refine ⟨?_, ?_, ?_, ?_, inv.sorted⟩
    · exact forall_mem_concat (fun e he => Nat.lt_succ_of_lt (inv.fresh e he)) (Nat.lt_succ_self _)
    · exact fun e he => ⟨(inv.past e he).1, Nat.lt_succ_of_lt (inv.past e he).2⟩
    · intro e he
      have hpast := inv.past e he
      exact forall_mem_concat (inv.ahead e he) (order_lt_iff.mpr (by simp only; omega))
    · refine pairwise_append.mpr ⟨inv.distinct, by simp, ?_⟩
      intro e he f hf
      obtain rfl := mem_singleton.mp hf
      exact Nat.ne_of_lt (inv.fresh e he)
  · have hmem := minBy_mem hm
    refine ⟨?_, ?_, ?_, ?_, ?_⟩
    · exact fun e he => inv.fresh e (mem_of_mem_eraseP he)
    · refine forall_mem_concat (fun e he => ?_) ⟨le_rfl, inv.fresh event hmem⟩
      have hahead := order_lt_iff.mp (inv.ahead e he event hmem)
      exact ⟨by simp only; omega, (inv.past e he).2⟩
    · exact forall_mem_concat (fun e he f hf => inv.ahead e he f (mem_of_mem_eraseP hf))
        fun f hf => popped_before_rest inv.distinct hm hf
    · exact inv.distinct.sublist eraseP_sublist
    · refine pairwise_append.mpr ⟨inv.sorted, by simp, ?_⟩
      intro e he f hf
      obtain rfl := mem_singleton.mp hf
      exact inv.ahead e he f hmem
  · refine ⟨inv.fresh, ?_, by simpa using inv.ahead, inv.distinct, by simpa using inv.sorted⟩
    intro e he
    have := inv.past e (by simpa using he)
    exact ⟨this.1.trans hle, this.2⟩

/-- A step that is not an `advance_to` past a pending entry. -/
def ClockStep.KeepsPending (step : ClockStep α) : Prop :=
  match step.call with
  | .advanceTo atPs => ∀ e ∈ step.before.heap, atPs ≤ e.atPs
  | _ => True

instance (step : ClockStep α) : Decidable step.KeepsPending := by
  unfold ClockStep.KeepsPending
  split <;> infer_instance

def ClockStep.Forward (step : ClockStep α) : Prop :=
  step.before.nowPs ≤ step.after.nowPs ∧ ∀ e ∈ step.popped, step.before.nowPs ≤ e.atPs

instance (step : ClockStep α) : Decidable step.Forward :=
  inferInstanceAs (Decidable (_ ∧ _))

theorem apply_forward
    (h : call.apply clock = .ok step) (pending : ∀ e ∈ clock.heap, clock.nowPs ≤ e.atPs)
    (guard : step.KeepsPending) :
    step.Forward ∧ ∀ e ∈ step.after.heap, step.after.nowPs ≤ e.atPs := by
  rcases apply_cases h with ⟨atPs, payload, hle, rfl⟩ | ⟨event, hm, rfl⟩ | ⟨atPs, hle, rfl⟩
  · refine ⟨⟨le_rfl, by simp⟩, ?_⟩
    exact forall_mem_concat pending hle
  · have hnow := pending event (minBy_mem hm)
    refine ⟨⟨hnow, by simpa using hnow⟩, ?_⟩
    intro e he
    have hord := order_le_iff.mp (minBy_le hm (mem_of_mem_eraseP he))
    show event.atPs ≤ e.atPs
    omega
  · exact ⟨⟨hle, by simp⟩, guard⟩

variable {calls : List (ClockCall α)} {steps : List (ClockStep α)}

theorem runCalls_popOrder (h : runCalls clock calls = .ok steps) (inv : PopOrder clock popped) :
    (popped ++ steps.filterMap (·.popped)).Pairwise (fun e f => e.order < f.order) := by
  induction calls generalizing clock steps popped with
  | nil =>
    cases h
    simpa using inv.sorted
  | cons call calls ih =>
    obtain ⟨step, hstep, h⟩ := of_bind h
    obtain ⟨rest, hrest, h⟩ := of_bind h
    cases h
    have hnext := ih hrest (apply_popOrder hstep inv)
    cases hp : step.popped <;> simpa [hp] using hnext

theorem runCalls_forward (h : runCalls clock calls = .ok steps)
    (pending : ∀ e ∈ clock.heap, clock.nowPs ≤ e.atPs) (guard : ∀ step ∈ steps, step.KeepsPending) :
    ∀ step ∈ steps, step.Forward := by
  induction calls generalizing clock steps with
  | nil =>
    cases h
    simp
  | cons call calls ih =>
    obtain ⟨first, hfirst, h⟩ := of_bind h
    obtain ⟨rest, hrest, h⟩ := of_bind h
    cases h
    have hone := apply_forward hfirst pending (guard first (by simp))
    have hmore := ih hrest hone.2 fun step hs => guard step (by simp [hs])
    exact forall_mem_cons.mpr ⟨hone.1, hmore⟩

/-- On every run that never overtakes a pending entry time only moves forward, and the
entries come out by time and then by insertion. -/
theorem runCalls_monotone {startPs : Int} {calls : List (ClockCall α)} {steps : List (ClockStep α)}
    (h : runCalls (.start startPs) calls = .ok steps) (guard : ∀ step ∈ steps, step.KeepsPending) :
    (∀ step ∈ steps, step.Forward) ∧
      (steps.filterMap (·.popped)).Pairwise (fun e f => e.order < f.order) := by
  refine ⟨runCalls_forward h (by simp [VirtualClock.start]) guard, ?_⟩
  simpa using runCalls_popOrder h (popOrder_start startPs)

theorem runCalls_monotone_interleaved :
    ∃ steps, runCalls (.start 0) [.schedule 5 'a', .schedule 5 'b', .advanceTo 5, .popNext,
        .popNext, .advanceTo 10] = .ok steps ∧ (∀ step ∈ steps, step.KeepsPending) ∧
      (∀ step ∈ steps, step.Forward) ∧
      (steps.filterMap (·.popped)).Pairwise (fun e f => e.order < f.order) := by
  have run : runCalls (.start 0) [.schedule 5 'a', .schedule 5 'b', .advanceTo 5, .popNext,
    .popNext, .advanceTo 10] = .ok _ := rfl
  exact ⟨_, run, by decide, runCalls_monotone run (by decide)⟩

theorem advance_overtaking_rewinds {atPs : Int}
    (he : e ∈ clock.heap) (hnow : clock.nowPs ≤ atPs) (hpast : e.atPs < atPs) :
    ∃ passed pop, (ClockCall.advanceTo atPs).apply clock = .ok passed ∧
      ClockCall.popNext.apply passed.after = .ok pop ∧ ¬ pop.Forward := by
  obtain ⟨best, hbest⟩ := exists_minBy ClockEvent.order (ne_nil_of_mem he)
  have hord := order_le_iff.mp (minBy_le hbest he)
  let passed : ClockStep α := ⟨clock, .advanceTo atPs, none, { clock with nowPs := atPs }⟩
  let pop : ClockStep α := ⟨passed.after, .popNext, some best,
    { passed.after with nowPs := best.atPs, heap := clock.heap.eraseP (·.tie == best.tie) }⟩
  refine ⟨passed, pop, ?_, ?_, ?_⟩
  · simp [ClockCall.apply, VirtualClock.advanceTo, Int.not_lt.mpr hnow, bind, Except.bind, passed]
  · simp only [ClockCall.apply, VirtualClock.popNext, heappop, passed, hbest, Option.map_some]
    rfl
  · rintro ⟨hmono, -⟩
    simp only [pop, passed] at hmono
    omega

theorem popNext_rewinds_after_advance :
    ∃ steps, runCalls (.start 0) [.schedule 5 'a', .advanceTo 10, .popNext] = .ok steps ∧
      ¬ ((∀ step ∈ steps, step.Forward) ∧
        (steps.filterMap (·.popped)).Pairwise (fun e f => e.order < f.order)) :=
  ⟨_, rfl, by decide⟩

end SimLLM
