import SimLLM.ExceptRules

/-!
Processes in rings. Each one runs a list of operations in order, takes its inputs from the FIFO
link of its predecessor and puts its outputs on a FIFO link of its own. `Matched` gives every
operation a value of its own; then in every interleaving the operations compute these values,
no message is taken by the wrong operation, and no reachable state is stuck.
-/

namespace ProcessRing

open List

variable {ι Op Msg : Type}

structure Network (ι Op Msg : Type) where
  next : Equiv.Perm ι
  program : ι → List Op
  receives : Op → Bool
  sends : Op → Bool
  accepts : Op → Msg → Bool
  result : ι → Op → Option Msg → Msg

structure State (ι Op Msg : Type) where
  rest : ι → List Op
  link : ι → List Msg
  log : ι → List (Op × Msg)

namespace Network

variable (net : Network ι Op Msg)

def start : State ι Op Msg := ⟨net.program, fun _ => [], fun _ => []⟩

section Moves

variable [DecidableEq ι]

def finish (state : State ι Op Msg) (node : ι) (op : Op) (rest : List Op) (input : Option Msg) :
    State ι Op Msg :=
  let output := net.result node op input
  { rest := Function.update state.rest node rest
    link := Function.update state.link node
      (state.link node ++ if net.sends op then [output] else [])
    log := Function.update state.log node (state.log node ++ [(op, output)]) }

/-- One move of a process. It waits while its input link is empty; a message that its operation
does not accept is an error. -/
def move (state : State ι Op Msg) (node : ι) : Except (Op × Msg) (State ι Op Msg) :=
  match state.rest node with
  | [] => .ok state
  | op :: rest =>
    if net.receives op then
      match state.link (net.next.symm node) with
      | [] => .ok state
      | message :: link =>
        if net.accepts op message then
          .ok (net.finish { state with
              link := Function.update state.link (net.next.symm node) link }
            node op rest (some message))
        else .error (op, message)
    else .ok (net.finish state node op rest none)

def run (schedule : List ι) (state : State ι Op Msg) : Except (Op × Msg) (State ι Op Msg) :=
  schedule.foldlM net.move state

end Moves

def ready (state : State ι Op Msg) (node : ι) : Bool :=
  match state.rest node with
  | [] => false
  | op :: _ => !net.receives op || !(state.link (net.next.symm node)).isEmpty

variable (value : ι → Op → Msg) (rank : Op → Nat)

structure Pair (node : ι) (sent taken : Op) : Prop where
  accepted : net.accepts taken (value node sent) = true
  computed : net.result (net.next node) taken (some (value node sent)) =
    value (net.next node) taken
  earlier : rank sent < rank taken

structure Matched : Prop where
  sources : ∀ node, ∀ op ∈ net.program node, net.receives op = false →
    net.result node op none = value node op
  paired : ∀ node, List.Forall₂ (net.Pair value rank node)
    ((net.program node).filter net.sends) ((net.program (net.next node)).filter net.receives)
  sorted : ∀ node, (net.program node).Pairwise fun first second => rank first < rank second

def Carries (node : ι) (link : List Msg) (toSend toTake : List Op) : Prop :=
  ∃ sent : List Op, link = sent.map (value node) ∧
    List.Forall₂ (net.Pair value rank node) (sent ++ toSend) toTake

/-- Every process has computed the values of the operations it has done, and every link carries
what its ends have left. -/
structure Coherent (state : State ι Op Msg) : Prop where
  done : ∀ node, ∃ ops, net.program node = ops ++ state.rest node ∧
    state.log node = ops.map fun op => (op, value node op)
  links : ∀ node, net.Carries value rank node (state.link node)
    ((state.rest node).filter net.sends) ((state.rest (net.next node)).filter net.receives)

variable {net value rank}

namespace Carries

variable {node : ι} {link : List Msg} {toSend toTake : List Op} {op : Op} {message : Msg}

theorem push (h : net.Carries value rank node link (op :: toSend) toTake) :
    net.Carries value rank node (link ++ [value node op]) toSend toTake := by
  obtain ⟨sent, hlink, hpairs⟩ := h
  refine ⟨sent ++ [op], ?_, ?_⟩
  · rw [hlink, map_append, map_singleton]
  · rwa [append_assoc, singleton_append]

theorem take (h : net.Carries value rank node (message :: link) toSend (op :: toTake)) :
    net.accepts op message = true ∧
      net.result (net.next node) op (some message) = value (net.next node) op ∧
      net.Carries value rank node link toSend toTake := by
  obtain ⟨sent, hlink, hpairs⟩ := h
  cases sent with
  | nil => simp at hlink
  | cons first sent =>
    obtain ⟨hmessage, htail⟩ := List.cons.inj hlink
    subst hmessage
    obtain ⟨hpair, hrest⟩ := forall₂_cons.mp hpairs
    exact ⟨hpair.accepted, hpair.computed, sent, htail, hrest⟩

theorem awaited (h : net.Carries value rank node [] toSend (op :: toTake)) :
    ∃ sent ∈ toSend, rank sent < rank op := by
  obtain ⟨sent, hlink, hpairs⟩ := h
  obtain rfl : sent = [] := by simpa using hlink.symm
  obtain ⟨first, hfirst, hpair⟩ := hpairs.exists_left (mem_cons_self (a := op))
  exact ⟨first, hfirst, hpair.earlier⟩

end Carries

theorem Matched.start (h : net.Matched value rank) : net.Coherent value rank net.start where
  done _ := ⟨[], rfl, rfl⟩
  links node := ⟨[], rfl, h.paired node⟩

section Steps

variable [DecidableEq ι] {state : State ι Op Msg} {node : ι} {op : Op} {rest : List Op}

/-- The receiving side is already one operation ahead: doing the operation brings the sending
side and the log after it. -/
theorem Coherent.finish {input : Option Msg} (hrest : state.rest node = op :: rest)
    (hdone : ∀ node, ∃ ops, net.program node = ops ++ state.rest node ∧
      state.log node = ops.map fun op => (op, value node op))
    (hlinks : ∀ other, net.Carries value rank other (state.link other)
      ((state.rest other).filter net.sends)
      ((Function.update state.rest node rest (net.next other)).filter net.receives))
    (hvalue : net.result node op input = value node op) :
    net.Coherent value rank (net.finish state node op rest input) := by
  refine ⟨?_, ?_⟩
  · intro other
    obtain ⟨ops, hprogram, hlog⟩ := hdone other
    by_cases hother : other = node
    · subst hother
      refine ⟨ops ++ [op], ?_, ?_⟩
      · simp [Network.finish, hprogram, hrest]
      · simp [Network.finish, hlog, hvalue]
    · refine ⟨ops, ?_, ?_⟩
      · simpa only [Network.finish, Function.update_of_ne hother] using hprogram
      · simpa only [Network.finish, Function.update_of_ne hother] using hlog
  · intro other
    have hcarried := hlinks other
    by_cases hother : other = node
    · subst hother
      rw [hrest] at hcarried
      simp only [Network.finish, Function.update_self, hvalue]
      cases hsends : net.sends op with
      | true =>
        rw [filter_cons_of_pos hsends] at hcarried
        simpa using hcarried.push
      | false =>
        rw [filter_cons_of_neg (by simp [hsends])] at hcarried
        simpa using hcarried
    · simpa only [Network.finish, Function.update_of_ne hother] using hcarried

theorem Coherent.advanced (h : net.Coherent value rank state)
    (hrest : state.rest node = op :: rest) (hreceives : net.receives op = false) (other : ι) :
    net.Carries value rank other (state.link other) ((state.rest other).filter net.sends)
      ((Function.update state.rest node rest (net.next other)).filter net.receives) := by
  have hcarried := h.links other
  by_cases hnext : net.next other = node
  · rw [hnext, hrest, filter_cons_of_neg (by simp [hreceives])] at hcarried
    rwa [hnext, Function.update_self]
  · rwa [Function.update_of_ne hnext]

omit [DecidableEq ι] in
theorem Coherent.at_link (h : net.Coherent value rank state)
    (hrest : state.rest node = op :: rest) (hreceives : net.receives op = true) :
    net.Carries value rank (net.next.symm node) (state.link (net.next.symm node))
      ((state.rest (net.next.symm node)).filter net.sends)
      (op :: rest.filter net.receives) := by
  have hcarried := h.links (net.next.symm node)
  rwa [Equiv.apply_symm_apply, hrest, filter_cons_of_pos hreceives] at hcarried

theorem Coherent.move (h : net.Coherent value rank state) (hmatched : net.Matched value rank)
    (node : ι) : ∃ after, net.move state node = .ok after ∧ net.Coherent value rank after ∧
      if net.ready state node then
        state.rest node = (state.rest node).take 1 ++ after.rest node ∧
          ∀ other, other ≠ node → after.rest other = state.rest other
      else after = state := by
  cases hrest : state.rest node with
  | nil => exact ⟨state, by rw [Network.move, hrest], h, by simp [ready, hrest]⟩
  | cons op rest =>
    cases hreceives : net.receives op with
    | false =>
      obtain ⟨ops, hprogram, -⟩ := h.done node
      have hvalue := hmatched.sources node op (by simp [hprogram, hrest]) hreceives
      refine ⟨net.finish state node op rest none, by simp [Network.move, hrest, hreceives],
        Coherent.finish hrest h.done (h.advanced hrest hreceives) hvalue, ?_⟩
      rw [if_pos (by simp [ready, hrest, hreceives])]
      exact ⟨by simp [Network.finish], fun other hother => Function.update_of_ne hother _ _⟩
    | true =>
      have hcarried := h.at_link hrest hreceives
      cases hlink : state.link (net.next.symm node) with
      | nil =>
        exact ⟨state, by simp [Network.move, hrest, hreceives, hlink], h,
          by simp [ready, hrest, hreceives, hlink]⟩
      | cons message link =>
        rw [hlink] at hcarried
        obtain ⟨haccepted, hvalue, htaken⟩ := hcarried.take
        rw [Equiv.apply_symm_apply] at hvalue
        let taken : State ι Op Msg :=
          { state with link := Function.update state.link (net.next.symm node) link }
        refine ⟨net.finish taken node op rest (some message),
          by simp [Network.move, hrest, hreceives, hlink, haccepted, taken],
          Coherent.finish hrest h.done ?_ hvalue, ?_⟩
        · intro other
          by_cases hother : other = net.next.symm node
          · subst hother
            simpa [taken] using htaken
          · have hnext : net.next other ≠ node := fun heq => hother (by simp [← heq])
            simpa only [taken, Function.update_of_ne hother, Function.update_of_ne hnext]
              using h.links other
        · rw [if_pos (by simp [ready, hrest, hreceives, hlink])]
          exact ⟨by simp [Network.finish], fun other hother => Function.update_of_ne hother _ _⟩

theorem Coherent.run (h : net.Coherent value rank state) (hmatched : net.Matched value rank)
    (schedule : List ι) :
    ∃ after, net.run schedule state = .ok after ∧ net.Coherent value rank after := by
  refine Except.foldlM_total (net.Coherent value rank) h ?_
  intro acc node _ hacc
  obtain ⟨after, hmove, hafter, -⟩ := hacc.move hmatched node
  exact ⟨after, hmove, hafter⟩

end Steps

section Progress

variable [Fintype ι] {state : State ι Op Msg}

theorem Coherent.exists_ready (h : net.Coherent value rank state)
    (hmatched : net.Matched value rank) {node : ι} (hnode : state.rest node ≠ []) :
    ∃ node, net.ready state node = true := by
  classical
  obtain ⟨first, hfirst, hleast⟩ := Finset.exists_min_image
    (Finset.univ.filter fun node => state.rest node ≠ [])
    (fun node => ((state.rest node).head?.map rank).getD 0) ⟨node, by simp [hnode]⟩
  refine ⟨first, ?_⟩
  obtain ⟨op, rest, hrest⟩ := exists_cons_of_ne_nil (Finset.mem_filter.mp hfirst).2
  cases hreceives : net.receives op with
  | false => simp [ready, hrest, hreceives]
  | true =>
    have hcarried := h.at_link hrest hreceives
    cases hlink : state.link (net.next.symm first) with
    | cons message link => simp [ready, hrest, hlink]
    | nil =>
      rw [hlink] at hcarried
      obtain ⟨sent, hsent, hearlier⟩ := hcarried.awaited
      replace hsent := (mem_filter.mp hsent).1
      cases hbefore : state.rest (net.next.symm first) with
      | nil => simp [hbefore] at hsent
      | cons head tail =>
        have hmin := hleast (net.next.symm first) (by simp [hbefore])
        simp only [hrest, hbefore, head?_cons, Option.map_some, Option.getD_some] at hmin
        obtain ⟨ops, hprogram, -⟩ := h.done (net.next.symm first)
        have hsorted := hmatched.sorted (net.next.symm first)
        rw [hprogram, hbefore] at hsorted
        have htail := (pairwise_cons.mp (pairwise_append.mp hsorted).2.1).1
        rw [hbefore] at hsent
        rcases mem_cons.mp hsent with rfl | hsent
        · omega
        · have := htail sent hsent
          omega

def remaining (state : State ι Op Msg) : Nat := ∑ node, (state.rest node).length

variable [DecidableEq ι]

theorem remaining_lt {after : State ι Op Msg} {node : ι} (hready : net.ready state node = true)
    (hnode : state.rest node = (state.rest node).take 1 ++ after.rest node)
    (hothers : ∀ other, other ≠ node → after.rest other = state.rest other) :
    remaining after < remaining state := by
  refine Finset.sum_lt_sum (fun other _ => ?_) ⟨node, Finset.mem_univ node, ?_⟩
  · by_cases hother : other = node
    · subst hother
      rw [hnode, length_append]
      omega
    · rw [hothers other hother]
  · cases hrest : state.rest node with
    | nil => simp [ready, hrest] at hready
    | cons op rest =>
      rw [hrest] at hnode
      rw [hnode]
      simp

/-- From every coherent state some continuation finishes every program. -/
theorem Coherent.completes (h : net.Coherent value rank state) (hmatched : net.Matched value rank) :
    ∃ schedule after, net.run schedule state = .ok after ∧ ∀ node, after.rest node = [] := by
  induction hleft : remaining state using Nat.strong_induction_on generalizing state with
  | _ left ih =>
    by_cases hfinished : ∀ node, state.rest node = []
    · exact ⟨[], state, rfl, hfinished⟩
    · obtain ⟨node, hnode⟩ := not_forall.mp hfinished
      obtain ⟨node, hready⟩ := h.exists_ready hmatched hnode
      obtain ⟨next, hmove, hnext, hrest⟩ := h.move hmatched node
      rw [if_pos hready] at hrest
      have hless := remaining_lt hready hrest.1 hrest.2
      obtain ⟨schedule, after, hrun, hafter⟩ := ih _ (hleft ▸ hless) hnext rfl
      refine ⟨node :: schedule, after, ?_, hafter⟩
      rw [Network.run, foldlM_cons, hmove]
      exact hrun

end Progress

theorem Coherent.log_eq {state : State ι Op Msg} (h : net.Coherent value rank state) {node : ι}
    (hrest : state.rest node = []) :
    state.log node = (net.program node).map fun op => (op, value node op) := by
  obtain ⟨ops, hprogram, hlog⟩ := h.done node
  rw [hrest, append_nil] at hprogram
  rw [hprogram, hlog]

end Network

end ProcessRing
