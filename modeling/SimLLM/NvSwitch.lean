import SimLLM.ExceptRules
import SimLLM.SerialServer
import SimLLM.VoqMatching

namespace SimLLM

open SerialServer

structure NvsHead where
  token : Nat
  inputPort : Nat
  outputPort : Nat
  pool : Nat
  wireBytes : Nat
  linkRateBps : Nat
  deriving DecidableEq, Repr

structure NvsGrant where
  token : Nat
  finishedAtPs : Nat
  deriving DecidableEq, Repr

structure NvsContext where
  chips : List Int
  inputs : Nat → Nat := fun _ => 0
  outputs : Nat → Nat := fun _ => 0
  now : Nat := 0
  cursor : Nat := 0
  policy : Nat
  error : String := ""

def NvsContext.create (portChips : List Int) (policy : Nat) : Option NvsContext :=
  if portChips = [] ∨ 1 < policy ∨ portChips.any (· < -1) then none
  else some { chips := portChips, policy := policy }

structure NvsCall where
  nowPs : Nat
  crossbarBytesPerSecond : Nat
  heads : List NvsHead
  availableBytes : List Nat
  grantCapacity : Nat
  pointers : Bool := true

def uint64Max : Nat := 2 ^ 64 - 1

def serialize (bytes rate scale : Nat) : Except String Nat :=
  if rate = 0 ∨ uint64Max / scale < bytes then .error "invalid rate or serialization overflow"
  else .ok (bytes * scale / rate + if bytes * scale % rate = 0 then 0 else 1)

structure PlannedHead where
  head : NvsHead
  duration : Nat
  deriving DecidableEq, Repr

section

variable (context : NvsContext) (call : NvsCall)

def NvsContext.malformed (head : NvsHead) : Prop :=
  context.chips.length ≤ head.inputPort ∨ context.chips.length ≤ head.outputPort ∨
    head.inputPort = head.outputPort ∨ context.chips.getD head.inputPort 0 < 0 ∨
    context.chips.getD head.inputPort 0 ≠ context.chips.getD head.outputPort 0 ∨
    call.availableBytes.length ≤ head.pool ∨ head.wireBytes = 0

instance (head : NvsHead) : Decidable (context.malformed call head) :=
  inferInstanceAs (Decidable (_ ∨ _))

def NvsCall.available (pool : Nat) : Nat := call.availableBytes.getD pool 0

def NvsContext.eligible (head : NvsHead) : Prop :=
  context.inputs head.inputPort ≤ call.nowPs ∧ context.outputs head.outputPort ≤ call.nowPs ∧
    head.wireBytes ≤ call.available head.pool

instance (head : NvsHead) : Decidable (context.eligible call head) :=
  inferInstanceAs (Decidable (_ ∧ _))

def NvsCall.duration (head : NvsHead) : Except String Nat := do
  let crossbar ← serialize head.wireBytes call.crossbarBytesPerSecond (10 ^ 12)
  let link ← serialize head.wireBytes head.linkRateBps (8 * 10 ^ 12)
  if uint64Max - call.nowPs < max crossbar link then
    .error "switch completion overflows time horizon"
  else .ok (max crossbar link)

def NvsContext.checkHead (acc : List Nat × List PlannedHead) (head : NvsHead) :
    Except String (List Nat × List PlannedHead) := do
  if context.malformed call head ∨ head.token ∈ acc.1 then
    .error "invalid or duplicate physical switch head"
  else
    let duration ← call.duration head
    .ok (head.token :: acc.1,
      acc.2 ++ if context.eligible call head then [⟨head, duration⟩] else [])

def NvsHead.demand (head : NvsHead) : Demand Nat Nat :=
  ⟨head.inputPort, head.outputPort, some head.pool, head.wireBytes⟩

def NvsContext.select : Except String (List PlannedHead × Nat) := do
  if call.pointers = false ∨ call.grantCapacity < call.heads.length ∨
      call.crossbarBytesPerSecond = 0 ∨ call.nowPs < context.now then
    .error "invalid grant call or time rewind"
  else
    let (_, eligible) ← call.heads.foldlM (context.checkHead call) ([], [])
    let ordered := eligible.insertionSort fun a b => a.head.token ≤ b.head.token
    let demand := fun planned : PlannedHead => planned.head.demand
    .ok (if context.policy = 0 then (selectHeads demand call.available ordered, context.cursor)
      else rotatedSelect demand call.available context.cursor ordered)

def NvsContext.commit (selected : List PlannedHead) (cursor : Nat) : NvsContext :=
  let occupy := fun (port : NvsHead → Nat) (clocks : Nat → Nat) => selected.foldl
    (fun clocks planned => Function.update clocks (port planned.head)
      (call.nowPs + planned.duration)) clocks
  { context with
    inputs := occupy NvsHead.inputPort context.inputs
    outputs := occupy NvsHead.outputPort context.outputs
    cursor := cursor
    now := call.nowPs
    error := "" }

def NvsCall.grant (planned : PlannedHead) : NvsGrant :=
  ⟨planned.head.token, call.nowPs + planned.duration⟩

def NvsContext.plan : NvsContext × Option (List NvsGrant) :=
  match context.select call with
  | .ok (selected, cursor) => (context.commit call selected cursor, some (selected.map call.grant))
  | .error message => ({ context with error := message }, none)

def NvsCall.slot (port : NvsHead → Nat) (planned : PlannedHead) : Slot Nat Nat Nat where
  key := port planned.head
  start := call.nowPs
  finish := call.nowPs + planned.duration
  label := planned.head.token
  ordered := Nat.le_add_right _ _

end

inductive NvsRun : NvsContext → List (Slot Nat Nat Nat) → List (Slot Nat Nat Nat) → Prop
  | create {portChips : List Int} {policy : Nat} {context : NvsContext}
      (h : NvsContext.create portChips policy = some context) : NvsRun context [] []
  | refused {context : NvsContext} {inputs outputs : List (Slot Nat Nat Nat)} (call : NvsCall)
      (run : NvsRun context inputs outputs) (h : (context.plan call).2 = none) :
      NvsRun (context.plan call).1 inputs outputs
  | granted {context : NvsContext} {inputs outputs : List (Slot Nat Nat Nat)} (call : NvsCall)
      {selected : List PlannedHead} {cursor : Nat} (run : NvsRun context inputs outputs)
      (h : context.select call = .ok (selected, cursor)) :
      NvsRun (context.plan call).1 (inputs ++ selected.map (call.slot NvsHead.inputPort))
        (outputs ++ selected.map (call.slot NvsHead.outputPort))

theorem serialize_pos {bytes rate scale duration : Nat} (hbytes : 0 < bytes) (hscale : 0 < scale)
    (h : serialize bytes rate scale = .ok duration) : 0 < duration := by
  unfold serialize at h
  split at h
  · cases h
  next hrate =>
    obtain rfl := Except.ok.inj h
    have hscaled : 0 < bytes * scale := Nat.mul_pos hbytes hscale
    split
    next hmod =>
      have hrate : 0 < rate := Nat.pos_of_ne_zero fun hzero => hrate (.inl hzero)
      exact Nat.div_pos (Nat.le_of_dvd hscaled (Nat.dvd_of_mod_eq_zero hmod)) hrate
    next => exact Nat.succ_pos _

variable {context : NvsContext} {call : NvsCall}

theorem duration_pos {head : NvsHead} {duration : Nat} (hformed : ¬ context.malformed call head)
    (h : call.duration head = .ok duration) : 0 < duration := by
  obtain ⟨crossbar, hcrossbar, h⟩ := of_bind h
  obtain ⟨link, -, h⟩ := of_bind h
  split at h
  · cases h
  next =>
    obtain rfl := Except.ok.inj h
    have hbytes : 0 < head.wireBytes := by
      unfold NvsContext.malformed at hformed
      omega
    exact (serialize_pos hbytes (by decide) hcrossbar).trans_le (le_max_left _ _)

structure Checked (context : NvsContext) (call : NvsCall) (heads : List NvsHead)
    (acc : List Nat × List PlannedHead) : Prop where
  tokens : acc.1 = (heads.map NvsHead.token).reverse
  fresh : (heads.map NvsHead.token).Nodup
  formed : ∀ head ∈ heads, ¬ context.malformed call head ∧
    ∃ duration, call.duration head = .ok duration
  sound : ∀ planned ∈ acc.2, planned.head ∈ heads ∧ context.eligible call planned.head ∧
    call.duration planned.head = .ok planned.duration
  complete : ∀ head ∈ heads, context.eligible call head → ∃ planned ∈ acc.2, planned.head = head

theorem Checked.step {heads : List NvsHead} {acc next : List Nat × List PlannedHead}
    {head : NvsHead} (h : Checked context call heads acc)
    (hstep : context.checkHead call acc head = .ok next) :
    Checked context call (heads ++ [head]) next := by
  unfold NvsContext.checkHead at hstep
  split at hstep
  · cases hstep
  next hok =>
    obtain ⟨duration, hduration, hstep⟩ := of_bind hstep
    obtain rfl := Except.ok.inj hstep
    obtain ⟨hformed, hseen⟩ := not_or.mp hok
    rw [h.tokens, List.mem_reverse] at hseen
    refine ⟨by simp [h.tokens], ?_, ?_, ?_, ?_⟩
    · rw [List.map_append]
      exact h.fresh.append (by simp) (by simpa using hseen)
    · exact List.forall_mem_append.mpr ⟨h.formed, by simpa using ⟨hformed, duration, hduration⟩⟩
    · refine List.forall_mem_append.mpr ⟨fun planned hmem => ?_, fun planned hmem => ?_⟩
      · exact (h.sound planned hmem).imp (List.mem_append_left _) id
      · split at hmem
        next heligible =>
          obtain rfl := List.mem_singleton.mp hmem
          exact ⟨by simp, heligible, hduration⟩
        next => cases hmem
    · refine List.forall_mem_append.mpr ⟨fun other hmem heligible => ?_, ?_⟩
      · obtain ⟨planned, hplanned, heq⟩ := h.complete other hmem heligible
        exact ⟨planned, List.mem_append_left _ hplanned, heq⟩
      · intro other hmem heligible
        obtain rfl := List.mem_singleton.mp hmem
        exact ⟨⟨other, duration⟩, by simp [heligible], rfl⟩

theorem select_eq_ok {selected : List PlannedHead} {cursor : Nat}
    (h : context.select call = .ok (selected, cursor)) : context.now ≤ call.nowPs ∧
      ∃ acc ordered, Checked context call call.heads acc ∧ (∀ p, p ∈ ordered ↔ p ∈ acc.2) ∧
        selected = selectHeads (fun planned => planned.head.demand) call.available ordered := by
  unfold NvsContext.select at h
  split at h
  · cases h
  next hcall =>
    obtain ⟨acc, hacc, h⟩ := of_bind h
    have hchecked := foldlM_done (Checked context call) hacc
      ⟨rfl, .nil, by simp, by simp, by simp⟩ fun _ _ _ _ _ _ => Checked.step
    have hsorted := fun p => (List.perm_insertionSort
      (fun a b : PlannedHead => a.head.token ≤ b.head.token) acc.2).mem_iff (a := p)
    refine ⟨by omega, acc, ?_⟩
    have h := Except.ok.inj h
    split at h
    next => exact ⟨_, hchecked, hsorted, congrArg Prod.fst h.symm⟩
    next =>
      unfold rotatedSelect at h
      split at h
      next hnil =>
        obtain rfl : [] = selected := congrArg Prod.fst h
        exact ⟨_, hchecked, hsorted, by rw [hnil]; rfl⟩
      next =>
        exact ⟨_, hchecked, fun p => List.mem_rotate.trans (hsorted p), congrArg Prod.fst h.symm⟩

/-- The match of an accepted call: heads of the call that are eligible and legal together, and
to which no other eligible head can be added. -/
structure Granted (context : NvsContext) (call : NvsCall) (selected : List PlannedHead) :
    Prop where
  time : context.now ≤ call.nowPs
  fresh : (call.heads.map NvsHead.token).Nodup
  formed : ∀ head ∈ call.heads, ¬ context.malformed call head ∧
    ∃ duration, call.duration head = .ok duration
  sound : ∀ planned ∈ selected, planned.head ∈ call.heads ∧
    context.eligible call planned.head ∧ call.duration planned.head = .ok planned.duration
  legal : Legal NvsHead.demand call.available (selected.map PlannedHead.head)
  maximal : ∀ head ∈ call.heads, context.eligible call head →
    head ∉ selected.map PlannedHead.head →
    ¬ Legal NvsHead.demand call.available (selected.map PlannedHead.head ++ [head])

theorem Granted.of_select {selected : List PlannedHead} {cursor : Nat}
    (h : context.select call = .ok (selected, cursor)) : Granted context call selected := by
  obtain ⟨htime, acc, ordered, hchecked, hordered, rfl⟩ := select_eq_ok h
  have hmatch := matches_foldl (fun planned : PlannedHead => planned.head.demand)
    call.available ordered
  refine ⟨htime, hchecked.fresh, hchecked.formed, fun planned hmem => ?_,
    legal_map.mpr hmatch.legal, ?_⟩
  · exact hchecked.sound planned ((hordered planned).mp (hmatch.sublist.subset hmem))
  · intro head hhead heligible hnot hlegal
    obtain ⟨planned, hplanned, rfl⟩ := hchecked.complete head hhead heligible
    refine hmatch.maximal planned ((hordered planned).mpr hplanned) ?_ ?_
    · exact fun hmem => hnot (List.mem_map_of_mem hmem)
    · refine legal_map.mp ?_
      rwa [List.map_append]

theorem plan_refused (h : (context.plan call).2 = none) :
    (context.plan call).1 = { context with error := (context.plan call).1.error } := by
  unfold NvsContext.plan at h ⊢
  split at h <;> [cases h; rfl]

structure PortsServed (context : NvsContext) (inputs outputs : List (Slot Nat Nat Nat)) :
    Prop where
  input : Serves (fun _ => 0) inputs context.inputs
  output : Serves (fun _ => 0) outputs context.outputs
  busy : ∀ slot ∈ inputs ++ outputs, slot.start < slot.finish

theorem serves_selected {selected : List PlannedHead} {port : NvsHead → Nat} {clocks : Nat → Nat}
    (hports : ((selected.map PlannedHead.head).map port).Nodup)
    (hidle : ∀ planned ∈ selected, clocks (port planned.head) ≤ call.nowPs) :
    Serves clocks (selected.map (call.slot port)) (selected.foldl (fun clocks planned =>
      Function.update clocks (port planned.head) (call.nowPs + planned.duration)) clocks) := by
  have hkeys : ((selected.map (call.slot port)).map Slot.key).Nodup := by
    rwa [List.map_map] at hports ⊢
  have hserves := serves_of_nodup hkeys (List.forall_mem_map.mpr hidle)
  rwa [List.foldl_map] at hserves

theorem NvsRun.served {inputs outputs : List (Slot Nat Nat Nat)}
    (run : NvsRun context inputs outputs) : PortsServed context inputs outputs := by
  induction run with
  | create h =>
    unfold NvsContext.create at h
    split at h
    · cases h
    next =>
      obtain rfl := Option.some.inj h
      exact ⟨.nil _, .nil _, by simp⟩
  | refused call _ h ih =>
    rw [plan_refused h]
    exact ⟨ih.input, ih.output, ih.busy⟩
  | @granted context inputs outputs call selected cursor _ h ih =>
    have hgranted := Granted.of_select h
    have hplan : (context.plan call).1 = context.commit call selected cursor := by
      simp [NvsContext.plan, h]
    rw [hplan]
    have hpos : ∀ planned ∈ selected, 0 < planned.duration := fun planned hmem =>
      have ⟨hhead, _, hduration⟩ := hgranted.sound planned hmem
      duration_pos (hgranted.formed planned.head hhead).1 hduration
    refine ⟨ih.input.append (serves_selected hgranted.legal.inputs ?_),
      ih.output.append (serves_selected hgranted.legal.outputs ?_), ?_⟩
    · exact fun planned hmem => (hgranted.sound planned hmem).2.1.1
    · exact fun planned hmem => (hgranted.sound planned hmem).2.1.2.1
    · have hbusy := ih.busy
      simp only [List.forall_mem_append, List.forall_mem_map] at hbusy ⊢
      have hnew : ∀ port, ∀ planned ∈ selected,
          (call.slot port planned).start < (call.slot port planned).finish :=
        fun _ planned hmem => Nat.lt_add_of_pos_right (hpos planned hmem)
      exact ⟨⟨hbusy.1, hnew _⟩, hbusy.2, hnew _⟩

/-- Over any run the busy times of a port never overlap. A call that fails changes nothing but
the error text. One that succeeds has found its time and all its heads in order, and grants a
legal match of eligible heads to which no other eligible head can be added. -/
theorem nvs_grants_safe_maximal {inputs outputs : List (Slot Nat Nat Nat)}
    (run : NvsRun context inputs outputs) (call : NvsCall) :
    inputs.Pairwise Slot.Before ∧ outputs.Pairwise Slot.Before ∧
      (∀ slot ∈ inputs ++ outputs, slot.start < slot.finish) ∧
      ((context.plan call).2 = none →
        (context.plan call).1 = { context with error := (context.plan call).1.error }) ∧
      ∀ grants, (context.plan call).2 = some grants → ∃ selected,
        grants = selected.map call.grant ∧ Granted context call selected := by
  refine ⟨run.served.input.pairwise, run.served.output.pairwise, run.served.busy,
    plan_refused, fun grants h => ?_⟩
  unfold NvsContext.plan at h
  split at h
  next selected cursor hselect => exact ⟨selected, (Option.some.inj h).symm, .of_select hselect⟩
  next => cases h

theorem nvs_grants_one_head : ∃ context call, NvsRun context [] [] ∧
    (context.plan call).2 = some [⟨7, 512⟩] ∧ ∃ selected, Granted context call selected := by
  have run : NvsRun { chips := [0, 0], policy := 1 } [] [] :=
    @NvsRun.create [0, 0] 1 _ rfl
  let call : NvsCall := ⟨0, 10 ^ 12, [⟨7, 0, 1, 0, 64, 10 ^ 12⟩], [64], 1, true⟩
  have hgrants : (NvsContext.plan { chips := [0, 0], policy := 1 } call).2 = some [⟨7, 512⟩] := by
    decide
  obtain ⟨selected, -, hgranted⟩ := (nvs_grants_safe_maximal run call).2.2.2.2 _ hgrants
  exact ⟨_, call, run, hgrants, selected, hgranted⟩

end SimLLM
