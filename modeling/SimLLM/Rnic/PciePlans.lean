import SimLLM.Rnic.PcieFabric
import SimLLM.StateRules

namespace SimLLM.Rnic

open List EStateM

variable {φ : Type}

structure PcieSubmission where
  request : PcieTransactionRequest
  attribution : PcieEndpointAttribution := {}
  deriving DecidableEq, Repr

/-- `PcieFabric::Plan`: a private copy of the fabric, the generation it was taken at, and the
transactions scheduled in it with their results. -/
structure PciePlan (φ : Type) where
  baseGeneration : Nat
  state : PcieFabric φ
  scheduled : List (PcieSubmission × PcieTransactionResult) := []

/-- A fabric, the plans begun on it, none once committed, and the transactions of the committed
plans in commit order. -/
structure PcieSession (φ : Type) where
  fabric : PcieFabric φ
  plans : List (Option (PciePlan φ)) := []
  committed : List (PcieSubmission × PcieTransactionResult) := []

abbrev PcieM (φ : Type) := EStateM CppError (PcieSession φ)

def PcieSession.plan (session : PcieSession φ) (index : Nat) : Option (PciePlan φ) :=
  session.plans[index]?.join

def foreignPlan : CppError := invalidArgument "RNIC PCIe plan does not belong to this fabric"

section Calls

variable (service : PcieService φ)

def beginPlan : PcieM φ Unit :=
  modify fun session => { session with
    plans := session.plans ++ [some ⟨session.fabric.generation, session.fabric, []⟩] }

def schedulePlan (index : Nat) (submission : PcieSubmission) : PcieM φ PcieTransactionResult := do
  let session ← get
  match session.plan index with
  | none => throw foreignPlan
  | some plan =>
    match plan.state.schedule service submission.request submission.attribution with
    | .error error => throw error
    | .ok (result, candidate) => do
      set { session with plans := session.plans.set index (some { plan with
        state := candidate
        scheduled := plan.scheduled ++ [(submission, result)] }) }
      pure result

def commitPlan (index : Nat) : PcieM φ Unit := do
  let session ← get
  match session.plan index with
  | none => throw foreignPlan
  | some plan =>
    if plan.baseGeneration ≠ session.fabric.generation then
      throw (logicError "cannot commit stale RNIC PCIe plan")
    else
      match session.fabric.commit plan.state with
      | .error error => throw error
      | .ok fabric => set { session with
          fabric := fabric
          plans := session.plans.set index none
          committed := session.committed ++ plan.scheduled }

def submitTransaction (submission : PcieSubmission) : PcieM φ PcieTransactionResult := do
  let session ← get
  match session.fabric.schedule service submission.request submission.attribution with
  | .error error => throw error
  | .ok (result, candidate) =>
    match session.fabric.commit candidate with
    | .error error => throw error
    | .ok fabric => do
      set { session with
        fabric := fabric
        committed := session.committed ++ [(submission, result)] }
      pure result

inductive PcieCall where
  | beginPlan
  | schedule (plan : Nat) (submission : PcieSubmission)
  | commit (plan : Nat)
  | submit (submission : PcieSubmission)
  deriving DecidableEq, Repr

def PcieCall.run : PcieCall → PcieM φ Unit
  | .beginPlan => Rnic.beginPlan
  | .schedule plan submission => do let _ ← schedulePlan service plan submission
  | .commit plan => commitPlan plan
  | .submit submission => do let _ ← submitTransaction service submission

def PcieSession.after (start : PcieSession φ) (calls : List PcieCall) : PcieSession φ :=
  calls.foldl (fun session call => (call.run service session).state) start

def scheduleAll (fabric : PcieFabric φ) :
    List PcieSubmission → Except CppError (List PcieTransactionResult × PcieFabric φ)
  | [] => .ok ([], fabric)
  | submission :: rest => do
    let (result, next) ← fabric.schedule service submission.request submission.attribution
    let (results, last) ← scheduleAll next rest
    return (result :: results, last)

def submitAll (fabric : PcieFabric φ) :
    List PcieSubmission → Except CppError (List PcieTransactionResult × PcieFabric φ)
  | [] => .ok ([], fabric)
  | submission :: rest => do
    let (result, candidate) ← fabric.schedule service submission.request submission.attribution
    let next ← fabric.commit candidate
    let (results, last) ← submitAll next rest
    return (result :: results, last)

end Calls

section Sequential

variable {service : PcieService φ} {fabric last : PcieFabric φ}
variable {submissions more : List PcieSubmission} {results : List PcieTransactionResult}
  {result : PcieTransactionResult}

theorem scheduleAll_snoc {submission : PcieSubmission}
    {next : PcieFabric φ} (h : scheduleAll service fabric submissions = .ok (results, last))
    (hnext : last.schedule service submission.request submission.attribution = .ok (result, next)) :
    scheduleAll service fabric (submissions ++ [submission]) = .ok (results ++ [result], next) := by
  induction submissions generalizing fabric results with
  | nil =>
    cases h
    show (last.schedule service _ _ >>= _) = _
    rw [hnext]
    rfl
  | cons first rest ih =>
    obtain ⟨⟨head, middle⟩, hhead, h⟩ := of_bind h
    obtain ⟨⟨tail, _⟩, htail, h⟩ := of_bind h
    cases h
    rw [cons_append, scheduleAll, hhead, ok_bind]
    show (scheduleAll service middle (rest ++ [submission]) >>= _) = _
    rw [ih htail]
    rfl

theorem submitAll_append {moreResults : List PcieTransactionResult} {next : PcieFabric φ}
    (h : submitAll service fabric submissions = .ok (results, last))
    (hmore : submitAll service last more = .ok (moreResults, next)) :
    submitAll service fabric (submissions ++ more) = .ok (results ++ moreResults, next) := by
  induction submissions generalizing fabric results with
  | nil =>
    cases h
    exact hmore
  | cons first rest ih =>
    obtain ⟨⟨head, candidate⟩, hhead, h⟩ := of_bind h
    obtain ⟨middle, hmiddle, h⟩ := of_bind h
    obtain ⟨⟨tail, _⟩, htail, h⟩ := of_bind h
    cases h
    rw [cons_append, submitAll, hhead, ok_bind]
    show (fabric.commit candidate >>= _) = _
    rw [hmiddle, ok_bind]
    rw [ih htail]
    rfl

theorem schedule_generation {request : PcieTransactionRequest}
    {attribution : PcieEndpointAttribution} (generation : Nat)
    (h : fabric.schedule service request attribution = .ok (result, last)) :
    ({ fabric with generation := generation } : PcieFabric φ).schedule service request attribution =
      .ok (result, { last with generation := generation }) ∧
      last.generation = fabric.generation := by
  obtain ⟨_, hid, h⟩ := of_bind h
  obtain ⟨⟨served, links⟩, hserve, h⟩ := of_bind h
  cases h
  refine ⟨?_, rfl⟩
  show (require (fabric.nextTransactionId != maxUint64) _ >>= _) = _
  rw [hid, ok_bind]
  show (service.serve fabric.config fabric.links request attribution
    (max request.submittedAtPs (fabric.orderingHorizon request)) >>= _) = _
  rw [hserve]
  rfl

/-- A plan's transactions, submitted one by one: the transaction ids run out before the generation
does. -/
theorem submitAll_of_scheduleAll {count : Nat}
    (h : scheduleAll service fabric submissions = .ok (results, last))
    (hid : fabric.nextTransactionId = count + 1) (hroom : count < maxUint64) :
    submitAll service { fabric with generation := count } submissions =
        .ok (results, { last with generation := count + submissions.length }) ∧
      last.nextTransactionId = count + submissions.length + 1 ∧
      count + submissions.length < maxUint64 := by
  induction submissions generalizing fabric results count with
  | nil =>
    cases h
    exact ⟨rfl, hid, hroom⟩
  | cons first rest ih =>
    obtain ⟨⟨head, middle⟩, hhead, h⟩ := of_bind h
    obtain ⟨⟨tail, _⟩, htail, h⟩ := of_bind h
    cases h
    have hnext := (PcieFabric.schedule_eq_ok hhead).2.2.2.2
    have hfits : fabric.nextTransactionId ≠ maxUint64 := by
      obtain ⟨_, hrequire, _⟩ := of_bind hhead
      simpa using require_eq_ok.mp hrequire
    obtain ⟨hsubmit, hlast, hend⟩ := ih htail (by omega : middle.nextTransactionId = count + 1 + 1)
      (by omega)
    have hcommit : ({ fabric with generation := count } : PcieFabric φ).commit
        { middle with generation := count } = .ok { middle with generation := count + 1 } := by
      have hfree : (count != maxUint64) = true := bne_iff_ne.mpr (by omega)
      show (require (count != maxUint64) _ >>= _) = _
      rw [hfree]
      rfl
    have hlength : count + (first :: rest).length = count + 1 + rest.length := by
      simp only [length_cons]
      omega
    refine ⟨?_, by omega, by omega⟩
    rw [submitAll, (schedule_generation count hhead).1, ok_bind]
    show (PcieFabric.commit _ _ >>= _) = _
    rw [hcommit, ok_bind, hsubmit, hlength]
    rfl

end Sequential

def PcieSession.start (config : PcieFabricConfig) (links : φ) : PcieSession φ :=
  { fabric := { config := config, links := links } }

section Sessions

variable {service : PcieService φ} {base : PcieFabric φ} {session : PcieSession φ}

/-- The committed transactions, submitted in commit order, give the fabric and the results; a plan
of the current generation is the fabric with the plan's transactions scheduled on it. -/
structure PcieSession.Ok (service : PcieService φ) (start : PcieFabric φ)
    (session : PcieSession φ) : Prop where
  sequential : submitAll service start (session.committed.map Prod.fst) =
    .ok (session.committed.map Prod.snd,
      { session.fabric with generation := session.committed.length })
  ids : session.fabric.nextTransactionId = session.committed.length + 1
  room : session.committed.length < maxUint64
  base : ∀ index plan, session.plan index = some plan →
    plan.baseGeneration ≤ session.fabric.generation
  current : ∀ index plan, session.plan index = some plan →
    plan.baseGeneration = session.fabric.generation →
    scheduleAll service session.fabric (plan.scheduled.map Prod.fst) =
      .ok (plan.scheduled.map Prod.snd, plan.state)

theorem PcieSession.plan_set {index other : Nat} {plan : Option (PciePlan φ)}
    {fabric : PcieFabric φ} {committed : List (PcieSubmission × PcieTransactionResult)}
    {found : PciePlan φ}
    (h : PcieSession.plan ⟨fabric, session.plans.set index plan, committed⟩ other = some found) :
    index = other ∧ plan = some found ∨ index ≠ other ∧ session.plan other = some found := by
  unfold PcieSession.plan at h ⊢
  rw [getElem?_set] at h
  by_cases hindex : index = other
  · rw [if_pos hindex] at h
    split at h
    · exact .inl ⟨hindex, h⟩
    · cases h
  · rw [if_neg hindex] at h
    exact .inr ⟨hindex, h⟩

/-- A commit moves the fabric on: the transactions that were scheduled on it are now submitted, and
every plan still open is stale. -/
theorem PcieSession.Ok.committed {state fabric : PcieFabric φ} {plans : List (Option (PciePlan φ))}
    {scheduled : List (PcieSubmission × PcieTransactionResult)} (h : session.Ok service base)
    (hscheduled : scheduleAll service session.fabric (scheduled.map Prod.fst) =
      .ok (scheduled.map Prod.snd, state)) (hcommit : session.fabric.commit state = .ok fabric)
    (hplans : ∀ index plan, PcieSession.plan ⟨fabric, plans, session.committed ++ scheduled⟩ index =
      some plan → ∃ index, session.plan index = some plan) :
    PcieSession.Ok service base ⟨fabric, plans, session.committed ++ scheduled⟩ := by
  obtain ⟨_, _, hfabric⟩ := of_bind hcommit
  cases hfabric
  obtain ⟨hsubmit, hid, hroom⟩ := submitAll_of_scheduleAll hscheduled h.ids h.room
  rw [length_map] at hsubmit hid hroom
  have hstale : ∀ index plan, PcieSession.plan
      ⟨{ state with generation := session.fabric.generation + 1 }, plans,
        session.committed ++ scheduled⟩ index = some plan →
      plan.baseGeneration < session.fabric.generation + 1 := by
    intro index plan hplan
    obtain ⟨index, hplan⟩ := hplans index plan hplan
    exact Nat.lt_succ_of_le (h.base index plan hplan)
  refine ⟨?_, ?_, ?_, fun index plan hplan => Nat.le_of_lt (hstale index plan hplan), ?_⟩
  · have happend := submitAll_append h.sequential hsubmit
    rw [← map_append, ← map_append] at happend
    rw [happend, length_append]
  · show state.nextTransactionId = _
    rw [hid, length_append]
  · rw [length_append]
    exact hroom
  · intro index plan hplan hbase
    have hlt := hstale index plan hplan
    have heq : plan.baseGeneration = session.fabric.generation + 1 := hbase
    omega

theorem PcieSession.plan_append {fabric : PcieFabric φ} {begun found : PciePlan φ} {index : Nat}
    {committed : List (PcieSubmission × PcieTransactionResult)}
    (h : PcieSession.plan ⟨fabric, session.plans ++ [some begun], committed⟩ index = some found) :
    session.plan index = some found ∨ found = begun := by
  unfold PcieSession.plan at h ⊢
  rw [getElem?_append] at h
  split at h
  · exact .inl h
  · rcases Nat.eq_zero_or_pos (index - session.plans.length) with hzero | hpos
    · rw [hzero] at h
      cases h
      exact .inr rfl
    · simp [Nat.pos_iff_ne_zero.mp hpos] at h

theorem PcieSession.Ok.step (h : session.Ok service base) (call : PcieCall) :
    (call.run service session).Ends (fun _ after => after.Ok service base)
      (fun after => after = session) := by
  cases call with
  | beginPlan =>
    refine ends_modify ⟨h.sequential, h.ids, h.room, ?_, ?_⟩
    · intro index plan hplan
      rcases plan_append hplan with hplan | rfl
      · exact h.base index plan hplan
      · exact Nat.le_refl _
    · intro index plan hplan
      rcases plan_append hplan with hplan | rfl
      · exact h.current index plan hplan
      · exact fun _ => rfl
  | schedule index submission =>
    apply ends_bind
    apply ends_get_bind
    cases hplan : session.plan index with
    | none => exact ends_throw rfl
    | some plan =>
      dsimp only
      cases hschedule : plan.state.schedule service submission.request submission.attribution with
      | error error => exact ends_throw rfl
      | ok served =>
        obtain ⟨result, candidate⟩ := served
        apply ends_bind
        apply ends_set
        refine ends_pure (ends_pure ⟨h.sequential, h.ids, h.room, ?_, ?_⟩)
        · intro other found hfound
          rcases plan_set hfound with ⟨_, hsome⟩ | ⟨_, hfound⟩
          · cases hsome
            exact h.base index plan hplan
          · exact h.base other found hfound
        · intro other found hfound hbase
          rcases plan_set hfound with ⟨_, hsome⟩ | ⟨_, hfound⟩
          · cases hsome
            have hcurrent := scheduleAll_snoc (h.current index plan hplan hbase) hschedule
            simpa using hcurrent
          · exact h.current other found hfound hbase
  | commit index =>
    show (commitPlan index session).Ends _ _
    apply ends_get_bind
    cases hplan : session.plan index with
    | none => exact ends_throw rfl
    | some plan =>
      dsimp only
      split
      next => exact ends_throw rfl
      next hbase =>
        rw [ne_eq, Decidable.not_not] at hbase
        cases hcommit : session.fabric.commit plan.state with
        | error error => exact ends_throw rfl
        | ok fabric =>
          refine ends_set (h.committed (h.current index plan hplan hbase) hcommit ?_)
          intro other found hfound
          rcases plan_set hfound with ⟨_, hnone⟩ | ⟨_, hfound⟩
          · cases hnone
          · exact ⟨other, hfound⟩
  | submit submission =>
    apply ends_bind
    apply ends_get_bind
    cases hschedule : session.fabric.schedule service submission.request submission.attribution with
    | error error => exact ends_throw rfl
    | ok served =>
      obtain ⟨result, candidate⟩ := served
      dsimp only
      cases hcommit : session.fabric.commit candidate with
      | error error => exact ends_throw rfl
      | ok fabric =>
        apply ends_bind
        apply ends_set
        have hone :=
          @scheduleAll_snoc φ service session.fabric session.fabric [] [] _ _ _ rfl hschedule
        exact ends_pure (ends_pure (h.committed hone hcommit fun index plan hplan =>
          ⟨index, hplan⟩))

theorem PcieSession.ok_after (config : PcieFabricConfig) (links : φ) (calls : List PcieCall) :
    ((PcieSession.start config links).after service calls).Ok service
      (PcieSession.start config links).fabric := by
  induction calls using List.reverseRecOn with
  | nil =>
    refine ⟨rfl, rfl, show 0 < maxUint64 by decide, ?_, ?_⟩
    all_goals
      intro index plan hplan
      cases hplan
  | append_singleton calls call ih =>
    rw [PcieSession.after, foldl_append]
    have hstep := ih.step call
    apply Result.Ends.state
    exact hstep.mono (fun _ _ hok => hok) (fun _ hsame => hsame ▸ ih)

end Sessions

/-- **PCIe plans are serializable.** After any interleaving, submitting the transactions of the
committed plans one by one in commit order gives the same results and the same fabric, up to the
generation, which counts commits and not transactions. A stale plan does not commit, and a call
that throws changes nothing. -/
theorem pcie_plans_serializable (service : PcieService φ) (config : PcieFabricConfig) (links : φ)
    (calls : List PcieCall) :
    let start := PcieSession.start config links
    let session := start.after service calls
    submitAll service start.fabric (session.committed.map Prod.fst) =
        .ok (session.committed.map Prod.snd,
          { session.fabric with generation := session.committed.length }) ∧
      (∀ index plan, session.plan index = some plan →
        plan.baseGeneration ≠ session.fabric.generation →
        (PcieCall.commit index).run service session =
          .error (logicError "cannot commit stale RNIC PCIe plan") session) ∧
      ∀ (call : PcieCall) error after,
        call.run service session = .error error after → after = session := by
  intro start session
  have hok : session.Ok service start.fabric := PcieSession.ok_after config links calls
  refine ⟨hok.sequential, ?_, ?_⟩
  · intro index plan hplan hstale
    show commitPlan index session = _
    unfold commitPlan
    rw [get_bind, hplan]
    dsimp only
    rw [if_pos hstale]
    rfl
  · intro call error after hcall
    have hends := hok.step call
    rw [hcall] at hends
    exact hends

def doorbellSubmission (token : Nat) : PcieSubmission :=
  { request :=
      { clientId := 1, clientToken := token, serviceClass := .uarDoorbell, operation := .postedWrite
        requestDirection := .hostToDevice, ordering := .independent, pathId := 1
        orderingDomain := 0, usefulBytes := 8, transferBytes := 8, submittedAtPs := 0 } }

/-- A plan of two transactions is one commit, submitting them is two. -/
theorem plan_of_two_counts_once :
    let session := (PcieSession.start promptFabric.config ()).after promptService
      [.beginPlan, .schedule 0 (doorbellSubmission 1), .schedule 0 (doorbellSubmission 2), .commit 0]
    session.committed.map (·.1.request.clientToken) = [1, 2] ∧ session.fabric.generation = 1 ∧
      (submitAll promptService (PcieSession.start promptFabric.config ()).fabric
        (session.committed.map Prod.fst)).map (·.2.generation) = .ok 2 := by
  decide

end SimLLM.Rnic
