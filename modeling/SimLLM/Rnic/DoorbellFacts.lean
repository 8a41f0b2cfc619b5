import SimLLM.Rnic.CqeHorizon

namespace SimLLM.Rnic

variable {result : PcieTransactionResult} {attachment : PcieAttachment} {nowPs observedAtPs : Nat}
variable {record : WqeRecord} {queue : WorkQueue} {producerTask : Option RnicProducerTaskLink}

variable {φ : Type} {service : PcieService φ} {setup : WorkQueueSetup} {memory : VirtualHostMemory}

variable {plan plan' : DoorbellPlan φ}

structure PlanMoves (service : PcieService φ) (memory : VirtualHostMemory)
    (R : FabricPlan φ → FabricPlan φ → Prop) : Prop where
  refl : ∀ plan, R plan plan
  trans : ∀ {a b c}, R a b → R b c → R a c
  transaction : ∀ {plan request result plan'},
    plan.transaction service request = .ok (result, plan') → R plan plan'
  access : ∀ {plan request result plan'},
    plan.access service memory request = .ok (result, plan') →
      request.serviceClass ≠ .payloadRead → request.serviceClass ≠ .payloadWrite → R plan plan'

section Moves

variable {R : FabricPlan φ → FabricPlan φ → Prop} (moves : PlanMoves service memory R)

include moves

theorem PlanMoves.doorbellRecord {batchId : Nat} {plan plan' : FabricPlan φ}
    (h : planDoorbellRecord service attachment memory batchId nowPs plan = .ok (result, plan')) :
    R plan plan' := by
  unfold planDoorbellRecord at h
  split at h
  next => exact moves.access h nofun nofun
  next => exact moves.transaction h

theorem PlanMoves.wqeRead {plan plan' : FabricPlan φ}
    (h : planWqeRead service setup attachment memory record observedAtPs plan =
      .ok (result, plan')) :
    R plan plan' := by
  unfold planWqeRead at h
  split at h
  next =>
    obtain ⟨offset, _, h⟩ := of_bind h
    exact moves.access h nofun nofun
  next =>
    obtain ⟨offset, _, h⟩ := of_bind h
    exact moves.transaction h

theorem PlanMoves.observed {plan plan' : FabricPlan φ}
    (h : planObserved service setup memory queue nowPs plan = .ok (observedAtPs, plan')) :
    R plan plan' ∧ (setup.pcie = none → plan' = plan) := by
  unfold planObserved at h
  cases hpcie : setup.pcie with
  | none =>
    rw [hpcie] at h
    obtain ⟨_, -, h⟩ := of_bind h
    cases h
    exact ⟨moves.refl _, fun _ => rfl⟩
  | some attachment =>
    rw [hpcie] at h
    obtain ⟨⟨record, middle⟩, hrecord, h⟩ := of_bind h
    obtain ⟨⟨uar, last⟩, huar, h⟩ := of_bind h
    cases h
    exact ⟨moves.trans (moves.doorbellRecord hrecord) (moves.transaction huar), nofun⟩

theorem PlanMoves.fetch {window : Nat × Nat}
    (h : planFetch service setup memory record observedAtPs plan = .ok (window, plan')) :
    R plan.fabricPlan plan'.fabricPlan ∧
      (setup.pcie = none → plan'.fabricPlan = plan.fabricPlan) ∧ plan'.items = plan.items := by
  unfold planFetch at h
  cases hpcie : setup.pcie with
  | none =>
    rw [hpcie] at h
    obtain ⟨_, -, h⟩ := of_bind h
    cases h
    exact ⟨moves.refl _, fun _ => rfl, rfl⟩
  | some attachment =>
    rw [hpcie] at h
    obtain ⟨⟨fetch, middle⟩, hfetch, h⟩ := of_bind h
    cases h
    exact ⟨moves.wqeRead hfetch, nofun, rfl⟩

theorem PlanMoves.qpc {fetchEndPs : Nat} {ready : Option Nat}
    (h : planQpc service setup memory record fetchEndPs plan = .ok (ready, plan')) :
    R plan.fabricPlan plan'.fabricPlan ∧
      (setup.pcie = none → plan'.fabricPlan = plan.fabricPlan) ∧ plan'.items = plan.items := by
  unfold planQpc at h
  split at h
  next =>
    split at h
    next attachment attached hsome =>
      obtain ⟨⟨lookup, middle⟩, hlookup, h⟩ := of_bind h
      cases h
      refine ⟨moves.access hlookup nofun nofun, fun hnone => ?_, rfl⟩
      rw [hnone] at hsome
      cases hsome
    next =>
      obtain ⟨_, -, h⟩ := of_bind h
      cases h
      exact ⟨moves.refl _, fun _ => rfl, rfl⟩
  next =>
    cases h
    exact ⟨moves.refl _, fun _ => rfl, rfl⟩

end Moves

theorem planWqe_eq_ok {wqeId : Nat}
    (h : planWqe service setup memory queue observedAtPs plan wqeId = .ok plan') :
    ∃ record window fetched ready looked dataReady read item, queue.wqe wqeId = .ok record ∧
      planFetch service setup memory record observedAtPs plan = .ok (window, fetched) ∧
      planQpc service setup memory record window.2 fetched = .ok (ready, looked) ∧
      planPayload service setup memory record (ready.getD window.2) looked = .ok (dataReady, read) ∧
      plan'.fabricPlan = read.fabricPlan ∧ plan'.items = read.items ++ [item] ∧
      item.wqeId = wqeId := by
  obtain ⟨record, hrecord, h⟩ := of_bind h
  replace h := of_check h
  obtain ⟨⟨⟨fetchBegin, fetchEnd⟩, fetched⟩, hfetch, h⟩ := of_bind h
  obtain ⟨⟨qpcReady, looked⟩, hqpc, h⟩ := of_bind h
  obtain ⟨⟨dataReady, read⟩, hpayload, h⟩ := of_bind h
  obtain ⟨admitted, _, h⟩ := of_bind h
  cases h
  exact ⟨record, _, fetched, qpcReady, looked, dataReady, read, _, hrecord, hfetch, hqpc, hpayload,
    rfl, rfl, rfl⟩

variable {session : Session φ}

theorem planDoorbell_eq_ok
    (h : planDoorbell service setup memory session nowPs producerTask = .ok (observedAtPs, plan)) :
    session.queue.fatal = false ∧ ∃ start : DoorbellPlan φ, start.items = [] ∧
      planObserved service setup memory session.queue nowPs { fabric := session.fabric } =
        .ok (observedAtPs, start.fabricPlan) ∧
      session.queue.unpublished.foldlM
        (planWqe service setup memory session.queue observedAtPs) start = .ok plan := by
  obtain ⟨_, hlive, h⟩ := of_bind h
  replace h := of_check h
  replace h := of_check h
  obtain ⟨⟨observed, fabricPlan⟩, hobserved, h⟩ := of_bind h
  obtain ⟨folded, hfold, h⟩ := of_bind h
  cases h
  exact ⟨by simpa [require_eq_ok] using hlive, _, rfl, hobserved, hfold⟩

structure PlanGrows (setup : WorkQueueSetup) (before after : FabricPlan φ) : Prop where
  posted : ∀ domain, before.fabric.posted domain ≤ after.fabric.posted domain
  scalar : setup.pcie = none → after = before

theorem PlanGrows.trans {a b c : FabricPlan φ} (h : PlanGrows setup a b)
    (h' : PlanGrows setup b c) : PlanGrows setup a c :=
  ⟨fun domain => Nat.le_trans (h.posted domain) (h'.posted domain),
    fun hscalar => (h'.scalar hscalar).trans (h.scalar hscalar)⟩

theorem posted_moves : PlanMoves service memory fun before after =>
    ∀ domain, before.fabric.posted domain ≤ after.fabric.posted domain where
  refl _ _ := Nat.le_refl _
  trans h h' domain := Nat.le_trans (h domain) (h' domain)
  transaction h := (FabricPlan.transaction_posted h).1
  access h _ _ := (FabricPlan.access_posted h).1

theorem planPayload_grows {dataReadyPs ready : Nat}
    (h : planPayload service setup memory record dataReadyPs plan = .ok (ready, plan')) :
    PlanGrows setup plan.fabricPlan plan'.fabricPlan ∧ plan'.items = plan.items := by
  have hsame : PlanGrows setup plan.fabricPlan plan.fabricPlan :=
    ⟨fun _ => Nat.le_refl _, fun _ => rfl⟩
  unfold planPayload at h
  split at h
  next attachment hpcie =>
    split at h
    next =>
      split at h
      next data _ =>
        obtain ⟨⟨read, middle⟩, hread, h⟩ := of_bind h
        cases h
        refine ⟨⟨(FabricPlan.access_posted hread).1, fun hnone => ?_⟩, rfl⟩
        rw [hpcie] at hnone
        cases hnone
      next =>
        cases h
        exact ⟨hsame, rfl⟩
    next =>
      cases h
      exact ⟨hsame, rfl⟩
  next =>
    cases h
    exact ⟨hsame, rfl⟩

theorem planWqe_grows {wqeId : Nat}
    (h : planWqe service setup memory queue observedAtPs plan wqeId = .ok plan') :
    PlanGrows setup plan.fabricPlan plan'.fabricPlan ∧
      plan'.items.map (·.wqeId) = plan.items.map (·.wqeId) ++ [wqeId] := by
  obtain ⟨record, window, fetched, ready, looked, dataReady, read, item, -, hfetch, hqpc, hpayload,
    hplan, hnext, hid⟩ := planWqe_eq_ok h
  obtain ⟨hposted, hscalar, hitems⟩ := posted_moves.fetch hfetch
  obtain ⟨hposted', hscalar', hitems'⟩ := posted_moves.qpc hqpc
  obtain ⟨hgrows, hitems''⟩ := planPayload_grows hpayload
  rw [hplan, hnext, List.map_append, hitems'', hitems', hitems, ← hid]
  exact ⟨(PlanGrows.trans ⟨hposted, hscalar⟩ ⟨hposted', hscalar'⟩).trans hgrows, rfl⟩

theorem planDoorbell_grows
    (h : planDoorbell service setup memory session nowPs producerTask = .ok (observedAtPs, plan)) :
    session.queue.fatal = false ∧
      PlanGrows setup { fabric := session.fabric } plan.fabricPlan ∧
      plan.items.map (·.wqeId) = session.queue.unpublished := by
  obtain ⟨hlive, start, hempty, hobserved, hfold⟩ := planDoorbell_eq_ok h
  refine ⟨hlive, foldlM_done (fun visited (plan : DoorbellPlan φ) =>
    PlanGrows setup { fabric := session.fabric } plan.fabricPlan ∧
      plan.items.map (·.wqeId) = visited) hfold ?_ ?_⟩
  · obtain ⟨hposted, hscalar⟩ := posted_moves.observed hobserved
    exact ⟨⟨hposted, hscalar⟩, by rw [hempty]; rfl⟩
  · rintro visited wqeId rest acc next _ ⟨hgrows, hitems⟩ hvisit
    obtain ⟨hgrows', hitems'⟩ := planWqe_grows hvisit
    exact ⟨hgrows.trans hgrows', by rw [hitems', hitems]⟩

theorem commitDoorbell_eq_ok {rows : List RnicSubmissionRecord} {fabric : PcieFabric φ}
    (hgrows : PlanGrows setup { fabric := session.fabric } plan.fabricPlan)
    (h : commitDoorbell setup session plan nowPs observedAtPs producerTask = .ok (rows, fabric)) :
    (setup.pcie = none → rows = []) ∧
      ∀ cqeWriteCursorPs, cqeHorizon setup cqeWriteCursorPs session.fabric ≤
        cqeHorizon setup cqeWriteCursorPs fabric := by
  unfold commitDoorbell at h
  unfold cqeHorizon
  cases hpcie : setup.pcie with
  | none =>
    rw [hpcie] at h
    cases h
    exact ⟨fun _ => rfl, fun _ => Nat.le_refl _⟩
  | some attachment =>
    rw [hpcie] at h
    obtain ⟨planned, _, h⟩ := of_bind h
    obtain ⟨committed, hcommit, h⟩ := of_bind h
    replace hcommit := of_check hcommit
    cases hcommit
    cases h
    exact ⟨nofun, fun _ => hgrows.posted _⟩

end SimLLM.Rnic
