import SimLLM.Rnic.DoorbellFacts
import SimLLM.Rnic.PeerMemory

namespace SimLLM.Rnic

open List

variable {a b c : List HostMemoryAccessRecord} {request : HostMemoryAccessRequest}
variable {result : PcieTransactionResult} {attachment : PcieAttachment}
variable {nowPs observedAtPs wqeId : Nat} {queue : WorkQueue} {record : WqeRecord}

variable {φ : Type}

section Plan

variable {service : PcieService φ} {setup : WorkQueueSetup} {memory : VirtualHostMemory}

def AddsNoRead (before after : List HostMemoryAccessRecord) : Prop :=
  ∃ added, after = before ++ added ∧ ∀ record ∈ added, record.objectKind ≠ .dataRegion

theorem AddsNoRead.refl (accesses : List HostMemoryAccessRecord) : AddsNoRead accesses accesses :=
  ⟨[], by simp⟩

theorem AddsNoRead.trans (h : AddsNoRead a b) (h' : AddsNoRead b c) : AddsNoRead a c := by
  obtain ⟨first, rfl, hfirst⟩ := h
  obtain ⟨second, rfl, hsecond⟩ := h'
  refine ⟨first ++ second, by simp, ?_⟩
  exact forall_mem_append.mpr ⟨hfirst, hsecond⟩

variable {plan plan' : FabricPlan φ}

theorem FabricPlan.transaction_accesses {request : PcieTransactionRequest}
    (h : plan.transaction service request = .ok (result, plan')) :
    plan'.accesses = plan.accesses := by
  obtain ⟨⟨_, _⟩, _, h⟩ := of_bind h
  cases h
  rfl

theorem FabricPlan.access_eq_ok (h : plan.access service memory request = .ok (result, plan')) :
    ∃ record target, plan'.accesses = plan.accesses ++ [record] ∧
      memory.state.allocations.get? request.allocationId = some target ∧
      validateAccessShape target request = .ok () ∧
      request.allocationOffsetBytes + request.transferBytes ≤ target.lengthBytes ∧
      record.allocationId = target.allocationId ∧ record.objectKind = target.objectKind ∧
      record.clientToken = request.clientToken := by
  obtain ⟨⟨access, fabric⟩, haccess, h⟩ := of_bind h
  cases h
  obtain ⟨target, hrest⟩ := VirtualHostMemory.scheduleAccess_eq_ok haccess
  exact ⟨access.record, target, rfl, hrest⟩

theorem FabricPlan.access_addsNoRead (h : plan.access service memory request = .ok (result, plan'))
    (hclass : request.serviceClass ≠ .payloadRead ∧ request.serviceClass ≠ .payloadWrite) :
    AddsNoRead plan.accesses plan'.accesses := by
  obtain ⟨record, target, hadded, _, hshape, _, _, hkind, _⟩ := FabricPlan.access_eq_ok h
  refine ⟨[record], hadded, ?_⟩
  intro added hmem hdata
  cases mem_singleton.mp hmem
  rcases (validateAccessShape_dataRegion hshape (hkind ▸ hdata)).1 with hread | hwrite
  · exact hclass.1 hread
  · exact hclass.2 hwrite

theorem reads_moves : PlanMoves service memory fun before after =>
    AddsNoRead before.accesses after.accesses where
  refl _ := .refl _
  trans := .trans
  transaction h := by
    rw [FabricPlan.transaction_accesses h]
    exact .refl _
  access h hread hwrite := FabricPlan.access_addsNoRead h ⟨hread, hwrite⟩

structure IsPayloadRead (memory : VirtualHostMemory) (request : WorkRequest)
    (data : WorkRequestDataMemory) (wqeId : Nat) (access : HostMemoryAccessRecord)
    (target : HostMemoryAllocation) : Prop where
  descriptor : request.dataMemory = some data
  live : memory.state.allocations.get? data.allocationId = some target
  region : target.objectKind = .dataRegion
  inside : data.allocationOffsetBytes + request.payloadBytes ≤ target.lengthBytes
  reached : access.allocationId = target.allocationId
  kind : access.objectKind = .dataRegion
  token : access.clientToken = wqeId

def VisitAdds (memory : VirtualHostMemory) (record : WqeRecord)
    (before after : List HostMemoryAccessRecord) : Prop :=
  (∃ data access target, IsPayloadRead memory record.request data record.wqeId access target ∧
      ∃ quiet, AddsNoRead before quiet ∧ after = quiet ++ [access]) ∨
    (record.request.payloadBytes = 0 ∨ record.request.dataMemory = none) ∧
      AddsNoRead before after

variable {attached : HostMemoryAttachment}

variable {plan plan' : DoorbellPlan φ}

theorem planPayload_adds (hattached : setup.hostMemory = some attached) {dataReadyPs readyPs : Nat}
    (h : planPayload service setup memory record dataReadyPs plan = .ok (readyPs, plan')) :
    VisitAdds memory record plan.fabricPlan.accesses plan'.fabricPlan.accesses ∧
      plan'.items = plan.items := by
  obtain ⟨attachment, hpcie, hmemory⟩ := Option.bind_eq_some_iff.mp hattached
  unfold planPayload at h
  rw [hpcie] at h
  simp only [hmemory, Option.isSome_some, Bool.true_and, bne_iff_ne, ne_eq] at h
  split at h
  next hpayload =>
    cases hdata : record.request.dataMemory with
    | none =>
      rw [hdata] at h
      cases h
      exact ⟨.inr ⟨.inr hdata, .refl _⟩, rfl⟩
    | some data =>
      rw [hdata] at h
      obtain ⟨⟨read, fabricPlan⟩, hread, h⟩ := of_bind h
      cases h
      obtain ⟨access, target, hadded, hlive, hshape, hinside, hreached, hkind, htoken⟩ :=
        FabricPlan.access_eq_ok hread
      have hregion := validateAccessShape_payloadRead hshape rfl
      exact ⟨.inl ⟨data, access, target,
        ⟨hdata, hlive, hregion, hinside, hreached, hkind.trans hregion, htoken⟩,
        _, .refl _, hadded⟩, rfl⟩
  next hpayload =>
    cases h
    exact ⟨.inr ⟨.inl (by simpa using hpayload), .refl _⟩, rfl⟩

theorem VisitAdds.after_quiet (hquiet : AddsNoRead a b) (h : VisitAdds memory record b c) :
    VisitAdds memory record a c := by
  rcases h with ⟨data, access, target, hread, quiet, hadds, rfl⟩ | ⟨hnone, hadds⟩
  · exact .inl ⟨data, access, target, hread, quiet, hquiet.trans hadds, rfl⟩
  · exact .inr ⟨hnone, hquiet.trans hadds⟩

theorem planWqe_adds (hattached : setup.hostMemory = some attached)
    (h : planWqe service setup memory queue observedAtPs plan wqeId = .ok plan') :
    ∃ record item, queue.wqe wqeId = .ok record ∧
      VisitAdds memory record plan.fabricPlan.accesses plan'.fabricPlan.accesses ∧
      plan'.items = plan.items ++ [item] ∧ item.wqeId = wqeId := by
  obtain ⟨record, window, fetched, ready, looked, dataReady, read, item, hrecord, hfetch, hqpc,
    hpayload, hplan, hnext, hid⟩ := planWqe_eq_ok h
  obtain ⟨hquiet, -, hitems⟩ := reads_moves.fetch hfetch
  obtain ⟨hquiet', -, hitems'⟩ := reads_moves.qpc hqpc
  obtain ⟨hadds, hitems''⟩ := planPayload_adds hattached hpayload
  rw [hplan, hnext, hitems'', hitems', hitems]
  exact ⟨record, item, hrecord, hadds.after_quiet (hquiet.trans hquiet'), rfl, hid⟩

structure ReadsOf (memory : VirtualHostMemory) (queue : WorkQueue) (visited : List Nat)
    (accesses : List HostMemoryAccessRecord) : Prop where
  sound : ∀ access ∈ accesses, access.objectKind = .dataRegion → ∃ wqeId ∈ visited,
    ∃ record data target, queue.wqe wqeId = .ok record ∧
      IsPayloadRead memory record.request data wqeId access target
  complete : ∀ wqeId ∈ visited, ∀ record, queue.wqe wqeId = .ok record →
    record.request.payloadBytes ≠ 0 → record.request.dataMemory ≠ none →
    ∃ access ∈ accesses, ∃ data target,
      IsPayloadRead memory record.request data wqeId access target

theorem ReadsOf.of_quiet {accesses : List HostMemoryAccessRecord} (h : AddsNoRead [] accesses) :
    ReadsOf memory queue [] accesses := by
  obtain ⟨added, rfl, hquiet⟩ := h
  exact ⟨fun access hmem hdata => absurd hdata (hquiet access hmem), fun _ hmem => by simp at hmem⟩

variable {visited : List Nat}

theorem ReadsOf.extend {before added : List HostMemoryAccessRecord}
    (h : ReadsOf memory queue visited before)
    (hsound : ∀ access ∈ added, access.objectKind = .dataRegion → ∃ record data target,
      queue.wqe wqeId = .ok record ∧ IsPayloadRead memory record.request data wqeId access target)
    (hcomplete : ∀ record, queue.wqe wqeId = .ok record → record.request.payloadBytes ≠ 0 →
      record.request.dataMemory ≠ none → ∃ access ∈ before ++ added, ∃ data target,
      IsPayloadRead memory record.request data wqeId access target) :
    ReadsOf memory queue (visited ++ [wqeId]) (before ++ added) := by
  constructor
  · intro access haccess hdata
    rcases mem_append.mp haccess with haccess | haccess
    · obtain ⟨id, hvisited, rest⟩ := h.sound access haccess hdata
      exact ⟨id, mem_append_left _ hvisited, rest⟩
    · exact ⟨wqeId, by simp, hsound access haccess hdata⟩
  · intro id hvisited found hlookup hpayload hsome
    rcases mem_append.mp hvisited with hvisited | hvisited
    · obtain ⟨access, haccess, rest⟩ := h.complete id hvisited found hlookup hpayload hsome
      exact ⟨access, mem_append_left _ haccess, rest⟩
    · cases mem_singleton.mp hvisited
      exact hcomplete found hlookup hpayload hsome

theorem ReadsOf.visit {before after : List HostMemoryAccessRecord}
    (h : ReadsOf memory queue visited before) (hrecord : queue.wqe wqeId = .ok record)
    (hadds : VisitAdds memory record before after) :
    ReadsOf memory queue (visited ++ [wqeId]) after := by
  rcases hadds with ⟨data, access, target, hread, _, ⟨added, rfl, hquiet⟩, rfl⟩ |
    ⟨hnone, added, rfl, hquiet⟩
  · rw [(WorkQueue.wqe_eq_ok.mp hrecord).2.2] at hread
    rw [append_assoc]
    refine h.extend ?_ ?_
    · intro other hother hdata
      rcases mem_append.mp hother with hother | hother
      · exact absurd hdata (hquiet other hother)
      · cases mem_singleton.mp hother
        exact ⟨record, data, target, hrecord, hread⟩
    · intro found hlookup _ _
      cases hlookup.symm.trans hrecord
      exact ⟨access, by simp, data, target, hread⟩
  · refine h.extend (fun other hother hdata => absurd hdata (hquiet other hother)) ?_
    intro found hlookup hpayload hsome
    cases hlookup.symm.trans hrecord
    rcases hnone with hzero | hnone
    · exact absurd hzero hpayload
    · exact absurd hnone hsome

theorem planDoorbell_reads (hattached : setup.hostMemory = some attached) {session : Session φ}
    {producerTask : Option RnicProducerTaskLink}
    (h : planDoorbell service setup memory session nowPs producerTask = .ok (observedAtPs, plan)) :
    ReadsOf memory session.queue session.queue.unpublished plan.fabricPlan.accesses ∧
      ∀ item ∈ plan.items, ∃ record, session.queue.wqe item.wqeId = .ok record := by
  obtain ⟨-, start, hempty, hobserved, hfold⟩ := planDoorbell_eq_ok h
  -- the invariant says what the visited prefix of the unpublished WQEs has planned
  refine foldlM_done (fun visited (plan : DoorbellPlan φ) =>
    ReadsOf memory session.queue visited plan.fabricPlan.accesses ∧
      ∀ item ∈ plan.items, ∃ record, session.queue.wqe item.wqeId = .ok record) hfold ?_ ?_
  · exact ⟨.of_quiet (reads_moves.observed hobserved).1, by simp [hempty]⟩
  · rintro visited wqeId rest acc next _ ⟨hreads, hitems⟩ hvisit
    obtain ⟨record, item, hrecord, hadds, hnext, hid⟩ := planWqe_adds hattached hvisit
    refine ⟨hreads.visit hrecord hadds, ?_⟩
    rw [hnext]
    exact forall_mem_concat hitems ⟨record, hid ▸ hrecord⟩

end Plan

end SimLLM.Rnic
