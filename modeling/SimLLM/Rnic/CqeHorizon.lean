import SimLLM.Rnic.Completion

namespace SimLLM.Rnic

variable {cqeWriteCursorPs retiredAtPs cqeSequence : Nat} {request : HostMemoryAccessRequest}
variable {attribution : PcieEndpointAttribution} {result : PcieTransactionResult}
variable {config : VirtualHostMemoryConfig} {record : WqeRecord}

variable {φ : Type}

/-! ### The horizon of the CQEs

In PCIe mode the CQE writes wait for the posted horizon of their ordering domain, in scalar
mode for the write cursor of the queue. Neither moves back. -/

def PcieFabric.posted (fabric : PcieFabric φ) (domain : Nat) : Nat :=
  (fabric.cursors domain).postedVisibilityPs

def cqeHorizon (setup : WorkQueueSetup) (cqeWriteCursorPs : Nat) (fabric : PcieFabric φ) : Nat :=
  match setup.pcie with
  | none => cqeWriteCursorPs
  | some attachment => fabric.posted attachment.binding.completionOrderingDomain

variable {service : PcieService φ} {setup : WorkQueueSetup} {memory : VirtualHostMemory}
  {fabric fabric' : PcieFabric φ}

theorem cqeHorizon_congr (h : ∀ domain, fabric'.posted domain = fabric.posted domain) :
    cqeHorizon setup cqeWriteCursorPs fabric' = cqeHorizon setup cqeWriteCursorPs fabric := by
  unfold cqeHorizon
  cases setup.pcie with
  | none => rfl
  | some attachment => exact h _

theorem PcieFabric.schedule_postedWrite {request : PcieTransactionRequest}
    (h : fabric.schedule service request attribution = .ok (result, fabric'))
    (hordering : request.ordering = .visibilityDependency)
    (hoperation : request.operation = .postedWrite) :
    fabric.posted request.orderingDomain ≤ result.completedAtPs ∧
      fabric'.posted request.orderingDomain = result.completedAtPs := by
  obtain ⟨_, hhorizon, hcursors, _⟩ := PcieFabric.schedule_eq_ok h
  unfold PcieFabric.orderingHorizon at hhorizon
  rw [hordering] at hhorizon
  simp only [hoperation] at hhorizon
  refine ⟨hhorizon, ?_⟩
  unfold PcieFabric.posted
  rw [hcursors, if_pos ⟨hordering, rfl⟩, hoperation]
  rfl

theorem scheduleMetadata_posted_le {stage : HostMemoryTranslationStage} {bytes offset : Nat}
    {before after : Translation φ}
    (h : scheduleMetadata service config request attribution stage bytes offset before = .ok after)
    (domain : Nat) : before.fabric.posted domain ≤ after.fabric.posted domain := by
  obtain ⟨⟨transaction, fabric⟩, hschedule, h⟩ := of_bind h
  cases h
  exact PcieFabric.schedule_posted_le hschedule domain

theorem translate_posted_le {target : HostMemoryAllocation} {pageIndex : Nat}
    {before after : Translation φ}
    (h : translate service config request attribution target pageIndex before = .ok after)
    (domain : Nat) : before.fabric.posted domain ≤ after.fabric.posted domain := by
  unfold translate at h
  split at h
  next => exact scheduleMetadata_posted_le h domain
  next =>
    split at h
    next =>
      obtain ⟨mpt, hmpt, h⟩ := of_bind h
      have hfirst := scheduleMetadata_posted_le hmpt domain
      exact Nat.le_trans hfirst (scheduleMetadata_posted_le h domain)
    next =>
      cases h
      exact Nat.le_refl _

variable {plan plan' : FabricPlan φ}

theorem FabricPlan.transaction_posted
    {request : PcieTransactionRequest} (h : plan.transaction service request =
      .ok (result, plan')) :
    (∀ domain, plan.fabric.posted domain ≤ plan'.fabric.posted domain) ∧
      (request.ordering = .visibilityDependency → request.operation = .postedWrite →
        plan.fabric.posted request.orderingDomain ≤ result.completedAtPs ∧
        plan'.fabric.posted request.orderingDomain = result.completedAtPs) := by
  obtain ⟨⟨found, fabric⟩, hschedule, h⟩ := of_bind h
  cases h
  exact ⟨PcieFabric.schedule_posted_le hschedule, PcieFabric.schedule_postedWrite hschedule⟩

theorem FabricPlan.access_posted (h : plan.access service memory request = .ok (result, plan')) :
    (∀ domain, plan.fabric.posted domain ≤ plan'.fabric.posted domain) ∧
      (request.ordering = .visibilityDependency → request.operation = .postedWrite →
        plan.fabric.posted request.orderingDomain ≤ result.completedAtPs ∧
        plan'.fabric.posted request.orderingDomain = result.completedAtPs) := by
  obtain ⟨⟨access, fabric⟩, haccess, h⟩ := of_bind h
  cases h
  obtain ⟨⟨target, attribution, pageIndex⟩, _, haccess⟩ := of_bind haccess
  obtain ⟨translation, htranslate, haccess⟩ := of_bind haccess
  obtain ⟨⟨written, last⟩, hschedule, haccess⟩ := of_bind haccess
  cases haccess
  have hbefore := translate_posted_le htranslate
  refine ⟨fun domain => ?_, fun hordering hoperation => ?_⟩
  · exact Nat.le_trans (hbefore domain) (PcieFabric.schedule_posted_le hschedule domain)
  · have hwrite := PcieFabric.schedule_postedWrite hschedule hordering hoperation
    exact ⟨Nat.le_trans (hbefore _) hwrite.1, hwrite.2⟩

theorem cqeVisibleAt_horizon {visible : Nat}
    (h : cqeVisibleAt service setup memory record retiredAtPs cqeWriteCursorPs cqeSequence plan =
      .ok (visible, plan')) : cqeHorizon setup cqeWriteCursorPs plan.fabric ≤ visible ∧
      cqeHorizon setup visible plan'.fabric = visible := by
  unfold cqeVisibleAt at h
  unfold cqeHorizon
  cases hpcie : setup.pcie with
  | none =>
    rw [hpcie] at h
    obtain ⟨sum, hsum, h⟩ := of_bind h
    cases h
    have hvisible := checkedAdd_eq_ok hsum
    refine ⟨?_, rfl⟩
    show cqeWriteCursorPs ≤ visible
    omega
  | some attachment =>
    rw [hpcie] at h
    simp only at h
    split at h
    next =>
      obtain ⟨offset, _, h⟩ := of_bind h
      obtain ⟨⟨write, planned⟩, hwrite, h⟩ := of_bind h
      cases h
      exact (FabricPlan.access_posted hwrite).2 rfl rfl
    next =>
      obtain ⟨offset, _, h⟩ := of_bind h
      obtain ⟨⟨write, planned⟩, hwrite, h⟩ := of_bind h
      cases h
      exact (FabricPlan.transaction_posted hwrite).2 rfl rfl

theorem makeCqe_eq_ok {status : CompletionStatus} {entry : CompletionEntry}
    (h : makeCqe service setup memory record status retiredAtPs cqeWriteCursorPs cqeSequence plan =
      .ok (entry, plan')) : entry.sqSequence = record.sqSequence ∧ entry.wqeId = record.wqeId ∧
      entry.cqeSequence = cqeSequence ∧
      cqeHorizon setup cqeWriteCursorPs plan.fabric ≤ entry.visibleAtPs ∧
      cqeHorizon setup entry.visibleAtPs plan'.fabric = entry.visibleAtPs := by
  obtain ⟨⟨visible, planned⟩, hvisible, h⟩ := of_bind h
  cases h
  obtain ⟨hle, heq⟩ := cqeVisibleAt_horizon hvisible
  exact ⟨rfl, rfl, rfl, hle, heq⟩

end SimLLM.Rnic
