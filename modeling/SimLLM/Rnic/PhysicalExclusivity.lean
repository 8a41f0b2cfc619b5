import SimLLM.Rnic.PhysicalPages

namespace SimLLM.Rnic

open List VirtualHostMemory

variable {registeredAtPs : Nat} {candidate next : HostMemoryState}
  {allocation : HostMemoryAllocation} {memory : VirtualHostMemory}
  {batch : List HostMemoryAllocation}

def HostMemoryState.Exclusive (apart : HostMemoryAllocation → HostMemoryAllocation → Prop)
    (state : HostMemoryState) : Prop :=
  ∀ id other lhs rhs, id ≠ other → state.allocations.get? id = some lhs →
    state.allocations.get? other = some rhs → apart lhs rhs

structure LiveOk (state : HostMemoryState) : Prop where
  keys_nodup : state.allocations.keys.Nodup
  aligned : ∀ id live, state.allocations.get? id = some live → AlignedPages live
  virtual : state.Exclusive VirtuallyApart

structure FramesApart (before : HostMemoryState) (batch : List HostMemoryAllocation) : Prop where
  live : ∀ allocation ∈ batch, ∀ id live, before.allocations.get? id = some live →
    framesMeet allocation live = false
  batch : batch.Pairwise (framesMeet · · = false)

section

variable (h : registerOne registeredAtPs candidate allocation = .ok next)

include h

theorem registerOne_checks :
    AlignedPages allocation ∧ ∀ id live, candidate.allocations.get? id = some live →
      extentsOverlap allocation live = false := by
  obtain ⟨_, hvalid, h⟩ := of_bind h
  replace h := of_check h
  replace h := of_check h
  obtain ⟨_, hdisjoint, _⟩ := of_bind h
  refine ⟨validateAllocation_eq_ok hvalid, ?_⟩
  intro id live hlive
  have hmem : (id, live) ∈ candidate.allocations.insertionSort fun a b => a.1 ≤ b.1 :=
    (mem_insertionSort _).mpr (Table.mem_of_get? hlive)
  have hchecked := forM_eq_ok.mp hdisjoint (id, live) hmem
  obtain ⟨_, hextent, _⟩ := of_bind hchecked
  simpa [require_eq_ok] using hextent

theorem get?_registered (id : Nat) : next.allocations.get? id =
      if allocation.allocationId = id then some allocation else candidate.allocations.get? id := by
  rw [(registerOne_eq_ok h).2.1, Table.get?_set]

end

theorem exclusive_registered_iff (apart : HostMemoryAllocation → HostMemoryAllocation → Prop)
    (hsymm : ∀ lhs rhs, apart lhs rhs → apart rhs lhs)
    (h : registerOne registeredAtPs candidate allocation = .ok next) :
    next.Exclusive apart ↔ candidate.Exclusive apart ∧
      ∀ id live, candidate.allocations.get? id = some live → apart allocation live := by
  have hnew := (registerOne_eq_ok h).1
  have hget := get?_registered h
  have hfresh : ∀ id live, candidate.allocations.get? id = some live →
      allocation.allocationId ≠ id := by
    rintro id live hlive rfl
    rw [hnew] at hlive
    cases hlive
  constructor
  · intro hnext
    refine ⟨?_, ?_⟩
    · intro id other lhs rhs hne hl hr
      refine hnext id other lhs rhs hne ?_ ?_
      · rw [hget, if_neg (hfresh id lhs hl), hl]
      · rw [hget, if_neg (hfresh other rhs hr), hr]
    · intro id live hlive
      refine hnext allocation.allocationId id allocation live (hfresh id live hlive) ?_ ?_
      · rw [hget, if_pos rfl]
      · rw [hget, if_neg (hfresh id live hlive), hlive]
  · rintro ⟨hbefore, hall⟩ id other lhs rhs hne hl hr
    rw [hget] at hl hr
    split at hl
    next heq =>
      cases hl
      rw [if_neg (fun h => hne (heq.symm.trans h))] at hr
      exact hall other rhs hr
    next =>
      split at hr
      next =>
        cases hr
        exact hsymm _ _ (hall id lhs hl)
      next => exact hbefore id other lhs rhs hne hl hr

theorem VirtuallyApart.symm {lhs rhs : HostMemoryAllocation} (h : VirtuallyApart lhs rhs) :
    VirtuallyApart rhs lhs :=
  fun hendpoint byte hboth => h hendpoint.symm byte hboth.symm

theorem LiveOk.registerOne (hlive : LiveOk candidate)
    (h : registerOne registeredAtPs candidate allocation = .ok next) : LiveOk next := by
  obtain ⟨haligned, hextents⟩ := registerOne_checks h
  refine ⟨?_, ?_, ?_⟩
  · rw [(registerOne_eq_ok h).2.1]
    exact Table.set_keys_nodup hlive.keys_nodup _ _
  · intro id live hget
    rw [get?_registered h] at hget
    split at hget
    · cases hget
      exact haligned
    · exact hlive.aligned id live hget
  · refine (exclusive_registered_iff VirtuallyApart (fun _ _ => VirtuallyApart.symm) h).mpr
      ⟨hlive.virtual, ?_⟩
    intro id live hget
    exact virtuallyApart_of_not_overlap (hextents id live hget)

theorem exclusive_batch_iff {before after : HostMemoryState} (hlive : LiveOk before)
    (h : batch.foldlM (registerOne registeredAtPs) before = .ok after) :
    LiveOk after ∧ (after.Exclusive PhysicallyApart ↔
      before.Exclusive PhysicallyApart ∧ FramesApart before batch) := by
  induction batch generalizing before with
  | nil =>
    cases h
    exact ⟨hlive, fun h => ⟨h, by simp, .nil⟩, fun h => h.1⟩
  | cons allocation rest ih =>
    obtain ⟨middle, hone, hrest⟩ := of_bind h
    have hmiddle := hlive.registerOne hone
    obtain ⟨hafter, hiff⟩ := ih hmiddle hrest
    refine ⟨hafter, ?_⟩
    have haligned := (registerOne_checks hone).1
    have hget := get?_registered hone
    have hone' := exclusive_registered_iff PhysicallyApart (fun _ _ => PhysicallyApart.symm) hone
    have hnew : middle.allocations.get? allocation.allocationId = some allocation := by
      rw [hget, if_pos rfl]
    have hold : ∀ id live, before.allocations.get? id = some live →
        middle.allocations.get? id = some live := by
      intro id live hlive
      have hne : allocation.allocationId ≠ id := by
        rintro rfl
        rw [(registerOne_eq_ok hone).1] at hlive
        cases hlive
      rw [hget, if_neg hne, hlive]
    rw [hiff, hone']
    constructor
    · rintro ⟨⟨hbefore, hapart⟩, hframes⟩
      refine ⟨hbefore, ?_, ?_⟩
      · intro other hother id live hlive'
        rcases mem_cons.mp hother with rfl | hother
        · exact (physicallyApart_iff haligned (hlive.aligned id live hlive')).mp
            (hapart id live hlive')
        · exact hframes.live other hother id live (hold id live hlive')
      · refine pairwise_cons.mpr ⟨?_, hframes.batch⟩
        intro other hother
        rw [framesMeet_comm]
        exact hframes.live other hother _ allocation hnew
    · rintro ⟨hbefore, hframes⟩
      obtain ⟨hfirst, hpairs⟩ := pairwise_cons.mp hframes.batch
      refine ⟨⟨hbefore, ?_⟩, ?_, hpairs⟩
      · intro id live hlive'
        exact (physicallyApart_iff haligned (hlive.aligned id live hlive')).mpr
          (hframes.live allocation mem_cons_self id live hlive')
      · intro other hother id live hlive'
        rw [hget] at hlive'
        split at hlive'
        · cases hlive'
          rw [framesMeet_comm]
          exact hfirst other hother
        · exact hframes.live other (mem_cons_of_mem _ hother) id live hlive'

inductive RegistryCall where
  | plan (owner : Option Nat) (allocations : List HostMemoryAllocation) (registeredAtPs : Nat)
  | commit (index : Nat)
  | teardown (owner : Option Nat) (deviceOwnerId teardownAtPs : Nat)
  | claim (owner deviceOwnerId endpointId : Nat) (deviceKind : PcieDeviceKind)
      (peerReadGrants : List Nat)
  | release (owner deviceOwnerId : Nat)
  deriving DecidableEq, Repr

/-- The registry with the plans made so far and the batch of each, every state it went through,
and every batch it committed with the state before it. -/
structure RegistryRun where
  memory : VirtualHostMemory
  plans : List (RegistrationPlan × List HostMemoryAllocation) := []
  visited : List HostMemoryState
  committed : List (HostMemoryState × List HostMemoryAllocation) := []

namespace RegistryRun

def start (config : VirtualHostMemoryConfig) : RegistryRun where
  memory := { config := config }
  visited := [{}]

def step (run : RegistryRun) : RegistryCall → RegistryRun
  | .plan owner allocations registeredAtPs =>
    match run.memory.planRegistrationsImpl owner allocations registeredAtPs with
    | .ok plan => { run with plans := run.plans ++ [(plan, allocations)] }
    | .error _ => run
  | .commit index =>
    match run.plans[index]? with
    | none => run
    | some (plan, batch) =>
      match run.memory.commit plan with
      | .ok memory => { run with
          memory := memory, visited := run.visited ++ [memory.state]
          committed := run.committed ++ [(run.memory.state, batch)] }
      | .error _ => run
  | .teardown owner deviceOwnerId teardownAtPs =>
    match (match owner with
      | some token => run.memory.teardownClaimedOwner token deviceOwnerId teardownAtPs
      | none => run.memory.teardownOwner deviceOwnerId teardownAtPs) with
    | .ok memory => { run with memory := memory, visited := run.visited ++ [memory.state] }
    | .error _ => run
  | .claim owner deviceOwnerId endpointId deviceKind grants =>
    match run.memory.claimDeviceOwner owner deviceOwnerId endpointId deviceKind grants with
    | .ok memory => { run with memory := memory }
    | .error _ => run
  | .release owner deviceOwnerId =>
    { run with memory := run.memory.releaseDeviceOwner owner deviceOwnerId }

def after (config : VirtualHostMemoryConfig) (calls : List RegistryCall) : RegistryRun :=
  calls.foldl step (start config)

structure PlanCurrent (memory : VirtualHostMemory) (plan : RegistrationPlan)
    (batch : List HostMemoryAllocation) : Prop where
  base_le : plan.baseGeneration ≤ memory.state.generation
  current : plan.baseGeneration = memory.state.generation →
    ∃ registeredAtPs candidate, batch.foldlM (registerOne registeredAtPs)
        memory.state = .ok candidate ∧
      plan.candidate = { candidate with generation := candidate.generation + 1 }

structure Ok (run : RegistryRun) : Prop where
  live : LiveOk run.memory.state
  plans : ∀ entry ∈ run.plans, PlanCurrent run.memory entry.1 entry.2
  latest : run.memory.state ∈ run.visited
  virtual : ∀ state ∈ run.visited, state.Exclusive VirtuallyApart
  physical : (∀ state ∈ run.visited, state.Exclusive PhysicallyApart) ↔
    ∀ batch ∈ run.committed, FramesApart batch.1 batch.2

theorem ok_start (config : VirtualHostMemoryConfig) : (start config).Ok := by
  have hempty : ∀ apart, HostMemoryState.Exclusive apart {} := by
    intro apart id other lhs rhs _ hl
    cases hl
  refine ⟨⟨nodup_nil, ?_, hempty _⟩, ?_, by simp [start], ?_, ?_⟩
  · intro id live hlive
    cases hlive
  · simp [start]
  · simpa [start] using hempty _
  · simpa [start] using hempty _

variable {run : RegistryRun}

section

variable (h : run.Ok)

include h

theorem Ok.frame (hstate : memory.state = run.memory.state) :
    ({ run with memory := memory } : RegistryRun).Ok := by
  refine ⟨by rw [hstate]; exact h.live, ?_, by rw [hstate]; exact h.latest, h.virtual, h.physical⟩
  intro entry hentry
  obtain ⟨hbase, hcurrent⟩ := h.plans entry hentry
  exact ⟨by rw [hstate]; exact hbase, by rw [hstate]; exact hcurrent⟩

theorem Ok.plan {owner : Option Nat} {plan : RegistrationPlan}
    (hplan : run.memory.planRegistrationsImpl owner batch registeredAtPs = .ok plan) :
    ({ run with plans := run.plans ++ [(plan, batch)] } : RegistryRun).Ok := by
  refine ⟨h.live, forall_mem_concat h.plans ?_, h.latest, h.virtual, h.physical⟩
  replace hplan := of_check hplan
  replace hplan := of_check hplan
  obtain ⟨candidate, hfold, hplan⟩ := of_bind hplan
  replace hplan := of_check hplan
  cases hplan
  exact ⟨Nat.le_refl _, fun _ => ⟨registeredAtPs, candidate, hfold, rfl⟩⟩

theorem Ok.plans_later (hgeneration : memory.state.generation = run.memory.state.generation + 1) :
    ∀ entry ∈ run.plans, PlanCurrent memory entry.1 entry.2 := by
  intro entry hentry
  have hbase := (h.plans entry hentry).base_le
  exact ⟨by omega, fun heq => by omega⟩

theorem Ok.commit {plan : RegistrationPlan} (hmem : (plan, batch) ∈ run.plans)
    (hcommit : run.memory.commit plan = .ok memory) : ({ run with
      memory := memory, visited := run.visited ++ [memory.state]
      committed := run.committed ++ [(run.memory.state, batch)] } : RegistryRun).Ok := by
  obtain ⟨hbase, rfl⟩ := commit_eq_ok hcommit
  obtain ⟨registeredAtPs, candidate, hfold, hcandidate⟩ := (h.plans _ hmem).current hbase
  obtain ⟨hlive, hiff⟩ := exclusive_batch_iff h.live hfold
  have hgeneration : candidate.generation = run.memory.state.generation := by
    refine foldlM_invariant (fun state => state.generation = run.memory.state.generation)
      hfold rfl ?_
    intro acc next allocation _ hacc hstep
    exact (registerOne_eq_ok hstep).2.2.trans hacc
  -- the candidate and the state it installs have the same allocations
  have hallocations : plan.candidate.allocations = candidate.allocations := by rw [hcandidate]
  have hexclusive : ∀ apart, plan.candidate.Exclusive apart ↔ candidate.Exclusive apart := by
    intro apart
    unfold HostMemoryState.Exclusive
    rw [hallocations]
  refine ⟨⟨?_, ?_, (hexclusive _).mpr hlive.virtual⟩, ?_, ?_, ?_, ?_⟩
  · show plan.candidate.allocations.keys.Nodup
    rw [hallocations]
    exact hlive.keys_nodup
  · intro id live hget
    refine hlive.aligned id live ?_
    rw [← hallocations]
    exact hget
  · exact h.plans_later (show plan.candidate.generation = _ by rw [hcandidate, ← hgeneration])
  · exact mem_append_right _ (mem_singleton.mpr rfl)
  · exact forall_mem_concat h.virtual ((hexclusive _).mpr hlive.virtual)
  · have hlast := (hexclusive _).trans hiff
    simp only [forall_mem_append, forall_mem_singleton]
    rw [hlast, h.physical]
    constructor
    · rintro ⟨hcommitted, -, hframes⟩
      exact ⟨hcommitted, hframes⟩
    · rintro ⟨hcommitted, hframes⟩
      exact ⟨hcommitted, h.physical.mpr hcommitted _ h.latest, hframes⟩

theorem Ok.teardown {deviceOwnerId teardownAtPs : Nat}
    (hteardown : run.memory.teardownOwnerImpl deviceOwnerId teardownAtPs = .ok memory) :
    ({ run with memory := memory, visited := run.visited ++ [memory.state] } : RegistryRun).Ok := by
  obtain ⟨-, hgeneration, hallocations⟩ := teardownOwnerImpl_eq_ok hteardown
  have hkeys : memory.state.allocations.keys.Nodup := by
    rw [hallocations]
    exact h.live.keys_nodup.sublist (filter_sublist.map Prod.fst)
  -- what is still live was live before
  have hkept : ∀ id live, memory.state.allocations.get? id = some live →
      run.memory.state.allocations.get? id = some live := by
    intro id live hget
    have hmem := Table.mem_of_get? hget
    rw [hallocations] at hmem
    exact Table.get?_of_mem h.live.keys_nodup (mem_of_mem_filter hmem)
  have hexclusive : ∀ apart, run.memory.state.Exclusive apart → memory.state.Exclusive apart := by
    intro apart hbefore id other lhs rhs hne hl hr
    exact hbefore id other lhs rhs hne (hkept id lhs hl) (hkept other rhs hr)
  refine ⟨⟨hkeys, ?_, hexclusive _ h.live.virtual⟩, h.plans_later hgeneration, ?_, ?_, ?_⟩
  · intro id live hget
    exact h.live.aligned id live (hkept id live hget)
  · exact mem_append_right _ (mem_singleton.mpr rfl)
  · exact forall_mem_concat h.virtual (hexclusive _ h.live.virtual)
  · simp only [forall_mem_append, forall_mem_singleton]
    rw [← h.physical]
    exact ⟨fun hall => hall.1, fun hall => ⟨hall, hexclusive _ (hall _ h.latest)⟩⟩

theorem Ok.step (call : RegistryCall) : (run.step call).Ok := by
  cases call with
  | plan owner allocations registeredAtPs =>
    unfold RegistryRun.step
    dsimp only
    split
    next plan hplan => exact h.plan hplan
    next => exact h
  | commit index =>
    unfold RegistryRun.step
    dsimp only
    split
    next => exact h
    next plan batch hget =>
      split
      next memory hcommit => exact h.commit (mem_of_getElem? hget) hcommit
      next => exact h
  | teardown owner deviceOwnerId teardownAtPs =>
    unfold RegistryRun.step
    dsimp only
    split
    next memory hteardown =>
      cases owner with
      | none | some token =>
        replace hteardown := of_check hteardown
        exact h.teardown hteardown
    next => exact h
  | claim owner deviceOwnerId endpointId deviceKind grants =>
    unfold RegistryRun.step
    dsimp only
    split
    next memory hclaim =>
      replace hclaim := of_check hclaim
      replace hclaim := of_check hclaim
      obtain ⟨_, -, hclaim⟩ := of_bind hclaim
      cases hclaim
      exact h.frame rfl
    next => exact h
  | release owner deviceOwnerId => exact h.frame rfl

end

theorem ok_after (config : VirtualHostMemoryConfig) (calls : List RegistryCall) :
    (after config calls).Ok := by
  unfold after
  induction calls using List.reverseRecOn with
  | nil => exact ok_start config
  | append_singleton calls call ih =>
    rw [foldl_append]
    exact ih.step call

end RegistryRun

/-- Live allocations never share a virtual byte; they never share a physical byte exactly in the
runs that keep the committed batches out of each other's frames, whatever the page sizes. -/
theorem registry_exclusive_iff (config : VirtualHostMemoryConfig) (calls : List RegistryCall) :
    (∀ state ∈ (RegistryRun.after config calls).visited, state.Exclusive VirtuallyApart) ∧
      ((∀ state ∈ (RegistryRun.after config calls).visited, state.Exclusive PhysicallyApart) ↔
        ∀ batch ∈ (RegistryRun.after config calls).committed, FramesApart batch.1 batch.2) :=
  ⟨(RegistryRun.ok_after config calls).virtual, (RegistryRun.ok_after config calls).physical⟩

def onePageRegion (allocationId virtualAddress pageSizeBytes physicalAddress : Nat) :
    HostMemoryAllocation :=
  { allocationId, deviceOwnerId := 1, ownerKind := .memoryRegion, ownerId := 1
    objectKind := .dataRegion, pathId := 1, virtualAddress, lengthBytes := 64
    pages := { pageSizeBytes, physicalPageAddresses := [physicalAddress] }
    mkey := some allocationId }

def nestedPages : List RegistryCall :=
  [.plan none [onePageRegion 1 0 8192 0] 0, .commit 0,
    .plan none [onePageRegion 2 8192 4096 4096] 0, .commit 1]

theorem nestedPages_share_byte :
    ∃ state ∈ (RegistryRun.after {} nestedPages).visited, ¬ state.Exclusive PhysicallyApart := by
  have hlast : (RegistryRun.after {} nestedPages).memory.state.allocations =
      [(1, onePageRegion 1 0 8192 0), (2, onePageRegion 2 8192 4096 4096)] := by decide +kernel
  refine ⟨_, (RegistryRun.ok_after {} nestedPages).latest, ?_⟩
  intro hexclusive
  refine hexclusive 1 2 (onePageRegion 1 0 8192 0) (onePageRegion 2 8192 4096 4096) (by decide)
    (by rw [hlast]; rfl) (by rw [hlast]; rfl) rfl 4096 ⟨⟨0, ?_⟩, 4096, ?_⟩
  · simp [onePageRegion]
  · simp [onePageRegion]

end SimLLM.Rnic
