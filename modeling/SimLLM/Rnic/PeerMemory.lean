import SimLLM.Rnic.Requests

namespace SimLLM.Rnic

variable {allocations : List HostMemoryAllocation} {id registeredAtPs : Nat}
variable {allocation : HostMemoryAllocation} {candidate next : HostMemoryState}
variable {memory : VirtualHostMemory} {plan : RegistrationPlan}

variable {φ : Type}

structure RnicDevice where
  setup : WorkQueueSetup
  attached : HostMemoryAttachment
  token : Nat
  attached_eq : setup.hostMemory = some attached
  token_ne : token ≠ 0

def RnicDevice.ownerId (device : RnicDevice) : Nat := device.attached.deviceOwnerId

/-- The registry, the device's queue, the registrations planned by peers and whether the
device's memory is registered. -/
structure SharedMemory (φ : Type) where
  memory : VirtualHostMemory := {}
  session : Session φ
  plans : List RegistrationPlan := []
  live : Bool := false

def RnicDevice.attach (device : RnicDevice) (memory : VirtualHostMemory) (endpointId : Nat)
    (peerReadGrants : List Nat) (allocations : List HostMemoryAllocation) :
    Except CppError VirtualHostMemory := do
  let memory ← memory.claimDeviceOwner device.token device.ownerId endpointId .rnic peerReadGrants
  let plan ← memory.planRegistrationsImpl (some device.token) allocations 0
  memory.commit plan

def WorkQueue.hasPendingPhysicalWork (queue : WorkQueue) : Bool :=
  queue.fatal || !queue.unpublished.isEmpty || !queue.ready.isEmpty || !queue.inflight.isEmpty ||
    !queue.packetAttempts.isEmpty || !queue.pendingOutcomes.isEmpty ||
    !queue.pendingCqes.isEmpty || !queue.cq.isEmpty

def RnicDevice.teardownHostMemory (device : RnicDevice) (memory : VirtualHostMemory)
    (queue : WorkQueue) (nowPs : Nat) : Except CppError VirtualHostMemory := do
  require (!(queue.hasPendingPhysicalWork || queue.occupiedSqEntries != 0 ||
      queue.cq.length != 0 || queue.unpublished.length != 0))
    (logicError "RNIC host memory cannot be torn down with live queue state")
  let memory ← memory.teardownClaimedOwner device.token device.ownerId nowPs
  return memory.releaseDeviceOwner device.token device.ownerId

/-- What can happen next. Peers act under their own addresses, or through the unclaimed
interface, and may plan a registration now and commit it later. -/
inductive Action (φ : Type) where
  | attach (endpointId : Nat) (peerReadGrants : List Nat) (allocations : List HostMemoryAllocation)
  | post (request : WorkRequest) (nowPs : Nat)
  | postBatch (requests : List WorkRequest) (nowPs : Nat)
  | doorbell (nowPs : Nat) (producerTask : Option RnicProducerTaskLink)
  | progress (port : NetworkPort) (nowPs : Nat)
  | networkEvent (received : NetworkEvent)
  | poll (maxEntries nowPs : Nat)
  | teardown (nowPs : Nat)
  | otherTraffic (fabric : PcieFabric φ)
  | peerClaim (owner deviceOwnerId endpointId : Nat) (deviceKind : PcieDeviceKind)
      (peerReadGrants : List Nat)
  | peerRelease (owner deviceOwnerId : Nat)
  | peerPlan (owner : Option Nat) (allocations : List HostMemoryAllocation) (registeredAtPs : Nat)
  | peerCommit (index : Nat)
  | peerTeardown (owner : Option Nat) (deviceOwnerId teardownAtPs : Nat)

section Step

variable (service : PcieService φ) (device : RnicDevice)

def SharedMemory.call {α : Type} (world : SharedMemory φ) (body : QueueM φ α) : SharedMemory φ :=
  if world.live then { world with session := (body world.session).state } else world

def SharedMemory.change (world : SharedMemory φ) (result : Except CppError VirtualHostMemory) :
    SharedMemory φ :=
  match result with
  | .ok memory => { world with memory := memory }
  | .error _ => world

def isPeer (owner : Option Nat) : Bool := owner != some device.token

def SharedMemory.step (world : SharedMemory φ) : Action φ → SharedMemory φ
  | .attach endpointId grants allocations =>
    if world.live then world
    else
      match device.attach world.memory endpointId grants allocations with
      | .ok memory => { world with
          memory := memory, live := true, session := { world.session with queue := {} } }
      | .error _ => world
  | .post request nowPs => world.call (postSend device.setup world.memory request nowPs)
  | .postBatch requests nowPs => world.call (postSendBatch device.setup world.memory requests nowPs)
  | .doorbell nowPs producerTask =>
    world.call (ringDoorbell service device.setup world.memory nowPs producerTask)
  | .progress port nowPs => world.call (progress service device.setup world.memory port nowPs)
  | .networkEvent received => world.call (onNetworkEvent service device.setup world.memory received)
  | .poll maxEntries nowPs => world.call (pollCompletionQueue device.setup maxEntries nowPs)
  | .teardown nowPs =>
    if world.live then
      match device.teardownHostMemory world.memory world.session.queue nowPs with
      | .ok memory => { world with memory := memory, live := false }
      | .error _ => world
    else world
  | .otherTraffic fabric => { world with session := { world.session with fabric := fabric } }
  | .peerClaim owner deviceOwnerId endpointId deviceKind grants =>
    if isPeer device (some owner) then
      world.change
        (world.memory.claimDeviceOwner owner deviceOwnerId endpointId deviceKind grants)
    else world
  | .peerRelease owner deviceOwnerId =>
    if isPeer device (some owner) then
      { world with memory := world.memory.releaseDeviceOwner owner deviceOwnerId }
    else world
  | .peerPlan owner allocations registeredAtPs =>
    if isPeer device owner then
      match world.memory.planRegistrationsImpl owner allocations registeredAtPs with
      | .ok plan => { world with plans := world.plans ++ [plan] }
      | .error _ => world
    else world
  | .peerCommit index =>
    match world.plans[index]? with
    | some plan => world.change (world.memory.commit plan)
    | none => world
  | .peerTeardown owner deviceOwnerId teardownAtPs =>
    if isPeer device owner then
      match owner with
      | some token =>
        world.change (world.memory.teardownClaimedOwner token deviceOwnerId teardownAtPs)
      | none => world.change (world.memory.teardownOwner deviceOwnerId teardownAtPs)
    else world

def SharedMemory.run (fabric : PcieFabric φ) (actions : List (Action φ)) : SharedMemory φ :=
  actions.foldl (SharedMemory.step service device) { session := { queue := {}, fabric := fabric } }

end Step

def Keyed (allocations : Table Nat HostMemoryAllocation) : Prop :=
  ∀ entry ∈ allocations, entry.2.allocationId = entry.1

theorem Keyed.get? {allocations : Table Nat HostMemoryAllocation} (h : Keyed allocations)
    (hget : allocations.get? id = some allocation) : allocation.allocationId = id :=
  h (id, allocation) (Table.mem_of_get? hget)

def Extends (before after : Table Nat HostMemoryAllocation) : Prop :=
  ∀ id allocation, before.get? id = some allocation → after.get? id = some allocation

def KeepsOwner (deviceOwnerId : Nat) (before after : Table Nat HostMemoryAllocation) : Prop :=
  ∀ id allocation, before.get? id = some allocation →
    allocation.deviceOwnerId = deviceOwnerId → after.get? id = some allocation

theorem Extends.keepsOwner {before after : Table Nat HostMemoryAllocation}
    (h : Extends before after) (deviceOwnerId : Nat) : KeepsOwner deviceOwnerId before after :=
  fun id allocation hget _ => h id allocation hget

theorem registerOne_eq_ok
    (h : VirtualHostMemory.registerOne registeredAtPs candidate allocation = .ok next) :
    candidate.allocations.get? allocation.allocationId = none ∧
      next.allocations = candidate.allocations.set allocation.allocationId allocation ∧
      next.generation = candidate.generation := by
  replace h := of_check h
  replace h := of_check h
  obtain ⟨_, hnew, h⟩ := of_bind h
  replace h := of_check h
  replace h := of_check h
  replace h := of_check h
  cases h
  exact ⟨by simpa [require_eq_ok] using hnew, rfl, rfl⟩

theorem registerAll_eq_ok (hkeyed : Keyed candidate.allocations)
    (h : allocations.foldlM (VirtualHostMemory.registerOne registeredAtPs) candidate = .ok next) :
    Extends candidate.allocations next.allocations ∧ Keyed next.allocations ∧
      next.generation = candidate.generation := by
  refine foldlM_invariant
    (fun state => Extends candidate.allocations state.allocations ∧ Keyed state.allocations ∧
      state.generation = candidate.generation) h ⟨fun _ _ h => h, hkeyed, rfl⟩ ?_
  rintro acc state allocation _ ⟨hext, hkey, hgen⟩ hstep
  obtain ⟨hnew, hset, hsame⟩ := registerOne_eq_ok hstep
  refine ⟨?_, ?_, hsame.trans hgen⟩
  · intro id live hlive
    have hkept := hext id live hlive
    have hne : allocation.allocationId ≠ id := by
      rintro rfl
      rw [hnew] at hkept
      cases hkept
    rw [hset, Table.get?_set, if_neg hne]
    exact hkept
  · intro entry hentry
    rw [hset] at hentry
    rcases Table.mem_set hentry with rfl | hold
    · rfl
    · exact hkey entry hold

theorem planRegistrationsImpl_eq_ok {owner : Option Nat} (hkeyed : Keyed memory.state.allocations)
    (h : memory.planRegistrationsImpl owner allocations registeredAtPs = .ok plan) :
    plan.baseGeneration = memory.state.generation ∧
      plan.candidate.generation = memory.state.generation + 1 ∧
      Extends memory.state.allocations plan.candidate.allocations ∧
      Keyed plan.candidate.allocations := by
  replace h := of_check h
  replace h := of_check h
  obtain ⟨candidate, hfold, h⟩ := of_bind h
  replace h := of_check h
  cases h
  obtain ⟨hext, hkey, hgen⟩ := registerAll_eq_ok hkeyed hfold
  refine ⟨rfl, ?_, hext, hkey⟩
  rw [hgen]

variable {next : VirtualHostMemory}

theorem commit_eq_ok (h : memory.commit plan = .ok next) :
    plan.baseGeneration = memory.state.generation ∧
      next = { memory with state := plan.candidate } := by
  obtain ⟨_, hbase, h⟩ := of_bind h
  replace h := of_check h
  cases h
  exact ⟨by simpa [require_eq_ok] using hbase, rfl⟩

theorem get?_filter_of_keep {table : Table Nat HostMemoryAllocation}
    {keep : Nat × HostMemoryAllocation → Bool} (h : table.get? id = some allocation)
    (hkeep : keep (id, allocation) = true) :
    Table.get? (table.filter keep) id = some allocation := by
  induction table with
  | nil => cases h
  | cons entry rest ih =>
    rw [Table.get?_cons] at h
    by_cases hkey : entry.1 = id
    · rw [if_pos hkey] at h
      cases h
      have hentry : keep entry = true := by rw [← hkeep, ← hkey]
      rw [List.filter_cons_of_pos hentry, Table.get?_cons, if_pos hkey]
    · rw [if_neg hkey] at h
      cases hentry : keep entry with
      | true => rw [List.filter_cons_of_pos hentry, Table.get?_cons, if_neg hkey, ih h]
      | false => rw [List.filter_cons_of_neg (by simp [hentry]), ih h]

theorem teardownOwnerImpl_eq_ok {deviceOwnerId teardownAtPs : Nat}
    (h : memory.teardownOwnerImpl deviceOwnerId teardownAtPs = .ok next) :
    next.claims = memory.claims ∧ next.state.generation = memory.state.generation + 1 ∧
      next.state.allocations =
        memory.state.allocations.filter (·.2.deviceOwnerId != deviceOwnerId) := by
  replace h := of_check h
  replace h := of_check h
  replace h := of_check h
  replace h := of_check h
  replace h := of_check h
  replace h := of_check h
  cases h
  exact ⟨rfl, rfl, rfl⟩

end SimLLM.Rnic
