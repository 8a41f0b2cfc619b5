import SimLLM.Rnic.PayloadReads

namespace SimLLM.Rnic

open List

variable {data : WorkRequestDataMemory} {request : WorkRequest} {before after queue : WorkQueue}
variable {nowPs owner endpointId : Nat} {producerTask : Option RnicProducerTaskLink}
variable {plan : RegistrationPlan} {claims : DeviceOwnerClaims} {kind : PcieDeviceKind}
variable {grants : List Nat} {access : HostMemoryAccessRecord}
variable {accesses : List HostMemoryAccessRecord}

variable {φ : Type}

/-- The region is this device's own, or belongs to the named peer, which grants this device
read access. -/
def mayRead (memory : VirtualHostMemory) (deviceOwnerId : Nat) (data : WorkRequestDataMemory)
    (region : HostMemoryAllocation) : Bool :=
  region.deviceOwnerId == deviceOwnerId ||
    (region.deviceOwnerId == data.peerDeviceOwnerId &&
      memory.peerReadGranted data.peerDeviceOwnerId deviceOwnerId)

/-- A payload read that the registry allows at this moment: its target is a data region the
device may read, and the payload stays inside. -/
def isolated (memory : VirtualHostMemory) (deviceOwnerId : Nat) (queue : WorkQueue)
    (access : HostMemoryAccessRecord) : Bool :=
  match queue.wqe access.clientToken, memory.allocation access.allocationId with
  | .ok record, .ok region =>
    match record.request.dataMemory with
    | some data => region.objectKind == .dataRegion && mayRead memory deviceOwnerId data region &&
        decide (data.allocationOffsetBytes + record.request.payloadBytes ≤ region.lengthBytes)
    | none => false
  | _, _ => false

def newPayloadReads (before after : WorkQueue) : List HostMemoryAccessRecord :=
  (after.memoryAccesses.drop before.memoryAccesses.length).filter (·.objectKind == .dataRegion)

def peersStillGrant (memory : VirtualHostMemory) (deviceOwnerId : Nat) (queue : WorkQueue) : Bool :=
  queue.unpublished.all fun wqeId =>
    match queue.wqe wqeId with
    | .error _ => true
    | .ok record =>
      match record.request.dataMemory with
      | none => true
      | some data => data.peerDeviceOwnerId == 0 ||
          match memory.allocation data.allocationId with
          | .error _ => true
          | .ok region => mayRead memory deviceOwnerId data region

structure PostedOk (memory : VirtualHostMemory) (deviceOwnerId : Nat) (request : WorkRequest) :
    Prop where
  empty : request.payloadBytes = 0 → request.dataMemory = none
  described : request.payloadBytes ≠ 0 → ∃ data, request.dataMemory = some data ∧
    (data.peerDeviceOwnerId = 0 → ∃ region,
      memory.state.allocations.get? data.allocationId = some region ∧
        region.deviceOwnerId = deviceOwnerId)

variable {memory : VirtualHostMemory}

theorem validateDataMemory_own {deviceOwnerId payloadBytes : Nat}
    (h : validateDataMemory memory deviceOwnerId data payloadBytes = .ok ())
    (hpeer : data.peerDeviceOwnerId = 0) :
    ∃ region, memory.state.allocations.get? data.allocationId = some region ∧
      region.deviceOwnerId = deviceOwnerId := by
  replace h := of_check h
  replace h := of_check h
  obtain ⟨region, hregion, h⟩ := of_bind h
  obtain ⟨_, howner, h⟩ := of_bind h
  have hmatch := require_eq_ok.mp howner
  simp only [hpeer, ↓reduceIte, Bool.and_eq_true, beq_iff_eq] at hmatch
  exact ⟨region, VirtualHostMemory.allocation_eq_ok.mp hregion, hmatch.1.2⟩

theorem validateRequestMemory_posted {setup : WorkQueueSetup} {attached : HostMemoryAttachment}
    (hattached : setup.hostMemory = some attached)
    (h : validateRequestMemory setup memory request = .ok ()) :
    PostedOk memory attached.deviceOwnerId request := by
  unfold validateRequestMemory at h
  rw [hattached] at h
  by_cases hpayload : request.payloadBytes = 0
  · simp only [hpayload, ↓reduceIte] at h
    have hnone : request.dataMemory = none := by simpa [require_eq_ok] using h
    exact ⟨fun _ => hnone, fun hne => absurd hpayload hne⟩
  · simp only [hpayload, ↓reduceIte] at h
    cases hdata : request.dataMemory with
    | none => rw [hdata] at h; cases h
    | some data =>
      rw [hdata] at h
      exact ⟨fun hzero => absurd hzero hpayload,
        fun _ => ⟨data, hdata, fun hpeer => validateDataMemory_own h hpeer⟩⟩

variable {deviceOwnerId : Nat}

theorem PostedOk.of_keepsOwner {before after : VirtualHostMemory}
    (h : PostedOk before deviceOwnerId request)
    (hkeeps : KeepsOwner deviceOwnerId before.state.allocations after.state.allocations) :
    PostedOk after deviceOwnerId request := by
  refine ⟨h.empty, ?_⟩
  intro hpayload
  obtain ⟨data, hdata, hown⟩ := h.described hpayload
  refine ⟨data, hdata, ?_⟩
  intro hpeer
  obtain ⟨region, hlive, howner⟩ := hown hpeer
  exact ⟨region, hkeeps _ region hlive howner, howner⟩

structure Unpublished (memory : VirtualHostMemory) (deviceOwnerId : Nat) (queue : WorkQueue) :
    Prop where
  next : queue.nextWqeId = queue.requests.length + 1
  posted : ∀ wqeId ∈ queue.unpublished, ∃ record, queue.wqe wqeId = .ok record ∧
    PostedOk memory deviceOwnerId record.request

section Queue

theorem Unpublished.of_same (h : Unpublished memory deviceOwnerId before)
    (hsame : SameRequests before after) : Unpublished memory deviceOwnerId after := by
  refine ⟨by rw [hsame.nextWqeId, hsame.requests, h.next], ?_⟩
  intro wqeId hmem
  rw [hsame.unpublished] at hmem
  obtain ⟨record, hrecord, hok⟩ := h.posted wqeId hmem
  obtain ⟨later, hlater, hrequest⟩ := hsame.wqe hrecord
  exact ⟨later, hlater, hrequest ▸ hok⟩

theorem Unpublished.append (h : Unpublished memory deviceOwnerId queue)
    (hok : PostedOk memory deviceOwnerId request) :
    Unpublished memory deviceOwnerId (queue.append request nowPs) := by
  have hlength : queue.records.length = queue.requests.length := by simp [WorkQueue.requests]
  refine ⟨?_, ?_⟩
  · simp [WorkQueue.append, WorkQueue.requests, h.next]
  · intro wqeId hmem
    rcases mem_append.mp hmem with hmem | hmem
    · obtain ⟨record, hrecord, hposted⟩ := h.posted wqeId hmem
      obtain ⟨hne, hget, hid⟩ := WorkQueue.wqe_eq_ok.mp hrecord
      have hlt := (List.getElem?_eq_some_iff.mp hget).1
      refine ⟨record, WorkQueue.wqe_eq_ok.mpr ⟨hne, ?_, hid⟩, hposted⟩
      show (queue.records ++ _)[wqeId - 1]? = some record
      rw [getElem?_append_left hlt, hget]
    · cases mem_singleton.mp hmem
      have hindex : queue.nextWqeId - 1 = queue.records.length := by rw [h.next]; omega
      refine ⟨queue.newRecord request nowPs,
        WorkQueue.wqe_eq_ok.mpr ⟨by rw [h.next]; omega, ?_, rfl⟩, hok⟩
      show (queue.records ++ [queue.newRecord request nowPs])[queue.nextWqeId - 1]? = some _
      rw [hindex, getElem?_concat_length]

variable {setup : WorkQueueSetup} {attached : HostMemoryAttachment} {s : Session φ}

section

variable (hattached : setup.hostMemory = some attached)

include hattached

theorem unpublished_postSend (h : Unpublished memory attached.deviceOwnerId s.queue) :
    (postSend setup memory request nowPs s).EndsIn
      fun s' => Unpublished memory attached.deviceOwnerId s'.queue := by
  refine ends_ofExcept_bind ?_ h
  intro _ hvalid
  refine (keeps_observeTime s).bind ?_ fun _ hkept => h.of_same (.of_asked hkept)
  intro _ s' hkept
  have h' := h.of_same (.of_asked hkept)
  apply ends_get_bind
  split
  next => exact ends_pure h'
  next =>
    split
    next =>
      apply ends_modifyQueue_bind
      apply ends_pure
      exact h'.of_same ⟨rfl, rfl, rfl⟩
    next =>
      apply ends_modifyQueue_bind
      apply ends_pure
      exact h'.append (validateRequestMemory_posted hattached hvalid)

theorem unpublished_postSendFrom
    {requests : List WorkRequest} {index : Nat} {batch : PostBatchResult}
    (h : Unpublished memory attached.deviceOwnerId s.queue) :
    (postSendFrom setup memory nowPs index batch requests s).EndsIn
      fun s' => Unpublished memory attached.deviceOwnerId s'.queue := by
  induction requests generalizing s index batch with
  | nil => exact ends_pure h
  | cons request rest ih =>
    refine (unpublished_postSend hattached h).bind ?_
    intro result s' h'
    split
    next => exact ends_pure h'
    next => exact ih h'

theorem ringDoorbell_ends {service : PcieService φ} :
    (ringDoorbell service setup memory nowPs producerTask s).Ends
      (fun _ s' => ∃ accesses,
        s'.queue.memoryAccesses = s.queue.memoryAccesses ++ accesses ∧
        ReadsOf memory s.queue s.queue.unpublished accesses ∧
        s'.queue.requests = s.queue.requests ∧ s'.queue.nextWqeId = s.queue.nextWqeId ∧
        s'.queue.unpublished = [])
      (fun s' => s' = s) := by
  apply ends_get_bind
  apply ends_check_bind
  split
  next hempty =>
    have hnone : s.queue.unpublished = [] := by simpa using hempty
    apply ends_check_bind
    apply ends_modifyQueue_bind
    apply ends_pure
    refine ⟨[], by simp, ?_, rfl, rfl, hnone⟩
    rw [hnone]
    exact ReadsOf.of_quiet (AddsNoRead.refl [])
  next =>
    refine ends_ofExcept_bind ?_ rfl
    rintro ⟨observedAt, plan⟩ hplan
    obtain ⟨hreads, hitems⟩ := planDoorbell_reads hattached hplan
    refine ends_ofExcept_bind ?_ rfl
    rintro ⟨rows, fabric⟩ _
    apply ends_bind
    apply ends_set
    apply ends_bind
    -- the records are written one by one; their identities, and so the lookups, stay
    have hstart : SameRequests s.queue { s.queue with
        memoryAccesses := s.queue.memoryAccesses ++ plan.fabricPlan.accesses } := ⟨rfl, rfl, rfl⟩
    refine (ends_forM (E := fun s' => s' = s) (fun s' : Session φ =>
      SameRequests s.queue s'.queue ∧ s'.queue.memoryAccesses =
        s.queue.memoryAccesses ++ plan.fabricPlan.accesses) ⟨hstart, rfl⟩ ?_).mono ?_ fun _ h => h
    · rintro item hitem s' ⟨hsame, haccesses⟩
      obtain ⟨record, hrecord⟩ := hitems item hitem
      obtain ⟨later, hlater, _⟩ := hsame.wqe hrecord
      rw [updateWqe_of_ok hlater]
      refine ⟨hsame.trans ⟨?_, rfl, rfl⟩, haccesses⟩
      exact setWqe_requests hlater ⟨rfl, rfl⟩
    · rintro _ s' ⟨hsame, haccesses⟩
      apply ends_modifyQueue_bind
      apply ends_pure
      exact ⟨plan.fabricPlan.accesses, haccesses, hreads, hsame.requests, hsame.nextWqeId, rfl⟩

theorem unpublished_ringDoorbell
    {service : PcieService φ} (h : Unpublished memory deviceOwnerId s.queue) :
    (ringDoorbell service setup memory nowPs producerTask s).EndsIn
      fun s' => Unpublished memory deviceOwnerId s'.queue := by
  refine (ringDoorbell_ends hattached).mono ?_ fun s' hs' => hs' ▸ h
  rintro _ s' ⟨_, _, _, hrequests, hnext, hempty⟩
  refine ⟨by rw [hnext, hrequests, h.next], ?_⟩
  simp [hempty]

end

end Queue

structure PlanOk (memory : VirtualHostMemory) (plan : RegistrationPlan) : Prop where
  base : plan.baseGeneration ≤ memory.state.generation
  fresh : plan.baseGeneration = memory.state.generation →
    plan.candidate.generation = memory.state.generation + 1 ∧
      Extends memory.state.allocations plan.candidate.allocations ∧
      Keyed plan.candidate.allocations

theorem PlanOk.stale {before after : VirtualHostMemory} (h : PlanOk before plan)
    (hgen : after.state.generation = before.state.generation + 1) : PlanOk after plan := by
  have hbase := h.base
  exact ⟨by omega, fun heq => by omega⟩

structure SharedMemory.Inv (device : RnicDevice) (world : SharedMemory φ) : Prop where
  keyed : Keyed world.memory.state.allocations
  plans : ∀ plan ∈ world.plans, PlanOk world.memory plan
  claimed : world.live = true → world.memory.claims.claimedBy device.token device.ownerId = true
  unpublished : world.live = true →
    Unpublished world.memory device.ownerId world.session.queue

section World

variable {device : RnicDevice} {world : SharedMemory φ}

theorem claimedBy_iff : claims.claimedBy owner deviceOwnerId = true ↔
      ∃ claim, claims.get? deviceOwnerId = some claim ∧ claim.owner = owner := by
  unfold DeviceOwnerClaims.claimedBy
  cases claims.get? deviceOwnerId with
  | none => simp
  | some claim => simp

theorem claimedBy_unique {a b : Nat} (ha : claims.claimedBy a deviceOwnerId = true)
    (hb : claims.claimedBy b deviceOwnerId = true) : a = b := by
  obtain ⟨claim, hclaim, rfl⟩ := claimedBy_iff.mp ha
  obtain ⟨other, hother, rfl⟩ := claimedBy_iff.mp hb
  rw [hclaim] at hother
  cases hother
  rfl

theorem claimDeviceOwner_eq_ok {next : VirtualHostMemory}
    (h : memory.claimDeviceOwner owner deviceOwnerId endpointId kind grants = .ok next) :
    memory.claims.get? deviceOwnerId = none ∧ next.state = memory.state ∧
      next.claims = memory.claims.set deviceOwnerId ⟨owner, endpointId, kind, grants⟩ := by
  obtain ⟨_, hfree, h⟩ := of_bind h
  replace h := of_check h
  obtain ⟨claims, hclaims, h⟩ := of_bind h
  cases h
  replace hclaims := of_check hclaims
  replace hclaims := of_check hclaims
  replace hclaims := of_check hclaims
  replace hclaims := of_check hclaims
  cases hclaims
  refine ⟨?_, rfl, rfl⟩
  simpa [require_eq_ok, DeviceOwnerClaims.claimed] using hfree

section

variable (h : world.Inv device)

include h

theorem SharedMemory.Inv.of_memory
    (hkeyed : Keyed memory.state.allocations) (hplans : ∀ plan ∈ world.plans, PlanOk memory plan)
    (hclaimed : world.live = true → memory.claims.claimedBy device.token device.ownerId = true)
    (hkeeps : world.live = true → KeepsOwner device.ownerId world.memory.state.allocations
      memory.state.allocations) : SharedMemory.Inv device { world with memory := memory } := by
  refine ⟨hkeyed, hplans, hclaimed, ?_⟩
  intro hlive
  have hunpublished := h.unpublished hlive
  refine ⟨hunpublished.next, ?_⟩
  intro wqeId hmem
  obtain ⟨record, hrecord, hok⟩ := hunpublished.posted wqeId hmem
  exact ⟨record, hrecord, hok.of_keepsOwner (hkeeps hlive)⟩

theorem SharedMemory.Inv.of_claims (hstate : memory.state = world.memory.state)
    (hclaimed : world.live = true → memory.claims.claimedBy device.token device.ownerId = true) :
    SharedMemory.Inv device { world with memory := memory } := by
  refine h.of_memory (hstate ▸ h.keyed) ?_ hclaimed fun _ id region hget _ => hstate ▸ hget
  intro plan hplan
  have hok := h.plans plan hplan
  exact ⟨hstate ▸ hok.base, by rw [hstate]; exact hok.fresh⟩

theorem SharedMemory.Inv.peerClaim
    (hclaim : world.memory.claimDeviceOwner owner deviceOwnerId endpointId kind grants =
      .ok memory) : SharedMemory.Inv device { world with memory := memory } := by
  obtain ⟨hfree, hstate, hclaims⟩ := claimDeviceOwner_eq_ok hclaim
  refine h.of_claims hstate ?_
  intro hlive
  obtain ⟨claim, hget, howner⟩ := claimedBy_iff.mp (h.claimed hlive)
  have hne : deviceOwnerId ≠ device.ownerId := by
    rintro rfl
    rw [hfree] at hget
    cases hget
  refine claimedBy_iff.mpr ⟨claim, ?_, howner⟩
  rw [hclaims, Table.get?_set, if_neg hne, hget]

theorem SharedMemory.Inv.peerRelease (hpeer : owner ≠ device.token) : SharedMemory.Inv device
      { world with memory := world.memory.releaseDeviceOwner owner deviceOwnerId } := by
  refine h.of_claims rfl ?_
  intro hlive
  have hown := h.claimed hlive
  show (world.memory.claims.release owner deviceOwnerId).claimedBy _ _ = true
  unfold DeviceOwnerClaims.release
  split
  next hheld =>
    have hne : deviceOwnerId ≠ device.ownerId := by
      rintro rfl
      exact hpeer (claimedBy_unique hheld hown)
    obtain ⟨claim, hget, howner⟩ := claimedBy_iff.mp hown
    refine claimedBy_iff.mpr ⟨claim, ?_, howner⟩
    rw [Table.get?_erase, if_neg hne, hget]
  next => exact hown

theorem SharedMemory.Inv.peerCommit (hplan : plan ∈ world.plans)
    (hcommit : world.memory.commit plan = .ok memory) :
    SharedMemory.Inv device { world with memory := memory } := by
  obtain ⟨hbase, rfl⟩ := commit_eq_ok hcommit
  obtain ⟨hgen, hextends, hkeyed⟩ := (h.plans plan hplan).fresh hbase
  refine h.of_memory hkeyed ?_ h.claimed fun _ => hextends.keepsOwner device.ownerId
  intro other hother
  exact (h.plans other hother).stale hgen

theorem SharedMemory.Inv.otherTeardown {teardownAtPs : Nat}
    (hne : world.live = true → deviceOwnerId ≠ device.ownerId)
    (hteardown : world.memory.teardownOwnerImpl deviceOwnerId teardownAtPs = .ok memory) :
    SharedMemory.Inv device { world with memory := memory } := by
  obtain ⟨hclaims, hgen, hallocations⟩ := teardownOwnerImpl_eq_ok hteardown
  refine h.of_memory ?_ (fun plan hplan => (h.plans plan hplan).stale hgen)
    (fun hlive => by rw [hclaims]; exact h.claimed hlive) ?_
  · rw [hallocations]
    exact fun entry hentry => h.keyed entry (mem_of_mem_filter hentry)
  · intro hlive id region hget howner
    rw [hallocations]
    refine get?_filter_of_keep hget ?_
    have hother := hne hlive
    simpa [howner] using Ne.symm hother

theorem SharedMemory.Inv.attach {allocations : List HostMemoryAllocation}
    (hattach : device.attach world.memory endpointId grants allocations = .ok memory) :
    SharedMemory.Inv device { world with
      memory := memory, live := true, session := { world.session with queue := {} } } := by
  obtain ⟨claimed, hclaim, hattach⟩ := of_bind hattach
  obtain ⟨plan, hplan, hcommit⟩ := of_bind hattach
  obtain ⟨hfree, hstate, hclaims⟩ := claimDeviceOwner_eq_ok hclaim
  have hkeyed := hstate ▸ h.keyed
  obtain ⟨_, hgen, _, hfiled⟩ := planRegistrationsImpl_eq_ok hkeyed hplan
  obtain ⟨_, rfl⟩ := commit_eq_ok hcommit
  refine ⟨hfiled, ?_, ?_, fun _ => ⟨rfl, by simp⟩⟩
  · intro other hother
    refine (h.plans other hother).stale ?_
    rw [hgen, hstate]
  · intro _
    rw [hclaims]
    exact claimedBy_iff.mpr ⟨_, Table.get?_set_self .., rfl⟩

theorem SharedMemory.Inv.ownTeardown
    (hteardown : device.teardownHostMemory world.memory world.session.queue nowPs = .ok memory) :
    SharedMemory.Inv device { world with memory := memory, live := false } := by
  replace hteardown := of_check hteardown
  obtain ⟨torn, htorn, hteardown⟩ := of_bind hteardown
  cases hteardown
  replace htorn := of_check htorn
  obtain ⟨_, hgen, hallocations⟩ := teardownOwnerImpl_eq_ok htorn
  refine ⟨?_, ?_, nofun, nofun⟩
  · show Keyed torn.state.allocations
    rw [hallocations]
    exact fun entry hentry => h.keyed entry (mem_of_mem_filter hentry)
  · exact fun plan hplan => (h.plans plan hplan).stale hgen

theorem SharedMemory.Inv.call {α : Type} {body : QueueM φ α}
    (hbody : world.live = true → (body world.session).EndsIn
      fun s => Unpublished world.memory device.ownerId s.queue) : (world.call body).Inv device := by
  unfold SharedMemory.call
  split
  next hlive => exact ⟨h.keyed, h.plans, h.claimed, fun _ => (hbody hlive).state⟩
  next => exact h

theorem SharedMemory.Inv.keptCall {α : Type} {body : QueueM φ α}
    (hbody : EStateM.Keeps Session.asked body) : (world.call body).Inv device := by
  refine h.call ?_
  intro hlive
  have hposted := h.unpublished hlive
  exact (hbody world.session).mono (fun _ _ hkept => hposted.of_same (.of_asked hkept))
    fun _ hkept => hposted.of_same (.of_asked hkept)

theorem SharedMemory.Inv.change {result : Except CppError VirtualHostMemory}
    (hok : ∀ memory, result = .ok memory →
      SharedMemory.Inv device { world with memory := memory }) :
    (world.change result).Inv device := by
  unfold SharedMemory.change
  split
  next memory => exact hok memory rfl
  next => exact h

end

theorem SharedMemory.Inv.step (service : PcieService φ) (h : world.Inv device) (action : Action φ) :
    (world.step service device action).Inv device := by
  cases action with
  | attach endpointId grants allocations =>
    simp only [SharedMemory.step]
    split
    next => exact h
    next =>
      split
      next memory hattach => exact h.attach hattach
      next => exact h
  | post request nowPs =>
    exact h.call fun hlive => unpublished_postSend device.attached_eq (h.unpublished hlive)
  | postBatch requests nowPs =>
    exact h.call fun hlive => unpublished_postSendFrom device.attached_eq (h.unpublished hlive)
  | doorbell nowPs producerTask =>
    exact h.call fun hlive => unpublished_ringDoorbell device.attached_eq (h.unpublished hlive)
  | progress port nowPs => exact h.keptCall keeps_progress
  | networkEvent received => exact h.keptCall keeps_onNetworkEvent
  | poll maxEntries nowPs => exact h.keptCall keeps_pollCompletionQueue
  | teardown nowPs =>
    simp only [SharedMemory.step]
    split
    next =>
      split
      next memory hteardown => exact h.ownTeardown hteardown
      next => exact h
    next => exact h
  | otherTraffic fabric => exact ⟨h.keyed, h.plans, h.claimed, h.unpublished⟩
  | peerClaim owner deviceOwnerId endpointId kind grants =>
    simp only [SharedMemory.step]
    split
    next => exact h.change fun _ hclaim => h.peerClaim hclaim
    next => exact h
  | peerRelease owner deviceOwnerId =>
    simp only [SharedMemory.step]
    split
    next hpeer => exact h.peerRelease (by simpa [isPeer] using hpeer)
    next => exact h
  | peerPlan owner allocations registeredAtPs =>
    simp only [SharedMemory.step]
    split
    next =>
      split
      next plan hplan =>
        obtain ⟨hbase, hgen, hextends, hkeyed⟩ := planRegistrationsImpl_eq_ok h.keyed hplan
        refine ⟨h.keyed, forall_mem_concat h.plans ?_, h.claimed, h.unpublished⟩
        exact ⟨hbase.le, fun _ => ⟨hgen, hextends, hkeyed⟩⟩
      next => exact h
    next => exact h
  | peerCommit index =>
    simp only [SharedMemory.step]
    split
    next plan hplan =>
      exact h.change fun _ hcommit => h.peerCommit (mem_of_getElem? hplan) hcommit
    next => exact h
  | peerTeardown owner deviceOwnerId teardownAtPs =>
    simp only [SharedMemory.step]
    split
    next hpeer =>
      cases owner with
      | some token =>
        have htoken : token ≠ device.token := by simpa [isPeer] using hpeer
        refine h.change fun memory hteardown => ?_
        obtain ⟨_, hheld, hteardown⟩ := of_bind hteardown
        refine h.otherTeardown ?_ hteardown
        rintro hlive rfl
        exact htoken (claimedBy_unique (require_eq_ok.mp hheld) (h.claimed hlive))
      | none =>
        refine h.change fun memory hteardown => ?_
        obtain ⟨_, hfree, hteardown⟩ := of_bind hteardown
        refine h.otherTeardown ?_ hteardown
        rintro hlive rfl
        obtain ⟨claim, hget, _⟩ := claimedBy_iff.mp (h.claimed hlive)
        have hunclaimed := require_eq_ok.mp hfree
        simp [DeviceOwnerClaims.claimed, hget] at hunclaimed
    next => exact h

theorem SharedMemory.inv_run (service : PcieService φ) (device : RnicDevice) (fabric : PcieFabric φ)
    (actions : List (Action φ)) : (SharedMemory.run service device fabric actions).Inv device := by
  unfold SharedMemory.run
  have hstart : SharedMemory.Inv device
      ({ session := { queue := {}, fabric := fabric } } : SharedMemory φ) :=
    ⟨nofun, nofun, nofun, nofun⟩
  generalize ({ session := { queue := {}, fabric := fabric } } : SharedMemory φ) = start at hstart
  induction actions generalizing start with
  | nil => exact hstart
  | cons action rest ih => exact ih (start.step service device action) (hstart.step service action)

/-- The registry decides about a scheduled payload read as it decides about its region: kind
and bounds were checked when the read was scheduled. -/
theorem isolated_of_read {wqeId : Nat}
    {record : WqeRecord} {target : HostMemoryAllocation} (hkeyed : Keyed memory.state.allocations)
    (hrecord : queue.wqe wqeId = .ok record)
    (hread : IsPayloadRead memory record.request data wqeId access target) :
    isolated memory deviceOwnerId queue access = mayRead memory deviceOwnerId data target := by
  have hid := hread.reached.trans (hkeyed.get? hread.live)
  have hlive := VirtualHostMemory.allocation_eq_ok.mpr hread.live
  unfold isolated
  rw [hread.token, hrecord, hid, hlive]
  simp [hread.descriptor, hread.region, hread.inside]

theorem mem_newPayloadReads (hafter : after.memoryAccesses = before.memoryAccesses ++ accesses) :
    access ∈ newPayloadReads before after ↔
      access ∈ accesses ∧ access.objectKind = .dataRegion := by
  unfold newPayloadReads
  rw [hafter, drop_left]
  simp

theorem isolated_iff_peersStillGrant
    (hkeyed : Keyed memory.state.allocations) (hposted : Unpublished memory deviceOwnerId before)
    (hafter : after.memoryAccesses = before.memoryAccesses ++ accesses)
    (hreads : ReadsOf memory before before.unpublished accesses) :
    (∀ access ∈ newPayloadReads before after,
        isolated memory deviceOwnerId before access = true) ↔
      peersStillGrant memory deviceOwnerId before = true := by
  unfold peersStillGrant
  rw [all_eq_true]
  constructor
  · intro hall wqeId hmem
    obtain ⟨record, hrecord, hok⟩ := hposted.posted wqeId hmem
    cases hdata : record.request.dataMemory with
    | none => simp [hrecord, hdata]
    | some data =>
      have hpayload : record.request.payloadBytes ≠ 0 := by
        intro hzero
        rw [hok.empty hzero] at hdata
        cases hdata
      obtain ⟨access, haccess, data', target, hread⟩ :=
        hreads.complete wqeId hmem record hrecord hpayload (by simp [hdata])
      obtain rfl := Option.some.inj (hdata.symm.trans hread.descriptor)
      have hlive := VirtualHostMemory.allocation_eq_ok.mpr hread.live
      have hmay := hall access ((mem_newPayloadReads hafter).mpr ⟨haccess, hread.kind⟩)
      rw [isolated_of_read hkeyed hrecord hread] at hmay
      simp [hrecord, hdata, hlive, hmay]
  · intro hall access haccess
    obtain ⟨hnew, hkind⟩ := (mem_newPayloadReads hafter).mp haccess
    obtain ⟨wqeId, hmem, record, data, target, hrecord, hread⟩ := hreads.sound access hnew hkind
    rw [isolated_of_read hkeyed hrecord hread]
    have hlive := VirtualHostMemory.allocation_eq_ok.mpr hread.live
    have hgrant := hall wqeId hmem
    simp only [hrecord, hread.descriptor, hlive, Bool.or_eq_true, beq_iff_eq] at hgrant
    rcases hgrant with hown | hgrant
    · -- the WQE names no peer: its region was registered by this device and is still there
      obtain ⟨record', hrecord', hok⟩ := hposted.posted wqeId hmem
      obtain rfl := Except.ok.inj (hrecord.symm.trans hrecord')
      have hpayload : record.request.payloadBytes ≠ 0 := by
        intro hzero
        have hnone := hok.empty hzero
        rw [hread.descriptor] at hnone
        cases hnone
      obtain ⟨data', hdata', hregion⟩ := hok.described hpayload
      obtain rfl := Option.some.inj (hread.descriptor.symm.trans hdata')
      obtain ⟨region, hget, howner⟩ := hregion hown
      obtain rfl := Option.some.inj (hread.live.symm.trans hget)
      simp [mayRead, howner]
    · exact hgrant

/-- After any interleaving, a doorbell that rings reads only regions the registry allows at
that moment if and only if each unpublished WQE that names a peer still names a region this
device may read; a doorbell that throws changes nothing. -/
theorem ringDoorbell_isolated_iff (service : PcieService φ) (device : RnicDevice)
    (fabric : PcieFabric φ) (actions : List (Action φ)) (nowPs : Nat)
    (producerTask : Option RnicProducerTaskLink)
    (hlive : (SharedMemory.run service device fabric actions).live = true) :
    let world := SharedMemory.run service device fabric actions
    (∀ batch after, ringDoorbell service device.setup world.memory nowPs producerTask
        world.session = .ok batch after →
      ((∀ access ∈ newPayloadReads world.session.queue after.queue,
          isolated world.memory device.ownerId world.session.queue access = true) ↔
        peersStillGrant world.memory device.ownerId world.session.queue = true)) ∧
    (∀ error after, ringDoorbell service device.setup world.memory nowPs producerTask
        world.session = .error error after → after = world.session) := by
  intro world
  have hinv := SharedMemory.inv_run service device fabric actions
  constructor
  · intro batch after hring
    obtain ⟨accesses, hafter, hreads, _⟩ :=
      ends_of_eq_ok (ringDoorbell_ends device.attached_eq) hring
    exact isolated_iff_peersStillGrant hinv.keyed (hinv.unpublished hlive) hafter hreads
  · intro error after hring
    have hkept := ends_of_eq_error (ringDoorbell_ends device.attached_eq) hring
    exact hkept

end World

def onePage (allocationId deviceOwnerId : Nat) (objectKind : HostMemoryObjectKind)
    (mkey : Option Nat) : HostMemoryAllocation where
  allocationId := allocationId
  deviceOwnerId := deviceOwnerId
  ownerKind := requiredOwnerKind objectKind
  ownerId := 1
  objectKind := objectKind
  pathId := 2
  virtualAddress := 4096 * allocationId
  lengthBytes := 4096
  pages := { physicalPageAddresses := [4096 * allocationId] }
  mkey := mkey

def readerDevice : RnicDevice where
  setup := {
    config := {}
    capabilities := {}
    pcie := some {
      binding := {}
      profile := { producer := ⟨.none, 1⟩, cqConsumer := ⟨.none, 1⟩, rnicRequesterId := 1 }
      hostMemory := some { binding := ⟨10, 11, 12, 13, 14, 256⟩, deviceOwnerId := 1 } }
    depths_pos := by decide
    qpn_ne := by decide
    policy_ne := by decide
    abi_known := NetworkPortCapabilities.default_known
    abi_v1_plain := NetworkPortCapabilities.default_plain
    services_bounded := by decide
    qpc_disabled_free := by decide
    pcie_not_scalar := by decide
    pcie_identified := by decide
    memory_looks_up := by decide }
  attached := { binding := ⟨10, 11, 12, 13, 14, 256⟩, deviceOwnerId := 1 }
  token := 100
  attached_eq := rfl
  token_ne := by decide

def postedToPeer : List (Action Unit) :=
  [.attach 0 [] [onePage 10 1 .qpcIcm none, onePage 11 1 .sqRing none, onePage 12 1 .rqRing none,
      onePage 13 1 .cqRing none, onePage 14 1 .doorbellRecord none],
    .peerClaim 200 2 0 .rnic [1],
    .peerPlan (some 200) [onePage 50 2 .dataRegion (some 7)] 0,
    .peerCommit 0,
    .post { payloadBytes := 64,
            dataMemory := some { allocationId := 50, mkey := 7, peerDeviceOwnerId := 2 } } 0]

def regionReused : List (Action Unit) :=
  postedToPeer ++ [.peerTeardown (some 200) 2 0, .peerRelease 200 2, .peerClaim 300 3 0 .rnic [],
    .peerPlan (some 300) [onePage 50 3 .dataRegion (some 7)] 0, .peerCommit 1]

def nextReads (actions : List (Action Unit)) : Option (List (Nat × Bool)) :=
  let world := SharedMemory.run promptService readerDevice promptFabric actions
  match ringDoorbell promptService readerDevice.setup world.memory 0 none world.session with
  | .ok _ after => some ((newPayloadReads world.session.queue after.queue).map fun access =>
      (access.allocationId, isolated world.memory readerDevice.ownerId world.session.queue access))
  | .error _ _ => none

/-- The doorbell reads the region of owner 3, which the WQE does not name and which grants
nothing. -/
theorem regionReused_read : nextReads regionReused = some [(50, false)] := by decide +kernel

theorem ringDoorbell_isolated_postedToPeer :
    let world := SharedMemory.run promptService readerDevice promptFabric postedToPeer
    ∀ batch after, ringDoorbell promptService readerDevice.setup world.memory 0 none
        world.session = .ok batch after →
      ∀ access ∈ newPayloadReads world.session.queue after.queue,
        isolated world.memory readerDevice.ownerId world.session.queue access = true := by
  intro world batch after hring
  have hiff := (ringDoorbell_isolated_iff promptService readerDevice promptFabric postedToPeer
    0 none (by decide +kernel)).1 batch after hring
  exact hiff.mpr (by decide +kernel)

end SimLLM.Rnic
