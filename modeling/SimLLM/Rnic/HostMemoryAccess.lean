import SimLLM.Rnic.HostMemory

namespace SimLLM.Rnic

variable {memory : VirtualHostMemory} {request : HostMemoryAccessRequest}
variable {target : HostMemoryAllocation}

variable {φ : Type}

def findPath (config : PcieFabricConfig) (pathId : Nat) : Except CppError PciePathConfig :=
  match config.paths.find? fun path => path.pathId == pathId && path.enabled with
  | some path => .ok path
  | none => .error (invalidArgument "RNIC host-memory access references an unknown PCIe path")

def metadataOffset (base index entryBytes : Nat) : Nat :=
  (base + index % 4096 * (entryBytes % 4096)) % 4096

def validateAccessShape (target : HostMemoryAllocation) (request : HostMemoryAccessRequest) :
    Except CppError Unit :=
  match target.objectKind with
  | .qpcIcm =>
    require (request.serviceClass == .qpcIcm && request.operation == .nonPostedRead &&
        request.requestDirection == .deviceToHost && request.mkey.isNone)
      (invalidArgument "RNIC QPC access shape is incompatible")
  | .sqRing | .rqRing =>
    require (request.serviceClass == .wqeRead && request.operation == .nonPostedRead &&
        request.requestDirection == .deviceToHost && request.mkey.isNone)
      (invalidArgument "RNIC work-queue ring access shape is incompatible")
  | .cqRing =>
    require (request.serviceClass == .cqeWrite && request.operation == .postedWrite &&
        request.requestDirection == .deviceToHost && request.mkey.isNone)
      (invalidArgument "RNIC completion-ring access shape is incompatible")
  | .doorbellRecord =>
    require (request.serviceClass == .doorbellRecord && request.operation == .hostStore &&
        request.requestDirection == .hostToDevice && request.mkey.isNone)
      (invalidArgument "RNIC doorbell-record access shape is incompatible")
  | .dataRegion =>
    require ((request.serviceClass == .payloadRead && request.operation == .nonPostedRead &&
          request.requestDirection == .deviceToHost ||
        request.serviceClass == .payloadWrite && request.operation == .postedWrite &&
          request.requestDirection == .deviceToHost) && request.mkey == target.mkey)
      (invalidArgument "RNIC data-region access shape or MKey is incompatible")
  | .descriptorQueue =>
    .error (invalidArgument "RNIC proxy descriptor queue has no device access shape")

def deviceLocalEndpoint (endpoint : PcieEndpointKind) : Bool :=
  endpoint == .gpuMemory || endpoint == .deviceMemory

structure AccessAttribution where
  access : PcieEndpointAttribution := {}
  metadata : PcieEndpointAttribution := {}
  deriving DecidableEq, Repr

def resolveAttribution (request : HostMemoryAccessRequest) (target : HostMemoryAllocation)
    (hostEndpointId ownerEndpointId : Nat) : Except CppError AccessAttribution :=
  if request.requesterEndpointId == 0 || request.operation == .hostStore then .ok {}
  else do
    require (hostEndpointId != 0) (invalidArgument
      "RNIC host-memory attribution requires a fabric host endpoint identity")
    let completer := if deviceLocalEndpoint target.endpoint then ownerEndpointId else hostEndpointId
    require (completer != 0) (invalidArgument
      "RNIC host-memory device-local completer has no fabric endpoint identity")
    return {
      access := ⟨request.requesterEndpointId, completer⟩
      metadata := ⟨request.requesterEndpointId, hostEndpointId⟩ }

def metadataRequest (config : VirtualHostMemoryConfig) (access : HostMemoryAccessRequest)
    (bytes firstByteOffset submittedAtPs : Nat) : PcieTransactionRequest where
  clientId := access.clientId
  clientToken := access.clientToken
  serviceClass := .mttMpt
  operation := .nonPostedRead
  requestDirection := .deviceToHost
  ordering := .independent
  pathId := config.translationPathId
  orderingDomain := access.orderingDomain
  usefulBytes := bytes
  transferBytes := bytes
  firstByteOffset := firstByteOffset
  submittedAtPs := submittedAtPs

structure Translation (φ : Type) where
  fabric : PcieFabric φ
  stages : List HostMemoryTranslationStage := []
  transactionIds : List Nat := []
  readyAtPs : Nat

def scheduleMetadata (service : PcieService φ) (config : VirtualHostMemoryConfig)
    (request : HostMemoryAccessRequest) (attribution : PcieEndpointAttribution)
    (stage : HostMemoryTranslationStage) (bytes firstByteOffset : Nat)
    (translation : Translation φ) : Except CppError (Translation φ) := do
  let (transaction, fabric) ← translation.fabric.schedule service
    (metadataRequest config request bytes firstByteOffset translation.readyAtPs) attribution
  return {
    fabric := fabric
    stages := translation.stages ++ [stage]
    transactionIds := translation.transactionIds ++ [transaction.transactionId]
    readyAtPs := transaction.completedAtPs }

def translate (service : PcieService φ) (config : VirtualHostMemoryConfig)
    (request : HostMemoryAccessRequest) (attribution : PcieEndpointAttribution)
    (target : HostMemoryAllocation) (pageIndex : Nat) (start : Translation φ) :
    Except CppError (Translation φ) :=
  if isRing target.objectKind then
    scheduleMetadata service config request attribution .queuePageList
      config.queuePageListEntryBytes
      (metadataOffset config.queuePageListFirstByteOffset pageIndex config.queuePageListEntryBytes)
      start
  else if target.objectKind == .dataRegion then do
    let mpt ← scheduleMetadata service config request attribution .mpt config.mptEntryBytes
      (metadataOffset config.mptFirstByteOffset (target.mkey.getD 0) config.mptEntryBytes)
      { start with stages := start.stages ++ [.mkey] }
    scheduleMetadata service config request attribution .mtt config.mttEntryBytes
      (metadataOffset config.mttFirstByteOffset pageIndex config.mttEntryBytes) mpt
  else .ok start

def accessTransaction (request : HostMemoryAccessRequest) (target : HostMemoryAllocation)
    (submittedAtPs : Nat) : PcieTransactionRequest where
  clientId := request.clientId
  clientToken := request.clientToken
  serviceClass := request.serviceClass
  operation := request.operation
  requestDirection := request.requestDirection
  ordering := request.ordering
  pathId := target.pathId
  orderingDomain := request.orderingDomain
  usefulBytes := request.usefulBytes
  transferBytes := request.transferBytes
  firstByteOffset := (target.virtualAddress + request.allocationOffsetBytes) % 4096
  submittedAtPs := submittedAtPs

def checkAccess (memory : VirtualHostMemory) (fabric : PcieFabric φ)
    (request : HostMemoryAccessRequest) :
    Except CppError (HostMemoryAllocation × AccessAttribution × Nat) := do
  require (request.version == 1) (invalidArgument "unsupported RNIC host-memory access version")
  require (request.allocationId != 0 && request.clientId != 0 && request.usefulBytes != 0 &&
      request.transferBytes != 0 && decide (request.usefulBytes ≤ request.transferBytes))
    (invalidArgument "RNIC host-memory access identity and bytes are invalid")
  let target ← memory.allocation request.allocationId
  validateAccessShape target request
  let accessEnd ← checkedAdd request.allocationOffsetBytes request.transferBytes
    (hostMemoryOverflow "access extent overflow")
  require (decide (accessEnd ≤ target.lengthBytes))
    (outOfRange "RNIC host-memory access exceeds its allocation")
  let targetPath ← findPath fabric.config target.pathId
  require (targetPath.endpoint == target.endpoint)
    (invalidArgument "RNIC host-memory allocation and PCIe endpoint disagree")
  let translationPath ← findPath fabric.config memory.config.translationPathId
  require (translationPath.endpoint == .hostPinnedMemory)
    (invalidArgument "RNIC host-memory translation metadata must be host-pinned")
  let attribution ← resolveAttribution request target fabric.config.hostEndpointId
    (memory.claims.endpointId target.deviceOwnerId)
  let absoluteOffset ← checkedAdd (target.virtualAddress % target.pages.pageSizeBytes)
    request.allocationOffsetBytes (hostMemoryOverflow "page-offset overflow")
  let pageIndex := absoluteOffset / target.pages.pageSizeBytes
  require (decide (pageIndex < target.pages.physicalPageAddresses.length))
    (logicError "RNIC host-memory access resolved outside its page list")
  return (target, attribution, pageIndex)

def VirtualHostMemory.scheduleAccess (memory : VirtualHostMemory) (service : PcieService φ)
    (fabric : PcieFabric φ) (request : HostMemoryAccessRequest) :
    Except CppError (HostMemoryAccessResult × PcieFabric φ) := do
  let (target, attribution, pageIndex) ← checkAccess memory fabric request
  let translation ← translate service memory.config request attribution.metadata target pageIndex
    { fabric := fabric, readyAtPs := request.submittedAtPs }
  let (access, fabric) ← translation.fabric.schedule service
    (accessTransaction request target translation.readyAtPs) attribution.access
  return ({
    record := {
      allocationId := target.allocationId
      objectKind := target.objectKind
      requesterEndpointId := attribution.access.requesterEndpointId
      completerEndpointId := attribution.access.completerEndpointId
      clientId := request.clientId
      clientToken := request.clientToken
      pageIndex := pageIndex
      translationStages := translation.stages
      translationTransactionIds := translation.transactionIds
      accessTransactionId := access.transactionId
      submittedAtPs := request.submittedAtPs
      completedAtPs := access.completedAtPs }
    accessTransaction := access }, fabric)

theorem VirtualHostMemory.allocation_eq_ok {allocationId : Nat}
    {allocation : HostMemoryAllocation} : memory.allocation allocationId = .ok allocation ↔
      memory.state.allocations.get? allocationId = some allocation := by
  unfold VirtualHostMemory.allocation
  cases h : memory.state.allocations.get? allocationId <;> simp

/-- The part of the checks that says what an access may reach: the target is live, fits the
class of the transaction and contains the accessed bytes. Neither its owner nor a grant is
looked at. -/
theorem checkAccess_eq_ok {fabric : PcieFabric φ} {attribution : AccessAttribution}
    {pageIndex : Nat}
    (h : checkAccess memory fabric request = .ok (target, attribution, pageIndex)) :
    memory.state.allocations.get? request.allocationId = some target ∧
      validateAccessShape target request = .ok () ∧
      request.allocationOffsetBytes + request.transferBytes ≤ target.lengthBytes := by
  replace h := of_check h
  replace h := of_check h
  obtain ⟨found, hfound, h⟩ := of_bind h
  obtain ⟨_, hshape, h⟩ := of_bind h
  obtain ⟨accessEnd, hend, h⟩ := of_bind h
  obtain ⟨_, hbound, h⟩ := of_bind h
  obtain ⟨_, -, h⟩ := of_bind h
  replace h := of_check h
  obtain ⟨_, -, h⟩ := of_bind h
  replace h := of_check h
  obtain ⟨_, -, h⟩ := of_bind h
  obtain ⟨_, -, h⟩ := of_bind h
  replace h := of_check h
  cases h
  have hsum := checkedAdd_eq_ok hend
  have hle : accessEnd ≤ target.lengthBytes := by simpa [require_eq_ok] using hbound
  exact ⟨VirtualHostMemory.allocation_eq_ok.mp hfound, hshape, hsum ▸ hle⟩

theorem VirtualHostMemory.scheduleAccess_eq_ok {service : PcieService φ}
    {fabric fabric' : PcieFabric φ} {result : HostMemoryAccessResult}
    (h : memory.scheduleAccess service fabric request = .ok (result, fabric')) :
    ∃ target, memory.state.allocations.get? request.allocationId = some target ∧
      validateAccessShape target request = .ok () ∧
      request.allocationOffsetBytes + request.transferBytes ≤ target.lengthBytes ∧
      result.record.allocationId = target.allocationId ∧
      result.record.objectKind = target.objectKind ∧
      result.record.clientToken = request.clientToken := by
  obtain ⟨⟨target, attribution, pageIndex⟩, hcheck, h⟩ := of_bind h
  obtain ⟨translation, _, h⟩ := of_bind h
  obtain ⟨⟨access, last⟩, _, h⟩ := of_bind h
  cases h
  obtain ⟨hlive, hshape, hbound⟩ := checkAccess_eq_ok hcheck
  exact ⟨target, hlive, hshape, hbound, rfl, rfl, rfl⟩

theorem validateAccessShape_dataRegion (h : validateAccessShape target request = .ok ())
    (hkind : target.objectKind = .dataRegion) :
    (request.serviceClass = .payloadRead ∨ request.serviceClass = .payloadWrite) ∧
      request.mkey = target.mkey := by
  unfold validateAccessShape at h
  rw [hkind] at h
  have hshape := require_eq_ok.mp h
  simp only [Bool.and_eq_true, Bool.or_eq_true, beq_iff_eq] at hshape
  obtain ⟨hclass, hmkey⟩ := hshape
  refine ⟨?_, hmkey⟩
  rcases hclass with hread | hwrite
  · exact .inl hread.1.1
  · exact .inr hwrite.1.1

theorem validateAccessShape_payloadRead (h : validateAccessShape target request = .ok ())
    (hclass : request.serviceClass = .payloadRead) : target.objectKind = .dataRegion := by
  unfold validateAccessShape at h
  cases hkind : target.objectKind with
  | dataRegion => rfl
  | descriptorQueue => rw [hkind] at h; cases h
  | qpcIcm | sqRing | rqRing | cqRing | doorbellRecord =>
    rw [hkind] at h
    have hshape := require_eq_ok.mp h
    simp [hclass] at hshape

end SimLLM.Rnic
