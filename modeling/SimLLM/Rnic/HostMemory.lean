import SimLLM.Rnic.PcieFabric

namespace SimLLM.Rnic

inductive HostMemoryObjectKind where
  | qpcIcm | sqRing | rqRing | cqRing | doorbellRecord | dataRegion | descriptorQueue
  deriving DecidableEq, Repr

inductive HostMemoryOwnerKind where
  | queuePair | sendQueue | receiveQueue | completionQueue | memoryRegion | submissionProducer
  deriving DecidableEq, Repr

inductive HostMemoryTranslationStage where
  | queuePageList | mkey | mpt | mtt
  deriving DecidableEq, Repr

structure VirtualHostMemoryConfig where
  translationPathId : Nat := 2
  queuePageListEntryBytes : Nat := 8
  mptEntryBytes : Nat := 64
  mttEntryBytes : Nat := 8
  queuePageListFirstByteOffset : Nat := 0
  mptFirstByteOffset : Nat := 0
  mttFirstByteOffset : Nat := 0
  deriving DecidableEq, Repr

structure HostMemoryPageGeometry where
  version : Nat := 1
  pageSizeBytes : Nat := 4096
  physicalPageAddresses : List Nat := []
  deriving DecidableEq, Repr

structure HostMemoryAllocation where
  version : Nat := 1
  allocationId : Nat := 0
  deviceOwnerId : Nat := 0
  ownerKind : HostMemoryOwnerKind := .queuePair
  ownerId : Nat := 0
  objectKind : HostMemoryObjectKind := .qpcIcm
  endpoint : PcieEndpointKind := .hostPinnedMemory
  pathId : Nat := 0
  virtualAddress : Nat := 0
  lengthBytes : Nat := 0
  pages : HostMemoryPageGeometry := {}
  mkey : Option Nat := none
  deriving DecidableEq, Repr

structure HostMemoryAccessRequest where
  version : Nat := 1
  allocationId : Nat
  mkey : Option Nat := none
  clientId : Nat
  requesterEndpointId : Nat
  clientToken : Nat
  serviceClass : PcieServiceClass
  operation : PcieOperation
  requestDirection : PcieDirection
  ordering : PcieOrdering
  orderingDomain : Nat
  allocationOffsetBytes : Nat := 0
  usefulBytes : Nat
  transferBytes : Nat
  submittedAtPs : Nat
  deriving DecidableEq, Repr

structure HostMemoryAccessRecord where
  version : Nat := 2
  allocationId : Nat
  objectKind : HostMemoryObjectKind
  requesterEndpointId : Nat
  completerEndpointId : Nat
  clientId : Nat
  clientToken : Nat
  pageIndex : Nat
  translationStages : List HostMemoryTranslationStage
  translationTransactionIds : List Nat
  accessTransactionId : Nat
  submittedAtPs : Nat
  completedAtPs : Nat
  deriving DecidableEq, Repr

structure HostMemoryAccessResult where
  record : HostMemoryAccessRecord
  accessTransaction : PcieTransactionResult
  deriving DecidableEq, Repr

def isPowerOfTwo (value : Nat) : Bool := value != 0 && value &&& (value - 1) == 0

def checkedMultiply (lhs rhs : Nat) (error : CppError) : Except CppError Nat :=
  if lhs != 0 && decide (maxUint64 / lhs < rhs) then .error error else .ok (lhs * rhs)

def validEndpoint (endpoint : PcieEndpointKind) : Bool :=
  endpoint == .hostPinnedMemory || endpoint == .gpuMemory

def isRing : HostMemoryObjectKind → Bool
  | .sqRing | .rqRing | .cqRing => true
  | _ => false

def requiredOwnerKind : HostMemoryObjectKind → HostMemoryOwnerKind
  | .qpcIcm => .queuePair
  | .sqRing | .doorbellRecord => .sendQueue
  | .rqRing => .receiveQueue
  | .cqRing => .completionQueue
  | .dataRegion => .memoryRegion
  | .descriptorQueue => .submissionProducer

def validateMkey (allocation : HostMemoryAllocation) : Except CppError Unit :=
  match allocation.objectKind, allocation.mkey with
  | .dataRegion, some mkey =>
    require (mkey != 0) (invalidArgument "RNIC data allocation requires a nonzero MKey")
  | .dataRegion, none =>
    .error (invalidArgument "RNIC data allocation requires a nonzero MKey")
  | _, some _ => .error (invalidArgument "RNIC non-data allocation cannot carry an MKey")
  | _, none => .ok ()

def validatePhysicalPages (pageSizeBytes : Nat) : List Nat → List Nat → Except CppError Unit
  | _, [] => .ok ()
  | seen, address :: rest => do
    require (address % pageSizeBytes == 0 && !seen.contains address)
      (invalidArgument "RNIC host-memory physical pages must be aligned and unique")
    validatePhysicalPages pageSizeBytes (address :: seen) rest

def hostMemoryOverflow (detail : String) : CppError := overflowError ("RNIC host memory " ++ detail)

def validateAllocation (allocation : HostMemoryAllocation) : Except CppError Unit := do
  require (allocation.version == 1 && allocation.pages.version == 1)
    (invalidArgument "unsupported RNIC host-memory allocation version")
  require (allocation.allocationId != 0 && allocation.deviceOwnerId != 0 &&
      allocation.ownerId != 0 && allocation.pathId != 0 && allocation.lengthBytes != 0)
    (invalidArgument "RNIC host-memory allocation identity and extent must be positive")
  require (validEndpoint allocation.endpoint)
    (invalidArgument "RNIC host-memory allocation endpoint must be host or GPU memory")
  require (allocation.ownerKind == requiredOwnerKind allocation.objectKind)
    (invalidArgument "RNIC host-memory allocation owner kind is incompatible")
  require (!(allocation.objectKind == .qpcIcm && allocation.endpoint != .hostPinnedMemory))
    (invalidArgument "RNIC QPC ICM allocation must use host-pinned memory")
  validateMkey allocation
  require (isPowerOfTwo allocation.pages.pageSizeBytes &&
      decide (4096 ≤ allocation.pages.pageSizeBytes) &&
      !allocation.pages.physicalPageAddresses.isEmpty)
    (invalidArgument "RNIC host-memory page geometry is invalid")
  validatePhysicalPages allocation.pages.pageSizeBytes [] allocation.pages.physicalPageAddresses
  let capacity ← checkedMultiply allocation.pages.pageSizeBytes
    allocation.pages.physicalPageAddresses.length (hostMemoryOverflow "page capacity overflow")
  let covered ← checkedAdd (allocation.virtualAddress % allocation.pages.pageSizeBytes)
    allocation.lengthBytes (hostMemoryOverflow "allocation coverage overflow")
  require (decide (covered ≤ capacity))
    (invalidArgument "RNIC host-memory pages do not cover the allocation")
  let _ ← checkedAdd allocation.virtualAddress allocation.lengthBytes
    (hostMemoryOverflow "virtual-address extent overflow")

def extentsOverlap (lhs rhs : HostMemoryAllocation) : Bool :=
  lhs.endpoint == rhs.endpoint &&
    decide (lhs.virtualAddress < rhs.virtualAddress + rhs.lengthBytes) &&
    decide (rhs.virtualAddress < lhs.virtualAddress + lhs.lengthBytes)

structure Claim where
  owner : Nat
  endpointId : Nat
  deviceKind : PcieDeviceKind
  peerReadGrants : List Nat
  deriving DecidableEq, Repr

abbrev DeviceOwnerClaims := Table Nat Claim

def DeviceOwnerClaims.claimed (claims : DeviceOwnerClaims) (deviceOwnerId : Nat) : Bool :=
  (claims.get? deviceOwnerId).isSome

def DeviceOwnerClaims.claimedBy (claims : DeviceOwnerClaims) (owner deviceOwnerId : Nat) : Bool :=
  match claims.get? deviceOwnerId with
  | some claim => claim.owner == owner
  | none => false

/-- Zero stands for no endpoint, as in the source's `std::optional`. -/
def DeviceOwnerClaims.endpointId (claims : DeviceOwnerClaims) (deviceOwnerId : Nat) : Nat :=
  match claims.get? deviceOwnerId with
  | some claim => claim.endpointId
  | none => 0

def DeviceOwnerClaims.peerReadGranted (claims : DeviceOwnerClaims)
    (deviceOwnerId peerDeviceOwnerId : Nat) : Bool :=
  match claims.get? deviceOwnerId with
  | some claim => claim.peerReadGrants.contains peerDeviceOwnerId
  | none => false

def validateGrants (deviceOwnerId : Nat) : List Nat → List Nat → Except CppError Unit
  | _, [] => .ok ()
  | seen, peer :: rest => do
    require (peer != 0 && peer != deviceOwnerId) (invalidArgument
      "RNIC host-memory peer grant must name another nonzero device owner")
    require (!seen.contains peer) (invalidArgument "duplicate RNIC host-memory peer grant")
    validateGrants deviceOwnerId (peer :: seen) rest

def DeviceOwnerClaims.claim (claims : DeviceOwnerClaims) (owner deviceOwnerId endpointId : Nat)
    (deviceKind : PcieDeviceKind) (peerReadGrants : List Nat) :
    Except CppError DeviceOwnerClaims := do
  require (owner != 0 && deviceOwnerId != 0)
    (invalidArgument "RNIC host-memory owner claim requires a device and identity")
  require (deviceKind == .rnic || deviceKind == .gpu)
    (invalidArgument "only an RNIC or GPU device may claim a host-memory owner")
  validateGrants deviceOwnerId [] peerReadGrants
  require (!claims.claimed deviceOwnerId)
    (invalidArgument "RNIC host-memory device owner is already claimed")
  return claims.set deviceOwnerId ⟨owner, endpointId, deviceKind, peerReadGrants⟩

def DeviceOwnerClaims.release (claims : DeviceOwnerClaims) (owner deviceOwnerId : Nat) :
    DeviceOwnerClaims :=
  if claims.claimedBy owner deviceOwnerId then Table.erase claims deviceOwnerId else claims

structure HostMemoryState where
  allocations : Table Nat HostMemoryAllocation := []
  lastOwnerEventTime : Table Nat Nat := []
  generation : Nat := 0
  nextEventSequence : Nat := 1
  deriving DecidableEq, Repr

structure VirtualHostMemory where
  config : VirtualHostMemoryConfig := {}
  state : HostMemoryState := {}
  claims : DeviceOwnerClaims := []
  deriving DecidableEq, Repr

/-- A planned batch: the state it would install and what it was planned against. `owner` is
`none` for the unclaimed interface. -/
structure RegistrationPlan where
  candidate : HostMemoryState
  baseGeneration : Nat
  owner : Option Nat
  ownerIds : List Nat
  deriving DecidableEq, Repr

namespace VirtualHostMemory

def allocation (memory : VirtualHostMemory) (allocationId : Nat) :
    Except CppError HostMemoryAllocation :=
  match memory.state.allocations.get? allocationId with
  | some allocation => .ok allocation
  | none => .error (outOfRange "unknown or torn-down RNIC host-memory allocation")

variable (memory : VirtualHostMemory)

def liveAllocationCount (deviceOwnerId : Nat) : Nat :=
  memory.state.allocations.countP fun item => item.2.deviceOwnerId == deviceOwnerId

def peerReadGranted (memory : VirtualHostMemory) (deviceOwnerId peerDeviceOwnerId : Nat) : Bool :=
  memory.claims.peerReadGranted deviceOwnerId peerDeviceOwnerId

def claimMatches (owner : Option Nat) (deviceOwnerId : Nat) : Bool :=
  match owner with
  | none => !memory.claims.claimed deviceOwnerId
  | some token => memory.claims.claimedBy token deviceOwnerId

def validateDisjoint (allocation : HostMemoryAllocation) (live : Table Nat HostMemoryAllocation) :
    Except CppError Unit :=
  (live.insertionSort fun a b => a.1 ≤ b.1).forM fun existing => do
    require (!extentsOverlap allocation existing.2)
      (invalidArgument "overlapping RNIC host-memory virtual allocations")
    require (!(allocation.endpoint == existing.2.endpoint &&
        allocation.pages.physicalPageAddresses.any
          fun page => existing.2.pages.physicalPageAddresses.contains page))
      (invalidArgument "overlapping RNIC host-memory physical pages")

def registerOne (registeredAtPs : Nat) (candidate : HostMemoryState)
    (allocation : HostMemoryAllocation) : Except CppError HostMemoryState := do
  validateAllocation allocation
  require ((candidate.lastOwnerEventTime.get? allocation.deviceOwnerId).all (· ≤ registeredAtPs))
    (logicError "RNIC host-memory owner time regressed at registration")
  require (candidate.allocations.get? allocation.allocationId).isNone
    (invalidArgument "duplicate RNIC host-memory allocation identity")
  validateDisjoint allocation candidate.allocations
  require (!(allocation.mkey.isSome && candidate.allocations.any fun item =>
      item.2.deviceOwnerId == allocation.deviceOwnerId && item.2.mkey == allocation.mkey))
    (invalidArgument "duplicate RNIC host-memory MKey for one device")
  require (candidate.nextEventSequence != maxUint64)
    (overflowError "RNIC host-memory lifecycle sequence overflow")
  return { candidate with
    allocations := candidate.allocations.set allocation.allocationId allocation
    lastOwnerEventTime := candidate.lastOwnerEventTime.set allocation.deviceOwnerId registeredAtPs
    nextEventSequence := candidate.nextEventSequence + 1 }

def planRegistrationsImpl (owner : Option Nat) (allocations : List HostMemoryAllocation)
    (registeredAtPs : Nat) :
    Except CppError RegistrationPlan := do
  require (!allocations.isEmpty)
    (invalidArgument "RNIC host-memory registration batch must not be empty")
  allocations.forM fun allocation => require (memory.claimMatches owner allocation.deviceOwnerId)
    (invalidArgument "RNIC host-memory registration does not own its device identity claim")
  let candidate ← allocations.foldlM (registerOne registeredAtPs) memory.state
  require (candidate.generation != maxUint64)
    (overflowError "RNIC host-memory generation overflow")
  return {
    candidate := { candidate with generation := candidate.generation + 1 }
    baseGeneration := memory.state.generation
    owner := owner
    ownerIds := allocations.map (·.deviceOwnerId) }

def commit (memory : VirtualHostMemory) (plan : RegistrationPlan) :
    Except CppError VirtualHostMemory := do
  require (plan.baseGeneration == memory.state.generation)
    (logicError "RNIC host-memory registration plan is stale")
  plan.ownerIds.forM fun deviceOwnerId => require (memory.claimMatches plan.owner deviceOwnerId)
    (logicError "RNIC host-memory registration claim changed before commit")
  return { memory with state := plan.candidate }

def claimDeviceOwner (owner deviceOwnerId endpointId : Nat) (deviceKind : PcieDeviceKind)
    (peerReadGrants : List Nat) :
    Except CppError VirtualHostMemory := do
  require (!memory.claims.claimed deviceOwnerId)
    (invalidArgument "RNIC host-memory device owner is already claimed")
  require (memory.liveAllocationCount deviceOwnerId == 0)
    (invalidArgument "RNIC host-memory device owner has unclaimed live allocations")
  let claims ← memory.claims.claim owner deviceOwnerId endpointId deviceKind peerReadGrants
  return { memory with claims := claims }

def releaseDeviceOwner (owner deviceOwnerId : Nat) :
    VirtualHostMemory :=
  { memory with claims := memory.claims.release owner deviceOwnerId }

def teardownOwnerImpl (deviceOwnerId teardownAtPs : Nat) :
    Except CppError VirtualHostMemory := do
  require (deviceOwnerId != 0)
    (invalidArgument "RNIC host-memory teardown owner must be nonzero")
  let lastTime := memory.state.lastOwnerEventTime.get? deviceOwnerId
  require lastTime.isSome
    (invalidArgument "RNIC host-memory teardown owner has no live allocation")
  require (lastTime.all (· ≤ teardownAtPs))
    (logicError "RNIC host-memory owner time regressed at teardown")
  let ownerCount := memory.liveAllocationCount deviceOwnerId
  require (ownerCount != 0)
    (invalidArgument "RNIC host-memory teardown owner has no live allocation")
  require (decide (ownerCount ≤ maxUint64 - memory.state.nextEventSequence))
    (overflowError "RNIC host-memory lifecycle sequence overflow")
  require (memory.state.generation != maxUint64)
    (overflowError "RNIC host-memory generation overflow")
  return { memory with state := {
    allocations := memory.state.allocations.filter (·.2.deviceOwnerId != deviceOwnerId)
    lastOwnerEventTime := memory.state.lastOwnerEventTime.set deviceOwnerId teardownAtPs
    generation := memory.state.generation + 1
    nextEventSequence := memory.state.nextEventSequence + ownerCount } }

def teardownOwner (deviceOwnerId teardownAtPs : Nat) :
    Except CppError VirtualHostMemory := do
  require (!memory.claims.claimed deviceOwnerId)
    (invalidArgument "RNIC host-memory teardown caller does not own the device claim")
  memory.teardownOwnerImpl deviceOwnerId teardownAtPs

def teardownClaimedOwner (owner deviceOwnerId teardownAtPs : Nat) :
    Except CppError VirtualHostMemory := do
  require (memory.claims.claimedBy owner deviceOwnerId)
    (invalidArgument "RNIC host-memory teardown caller does not own the device claim")
  memory.teardownOwnerImpl deviceOwnerId teardownAtPs

end VirtualHostMemory

end SimLLM.Rnic
