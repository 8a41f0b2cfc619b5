import SimLLM.PyError
import SimLLM.Table
import SimLLM.Execution

namespace SimLLM

inductive KvBlockState where
  | free | live | reclaimable
  deriving DecidableEq, Repr

def KvBlockState.value : KvBlockState → String
  | .free => "free"
  | .live => "live"
  | .reclaimable => "reclaimable"

def KvCacheAction.value : KvCacheAction → String
  | .reserve => "reserve"
  | .allocate => "allocate"
  | .bindPrefix => "bind-prefix"
  | .touch => "touch"
  | .read => "read"
  | .write => "write"
  | .retain => "retain"
  | .release => "release"
  | .evict => "evict"
  | .free => "free"
  | .swap => "swap"
  | .transfer => "transfer"
  | .recompute => "recompute"

def byteCarryingActions : List KvCacheAction := [.read, .write, .swap, .transfer]

structure KvPoolSpec where
  poolId : String
  blockBytes : Nat
  blockTokens : Nat
  capacityBlocks : Nat
  tier : String := "device"
  blockBytes_pos : 0 < blockBytes
  blockTokens_pos : 0 < blockTokens
  capacityBlocks_pos : 0 < capacityBlocks
  tokens_divide : blockBytes % blockTokens = 0

instance : DecidableEq KvPoolSpec := fun a b =>
  decidable_of_iff (a.poolId = b.poolId ∧ a.blockBytes = b.blockBytes ∧
    a.blockTokens = b.blockTokens ∧ a.capacityBlocks = b.capacityBlocks ∧ a.tier = b.tier)
    (by cases a; cases b; simp)

def KvPoolSpec.bytesPerToken (spec : KvPoolSpec) : Nat := spec.blockBytes / spec.blockTokens

structure KvServiceDemand where
  operationId : String
  poolId : String
  action : KvCacheAction
  byteCount : Nat
  tier : String
  requestId : Option String := none
  blockCount : Nat := 0
  deriving DecidableEq, Repr

structure KvBlock where
  filledTokens : Nat := 0
  content : Bool := false
  tier : String := "device"
  owners : Dict Nat := []
  deriving DecidableEq, Repr

def KvBlock.refCount (block : KvBlock) : Nat := block.owners.values.sum

def KvBlock.state (block : KvBlock) : KvBlockState :=
  if 0 < block.refCount then .live else if block.content then .reclaimable else .free

def KvBlock.acquire (block : KvBlock) (requestId : String) : KvBlock :=
  { block with owners := block.owners.set requestId ((block.owners.get? requestId).getD 0 + 1) }

structure PoolState where
  spec : KvPoolSpec
  blocks : Dict KvBlock := []
  reservations : Dict Nat := []
  peakLiveBlocks : Nat := 0
  allocatedBlocks : Nat := 0
  releasedReferences : Nat := 0
  evictedBlocks : Nat := 0
  freedBlocks : Nat := 0
  prefixHitBlocks : Nat := 0
  prefixHitTokens : Nat := 0
  touchedBlocks : Nat := 0
  retainedBlocks : Nat := 0
  readBytes : Nat := 0
  writeBytes : Nat := 0
  swapBytes : Nat := 0
  transferBytes : Nat := 0
  recomputedTokens : Nat := 0
  evictionCauses : Dict Nat := []
  deriving DecidableEq

variable (pool : PoolState)

def PoolState.liveBlocks : Nat :=
  pool.blocks.values.countP (0 < ·.refCount)

def PoolState.reclaimableBlocks : Nat :=
  pool.blocks.values.countP fun block => block.refCount == 0 && block.content

def PoolState.setBlock (blockId : String) (block : KvBlock) : PoolState :=
  { pool with blocks := pool.blocks.set blockId block }

def PoolState.dropBlock (blockId : String) : PoolState :=
  { pool with blocks := pool.blocks.erase blockId }

variable (work : KvCacheWork)

def tokenSpan : Except PyError (Option Nat) :=
  match work.tokenStart, work.tokenEnd with
  | none, none => .ok none
  | some first, some last =>
    if last ≤ first then
      .error (valueError "{} token interval must be positive" [work.action.value])
    else .ok (some (last - first))
  | _, _ => .error (valueError
      "{} declares half a token interval; supply both token_start and token_end or neither"
      [work.action.value])

def requireRequest : Except PyError String :=
  match work.requestId with
  | some requestId => .ok requestId
  | none => .error (valueError "{} requires an owning request" [work.action.value])

def requireBlocks : Except PyError (List String) := do
  require (!work.blockIds.isEmpty)
    (valueError "{} requires at least one block" [work.action.value])
  require work.blockIds.Nodup (valueError "{} names a block twice" [work.action.value])
  .ok work.blockIds

variable (tokens : Option Nat)

def checkBytes :
    Except PyError Unit :=
  if !byteCarryingActions.contains work.action then
    require (work.byteCount == 0)
      (valueError "{} is a metadata observation and must carry no bytes" [work.action.value])
  else if work.byteCount = 0 then .ok ()
  else do
    let expected := (tokens.getD 0) * pool.spec.bytesPerToken
    require (tokens.isNone || work.byteCount == expected)
      (valueError "{} of {} tokens must move {} bytes, not {}"
        [work.action.value, toString (tokens.getD 0), toString expected, toString work.byteCount])
    let ceiling := work.blockIds.length * pool.spec.blockBytes
    require (work.blockIds.isEmpty || work.byteCount ≤ ceiling)
      (valueError "{} moves {} bytes through {} blocks holding {} bytes"
        [work.action.value, toString work.byteCount, toString work.blockIds.length,
          toString ceiling])

def blocksFor (spec : KvPoolSpec) (tokens : Nat) : Nat :=
  (tokens + spec.blockTokens - 1) / spec.blockTokens

def observeReserve :
    Except PyError PoolState := do
  let requestId ← requireRequest work
  require work.blockIds.isEmpty (valueError "reserve declares a demand and names no blocks")
  match tokens with
  | none => .error (valueError "reserve requires the token interval it must cover")
  | some tokens => do
    let demand := blocksFor pool.spec tokens
    let available := pool.spec.capacityBlocks - pool.liveBlocks
    let outstanding := pool.reservations.values.sum
    require (demand + outstanding ≤ available)
      (valueError
        "request {} reserves {} blocks with {} already outstanding, above the {} the pool can supply"
        [requestId, toString demand, toString outstanding, toString available])
    .ok { pool with reservations :=
      pool.reservations.set requestId ((pool.reservations.get? requestId).getD 0 + demand) }

def consumeReservation (requestId : String) (count : Nat) :
    Except PyError PoolState :=
  match pool.reservations.get? requestId with
  | none => .ok pool
  | some outstanding => do
    require (count ≤ outstanding)
      (valueError "request {} allocates {} blocks above its outstanding reservation of {}"
        [requestId, toString count, toString outstanding])
    .ok { pool with reservations :=
      if outstanding - count = 0 then pool.reservations.erase requestId
      else pool.reservations.set requestId (outstanding - count) }

def observeAllocate (_tokens : Option Nat) :
    Except PyError PoolState := do
  let requestId ← requireRequest work
  let blockIds ← requireBlocks work
  blockIds.forM fun blockId =>
    match pool.blocks.get? blockId with
    | none => .ok ()
    | some block => require (block.state == .free)
        (valueError "allocate names block {} in state {}; a cached block needs an explicit evict"
          [blockId, block.state.value])
  let pool ← consumeReservation pool requestId blockIds.length
  let fresh : KvBlock := { tier := pool.spec.tier, owners := [(requestId, 1)] }
  let pool := blockIds.foldl (fun pool blockId => pool.setBlock blockId fresh) pool
  .ok { pool with allocatedBlocks := pool.allocatedBlocks + blockIds.length }

def observeBindPrefix :
    Except PyError PoolState := do
  let _ ← requireRequest work
  let blockIds ← requireBlocks work
  blockIds.forM fun blockId =>
    require ((pool.blocks.get? blockId).any (·.content))
      (valueError "bind-prefix names block {}, which holds no reusable content" [blockId])
  .ok { pool with
    prefixHitBlocks := pool.prefixHitBlocks + blockIds.length
    prefixHitTokens := pool.prefixHitTokens + tokens.getD 0 }

def blockStateValue (block : Option KvBlock) : String :=
  (block.map KvBlock.state |>.getD .free).value

def acquireBlocks (required : KvBlockState) (message : String) (requestId : String)
    (blockIds : List String) (pool : PoolState) : Except PyError PoolState :=
  blockIds.foldlM (fun pool blockId =>
    match pool.blocks.get? blockId with
    | none => .error (valueError message [blockId, blockStateValue none])
    | some block => do
      require (block.state == required)
        (valueError message [blockId, blockStateValue (some block)])
      .ok (pool.setBlock blockId (block.acquire requestId))) pool

def observeTouch (_tokens : Option Nat) :
    Except PyError PoolState := do
  let requestId ← requireRequest work
  let blockIds ← requireBlocks work
  let pool ← acquireBlocks .reclaimable
    ("touch names block {} in state {}; touch takes a reclaimable block out of the " ++
      "eviction candidates") requestId blockIds pool
  .ok { pool with touchedBlocks := pool.touchedBlocks + blockIds.length }

def observeRetain (_tokens : Option Nat) :
    Except PyError PoolState := do
  let requestId ← requireRequest work
  let blockIds ← requireBlocks work
  let pool ← acquireBlocks .live
    "retain names block {} in state {}; retain adds an owner to a block that is already live"
    requestId blockIds pool
  .ok { pool with retainedBlocks := pool.retainedBlocks + blockIds.length }

def requireOwned (blockId requestId action : String) :
    Except PyError (KvBlock × Nat) :=
  match pool.blocks.get? blockId with
  | none => .error (valueError "{} names block {}, which request {} does not hold"
      [action, blockId, requestId])
  | some block =>
    match block.owners.get? requestId with
    | none => .error (valueError "{} names block {}, which request {} does not hold"
        [action, blockId, requestId])
    | some held => .ok (block, held)

def movedTokens :
    Except PyError Nat :=
  match tokens with
  | some tokens => .ok tokens
  | none => do
    require (work.byteCount % pool.spec.bytesPerToken == 0)
      (valueError "{} moves {} bytes, which is not a whole number of tokens"
        [work.action.value, toString work.byteCount])
    .ok (work.byteCount / pool.spec.bytesPerToken)

def fillBlock (spec : KvPoolSpec) (acc : Dict KvBlock × Nat) (named : String × KvBlock) :
    Dict KvBlock × Nat :=
  let taken := min (spec.blockTokens - named.2.filledTokens) acc.2
  let filled := named.2.filledTokens + taken
  if acc.2 = 0 then acc
  else (acc.1.set named.1 { named.2 with
    filledTokens := filled, content := named.2.content || filled == spec.blockTokens },
    acc.2 - taken)

def fillBlocks (named : List (String × KvBlock)) (tokens : Nat) :
    Except PyError PoolState :=
  let (blocks, remaining) := named.foldl (fillBlock pool.spec) (pool.blocks, tokens)
  if remaining = 0 then .ok { pool with blocks := blocks }
  else .error (valueError "write leaves {} tokens with no slot in the blocks it names"
    [toString remaining])

def observeTraffic :
    Except PyError PoolState := do
  let requestId ← requireRequest work
  let blockIds ← requireBlocks work
  let named ← blockIds.mapM fun blockId => do
    let (block, _) ← requireOwned pool blockId requestId work.action.value
    .ok (blockId, block)
  let moved ← movedTokens pool work tokens
  match work.action with
  | .write => do
    let pool ← fillBlocks pool named moved
    .ok { pool with writeBytes := pool.writeBytes + work.byteCount }
  | .read => do
    let resident := (named.map (·.2.filledTokens)).sum
    require (moved ≤ resident)
      (valueError "read of {} tokens exceeds the {} tokens resident in the blocks it names"
        [toString moved, toString resident])
    .ok { pool with readBytes := pool.readBytes + work.byteCount }
  | _ => .ok { pool with transferBytes := pool.transferBytes + work.byteCount }

def releaseBlock (requestId : String) (pool : PoolState) (blockId : String) :
    Except PyError PoolState := do
  let (block, held) ← requireOwned pool blockId requestId "release"
  let owners :=
    if held = 1 then block.owners.erase requestId else block.owners.set requestId (held - 1)
  let released := { block with owners := owners }
  -- content that no request can reuse does not survive its last owner
  if released.refCount = 0 ∧ !released.content then
    .ok { pool.dropBlock blockId with freedBlocks := pool.freedBlocks + 1 }
  else .ok (pool.setBlock blockId released)

def observeRelease (_tokens : Option Nat) :
    Except PyError PoolState := do
  let requestId ← requireRequest work
  let blockIds ← requireBlocks work
  let pool ← blockIds.foldlM (releaseBlock requestId) pool
  .ok { pool with releasedReferences := pool.releasedReferences + blockIds.length }

def observeEvict (_tokens : Option Nat) :
    Except PyError PoolState := do
  let blockIds ← requireBlocks work
  match work.cause with
  | none => .error (valueError "evict requires a cause; reclamation is never anonymous")
  | some cause => do
    let pool ← blockIds.foldlM (fun pool blockId => do
      let block := pool.blocks.get? blockId
      require (block.map KvBlock.state == some .reclaimable)
        (valueError "evict names block {} in state {}; only a reclaimable block may be reclaimed"
          [blockId, blockStateValue block])
      .ok (PoolState.dropBlock pool blockId)) pool
    .ok { pool with
      evictedBlocks := pool.evictedBlocks + blockIds.length
      evictionCauses := pool.evictionCauses.set cause
        ((pool.evictionCauses.get? cause).getD 0 + blockIds.length) }

def observeFree (_tokens : Option Nat) :
    Except PyError PoolState := do
  let blockIds ← requireBlocks work
  blockIds.foldlM (fun pool blockId =>
    match pool.blocks.get? blockId with
    | none => .ok pool
    | some block => do
      require (block.refCount == 0)
        (valueError "free names block {} while {} owners still hold it"
          [blockId, toString block.refCount])
      .ok { PoolState.dropBlock pool blockId with freedBlocks := pool.freedBlocks + 1 }) pool

def observeSwap (_tokens : Option Nat) :
    Except PyError PoolState := do
  let blockIds ← requireBlocks work
  match work.cause with
  | none => .error (valueError "swap requires a cause naming the destination tier")
  | some cause => do
    let pool ← blockIds.foldlM (fun pool blockId =>
      match pool.blocks.get? blockId with
      | none => .error (valueError "swap names block {}, which holds nothing" [blockId])
      | some block => do
        require (block.tier != cause)
          (valueError "swap moves block {} to the tier it already occupies" [blockId])
        .ok (PoolState.setBlock pool blockId { block with tier := cause })) pool
    .ok { pool with swapBytes := pool.swapBytes + work.byteCount }

def observeRecompute :
    Except PyError PoolState := do
  let _ ← requireRequest work
  match tokens with
  | none => .error (valueError "recompute requires the token interval it replays")
  | some tokens => do
    require work.blockIds.isEmpty
      (valueError ("recompute restores tokens rather than blocks; the allocation that " ++
        "follows names the blocks"))
    .ok { pool with recomputedTokens := pool.recomputedTokens + tokens }

def kvHandler : KvCacheAction → PoolState → KvCacheWork → Option Nat → Except PyError PoolState
  | .reserve => observeReserve
  | .allocate => observeAllocate
  | .bindPrefix => observeBindPrefix
  | .touch => observeTouch
  | .retain => observeRetain
  | .read | .write | .transfer => observeTraffic
  | .release => observeRelease
  | .evict => observeEvict
  | .free => observeFree
  | .swap => observeSwap
  | .recompute => observeRecompute

def blockRefCount (blockId : String) : Nat :=
  ((pool.blocks.get? blockId).map KvBlock.refCount).getD 0

def checkReferenceCount : Except PyError Unit :=
  match work.referenceCount with
  | none => .ok ()
  | some expected => do
    require (!work.blockIds.isEmpty)
      (valueError "reference_count describes named blocks and needs at least one")
    let observed := (work.blockIds.map (blockRefCount pool)).dedup
    require (observed.length == 1)
      (valueError "reference_count is ambiguous across blocks with different counts")
    require (observed == [expected])
      (valueError "observed reference_count {} disagrees with the accounted count"
        [toString expected])

def checkConservation : Except PyError Unit :=
  let held := pool.liveBlocks + pool.reclaimableBlocks
  require (held ≤ pool.spec.capacityBlocks)
    (valueError "pool {} holds {} blocks above its capacity of {}"
      [pool.spec.poolId, toString held, toString pool.spec.capacityBlocks])

def demandTier : String :=
  ((work.blockIds.findSome? fun blockId => pool.blocks.get? blockId).map (·.tier)).getD
    pool.spec.tier

def observePool (operationId : String) (work : KvCacheWork) :
    Except PyError (PoolState × KvServiceDemand) := do
  let tokens ← tokenSpan work
  checkBytes pool work tokens
  let pool ← kvHandler work.action pool work tokens
  checkReferenceCount pool work
  checkConservation pool
  let pool := { pool with peakLiveBlocks := max pool.peakLiveBlocks pool.liveBlocks }
  .ok (pool, ⟨operationId, work.poolId, work.action, work.byteCount, demandTier pool work,
    work.requestId, work.blockIds.length⟩)

structure KvLifecycleLedger where
  pools : Dict PoolState
  deriving DecidableEq

def KvLifecycleLedger.observe (ledger : KvLifecycleLedger) (operationId : String)
    (work : KvCacheWork) : Except PyError (KvLifecycleLedger × KvServiceDemand) :=
  match ledger.pools.get? work.poolId with
  | none => .error (valueError "KV pool {} is not configured" [work.poolId])
  | some pool => do
    let (pool, demand) ← observePool pool operationId work
    .ok (⟨ledger.pools.set work.poolId pool⟩, demand)

def KvLifecycleLedger.consume (ledger : KvLifecycleLedger)
    (operations : List (String × KvCacheWork)) :
    Except PyError (KvLifecycleLedger × List KvServiceDemand) :=
  operations.foldlM (fun acc entry => do
    let (ledger, demand) ← KvLifecycleLedger.observe acc.1 entry.1 entry.2
    .ok (ledger, acc.2 ++ [demand])) (ledger, [])

structure KvPoolAccounting where
  poolId : String
  capacityBlocks : Nat
  blockBytes : Nat
  blockTokens : Nat
  liveBlocks : Nat
  reclaimableBlocks : Nat
  freeBlocks : Nat
  reservedBlocks : Nat
  peakLiveBlocks : Nat
  allocatedBlocks : Nat
  releasedReferences : Nat
  evictedBlocks : Nat
  freedBlocks : Nat
  prefixHitBlocks : Nat
  prefixHitTokens : Nat
  touchedBlocks : Nat
  retainedBlocks : Nat
  readBytes : Nat
  writeBytes : Nat
  swapBytes : Nat
  transferBytes : Nat
  recomputedTokens : Nat
  evictionCauses : List (String × Nat)
  deriving DecidableEq, Repr

def PoolState.accounting : KvPoolAccounting where
  poolId := pool.spec.poolId
  capacityBlocks := pool.spec.capacityBlocks
  blockBytes := pool.spec.blockBytes
  blockTokens := pool.spec.blockTokens
  liveBlocks := pool.liveBlocks
  reclaimableBlocks := pool.reclaimableBlocks
  freeBlocks := pool.spec.capacityBlocks - pool.liveBlocks - pool.reclaimableBlocks
  reservedBlocks := pool.reservations.values.sum
  peakLiveBlocks := pool.peakLiveBlocks
  allocatedBlocks := pool.allocatedBlocks
  releasedReferences := pool.releasedReferences
  evictedBlocks := pool.evictedBlocks
  freedBlocks := pool.freedBlocks
  prefixHitBlocks := pool.prefixHitBlocks
  prefixHitTokens := pool.prefixHitTokens
  touchedBlocks := pool.touchedBlocks
  retainedBlocks := pool.retainedBlocks
  readBytes := pool.readBytes
  writeBytes := pool.writeBytes
  swapBytes := pool.swapBytes
  transferBytes := pool.transferBytes
  recomputedTokens := pool.recomputedTokens
  evictionCauses := pool.evictionCauses.insertionSort
    fun a b => toLex (a.1, a.2) ≤ toLex (b.1, b.2)

structure KvAccountingReport where
  pools : List KvPoolAccounting
  demands : List KvServiceDemand
  deriving DecidableEq, Repr

def KvLifecycleLedger.report (ledger : KvLifecycleLedger) (demands : List KvServiceDemand) :
    KvAccountingReport :=
  ⟨ledger.pools.values.map PoolState.accounting, demands⟩

end SimLLM
