import SimLLM.KvMoves

namespace SimLLM

open List PoolState

structure PoolFacts (pool : PoolState) : Prop where
  blocks : BlocksFacts pool.spec pool.blocks
  reservations : pool.reservations.keys.Nodup
  stored : pool.blocks.length + pool.evictedBlocks + pool.freedBlocks = pool.allocatedBlocks
  refs : references pool.blocks + pool.releasedReferences =
    pool.allocatedBlocks + pool.touchedBlocks + pool.retainedBlocks

def PoolState.reservedBlocks (pool : PoolState) : Nat := pool.reservations.values.sum

theorem PoolState.reservedBlocks_eq (pool : PoolState) :
    pool.reservedBlocks = pool.reservations.total fun count => count := by
  simp [reservedBlocks, Table.total]

def unreservedDemand (pool : PoolState) (work : KvCacheWork) : Nat :=
  match work.action with
  | .allocate =>
    if (work.requestId.bind (pool.reservations.get? ·)).isSome then 0 else work.blockIds.length
  | .touch => work.blockIds.length
  | _ => 0

structure HandlerFacts (pool : PoolState) (work : KvCacheWork) (after : PoolState) : Prop where
  facts : PoolFacts after
  spec : after.spec = pool.spec
  peak : after.peakLiveBlocks = pool.peakLiveBlocks
  occupied : after.liveBlocks + after.reservedBlocks ≤
      pool.liveBlocks + pool.reservedBlocks + unreservedDemand pool work ∨
    after.liveBlocks + after.reservedBlocks ≤ pool.spec.capacityBlocks

section Handlers

variable {pool after : PoolState} {work : KvCacheWork} (tokens : Option Nat)

theorem requireBlocks_eq_ok {blockIds : List String} (h : requireBlocks work = .ok blockIds) :
    blockIds = work.blockIds ∧ blockIds.Nodup ∧ blockIds ≠ [] := by
  obtain ⟨_, hne, h⟩ := of_bind h
  obtain ⟨_, hnodup, h⟩ := of_bind h
  cases h
  exact ⟨rfl, by simpa using hnodup, by simpa using hne⟩

variable {requestId : String}

theorem requireRequest_eq_ok (h : requireRequest work = .ok requestId) :
    work.requestId = some requestId := by
  unfold requireRequest at h
  split at h
  next found hfound =>
    cases h
    exact hfound
  next => cases h

theorem HandlerFacts.of_moves {before middle : PoolState} {s e t d r : Nat} (facts : PoolFacts pool)
    (hbefore : before = { pool with reservations := before.reservations })
    (hnodup : before.reservations.keys.Nodup) (hmoves : PoolMoves before middle s e t d r)
    (hreserved : before.reservedBlocks + r ≤ pool.reservedBlocks + unreservedDemand pool work)
    (hkept : (after.spec, after.blocks, after.reservations, after.peakLiveBlocks,
      after.freedBlocks) = (middle.spec, middle.blocks, middle.reservations,
        middle.peakLiveBlocks, middle.freedBlocks))
    (hallocated : after.allocatedBlocks = middle.allocatedBlocks + s)
    (hevicted : after.evictedBlocks = middle.evictedBlocks + e)
    (hreleased : after.releasedReferences = middle.releasedReferences + d)
    (htaken : after.touchedBlocks + after.retainedBlocks + s =
      middle.touchedBlocks + middle.retainedBlocks + t) : HandlerFacts pool work after := by
  simp only [Prod.mk.injEq] at hkept
  obtain ⟨hspec, hblocks, hreservations, hpeak, hfreed⟩ := hkept
  have hlength := hmoves.length
  have hrefs := hmoves.refs
  have hlive := hmoves.live
  have hmoved := hmoves.facts
  have hstored := facts.stored
  have hbalance := facts.refs
  rw [hmoves.rest] at hspec hreservations hpeak hallocated hevicted hreleased htaken
  rw [hbefore] at hspec hpeak hallocated hevicted hreleased htaken hlength hrefs hlive hmoved
  dsimp only at hspec hreservations hpeak hallocated hevicted hreleased htaken
  dsimp only at hlength hrefs hlive hmoved
  refine ⟨⟨?_, ?_, ?_, ?_⟩, hspec, hpeak, .inl ?_⟩
  · rw [hblocks, hspec]
    exact hmoved
  · rw [hreservations]
    exact hnodup
  · rw [hblocks]
    omega
  · rw [hblocks]
    omega
  · rw [liveBlocks_eq, liveBlocks_eq, hblocks, reservedBlocks,
      hreservations]
    unfold reservedBlocks at hreserved ⊢
    omega

theorem HandlerFacts.unchanged (facts : PoolFacts pool)
    (hkept : (after.spec, after.blocks, after.reservations, after.peakLiveBlocks,
      after.freedBlocks) = (pool.spec, pool.blocks, pool.reservations, pool.peakLiveBlocks,
        pool.freedBlocks)) (hallocated : after.allocatedBlocks = pool.allocatedBlocks)
    (hevicted : after.evictedBlocks = pool.evictedBlocks)
    (hreleased : after.releasedReferences = pool.releasedReferences)
    (htaken : after.touchedBlocks + after.retainedBlocks =
      pool.touchedBlocks + pool.retainedBlocks) : HandlerFacts pool work after :=
  .of_moves facts rfl facts.reservations (.refl facts.blocks) (by omega) hkept hallocated hevicted
    hreleased htaken

theorem observeReserve_facts (facts : PoolFacts pool)
    (h : observeReserve pool work tokens = .ok after) : HandlerFacts pool work after := by
  cases tokens with
  | none =>
    obtain ⟨_, -, h⟩ := of_bind h
    replace h := of_check h
    cases h
  | some count =>
    obtain ⟨requestId, -, h⟩ := of_bind h
    replace h := of_check h
    obtain ⟨_, hfits, h⟩ := of_bind h
    cases h
    have hfits : blocksFor pool.spec count + pool.reservedBlocks ≤
        pool.spec.capacityBlocks - pool.liveBlocks := by
      simpa [reservedBlocks] using hfits
    have htotal := Table.total_add_to pool.reservations requestId (blocksFor pool.spec count)
    refine ⟨⟨facts.blocks, Table.set_keys_nodup facts.reservations _ _, facts.stored, facts.refs⟩,
      rfl, rfl, ?_⟩
    rw [reservedBlocks_eq] at hfits ⊢
    rw [reservedBlocks_eq]
    show pool.liveBlocks + Table.total _ (pool.reservations.set requestId _) ≤ _ ∨
      pool.liveBlocks + Table.total _ (pool.reservations.set requestId _) ≤ _
    by_cases hzero : blocksFor pool.spec count = 0
    · left
      omega
    · right
      omega

theorem consumeReservation_facts {count : Nat} (hnodup : pool.reservations.keys.Nodup)
    (h : consumeReservation pool requestId count = .ok after) :
    after = { pool with reservations := after.reservations } ∧
      after.reservations.keys.Nodup ∧ after.reservedBlocks +
        (if (pool.reservations.get? requestId).isSome then count else 0) = pool.reservedBlocks := by
  unfold consumeReservation at h
  cases hheld : pool.reservations.get? requestId with
  | none =>
    simp only [hheld] at h
    cases h
    exact ⟨rfl, hnodup, rfl⟩
  | some outstanding =>
    simp only [hheld] at h
    obtain ⟨_, hle, h⟩ := of_bind h
    have hle : count ≤ outstanding := by simpa using hle
    cases h
    rw [reservedBlocks_eq, reservedBlocks_eq]
    dsimp only
    rw [Option.isSome_some, if_pos rfl]
    by_cases hlast : outstanding - count = 0
    · have htotal := Table.total_erase (fun count => count) hnodup hheld
      rw [if_pos hlast]
      exact ⟨rfl, Table.erase_keys_nodup hnodup requestId, by omega⟩
    · have htotal := Table.total_set_old (fun count => count) (outstanding - count) hheld
      rw [if_neg hlast]
      exact ⟨rfl, Table.set_keys_nodup hnodup _ _, by omega⟩

theorem namedBlocks_facts {action : String} {blockIds : List String}
    {named : List (String × KvBlock)} (h : (blockIds.mapM fun blockId => do
      let (block, _) ← requireOwned pool blockId requestId action
      .ok (blockId, block)) = .ok named) : named.map Prod.fst = blockIds ∧
      ∀ entry ∈ named, pool.blocks.get? entry.1 = some entry.2 := by
  have hall : List.Forall₂ (fun blockId entry => entry.1 = blockId ∧
      pool.blocks.get? entry.1 = some entry.2) blockIds named := by
    refine (mapM_eq_ok.mp h).imp fun blockId entry hentry => ?_
    obtain ⟨⟨block, held⟩, howned, hentry⟩ := of_bind hentry
    cases hentry
    exact ⟨rfl, (requireOwned_eq_ok howned).1⟩
  refine ⟨?_, fun entry hentry => ?_⟩
  · simpa using hall.map_eq_map (f := id) (g := Prod.fst) fun blockId entry hentry => hentry.1
  · obtain ⟨blockId, -, hfound⟩ := hall.exists_left hentry
    exact hfound.2

variable (facts : PoolFacts pool)

include facts

theorem observeAllocate_eq_ok (h : observeAllocate pool work tokens = .ok after) :
    ∃ requestId reserved stored, work.requestId = some requestId ∧
      consumeReservation pool requestId work.blockIds.length = .ok reserved ∧
      PoolMoves reserved stored work.blockIds.length 0 work.blockIds.length 0
        work.blockIds.length ∧
      stored.freedBlocks = reserved.freedBlocks ∧
      after = { stored with
        allocatedBlocks := stored.allocatedBlocks + work.blockIds.length } := by
  obtain ⟨requestId, hrequest, h⟩ := of_bind h
  obtain ⟨blockIds, hids, h⟩ := of_bind h
  obtain ⟨rfl, hnodup, -⟩ := requireBlocks_eq_ok hids
  obtain ⟨_, hfree, h⟩ := of_bind h
  obtain ⟨reserved, hreserved, h⟩ := of_bind h
  obtain ⟨hrest, -, -⟩ := consumeReservation_facts facts.reservations hreserved
  have hspec : reserved.spec = pool.spec := by rw [hrest]
  have hblocks : reserved.blocks = pool.blocks := by rw [hrest]
  -- a stored block is never free, so the named ones are not stored at all
  have habsent : ∀ blockId ∈ work.blockIds, reserved.blocks.get? blockId = none := by
    intro blockId hmem
    rw [hblocks]
    have hstate := forM_eq_ok.mp hfree blockId hmem
    cases hblock : pool.blocks.get? blockId with
    | none => rfl
    | some block =>
      simp only [hblock, require_eq_ok, beq_iff_eq] at hstate
      exact absurd hstate (facts.blocks.of_get? hblock).state_ne_free
  have hpositive := reserved.spec.blockTokens_pos
  have hfresh : BlockFacts reserved.spec
    { tier := reserved.spec.tier, owners := [(requestId, 1)] } := by
    refine ⟨by simp [Table.keys], by simp [Table.values], by simp, ?_, ?_⟩
    · simp only [Bool.false_eq_true, false_iff]
      omega
    · left
      show 0 < 1 + 0
      omega
  have hmoves := storeBlocks_moves (by rw [hspec, hblocks]; exact facts.blocks) hfresh rfl hnodup
    habsent
  exact ⟨requestId, reserved, _, requireRequest_eq_ok hrequest, hreserved, hmoves,
    storeBlocks_freed _ _ _, (Except.ok.inj h).symm⟩

theorem observeAllocate_facts (haction : work.action = .allocate)
    (h : observeAllocate pool work tokens = .ok after) : HandlerFacts pool work after := by
  obtain ⟨requestId, reserved, stored, hrequest, hreserved, hmoves, -, rfl⟩ :=
    observeAllocate_eq_ok tokens facts h
  obtain ⟨hrest, hnodup, hbalance⟩ := consumeReservation_facts facts.reservations hreserved
  refine HandlerFacts.of_moves facts hrest hnodup hmoves ?_ rfl rfl rfl rfl rfl
  unfold unreservedDemand
  rw [haction, hrequest]
  dsimp only [Option.bind_some]
  split at hbalance
  next hheld =>
    omega
  next hheld =>
    rw [if_neg hheld]
    omega

theorem observeBindPrefix_facts
    (h : observeBindPrefix pool work tokens = .ok after) : HandlerFacts pool work after := by
  obtain ⟨_, -, h⟩ := of_bind h
  obtain ⟨_, -, h⟩ := of_bind h
  replace h := of_check h
  cases h
  exact .unchanged facts rfl rfl rfl rfl rfl

theorem observeTouch_facts (haction : work.action = .touch)
    (h : observeTouch pool work tokens = .ok after) : HandlerFacts pool work after := by
  obtain ⟨requestId, -, h⟩ := of_bind h
  obtain ⟨blockIds, hids, h⟩ := of_bind h
  obtain ⟨hids, -, -⟩ := requireBlocks_eq_ok hids
  obtain ⟨touched, htouched, h⟩ := of_bind h
  have hmoves := acquireBlocks_moves (.inr (le_refl 1)) facts.blocks htouched
  cases h
  refine HandlerFacts.of_moves facts rfl facts.reservations hmoves ?_ rfl rfl rfl rfl ?_
  · unfold unreservedDemand
    rw [haction, hids]
    dsimp only
    omega
  · dsimp only
    omega

theorem observeRetain_facts
    (h : observeRetain pool work tokens = .ok after) : HandlerFacts pool work after := by
  obtain ⟨requestId, -, h⟩ := of_bind h
  obtain ⟨blockIds, -, h⟩ := of_bind h
  obtain ⟨retained, hretained, h⟩ := of_bind h
  have hmoves := acquireBlocks_moves (r := 0) (.inl rfl) facts.blocks hretained
  cases h
  refine HandlerFacts.of_moves facts rfl facts.reservations hmoves (by omega) rfl rfl rfl rfl ?_
  dsimp only
  omega

theorem observeRelease_facts
    (h : observeRelease pool work tokens = .ok after) : HandlerFacts pool work after := by
  obtain ⟨requestId, -, h⟩ := of_bind h
  obtain ⟨blockIds, -, h⟩ := of_bind h
  obtain ⟨released, hreleased, h⟩ := of_bind h
  have hmoves := PoolMoves.foldlM releaseBlock_moves facts.blocks hreleased
  cases h
  refine HandlerFacts.of_moves facts rfl facts.reservations hmoves (by omega) rfl rfl rfl ?_ rfl
  dsimp only
  omega

theorem observeEvict_facts
    (h : observeEvict pool work tokens = .ok after) : HandlerFacts pool work after := by
  obtain ⟨blockIds, -, h⟩ := of_bind h
  split at h
  next => cases h
  next =>
    obtain ⟨evicted, hevicted, h⟩ := of_bind h
    have hmoves := PoolMoves.foldlM (s := 0) (e := 1) (t := 0) (d := 0) (r := 0)
      (fun {pool next blockId} facts hstep => by
        obtain ⟨_, hstate, hstep⟩ := of_bind hstep
        cases hstep
        exact evictStep_moves facts (by simpa using hstate)) facts.blocks hevicted
    cases h
    refine HandlerFacts.of_moves facts rfl facts.reservations hmoves (by omega) rfl rfl ?_ rfl rfl
    dsimp only
    omega

theorem observeFree_facts (h : observeFree pool work tokens = .ok after) :
    HandlerFacts pool work after := by
  obtain ⟨blockIds, -, h⟩ := of_bind h
  have hmoves := PoolMoves.foldlM (s := 0) (e := 0) (t := 0) (d := 0) (r := 0)
    (fun {pool next blockId} facts hstep => by
      split at hstep
      next =>
        cases hstep
        exact .refl facts
      next block hblock =>
        obtain ⟨_, hzero, hstep⟩ := of_bind hstep
        cases hstep
        exact PoolMoves.remove facts hblock 1 0 (by simpa using hzero) rfl) facts.blocks h
  exact HandlerFacts.of_moves facts rfl facts.reservations hmoves (by omega) rfl (by omega)
    (by omega) (by omega) (by omega)

theorem observeSwap_facts (h : observeSwap pool work tokens = .ok after) :
    HandlerFacts pool work after := by
  obtain ⟨blockIds, -, h⟩ := of_bind h
  split at h
  next => cases h
  next =>
    obtain ⟨swapped, hswapped, h⟩ := of_bind h
    have hmoves := PoolMoves.foldlM (s := 0) (e := 0) (t := 0) (d := 0) (r := 0)
      (fun {pool next blockId} facts hstep => by
        split at hstep
        next => cases hstep
        next block hblock =>
          replace hstep := of_check hstep
          cases hstep
          have hfacts := facts.of_get? hblock
          exact PoolMoves.replace facts hblock ⟨hfacts.owners_nodup, hfacts.owners_pos,
            hfacts.filled_le, hfacts.content_iff, hfacts.kept⟩ rfl le_rfl) facts.blocks hswapped
    cases h
    exact HandlerFacts.of_moves facts rfl facts.reservations hmoves (by omega) rfl rfl rfl rfl rfl

theorem observeTraffic_facts
    (h : observeTraffic pool work tokens = .ok after) : HandlerFacts pool work after := by
  obtain ⟨requestId, -, h⟩ := of_bind h
  obtain ⟨blockIds, hids, h⟩ := of_bind h
  obtain ⟨-, hnodup, -⟩ := requireBlocks_eq_ok hids
  obtain ⟨named, hnamed, h⟩ := of_bind h
  obtain ⟨hkeys, hstored⟩ := namedBlocks_facts hnamed
  obtain ⟨moved, -, h⟩ := of_bind h
  split at h
  next =>
    obtain ⟨filled, hfill, h⟩ := of_bind h
    cases h
    unfold fillBlocks at hfill
    cases hfold : named.foldl (fillBlock pool.spec) (pool.blocks, moved) with
    | mk blocks remaining =>
      rw [hfold] at hfill
      dsimp only at hfill
      split at hfill
      next =>
        cases hfill
        have hmoves := fillBlocks_moves (hkeys ▸ hnodup) facts.blocks hstored hfold
        exact HandlerFacts.of_moves facts rfl facts.reservations hmoves (by omega) rfl rfl rfl rfl
          rfl
      next => cases hfill
  next =>
    replace h := of_check h
    cases h
    exact .unchanged facts rfl rfl rfl rfl rfl
  next =>
    cases h
    exact .unchanged facts rfl rfl rfl rfl rfl

theorem observeRecompute_facts
    (h : observeRecompute pool work tokens = .ok after) : HandlerFacts pool work after := by
  obtain ⟨_, -, h⟩ := of_bind h
  cases tokens with
  | none => cases h
  | some count =>
    replace h := of_check h
    cases h
    exact .unchanged facts rfl rfl rfl rfl rfl

theorem kvHandler_facts
    (h : kvHandler work.action pool work tokens = .ok after) : HandlerFacts pool work after := by
  cases haction : work.action <;> rw [haction] at h
  case reserve => exact observeReserve_facts tokens facts h
  case allocate => exact observeAllocate_facts tokens facts haction h
  case bindPrefix => exact observeBindPrefix_facts tokens facts h
  case touch => exact observeTouch_facts tokens facts haction h
  case read => exact observeTraffic_facts tokens facts h
  case write => exact observeTraffic_facts tokens facts h
  case retain => exact observeRetain_facts tokens facts h
  case release => exact observeRelease_facts tokens facts h
  case evict => exact observeEvict_facts tokens facts h
  case free => exact observeFree_facts tokens facts h
  case swap => exact observeSwap_facts tokens facts h
  case transfer => exact observeTraffic_facts tokens facts h
  case recompute => exact observeRecompute_facts tokens facts h

end Handlers

def KvLifecycleLedger.ofSpecs (specs : List KvPoolSpec) : Except PyError KvLifecycleLedger := do
  let pools ← specs.foldlM (fun (pools : Dict PoolState) spec => do
    require (pools.get? spec.poolId).isNone (valueError "duplicate KV pool {}" [spec.poolId])
    .ok (pools.set spec.poolId { spec := spec })) []
  require (!pools.isEmpty) (valueError "a KV ledger requires at least one pool")
  .ok ⟨pools⟩

inductive KvRun (specs : List KvPoolSpec) : List KvLifecycleLedger → KvLifecycleLedger → Prop
  | start {ledger : KvLifecycleLedger} (h : KvLifecycleLedger.ofSpecs specs = .ok ledger) :
      KvRun specs [ledger] ledger
  | observe {history : List KvLifecycleLedger} {ledger next : KvLifecycleLedger}
      {demand : KvServiceDemand} (operationId : String) (work : KvCacheWork)
      (run : KvRun specs history ledger)
      (h : ledger.observe operationId work = .ok (next, demand)) :
      KvRun specs (history ++ [next]) next

def liveHistory (history : List KvLifecycleLedger) (poolId : String) : List Nat :=
  history.filterMap fun ledger => (ledger.pools.get? poolId).map liveBlocks

structure PoolHistory (history : List KvLifecycleLedger) (poolId : String) (pool : PoolState) :
    Prop extends PoolFacts pool where
  fits : pool.liveBlocks + pool.reclaimableBlocks ≤ pool.spec.capacityBlocks
  current : pool.liveBlocks ∈ liveHistory history poolId
  peak_le : ∀ count ∈ liveHistory history poolId, count ≤ pool.peakLiveBlocks
  peak_mem : pool.peakLiveBlocks ∈ liveHistory history poolId

section Run

variable {specs : List KvPoolSpec} {history : List KvLifecycleLedger}
  {ledger next : KvLifecycleLedger} {poolId operationId : String} {pool after : PoolState}
  {work : KvCacheWork} {demand : KvServiceDemand}

theorem ofSpecs_empty (h : KvLifecycleLedger.ofSpecs specs = .ok ledger)
    (hpool : ledger.pools.get? poolId = some pool) : ∃ spec, pool = { spec := spec } := by
  obtain ⟨pools, hpools, h⟩ := of_bind h
  replace h := of_check h
  cases h
  have hall : ∀ id found, Table.get? pools id = some found →
      ∃ spec : KvPoolSpec, found = { spec := spec } := by
    refine foldlM_invariant (fun pools : Dict PoolState => ∀ id found,
      pools.get? id = some found → ∃ spec : KvPoolSpec, found = { spec := spec }) hpools
      (by simp) ?_
    intro acc next spec _ inv hstep
    replace hstep := of_check hstep
    cases hstep
    exact Table.forall_set ⟨spec, rfl⟩ inv
  exact hall poolId pool hpool

theorem PoolFacts.empty (spec : KvPoolSpec) : PoolFacts { spec := spec } :=
  ⟨⟨by simp [Table.keys], by simp [Table.values]⟩, by simp [Table.keys], rfl, rfl⟩

theorem observePool_eq_ok (h : observePool pool operationId work = .ok (after, demand)) :
    ∃ tokens handled, kvHandler work.action pool work tokens = .ok handled ∧
      handled.liveBlocks + handled.reclaimableBlocks ≤ handled.spec.capacityBlocks ∧
      after = { handled with
        peakLiveBlocks := max handled.peakLiveBlocks handled.liveBlocks } := by
  obtain ⟨tokens, -, h⟩ := of_bind h
  replace h := of_check h
  obtain ⟨handled, hhandled, h⟩ := of_bind h
  replace h := of_check h
  obtain ⟨_, hfits, h⟩ := of_bind h
  cases h
  exact ⟨tokens, handled, hhandled, by simpa [checkConservation] using hfits, rfl⟩

theorem observe_eq_ok (h : ledger.observe operationId work = .ok (next, demand)) :
    ∃ pool after, ledger.pools.get? work.poolId = some pool ∧
      observePool pool operationId work = .ok (after, demand) ∧
      next = ⟨ledger.pools.set work.poolId after⟩ := by
  unfold KvLifecycleLedger.observe at h
  split at h
  next => cases h
  next pool hpool =>
    obtain ⟨⟨after, demand'⟩, hafter, h⟩ := of_bind h
    cases h
    exact ⟨pool, after, hpool, hafter, rfl⟩

theorem liveHistory_append (hpool : next.pools.get? poolId = some pool) :
    liveHistory (history ++ [next]) poolId = liveHistory history poolId ++ [pool.liveBlocks] := by
  simp [liveHistory, hpool]

theorem PoolHistory.idle (h : PoolHistory history poolId pool)
    (hpool : next.pools.get? poolId = some pool) : PoolHistory (history ++ [next]) poolId pool := by
  refine ⟨h.toPoolFacts, h.fits, ?_, ?_, ?_⟩
  all_goals rw [liveHistory_append hpool]
  · exact mem_append_left _ h.current
  · exact forall_mem_concat h.peak_le (h.peak_le _ h.current)
  · exact mem_append_left _ h.peak_mem

theorem PoolHistory.observed (h : PoolHistory history poolId pool)
    (hstep : observePool pool operationId work = .ok (after, demand))
    (hpool : next.pools.get? poolId = some after) :
    PoolHistory (history ++ [next]) poolId after := by
  obtain ⟨tokens, handled, hhandled, hfits, rfl⟩ := observePool_eq_ok hstep
  obtain ⟨hfacts, -, hpeak, -⟩ := kvHandler_facts tokens h.toPoolFacts hhandled
  have hlive : liveHistory (history ++ [next]) poolId = liveHistory history poolId ++ _ :=
    liveHistory_append hpool
  refine ⟨⟨hfacts.blocks, hfacts.reservations, hfacts.stored, hfacts.refs⟩, hfits, ?_, ?_, ?_⟩
  all_goals rw [hlive]
  · exact mem_append_right _ (mem_singleton_self _)
  · refine forall_mem_concat (fun count hcount => ?_) (le_max_right _ _)
    have hle := h.peak_le count hcount
    show count ≤ max handled.peakLiveBlocks handled.liveBlocks
    omega
  · rw [hpeak]
    rcases le_total handled.liveBlocks pool.peakLiveBlocks with hle | hle
    · rw [max_eq_left hle]
      exact mem_append_left _ h.peak_mem
    · rw [max_eq_right hle]
      exact mem_append_right _ (mem_singleton_self _)

theorem KvRun.pools (run : KvRun specs history ledger) :
    ∀ poolId pool, ledger.pools.get? poolId = some pool → PoolHistory history poolId pool := by
  induction run with
  | @start ledger h =>
    intro poolId pool hpool
    obtain ⟨spec, rfl⟩ := ofSpecs_empty h hpool
    have hlive : liveHistory [ledger] poolId = [0] := by
      rw [liveHistory, filterMap_cons, hpool]
      rfl
    refine ⟨PoolFacts.empty spec, Nat.zero_le _, ?_, ?_, ?_⟩
    all_goals rw [hlive]
    · exact mem_singleton_self 0
    · exact forall_mem_singleton.mpr le_rfl
    · exact mem_singleton_self 0
  | @observe history ledger next demand operationId work _ h ih =>
    intro poolId pool hpool
    obtain ⟨observed, after, hobserved, hafter, rfl⟩ := observe_eq_ok h
    rcases Table.of_get?_set hpool with ⟨rfl, rfl⟩ | ⟨-, hbefore⟩
    · exact (ih work.poolId observed hobserved).observed hafter hpool
    · exact (ih poolId pool hbefore).idle hpool

/-- Over every run of accepted observations the ledger of every pool conserves its blocks and
references, stores no free block and records the highest live count. -/
theorem kv_ledger_conserves (run : KvRun specs history ledger)
    (hpool : ledger.pools.get? poolId = some pool) :
    (pool.liveBlocks + pool.reclaimableBlocks : Int) =
        pool.allocatedBlocks - pool.evictedBlocks - pool.freedBlocks ∧
      pool.liveBlocks + pool.reclaimableBlocks ≤ pool.spec.capacityBlocks ∧
      ((pool.blocks.values.map KvBlock.refCount).sum : Int) = pool.allocatedBlocks +
        pool.touchedBlocks + pool.retainedBlocks - pool.releasedReferences ∧
      (∀ block ∈ pool.blocks.values, block.state ≠ .free ∧
        block.filledTokens ≤ pool.spec.blockTokens ∧
        (block.content = true ↔ block.filledTokens = pool.spec.blockTokens)) ∧
      pool.peakLiveBlocks ∈ liveHistory history poolId ∧
      ∀ count ∈ liveHistory history poolId, count ≤ pool.peakLiveBlocks := by
  have h := run.pools poolId pool hpool
  have hcount := h.blocks.live_add_reclaimable
  have hstored := h.stored
  have hrefs : (pool.blocks.values.map KvBlock.refCount).sum + pool.releasedReferences =
    pool.allocatedBlocks + pool.touchedBlocks + pool.retainedBlocks := h.refs
  refine ⟨by omega, h.fits, by omega, fun block hblock => ?_, h.peak_mem, h.peak_le⟩
  have hfacts := h.blocks.each block hblock
  exact ⟨hfacts.state_ne_free, hfacts.filled_le, hfacts.content_iff⟩

end Run

theorem KvRun.consume {specs : List KvPoolSpec} {history : List KvLifecycleLedger}
    {ledger final : KvLifecycleLedger} {operations : List (String × KvCacheWork)}
    {demands : List KvServiceDemand} (run : KvRun specs history ledger)
    (h : ledger.consume operations = .ok (final, demands)) :
    ∃ rest, KvRun specs (history ++ rest) final := by
  refine foldlM_invariant (fun acc : KvLifecycleLedger × List KvServiceDemand =>
    ∃ rest, KvRun specs (history ++ rest) acc.1) h ⟨[], by simpa using run⟩ ?_
  rintro ⟨reached, consumed⟩ ⟨next, consumed'⟩ ⟨operationId, work⟩ - ⟨rest, hrun⟩ hstep
  obtain ⟨⟨observed, demand⟩, hobserve, hstep⟩ := of_bind hstep
  cases hstep
  refine ⟨rest ++ [next], ?_⟩
  rw [← append_assoc]
  exact hrun.observe operationId work hobserve

def twoBlockSpec : KvPoolSpec where
  poolId := "kv:0"
  blockBytes := 16
  blockTokens := 4
  capacityBlocks := 2
  blockBytes_pos := by decide
  blockTokens_pos := by decide
  capacityBlocks_pos := by decide
  tokens_divide := by decide

def sharedPrefix : List (String × KvCacheWork) := [
  ("reserve", { action := .reserve, poolId := "kv:0", requestId := some "a", tokenStart := some 0
                tokenEnd := some 4 }),
  ("allocate", { action := .allocate, poolId := "kv:0", requestId := some "a", blockIds := ["b0"] }),
  ("write", { action := .write, poolId := "kv:0", requestId := some "a", blockIds := ["b0"]
              byteCount := 16 }),
  ("release", { action := .release, poolId := "kv:0", requestId := some "a", blockIds := ["b0"] }),
  ("touch", { action := .touch, poolId := "kv:0", requestId := some "b", blockIds := ["b0"] })]

theorem sharedPrefix_conserves :
    ∃ history ledger pool, KvRun [twoBlockSpec] history ledger ∧
      ledger.pools.get? "kv:0" = some pool ∧ pool.touchedBlocks = 1 ∧
      pool.peakLiveBlocks ∈ liveHistory history "kv:0" := by
  obtain ⟨ledger, hledger⟩ : ∃ ledger, KvLifecycleLedger.ofSpecs [twoBlockSpec] = .ok ledger :=
    ⟨_, rfl⟩
  obtain ⟨⟨final, demands⟩, hconsume⟩ : ∃ answer, ledger.consume sharedPrefix = .ok answer := by
    cases hledger
    exact exists_of_isOk (by decide)
  obtain ⟨rest, hrun⟩ := (KvRun.start hledger).consume hconsume
  obtain ⟨pool, hpool, htouched⟩ : ∃ pool, final.pools.get? "kv:0" = some pool ∧
      pool.touchedBlocks = 1 := by
    cases hledger
    cases hconsume
    exact ⟨_, rfl, rfl⟩
  exact ⟨_, final, pool, hrun, hpool, htouched, (kv_ledger_conserves hrun hpool).2.2.2.2.1⟩

end SimLLM
