import SimLLM.KvConservation

namespace SimLLM

open List

def HasRoom (ledger : KvLifecycleLedger) (work : KvCacheWork) : Prop :=
  ∀ pool, ledger.pools.get? work.poolId = some pool → 0 < unreservedDemand pool work →
    pool.liveBlocks + pool.reservedBlocks + unreservedDemand pool work ≤ pool.spec.capacityBlocks

inductive RoomyRun (specs : List KvPoolSpec) : List KvLifecycleLedger → KvLifecycleLedger → Prop
  | start {ledger : KvLifecycleLedger} (h : KvLifecycleLedger.ofSpecs specs = .ok ledger) :
      RoomyRun specs [ledger] ledger
  | observe {history : List KvLifecycleLedger} {ledger next : KvLifecycleLedger}
      {demand : KvServiceDemand} (operationId : String) (work : KvCacheWork)
      (run : RoomyRun specs history ledger) (room : HasRoom ledger work)
      (h : ledger.observe operationId work = .ok (next, demand)) :
      RoomyRun specs (history ++ [next]) next

def reclaimableIds (pool : PoolState) : List String :=
  (pool.blocks.filter fun entry => entry.2.state == .reclaimable).map Prod.fst

def evictWork (poolId cause : String) (blockIds : List String) : KvCacheWork where
  action := .evict
  poolId := poolId
  blockIds := blockIds
  cause := some cause

def allocateWork (poolId requestId : String) (blockIds : List String) : KvCacheWork where
  action := .allocate
  poolId := poolId
  requestId := some requestId
  blockIds := blockIds

variable {specs : List KvPoolSpec} {history : List KvLifecycleLedger}
  {ledger next : KvLifecycleLedger} {poolId requestId operationId : String}
  {pool after : PoolState} {work : KvCacheWork} {blockIds : List String} {n : Nat}

theorem RoomyRun.run (h : RoomyRun specs history ledger) : KvRun specs history ledger := by
  induction h with
  | start h => exact .start h
  | observe operationId work _ _ h ih => exact ih.observe operationId work h

theorem RoomyRun.fits (h : RoomyRun specs history ledger) :
    ∀ poolId pool, ledger.pools.get? poolId = some pool →
      pool.liveBlocks + pool.reservedBlocks ≤ pool.spec.capacityBlocks := by
  induction h with
  | start h =>
    intro poolId pool hpool
    obtain ⟨spec, rfl⟩ := ofSpecs_empty h hpool
    exact Nat.zero_le _
  | @observe history ledger next demand operationId work run room h ih =>
    obtain ⟨observed, after, hobserved, hafter, rfl⟩ := observe_eq_ok h
    refine Table.forall_set ?_ ih
    obtain ⟨tokens, handled, hhandled, -, rfl⟩ := observePool_eq_ok hafter
    have hfacts := (run.run.pools work.poolId observed hobserved).toPoolFacts
    obtain ⟨-, hspec, -, hoccupied⟩ := kvHandler_facts tokens hfacts hhandled
    have hbefore := ih work.poolId observed hobserved
    have hdemand := room observed hobserved
    show handled.liveBlocks + handled.reservedBlocks ≤ handled.spec.capacityBlocks
    rw [hspec]
    by_cases hzero : unreservedDemand observed work = 0
    · omega
    · have hroom := hdemand (by omega)
      omega

theorem get?_foldl_erase (blocks : Dict KvBlock) (blockIds : List String) (other : String) :
    (blockIds.foldl Table.erase blocks).get? other =
      if other ∈ blockIds then none else blocks.get? other := by
  induction blockIds generalizing blocks with
  | nil => simp
  | cons blockId rest ih =>
    rw [foldl_cons, ih, Table.get?_erase]
    by_cases hin : other ∈ rest
    · simp [hin]
    · by_cases hsame : blockId = other
      · simp [hsame]
      · simp [hin, hsame, Ne.symm hsame]

theorem evictAll_eq (hnodup : blockIds.Nodup) (hstate : ∀ blockId ∈ blockIds,
    (pool.blocks.get? blockId).map KvBlock.state = some .reclaimable) :
    (blockIds.foldlM (fun pool blockId => do
      let block := pool.blocks.get? blockId
      require (block.map KvBlock.state == some .reclaimable)
        (valueError "evict names block {} in state {}; only a reclaimable block may be reclaimed"
          [blockId, blockStateValue block])
      .ok (PoolState.dropBlock pool blockId)) pool : Except PyError PoolState) =
      .ok { pool with blocks := blockIds.foldl Table.erase pool.blocks } := by
  induction blockIds generalizing pool with
  | nil => rfl
  | cons blockId rest ih =>
    obtain ⟨hnew, hrest⟩ := nodup_cons.mp hnodup
    have hfirst := hstate blockId (by simp)
    rw [foldlM_cons]
    simp only [hfirst, beq_self_eq_true, require, if_true, ok_bind]
    refine (ih hrest fun other hother => ?_).trans rfl
    have hne : blockId ≠ other := fun heq => hnew (heq ▸ hother)
    show ((pool.blocks.erase blockId).get? other).map KvBlock.state = _
    rw [Table.get?_erase, if_neg hne]
    exact hstate other (mem_cons_of_mem blockId hother)

theorem reservation_le (hheld : pool.reservations.get? requestId = some n) :
    n ≤ pool.reservedBlocks := by
  rw [PoolState.reservedBlocks_eq]
  exact Table.weight_le_total (fun count => count) (Table.value_mem_of_get? hheld)

theorem observe_accepted (operationId : String) (work : KvCacheWork) {tokens : Option Nat}
    {handled : PoolState} (hpool : ledger.pools.get? work.poolId = some pool)
    (htokens : tokenSpan work = .ok tokens) (hbytes : checkBytes pool work tokens = .ok ())
    (hhandled : kvHandler work.action pool work tokens = .ok handled)
    (hcount : checkReferenceCount handled work = .ok ())
    (hfits : checkConservation handled = .ok ()) :
    ∃ demand, ledger.observe operationId work = .ok (⟨ledger.pools.set work.poolId { handled with
      peakLiveBlocks := max handled.peakLiveBlocks handled.liveBlocks }⟩, demand) := by
  unfold KvLifecycleLedger.observe
  simp only [hpool, observePool, htokens, ok_bind, hbytes, hhandled, hcount, hfits]
  exact ⟨_, rfl⟩

theorem reclaimableIds_nodup (facts : PoolFacts pool) : (reclaimableIds pool).Nodup :=
  facts.blocks.nodup.sublist (filter_sublist.map Prod.fst)

theorem mem_reclaimableIds (facts : PoolFacts pool) {blockId : String} :
    blockId ∈ reclaimableIds pool ↔
      (pool.blocks.get? blockId).map KvBlock.state = some .reclaimable := by
  constructor
  · intro hmem
    obtain ⟨⟨id, block⟩, hentry, rfl⟩ := mem_map.mp hmem
    obtain ⟨hstored, hstate⟩ := mem_filter.mp hentry
    rw [Table.get?_of_mem facts.blocks.nodup hstored]
    simpa using hstate
  · intro hstate
    obtain ⟨block, hblock, hstate⟩ := Option.map_eq_some_iff.mp hstate
    refine mem_map.mpr ⟨(blockId, block), ?_, rfl⟩
    exact mem_filter.mpr ⟨Table.mem_of_get? hblock, by simpa using hstate⟩

theorem reclaimableIds_length (pool : PoolState) :
    (reclaimableIds pool).length = pool.reclaimableBlocks := by
  rw [reclaimableIds, length_map, ← countP_eq_length_filter,
    PoolState.reclaimableBlocks, Table.values, countP_map]
  refine countP_congr fun entry _ => ?_
  have hstate := @KvBlock.state_eq_reclaimable entry.2
  simpa using hstate

/-- What is left in a pool once its reclaimable blocks are evicted: the live ones. -/
structure EvictedPool (pool left : PoolState) : Prop where
  facts : PoolFacts left
  spec : left.spec = pool.spec
  reservations : left.reservations = pool.reservations
  blocks : left.blocks = (reclaimableIds pool).foldl Table.erase pool.blocks
  length : left.blocks.length = pool.liveBlocks

section

variable (facts : PoolFacts pool) (hpool : ledger.pools.get? poolId = some pool)

include facts hpool

theorem allocate_accepted
    (hroom : pool.blocks.length + pool.reservedBlocks ≤ pool.spec.capacityBlocks)
    (hheld : pool.reservations.get? requestId = some n) (hne : blockIds ≠ [])
    (hnodup : blockIds.Nodup) (hle : blockIds.length ≤ n)
    (habsent : ∀ blockId ∈ blockIds, pool.blocks.get? blockId = none) :
    ∃ final demand, ledger.observe operationId (allocateWork poolId requestId blockIds) =
      .ok (final, demand) := by
  have hreserved := reservation_le hheld
  have hblocks : requireBlocks (allocateWork poolId requestId blockIds) = .ok blockIds := by
    simp [requireBlocks, allocateWork, hne, hnodup, require]
  obtain ⟨reserved, hconsumed⟩ : ∃ reserved,
      consumeReservation pool requestId blockIds.length = .ok reserved := by
    simp [consumeReservation, hheld, require, hle]
  obtain ⟨allocated, hallocated⟩ : ∃ allocated, observeAllocate pool
      (allocateWork poolId requestId blockIds) none = .ok allocated := by
    refine ⟨_, bind_eq_ok.mpr ⟨requestId, rfl, bind_eq_ok.mpr ⟨blockIds, hblocks,
      bind_eq_ok.mpr ⟨(), forM_eq_ok.mpr fun blockId hmem => ?_,
        bind_eq_ok.mpr ⟨reserved, hconsumed, rfl⟩⟩⟩⟩⟩
    rw [habsent blockId hmem]
  have hhandled : kvHandler (allocateWork poolId requestId blockIds).action pool
      (allocateWork poolId requestId blockIds) none = .ok allocated := hallocated
  have hafter := kvHandler_facts none facts hhandled
  have hlength : allocated.blocks.length = pool.blocks.length + blockIds.length := by
    obtain ⟨other, reserved, stored, -, hreserved, hmoves, hfreed, rfl⟩ :=
      observeAllocate_eq_ok none facts hallocated
    have hrest := (consumeReservation_facts facts.reservations hreserved).1
    have hmoved := hmoves.length
    have hsame : reserved.blocks = pool.blocks := by rw [hrest]
    rw [hsame] at hmoved
    have hids : (allocateWork poolId requestId blockIds).blockIds = blockIds := rfl
    rw [hids] at hmoved
    show stored.blocks.length = _
    omega
  have hfits : checkConservation allocated = .ok () := by
    have hcount := hafter.facts.blocks.live_add_reclaimable
    rw [checkConservation, require_eq_ok, decide_eq_true_eq, hafter.spec]
    omega
  obtain ⟨demand, hobserve⟩ := observe_accepted operationId
    (allocateWork poolId requestId blockIds) hpool rfl rfl hhandled rfl hfits
  exact ⟨_, demand, hobserve⟩

theorem evict_accepted
    (hfits : pool.blocks.length ≤ pool.spec.capacityBlocks) (hne : reclaimableIds pool ≠ [])
    (cause : String) : ∃ evicted demand left, ledger.observe operationId
        (evictWork poolId cause (reclaimableIds pool)) = .ok (evicted, demand) ∧
      evicted.pools.get? poolId = some left ∧ EvictedPool pool left := by
  have hnodup := reclaimableIds_nodup facts
  have hall := evictAll_eq hnodup fun blockId hmem => (mem_reclaimableIds facts).mp hmem
  have hblocks : requireBlocks (evictWork poolId cause (reclaimableIds pool)) =
      .ok (reclaimableIds pool) := by
    simp [requireBlocks, evictWork, hne, hnodup, require]
  obtain ⟨handled, hhandled, hevicted, hrest⟩ : ∃ handled,
      kvHandler .evict pool (evictWork poolId cause (reclaimableIds pool)) none = .ok handled ∧
      handled.evictedBlocks = pool.evictedBlocks + (reclaimableIds pool).length ∧
      (handled.blocks, handled.reservations, handled.allocatedBlocks, handled.freedBlocks) =
        ((reclaimableIds pool).foldl Table.erase pool.blocks, pool.reservations,
          pool.allocatedBlocks, pool.freedBlocks) := by
    show ∃ handled, observeEvict _ _ none = .ok handled ∧ _
    unfold observeEvict
    rw [hblocks, ok_bind]
    simp only [evictWork, hall, ok_bind]
    exact ⟨_, rfl, rfl, rfl⟩
  simp only [Prod.mk.injEq] at hrest
  obtain ⟨hleft, hreservations, hallocated, hfreed⟩ := hrest
  have hafter : HandlerFacts pool (evictWork poolId cause (reclaimableIds pool)) handled :=
    kvHandler_facts none facts hhandled
  have hstored := facts.stored
  have hstored' := hafter.facts.stored
  have hcount := facts.blocks.live_add_reclaimable
  have hids := reclaimableIds_length pool
  have hlength : handled.blocks.length = pool.liveBlocks := by omega
  have hconserved : checkConservation handled = .ok () := by
    have hleftCount := hafter.facts.blocks.live_add_reclaimable
    rw [checkConservation, require_eq_ok, decide_eq_true_eq, hafter.spec]
    omega
  obtain ⟨demand, hobserve⟩ := observe_accepted operationId
    (evictWork poolId cause (reclaimableIds pool)) hpool rfl rfl hhandled rfl hconserved
  refine ⟨_, demand, { handled with
    peakLiveBlocks := max handled.peakLiveBlocks handled.liveBlocks }, hobserve, ?_, ?_⟩
  · show (ledger.pools.set poolId _).get? poolId = _
    rw [Table.get?_set, if_pos rfl]
  · have hkept := hafter.facts
    exact ⟨⟨hkept.blocks, hkept.reservations, hkept.stored, hkept.refs⟩, hafter.spec,
      hreservations, hleft, hlength⟩

theorem reserved_allocates (hstored : pool.blocks.length ≤ pool.spec.capacityBlocks)
    (hroom : pool.liveBlocks + pool.reservedBlocks ≤ pool.spec.capacityBlocks)
    (hheld : pool.reservations.get? requestId = some n) (hne : blockIds ≠ [])
    (hnodup : blockIds.Nodup) (hle : blockIds.length ≤ n)
    (hidle : ∀ blockId ∈ blockIds, (pool.blocks.get? blockId).map KvBlock.state ≠ some .live)
    (cause : String) : ∃ evicted, (evicted = ledger ∨ ∃ demand, ledger.observe operationId
        (evictWork poolId cause (reclaimableIds pool)) = .ok (evicted, demand)) ∧
      ∃ final demand, evicted.observe operationId (allocateWork poolId requestId blockIds) =
        .ok (final, demand) := by
  -- a named block that is not live is reclaimable or not stored, since no free one is stored
  have hstate : ∀ blockId ∈ blockIds, blockId ∈ reclaimableIds pool ∨
      pool.blocks.get? blockId = none := by
    intro blockId hmem
    cases hblock : pool.blocks.get? blockId with
    | none => exact .inr rfl
    | some block =>
      left
      rw [mem_reclaimableIds facts, hblock, Option.map_some]
      cases hstate : block.state with
      | free => exact absurd hstate (facts.blocks.of_get? hblock).state_ne_free
      | live => exact absurd (by rw [hblock, Option.map_some, hstate]) (hidle blockId hmem)
      | reclaimable => rfl
  have hcount := facts.blocks.live_add_reclaimable
  have hids := reclaimableIds_length pool
  by_cases hnone : reclaimableIds pool = []
  · refine ⟨ledger, .inl rfl, allocate_accepted facts hpool ?_ hheld hne hnodup hle ?_⟩
    · rw [hnone, length_nil] at hids
      omega
    · intro blockId hmem
      rcases hstate blockId hmem with hin | habsent
      · rw [hnone] at hin
        cases hin
      · exact habsent
  · obtain ⟨evicted, demand, left, hobserve, hleft, h⟩ :=
      evict_accepted facts hpool hstored hnone cause
    refine ⟨evicted, .inr ⟨demand, hobserve⟩, allocate_accepted h.facts hleft ?_ ?_ hne hnodup hle
      ?_⟩
    · have hlength := h.length
      rw [PoolState.reservedBlocks, h.reservations, h.spec]
      unfold PoolState.reservedBlocks at hroom
      omega
    · rw [h.reservations]
      exact hheld
    · intro blockId hmem
      rw [h.blocks, get?_foldl_erase]
      rcases hstate blockId hmem with hin | habsent
      · rw [if_pos hin]
      · rw [habsent]
        split <;> rfl

end

def reserveWork (poolId requestId : String) (tokens : Nat) : KvCacheWork where
  action := .reserve
  poolId := poolId
  requestId := some requestId
  tokenStart := some 0
  tokenEnd := some tokens

def idleLedger : KvLifecycleLedger := ⟨[("kv:0", { spec := twoBlockSpec })]⟩

end SimLLM
