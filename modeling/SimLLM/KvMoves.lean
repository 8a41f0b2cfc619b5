import SimLLM.TableTotals
import SimLLM.ExceptRules
import SimLLM.KvLedger

namespace SimLLM

open List KvBlock

/-- A stored block: its owners hold at least one reference each, it is reusable exactly when
it is full, and it is not free. -/
structure BlockFacts (spec : KvPoolSpec) (block : KvBlock) : Prop where
  owners_nodup : block.owners.keys.Nodup
  owners_pos : ∀ held ∈ block.owners.values, 0 < held
  filled_le : block.filledTokens ≤ spec.blockTokens
  content_iff : block.content = true ↔ block.filledTokens = spec.blockTokens
  kept : 0 < block.refCount ∨ block.content = true

structure BlocksFacts (spec : KvPoolSpec) (blocks : Dict KvBlock) : Prop where
  nodup : blocks.keys.Nodup
  each : ∀ block ∈ blocks.values, BlockFacts spec block

def references (blocks : Dict KvBlock) : Nat := blocks.total refCount

def KvBlock.liveCount (block : KvBlock) : Nat := if 0 < block.refCount then 1 else 0

def liveCount (blocks : Dict KvBlock) : Nat := blocks.total KvBlock.liveCount

theorem KvBlock.refCount_eq (block : KvBlock) :
    block.refCount = block.owners.total fun held => held := by
  simp [refCount, Table.total]

theorem PoolState.liveBlocks_eq (pool : PoolState) : pool.liveBlocks = liveCount pool.blocks := by
  rw [PoolState.liveBlocks, Table.countP_values]
  refine Table.total_congr fun block _ => ?_
  simp [KvBlock.liveCount]

section Blocks

variable {spec : KvPoolSpec} {blocks : Dict KvBlock} {blockId requestId : String}
  {block new : KvBlock}

theorem BlocksFacts.live_add_reclaimable {pool : PoolState} (facts : BlocksFacts spec pool.blocks) :
    pool.liveBlocks + pool.reclaimableBlocks = pool.blocks.length := by
  rw [PoolState.liveBlocks, PoolState.reclaimableBlocks, Table.countP_values, Table.countP_values,
    ← Table.total_add, ← Table.total_one]
  refine Table.total_congr fun block hmem => ?_
  rcases (facts.each block hmem).kept with hheld | hcontent
  · have hne : block.refCount ≠ 0 := by omega
    simp [hheld, hne]
  · by_cases hheld : 0 < block.refCount
    · have hne : block.refCount ≠ 0 := by omega
      simp [hheld, hne]
    · have hzero : block.refCount = 0 := by omega
      simp [hzero, hcontent]

theorem BlocksFacts.of_get? (facts : BlocksFacts spec blocks)
    (h : blocks.get? blockId = some block) : BlockFacts spec block :=
  facts.each block (Table.value_mem_of_get? h)

theorem BlocksFacts.set (facts : BlocksFacts spec blocks) (hnew : BlockFacts spec new) :
    BlocksFacts spec (blocks.set blockId new) := by
  refine ⟨Table.set_keys_nodup facts.nodup blockId new, fun other hother => ?_⟩
  rcases Table.mem_values_set hother with rfl | hother
  · exact hnew
  · exact facts.each other hother

theorem BlocksFacts.erase (facts : BlocksFacts spec blocks) :
    BlocksFacts spec (blocks.erase blockId) :=
  ⟨Table.erase_keys_nodup facts.nodup blockId,
    fun other hother => facts.each other (Table.mem_values_erase hother)⟩

theorem length_set_old (h : blocks.get? blockId = some block) :
    (blocks.set blockId new).length = blocks.length := by
  have htotal := Table.total_set_old (fun _ => 1) new h
  rw [Table.total_one, Table.total_one] at htotal
  omega

theorem length_set_new (h : blocks.get? blockId = none) :
    (blocks.set blockId new).length = blocks.length + 1 := by
  have htotal := Table.total_set_new (fun _ => 1) new h
  rwa [Table.total_one, Table.total_one] at htotal

theorem length_erase (facts : BlocksFacts spec blocks) (h : blocks.get? blockId = some block) :
    (blocks.erase blockId).length + 1 = blocks.length := by
  have htotal := Table.total_erase (fun _ => 1) facts.nodup h
  rwa [Table.total_one, Table.total_one] at htotal

theorem KvBlock.acquire_refCount (block : KvBlock) (requestId : String) :
    (block.acquire requestId).refCount = block.refCount + 1 := by
  rw [refCount_eq, refCount_eq]
  exact Table.total_add_to block.owners requestId 1

theorem BlockFacts.acquire (facts : BlockFacts spec block) :
    BlockFacts spec (block.acquire requestId) where
  owners_nodup := Table.set_keys_nodup facts.owners_nodup _ _
  owners_pos := by
    intro held hheld
    rcases Table.mem_values_set hheld with rfl | hheld
    · omega
    · exact facts.owners_pos held hheld
  filled_le := facts.filled_le
  content_iff := facts.content_iff
  kept := .inl (by rw [acquire_refCount]; omega)

theorem KvBlock.state_eq_live : block.state = .live ↔ 0 < block.refCount := by
  unfold KvBlock.state
  by_cases h : 0 < block.refCount
  · simp [h]
  · by_cases hcontent : block.content <;> simp [h, hcontent]

theorem KvBlock.state_eq_reclaimable :
    block.state = .reclaimable ↔ block.refCount = 0 ∧ block.content = true := by
  unfold KvBlock.state
  by_cases h : 0 < block.refCount
  · simp [h]
    omega
  · have hzero : block.refCount = 0 := by omega
    by_cases hcontent : block.content <;> simp [hzero, hcontent]

theorem BlockFacts.state_ne_free (facts : BlockFacts spec block) : block.state ≠ .free := by
  unfold KvBlock.state
  rcases facts.kept with hheld | hcontent
  · simp [hheld]
  · split
    · simp
    · simp [hcontent]

end Blocks

/-- What an observation does to a pool before its counters are updated: blocks are stored,
evicted or freed, references taken or dropped, and no more than some blocks become live. -/
structure PoolMoves (before after : PoolState) (stored evicted taken dropped raised : Nat) :
    Prop where
  rest : after = { before with blocks := after.blocks, freedBlocks := after.freedBlocks }
  facts : BlocksFacts before.spec after.blocks
  length : after.blocks.length + after.freedBlocks + evicted =
    before.blocks.length + before.freedBlocks + stored
  refs : references after.blocks + dropped = references before.blocks + taken
  live : liveCount after.blocks ≤ liveCount before.blocks + raised

section Moves

variable {before middle after pool : PoolState} {blockId requestId : String} {block : KvBlock}

theorem PoolMoves.refl (facts : BlocksFacts pool.spec pool.blocks) :
    PoolMoves pool pool 0 0 0 0 0 :=
  ⟨rfl, facts, rfl, rfl, le_refl _⟩

theorem PoolMoves.trans {s e t d r s' e' t' d' r' : Nat} (first : PoolMoves before middle s e t d r)
    (second : PoolMoves middle after s' e' t' d' r') :
    PoolMoves before after (s + s') (e + e') (t + t') (d + d') (r + r') := by
  have hspec : middle.spec = before.spec := by rw [first.rest]
  have hlength := first.length
  have hlength' := second.length
  have hrefs := first.refs
  have hrefs' := second.refs
  have hlive := first.live
  have hlive' := second.live
  refine ⟨?_, hspec ▸ second.facts, by omega, by omega, by omega⟩
  rw [second.rest, first.rest]

variable {blockIds : List String}

theorem PoolMoves.foldlM {step : PoolState → String → Except PyError PoolState} {s e t d r : Nat}
    (hstep : ∀ {pool next : PoolState} {blockId : String}, BlocksFacts pool.spec pool.blocks →
      step pool blockId = .ok next → PoolMoves pool next s e t d r)
    (facts : BlocksFacts before.spec before.blocks) (h : blockIds.foldlM step before = .ok after) :
    PoolMoves before after (blockIds.length * s) (blockIds.length * e) (blockIds.length * t)
      (blockIds.length * d) (blockIds.length * r) := by
  induction blockIds generalizing before with
  | nil =>
    cases h
    simpa using PoolMoves.refl facts
  | cons blockId rest ih =>
    obtain ⟨next, hnext, h⟩ := of_bind h
    have hfirst := hstep facts hnext
    have hspec : next.spec = before.spec := by rw [hfirst.rest]
    have hrest := hfirst.trans (ih (hspec ▸ hfirst.facts) h)
    simp only [length_cons, Nat.add_mul, Nat.one_mul]
    simpa only [Nat.add_comm] using hrest

section

variable (facts : BlocksFacts pool.spec pool.blocks)
  (hblock : pool.blocks.get? blockId = some block)

include facts hblock

theorem PoolMoves.replace {new : KvBlock} {t d r : Nat}
    (hnew : BlockFacts pool.spec new) (hrefs : new.refCount + d = block.refCount + t)
    (hlive : new.liveCount ≤ block.liveCount + r) :
    PoolMoves pool (pool.setBlock blockId new) 0 0 t d r := by
  have hreferences := Table.total_set_old refCount new hblock
  have hcount := Table.total_set_old KvBlock.liveCount new hblock
  refine ⟨rfl, facts.set hnew, ?_, ?_, ?_⟩
  · show (pool.blocks.set blockId new).length + pool.freedBlocks + 0 = _
    rw [length_set_old hblock]
  · show references (pool.blocks.set blockId new) + d = _
    unfold references
    omega
  · show liveCount (pool.blocks.set blockId new) ≤ _
    unfold liveCount
    omega

theorem PoolMoves.remove (freed evicted : Nat) {d : Nat}
    (hrefs : block.refCount = d) (hone : freed + evicted = 1) :
    PoolMoves pool { pool.dropBlock blockId with freedBlocks := pool.freedBlocks + freed }
      0 evicted 0 d 0 := by
  have hreferences := Table.total_erase refCount facts.nodup hblock
  have hcount := Table.total_erase KvBlock.liveCount facts.nodup hblock
  have hlength := length_erase facts hblock
  refine ⟨rfl, facts.erase, ?_, ?_, ?_⟩
  · show (pool.blocks.erase blockId).length + (pool.freedBlocks + freed) + evicted = _
    omega
  · show references (pool.blocks.erase blockId) + d = references pool.blocks + 0
    unfold references
    omega
  · show liveCount (pool.blocks.erase blockId) ≤ liveCount pool.blocks + 0
    unfold liveCount
    omega

end

theorem KvBlock.liveCount_le (block : KvBlock) : block.liveCount ≤ 1 := by
  unfold KvBlock.liveCount
  split <;> omega

theorem acquireBlocks_moves {required : KvBlockState} {message : String} {r : Nat}
    (hlive : required = .live ∨ 1 ≤ r) (facts : BlocksFacts before.spec before.blocks)
    (h : acquireBlocks required message requestId blockIds before = .ok after) :
    PoolMoves before after 0 0 blockIds.length 0 (blockIds.length * r) := by
  have hmoves := PoolMoves.foldlM (s := 0) (e := 0) (t := 1) (d := 0) (r := r) ?_ facts h
  · simpa using hmoves
  · intro pool next blockId facts hstep
    cases hblock : pool.blocks.get? blockId with
    | none => simp [hblock] at hstep
    | some block =>
      simp only [hblock] at hstep
      obtain ⟨_, hstate, hstep⟩ := of_bind hstep
      cases hstep
      have hcount := block.acquire_refCount requestId
      refine PoolMoves.replace facts hblock (facts.of_get? hblock).acquire (by omega) ?_
      have hle := (block.acquire requestId).liveCount_le
      rcases hlive with rfl | hr
      · have hheld := KvBlock.state_eq_live.mp (by simpa using hstate)
        have hone : block.liveCount = 1 := by simp [KvBlock.liveCount, hheld]
        omega
      · omega

theorem requireOwned_eq_ok {action : String} {held : Nat}
    (h : requireOwned pool blockId requestId action = .ok (block, held)) :
    pool.blocks.get? blockId = some block ∧ block.owners.get? requestId = some held := by
  unfold requireOwned at h
  split at h
  next => cases h
  next found hfound =>
    split at h
    next => cases h
    next count hcount =>
      cases h
      exact ⟨hfound, hcount⟩

def KvBlock.release (block : KvBlock) (requestId : String) (held : Nat) : KvBlock :=
  { block with owners :=
    if held = 1 then block.owners.erase requestId else block.owners.set requestId (held - 1) }

theorem releaseBlock_eq_ok (h : releaseBlock requestId pool blockId = .ok after) :
    ∃ block held, pool.blocks.get? blockId = some block ∧
      block.owners.get? requestId = some held ∧
      ((block.release requestId held).refCount = 0 ∧ block.content = false ∧
        after = { pool.dropBlock blockId with freedBlocks := pool.freedBlocks + 1 } ∨
      (0 < (block.release requestId held).refCount ∨ block.content = true) ∧
        after = pool.setBlock blockId (block.release requestId held)) := by
  obtain ⟨⟨block, held⟩, howned, h⟩ := of_bind h
  obtain ⟨hblock, hheld⟩ := requireOwned_eq_ok howned
  refine ⟨block, held, hblock, hheld, ?_⟩
  change (if (block.release requestId held).refCount = 0 ∧ !block.content then _ else _) = _ at h
  split at h
  next hlast =>
    cases h
    exact .inl ⟨hlast.1, by simpa using hlast.2, rfl⟩
  next hkept =>
    cases h
    refine .inr ⟨?_, rfl⟩
    by_cases hcontent : block.content = true
    · exact .inr hcontent
    · left
      simp only [hcontent, Bool.not_false, and_true] at hkept
      omega

section Release

variable {spec : KvPoolSpec} {held : Nat} (facts : BlockFacts spec block)
  (hheld : block.owners.get? requestId = some held)

include facts hheld

theorem BlockFacts.release_refCount :
    (block.release requestId held).refCount + 1 = block.refCount := by
  have hpos := facts.owners_pos held (Table.value_mem_of_get? hheld)
  rw [refCount_eq, refCount_eq]
  unfold KvBlock.release
  dsimp only
  split
  next hone =>
    have htotal := Table.total_erase (fun count => count) facts.owners_nodup hheld
    omega
  next =>
    have htotal := Table.total_set_old (fun count => count) (held - 1) hheld
    omega

theorem BlockFacts.release
    (hkept : 0 < (block.release requestId held).refCount ∨ block.content = true) :
    BlockFacts spec (block.release requestId held) := by
  have hpos := facts.owners_pos held (Table.value_mem_of_get? hheld)
  refine ⟨?_, ?_, facts.filled_le, facts.content_iff, hkept⟩
  · unfold KvBlock.release
    split
    next => exact Table.erase_keys_nodup facts.owners_nodup requestId
    next => exact Table.set_keys_nodup facts.owners_nodup _ _
  · intro count hcount
    unfold KvBlock.release at hcount
    split at hcount
    next => exact facts.owners_pos count (Table.mem_values_erase hcount)
    next hne =>
      rcases Table.mem_values_set hcount with rfl | hcount
      · omega
      · exact facts.owners_pos count hcount

end Release

section

variable (facts : BlocksFacts pool.spec pool.blocks)

include facts

theorem releaseBlock_moves
    (h : releaseBlock requestId pool blockId = .ok after) : PoolMoves pool after 0 0 0 1 0 := by
  obtain ⟨block, held, hblock, hheld, hend⟩ := releaseBlock_eq_ok h
  have hfacts := facts.of_get? hblock
  have hcount := hfacts.release_refCount hheld
  rcases hend with ⟨hlast, -, rfl⟩ | ⟨hkept, rfl⟩
  · exact PoolMoves.remove facts hblock 1 0 (by omega) rfl
  · refine PoolMoves.replace facts hblock (hfacts.release hheld hkept) (by omega) ?_
    have hlive : block.liveCount = 1 := by
      unfold KvBlock.liveCount
      rw [if_pos (by omega)]
    have hle := (block.release requestId held).liveCount_le
    omega

theorem evictStep_moves
    (hstate : (pool.blocks.get? blockId).map KvBlock.state = some .reclaimable) :
    PoolMoves pool (pool.dropBlock blockId) 0 1 0 0 0 := by
  obtain ⟨block, hblock, hreclaimable⟩ := Option.map_eq_some_iff.mp hstate
  have hzero := (KvBlock.state_eq_reclaimable.mp hreclaimable).1
  exact PoolMoves.remove facts hblock 0 1 hzero rfl

theorem storeBlocks_moves {fresh : KvBlock}
    (hfresh : BlockFacts pool.spec fresh) (hone : fresh.refCount = 1) (hnodup : blockIds.Nodup)
    (habsent : ∀ blockId ∈ blockIds, pool.blocks.get? blockId = none) :
    PoolMoves pool (blockIds.foldl (fun pool blockId => pool.setBlock blockId fresh) pool)
      blockIds.length 0 blockIds.length 0 blockIds.length := by
  induction blockIds generalizing pool with
  | nil => simpa using PoolMoves.refl facts
  | cons blockId rest ih =>
    obtain ⟨hnew, hrest⟩ := nodup_cons.mp hnodup
    have hnone := habsent blockId (by simp)
    have hfirst : PoolMoves pool (pool.setBlock blockId fresh) 1 0 1 0 1 := by
      have hreferences := Table.total_set_new refCount fresh hnone
      have hcount := Table.total_set_new KvBlock.liveCount fresh hnone
      have hle := fresh.liveCount_le
      refine ⟨rfl, facts.set hfresh, ?_, ?_, ?_⟩
      · show (pool.blocks.set blockId fresh).length + pool.freedBlocks + 0 = _
        rw [length_set_new hnone]
        omega
      · show references (pool.blocks.set blockId fresh) + 0 = _
        unfold references
        omega
      · show liveCount (pool.blocks.set blockId fresh) ≤ _
        unfold liveCount
        omega
    have hlater : ∀ other ∈ rest, (pool.setBlock blockId fresh).blocks.get? other = none := by
      intro other hother
      have hne : blockId ≠ other := fun heq => hnew (heq ▸ hother)
      show (pool.blocks.set blockId fresh).get? other = none
      rw [Table.get?_set, if_neg hne]
      exact habsent other (mem_cons_of_mem blockId hother)
    have hset : BlocksFacts (pool.setBlock blockId fresh).spec
        (pool.setBlock blockId fresh).blocks := facts.set hfresh
    have hlater := ih hset hfresh hrest hlater
    have hboth := hfirst.trans hlater
    rw [foldl_cons]
    simpa only [length_cons, Nat.add_comm, Nat.add_zero] using hboth

end

theorem storeBlocks_freed (fresh : KvBlock) (blockIds : List String) (pool : PoolState) :
    (blockIds.foldl (fun pool blockId => pool.setBlock blockId fresh) pool).freedBlocks =
      pool.freedBlocks := by
  induction blockIds generalizing pool with
  | nil => rfl
  | cons blockId rest ih => exact ih (pool.setBlock blockId fresh)

def KvBlock.fill (block : KvBlock) (spec : KvPoolSpec) (taken : Nat) : KvBlock :=
  { block with
    filledTokens := block.filledTokens + taken
    content := block.content || block.filledTokens + taken == spec.blockTokens }

theorem BlockFacts.fill {spec : KvPoolSpec} (facts : BlockFacts spec block) {taken : Nat}
    (hroom : block.filledTokens + taken ≤ spec.blockTokens) :
    BlockFacts spec (block.fill spec taken) := by
  refine ⟨facts.owners_nodup, facts.owners_pos, hroom, ?_, ?_⟩
  · show (block.content || block.filledTokens + taken == spec.blockTokens) = true ↔ _
    rw [Bool.or_eq_true, beq_iff_eq]
    constructor
    · rintro (hcontent | hfull)
      · have hfull := facts.content_iff.mp hcontent
        show block.filledTokens + taken = spec.blockTokens
        omega
      · exact hfull
    · exact fun hfull => .inr hfull
  · rcases facts.kept with hheld | hcontent
    · exact .inl hheld
    · right
      show (block.content || _) = true
      rw [hcontent, Bool.true_or]

theorem fillBlocks_moves {named : List (String × KvBlock)} (hnodup : (named.map Prod.fst).Nodup)
    {blocks blocks' : Dict KvBlock} {tokens remaining : Nat} (facts : BlocksFacts pool.spec blocks)
    (hnamed : ∀ entry ∈ named, blocks.get? entry.1 = some entry.2)
    (h : named.foldl (fillBlock pool.spec) (blocks, tokens) = (blocks', remaining)) :
    PoolMoves { pool with blocks := blocks } { pool with blocks := blocks' } 0 0 0 0 0 := by
  induction named generalizing blocks tokens with
  | nil =>
    cases h
    exact PoolMoves.refl facts
  | cons entry rest ih =>
    obtain ⟨hnew, hrest⟩ := nodup_cons.mp hnodup
    rw [foldl_cons] at h
    have hentry := hnamed entry (by simp)
    have hlater := fun other hother => hnamed other (mem_cons_of_mem entry hother)
    by_cases hnone : tokens = 0
    · rw [fillBlock, if_pos hnone] at h
      exact ih hrest facts hlater h
    · have hfacts := facts.of_get? hentry
      have hroom := hfacts.filled_le
      have hfill : BlockFacts pool.spec (entry.2.fill pool.spec
          (min (pool.spec.blockTokens - entry.2.filledTokens) tokens)) := hfacts.fill (by omega)
      rw [fillBlock, if_neg hnone] at h
      have hset : PoolMoves { pool with blocks := blocks }
          (PoolState.setBlock { pool with blocks := blocks } entry.1 (entry.2.fill pool.spec
            (min (pool.spec.blockTokens - entry.2.filledTokens) tokens))) 0 0 0 0 0 := by
        refine PoolMoves.replace facts hentry hfill ?_ ?_
        · rfl
        · exact le_refl _
      refine hset.trans (ih hrest (facts.set hfill) (fun other hother => ?_) h)
      have hne : entry.1 ≠ other.1 := fun heq => hnew (heq ▸ mem_map_of_mem hother)
      rw [Table.get?_set, if_neg hne]
      exact hlater other hother

end Moves

end SimLLM
