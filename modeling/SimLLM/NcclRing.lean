import SimLLM.NcclProgram
import SimLLM.ProcessRing

namespace SimLLM

open List NcclPrimitive

def NcclPrimitive.programOrder (primitive : NcclPrimitive) : Nat :=
  16 * primitive.ringLoop + 2 * primitive.stage + primitive.sliceIndex

namespace NcclRingProgram

section Valid

variable (program : NcclRingProgram)

theorem checked : (program.ranks.length = 2 ∨ program.ranks.length = 4) ∧ program.ranks.Nodup ∧
      (∀ bytes ∈ program.channelBytes, 0 < bytes ∧ bytes % 4 = 0) ∧
      program.channelBytes.sum = program.payloadBytes ∧
      program.ordersMatch = true ∧ 3 ≤ program.warps := by
  have h := program.valid
  simp only [NcclRingFields.check, bind_eq_ok, require_eq_ok, Bool.and_eq_true,
    Bool.or_eq_true, decide_eq_true_eq, beq_iff_eq, all_eq_true] at h
  obtain ⟨-, -, -, -, -, ⟨⟨-, hwidth⟩, hnodup⟩, -, ⟨⟨⟨-, hchannels⟩, -⟩, hsum⟩, -, horders, -,
    ⟨hwarps, -⟩, -⟩ := h
  exact ⟨hwidth, hnodup, hchannels, hsum, horders, hwarps⟩

theorem width_eq : program.width = 2 ∨ program.width = 4 := program.checked.1

instance : NeZero program.width := ⟨by rcases program.width_eq with h | h <;> omega⟩

theorem order_perm {channel : Nat} (hchannel : channel < program.channelBytes.length) :
    (program.ranksForChannel channel).Perm program.ranks := by
  obtain ⟨-, hnodup, -, -, horders, -⟩ := program.checked
  rw [NcclRingFields.ordersMatch] at horders
  rw [ranksForChannel]
  cases hdeclared : program.channelRankOrders with
  | none => rfl
  | some orders =>
    simp only [hdeclared, Bool.and_eq_true, beq_iff_eq, all_eq_true, contains_iff_mem]
      at horders
    obtain ⟨hlength, hall⟩ := horders
    have hlt : channel < orders.length := by omega
    have hget : orders.getD channel [] = orders[channel] := by simp [hlt]
    obtain ⟨⟨hsame, -⟩, hcovers⟩ := hall orders[channel] (getElem_mem _)
    show (orders.getD channel []).Perm program.ranks
    rw [hget]
    exact ((subperm_of_subset hnodup hcovers).perm_of_length_le hsame.le).symm

theorem channelCount_mod (channel : Nat) : program.channelCount channel % 4 = 0 := by
  obtain ⟨-, -, hchannels, -⟩ := program.checked
  rw [channelCount, getD_eq_getElem?_getD]
  cases hget : program.channelBytes[channel]? with
  | none => rfl
  | some bytes => exact (hchannels bytes (mem_of_getElem? hget)).2

end Valid

def chunkAt (width ringIndex stage : Nat) : Nat := (ringIndex + 2 * width - 1 - stage) % width

theorem ringOrder_zipIdx {width ringIndex : Nat} (hwidth : width = 2 ∨ width = 4)
    (hring : ringIndex < width) : (ringOrder width ringIndex).zipIdx =
      (List.range (2 * width - 1)).map fun stage => (chunkAt width ringIndex stage, stage) := by
  rcases hwidth with rfl | rfl <;> interval_cases ringIndex <;> decide

theorem exists_store_stage {width ringIndex chunk : Nat} (hwidth : width = 2 ∨ width = 4)
    (hring : ringIndex < width) (hchunk : chunk < width) :
    ∃ stage < 2 * width - 1, width - 1 ≤ stage ∧ chunkAt width ringIndex stage = chunk ∧
      ∀ other < 2 * width - 1, width - 1 ≤ other → chunkAt width ringIndex other = chunk →
        other = stage := by
  rcases hwidth with rfl | rfl <;> interval_cases ringIndex <;> interval_cases chunk <;> decide

theorem chunkAt_succ {width ringIndex stage : Nat} (hring : ringIndex < width)
    (hstage : stage < 2 * width - 2) :
    chunkAt width ((ringIndex + 1) % width) (stage + 1) = chunkAt width ringIndex stage := by
  rw [chunkAt, chunkAt]
  by_cases hlast : ringIndex + 1 = width
  · have hwrap : ringIndex + 2 * width - 1 - stage =
        (0 + 2 * width - 1 - (stage + 1)) + width := by omega
    rw [hlast, Nat.mod_self, hwrap, Nat.add_mod_right]
  · rw [Nat.mod_eq_of_lt (show ringIndex + 1 < width by omega)]
    congr 1
    omega

theorem sum_chunkAt {width : Nat} (hwidth : width = 2 ∨ width = 4) (bytes : Nat → Nat) :
    ((List.range width).map fun ringIndex => ((List.range (2 * width - 2)).map fun stage =>
      bytes (chunkAt width ringIndex stage)).sum).sum =
      (2 * width - 2) * ((List.range width).map bytes).sum := by
  rcases hwidth with rfl | rfl <;> simp [range_succ, chunkAt] <;> omega

section Primitives

variable (program : NcclRingProgram)

def stripeList (size : Nat) : List NcclStripe :=
  (List.range (ceilDiv size program.protocol.quantum)).map
    (protocolStripe size program.protocol program.workers)

def stageParts (channel ringIndex loop stage : Nat) : List Nat :=
  chunkParts program.protocol
    (program.usefulBytes channel loop (chunkAt program.width ringIndex stage))

def stageSlices (channel ringIndex loop stage : Nat) : List NcclPrimitive :=
  (program.stageParts channel ringIndex loop stage).zipIdx.map fun (size, sliceIndex) =>
    program.slicePrimitive channel ringIndex loop stage (chunkAt program.width ringIndex stage)
      sliceIndex size (program.stripeList size)

def loopCount (channel : Nat) : Nat := ceilDiv (program.channelCount channel) program.loopSpan

def ringPrimitives (channel ringIndex : Nat) : List NcclPrimitive :=
  (List.range (program.loopCount channel)).flatMap fun loop =>
    (List.range (2 * program.width - 1)).flatMap (program.stageSlices channel ringIndex loop)

def ringIndex (channel rankIndex : Nat) : Nat :=
  (program.ranksForChannel channel).idxOf (program.ranks.getD rankIndex 0)

theorem four_dvd_usefulBytes (channel loop chunkIndex : Nat) :
    4 ∣ program.usefulBytes channel loop chunkIndex := by
  have hlimit : 4 ∣ program.protocol.chunkLimit := by cases program.protocol <;> decide
  have hremaining : 4 ∣ program.loopRemaining channel loop :=
    Nat.dvd_sub (Nat.dvd_of_mod_eq_zero (program.channelCount_mod channel))
      ((hlimit.mul_left _).mul_left _)
  have hchunk : 4 ∣ program.chunkBytes channel loop := by
    rw [chunkBytes]
    rcases min_choice program.protocol.chunkLimit
      (ceilDiv (program.loopRemaining channel loop) (program.width * 16) * 16) with h | h <;> rw [h]
    · exact hlimit
    · exact Dvd.dvd.mul_left (by decide) _
  rw [usefulBytes]
  rcases min_choice (program.chunkBytes channel loop)
    (program.loopRemaining channel loop - chunkIndex * program.chunkBytes channel loop) with
      h | h <;>
    rw [h]
  · exact hchunk
  · exact Nat.dvd_sub hremaining (hchunk.mul_left _)

variable {protocol : NcclProtocol}

theorem mod_of_mem_chunkParts {useful size : Nat} (h : 4 ∣ useful)
    (hsize : size ∈ chunkParts protocol useful) : size % 4 = 0 := by
  cases protocol with
  | ll | ll128 =>
    simp only [chunkParts, mem_singleton] at hsize
    omega
  | simple =>
    simp only [chunkParts, mem_cons, not_mem_nil, or_false] at hsize
    omega

theorem workers_pos : 0 < program.workers := by
  obtain ⟨-, -, -, -, -, hwarps⟩ := program.checked
  rw [workers]
  split <;> omega

theorem stagePrimitives_eq (channel ringIndex loop stage : Nat) :
    program.stagePrimitives channel ringIndex loop stage
      (chunkAt program.width ringIndex stage) =
      .ok (program.stageSlices channel ringIndex loop stage) := by
  refine mapM_eq_map fun slice hslice => ?_
  have hsize := mod_of_mem_chunkParts (program.four_dvd_usefulBytes _ _ _)
    (fst_mem_of_mem_zipIdx hslice)
  simp [protocolStripes, require, hsize, program.workers_pos, stripeList]

theorem primitives_eq {channel rankIndex : Nat} (hchannel : channel < program.channelBytes.length)
    (hrank : rankIndex < program.width)
    (hring : program.ringIndex channel rankIndex < program.width) :
    program.primitives channel rankIndex =
      .ok (program.ringPrimitives channel (program.ringIndex channel rankIndex)) := by
  have hloop : ∀ loop, program.loopPrimitives channel (program.ringIndex channel rankIndex) loop =
      .ok ((List.range (2 * program.width - 1)).flatMap
        (program.stageSlices channel (program.ringIndex channel rankIndex) loop)) := by
    intro loop
    have hstages := mapM_eq_map (l := List.range (2 * program.width - 1))
      fun stage _ => program.stagePrimitives_eq channel (program.ringIndex channel rankIndex)
        loop stage
    rw [loopPrimitives, ringOrder_zipIdx program.width_eq hring, mapM_map]
    exact congrArg (Functor.map List.flatten) hstages
  have hloops := mapM_eq_map (l := List.range (program.loopCount channel))
    fun loop _ => hloop loop
  simp only [primitives, hchannel, hrank, decide_true, Bool.and_self, require, if_true,
    ok_bind]
  rw [← loopCount, ← ringIndex, hloops]
  rfl

section Stage

variable {program} {channel ringIndex loop stage : Nat} {primitive : NcclPrimitive}

theorem slice_lt_two {useful size sliceIndex : Nat}
    (h : (size, sliceIndex) ∈ (chunkParts protocol useful).zipIdx) : sliceIndex < 2 := by
  have hlt := snd_lt_of_mem_zipIdx h
  cases protocol <;> simp [chunkParts] at hlt <;> omega

section

variable (h : primitive ∈ program.stageSlices channel ringIndex loop stage)

include h

theorem mem_stageSlices :
    ∃ sliceIndex size, (size, sliceIndex) ∈
    (program.stageParts channel ringIndex loop stage).zipIdx ∧
      primitive = program.slicePrimitive channel ringIndex loop stage
        (chunkAt program.width ringIndex stage) sliceIndex size (program.stripeList size) := by
  obtain ⟨⟨size, sliceIndex⟩, hslice, rfl⟩ := mem_map.mp h
  exact ⟨sliceIndex, size, hslice, rfl⟩

theorem stageSlices_fields :
    primitive.ringLoop = loop ∧ primitive.stage = stage ∧ primitive.sliceIndex < 2 := by
  obtain ⟨sliceIndex, size, hslice, rfl⟩ := mem_stageSlices h
  exact ⟨rfl, rfl, slice_lt_two hslice⟩

end

theorem stageSlices_sorted : (program.stageSlices channel ringIndex loop stage).Pairwise
      fun first second => first.programOrder < second.programOrder := by
  refine pairwise_map.mpr ?_
  cases hprotocol : program.protocol <;>
    simp [stageParts, chunkParts, hprotocol, slicePrimitive, programOrder]

end Stage

theorem stages_eq : 2 * program.width - 1 = (2 * program.width - 2) + 1 := by
  have := NeZero.pos program.width
  omega

theorem ringPrimitives_sorted (channel ringIndex : Nat) :
    (program.ringPrimitives channel ringIndex).Pairwise
      fun first second => first.programOrder < second.programOrder := by
  have hwidth : program.width ≤ 4 := by rcases program.width_eq with h | h <;> omega
  refine pairwise_flatMap.mpr ⟨fun loop _ => pairwise_flatMap.mpr ⟨fun stage _ =>
    stageSlices_sorted, ?_⟩, ?_⟩
  · refine pairwise_lt_range.imp fun hlt first hfirst second hsecond => ?_
    obtain ⟨hloop, hstage, hslice⟩ := stageSlices_fields hfirst
    obtain ⟨hloop', hstage', -⟩ := stageSlices_fields hsecond
    rw [programOrder, programOrder]
    omega
  · refine pairwise_lt_range.imp fun hlt first hfirst second hsecond => ?_
    obtain ⟨stage, hstage, hfirst⟩ := mem_flatMap.mp hfirst
    obtain ⟨stage', -, hsecond⟩ := mem_flatMap.mp hsecond
    obtain ⟨hloop, hstageEq, hslice⟩ := stageSlices_fields hfirst
    obtain ⟨hloop', -, -⟩ := stageSlices_fields hsecond
    have hbound := mem_range.mp hstage
    rw [programOrder, programOrder]
    omega

theorem mem_ringPrimitives {channel ringIndex : Nat} {primitive : NcclPrimitive} :
    primitive ∈ program.ringPrimitives channel ringIndex ↔
      ∃ loop < program.loopCount channel, ∃ stage < 2 * program.width - 1,
        primitive ∈ program.stageSlices channel ringIndex loop stage := by
  simp [ringPrimitives]

theorem filter_ringPrimitives (channel ringIndex : Nat) (keep : NcclPrimitive → Bool)
    (kept : Nat → Bool)
    (h : ∀ loop stage, ∀ primitive ∈ program.stageSlices channel ringIndex loop stage,
      keep primitive = kept stage) : (program.ringPrimitives channel ringIndex).filter keep =
      (List.range (program.loopCount channel)).flatMap fun loop =>
        ((List.range (2 * program.width - 2 + 1)).flatMap fun stage =>
          if kept stage then program.stageSlices channel ringIndex loop stage else []) := by
  rw [ringPrimitives, filter_flatMap, program.stages_eq]
  refine flatMap_congr fun loop _ => ?_
  rw [filter_flatMap]
  refine flatMap_congr fun stage _ => ?_
  have hall := h loop stage
  cases hkept : kept stage with
  | true => exact filter_eq_self.mpr fun primitive hprimitive => (hall _ hprimitive).trans hkept
  | false => simpa [hkept] using hall

theorem filter_send (channel ringIndex : Nat) :
    (program.ringPrimitives channel ringIndex).filter NcclPrimitive.send =
      (List.range (program.loopCount channel)).flatMap fun loop =>
        (List.range (2 * program.width - 2)).flatMap
          (program.stageSlices channel ringIndex loop) := by
  rw [program.filter_ringPrimitives channel ringIndex NcclPrimitive.send
    (fun stage => decide (stage < 2 * program.width - 2))]
  · refine flatMap_congr fun loop _ => ?_
    rw [range_succ, flatMap_append]
    simp only [flatMap_singleton, lt_irrefl, decide_false, Bool.false_eq_true, if_false,
      append_nil]
    exact flatMap_congr fun stage hstage => by simp [mem_range.mp hstage]
  · intro loop stage primitive hprimitive
    obtain ⟨_, _, -, rfl⟩ := mem_stageSlices hprimitive
    rfl

theorem filter_receive (channel ringIndex : Nat) :
    (program.ringPrimitives channel ringIndex).filter NcclPrimitive.receive =
      (List.range (program.loopCount channel)).flatMap fun loop =>
        (List.range (2 * program.width - 2)).flatMap fun stage =>
          program.stageSlices channel ringIndex loop (stage + 1) := by
  rw [program.filter_ringPrimitives channel ringIndex NcclPrimitive.receive
    (fun stage => decide (0 < stage))]
  · refine flatMap_congr fun loop _ => ?_
    rw [range_succ_eq_map, flatMap_cons, flatMap_map]
    simp
  · intro loop stage primitive hprimitive
    obtain ⟨_, _, -, rfl⟩ := mem_stageSlices hprimitive
    rfl

end Primitives

end NcclRingProgram

structure NcclTag where
  ringLoop : Nat
  chunkIndex : Nat
  sliceIndex : Nat
  offsetBytes : Nat
  usefulBytes : Nat
  deriving DecidableEq, Repr

def NcclPrimitive.tag (primitive : NcclPrimitive) : NcclTag :=
  ⟨primitive.ringLoop, primitive.chunkIndex, primitive.sliceIndex, primitive.offsetBytes,
    primitive.usefulBytes⟩

structure NcclMessage (A : Type) where
  tag : NcclTag
  data : List A

section Execution

variable {A : Type} [AddCommMonoid A]

def NcclPrimitive.ownData (primitive : NcclPrimitive) (data : Nat → A) : List A :=
  (List.range' primitive.offsetBytes primitive.usefulBytes).map data

/-- A primitive adds its own data to what it has received, or passes on the one it has. -/
def NcclPrimitive.outcome (primitive : NcclPrimitive) (data : Nat → A) :
    Option (NcclMessage A) → NcclMessage A
  | none => ⟨primitive.tag, if primitive.sourceLoad then primitive.ownData data else []⟩
  | some message => ⟨primitive.tag,
      if primitive.reduce then List.zipWith (· + ·) message.data (primitive.ownData data)
      else message.data⟩

section Carried

variable {n : Nat} [NeZero n] (own : Fin n → A)

/-- What the block at a ring position holds at a stage: the data of the ranks passed so far,
and from the last of them on the complete sum. -/
def carried : Nat → Fin n → A
  | 0, position => own position
  | stage + 1, position =>
    if stage + 1 < n then carried stage (position - 1) + own position
    else carried stage (position - 1)

theorem carried_eq_range {stage : Nat} (h : stage < n) (position : Fin n) :
    carried own stage position =
      ∑ back ∈ Finset.range (stage + 1), own (position - Fin.ofNat n back) := by
  induction stage generalizing position with
  | zero => simp [carried]
  | succ stage ih =>
    rw [carried, if_pos h, ih (by omega), Finset.sum_range_succ' _ (stage + 1)]
    congr 1
    · refine Finset.sum_congr rfl fun back _ => congrArg own ?_
      have hstep : Fin.ofNat n (back + 1) = Fin.ofNat n back + 1 := by
        ext
        simp [Fin.ofNat, Fin.val_add]
      rw [hstep, sub_sub, add_comm 1]
    · simp

theorem carried_eq_sum {stage : Nat} (h : n ≤ stage + 1) (position : Fin n) :
    carried own stage position = ∑ rank, own rank := by
  induction stage generalizing position with
  | zero =>
    have hn : n = 1 := by
      have := NeZero.pos n
      omega
    subst hn
    simp [carried, Fin.fin_one_eq_zero]
  | succ stage ih =>
    by_cases hlast : stage + 1 < n
    · have hn : stage + 1 + 1 = n := by omega
      rw [carried_eq_range own hlast, hn, Finset.sum_range]
      simp only [Fin.ofNat_val_eq_self]
      exact Equiv.sum_comp (Equiv.subLeft position) own
    · rw [carried, if_neg hlast, ih (by omega)]

end Carried

namespace NcclRingProgram

variable (program : NcclRingProgram) (source : Nat → Nat → A)

abbrev Block : Type := Fin program.channelBytes.length × Fin program.width

def rankAt (block : program.Block) : Nat := (program.ranksForChannel block.1).getD block.2 0

def blockPrimitives (block : program.Block) : List NcclPrimitive :=
  match program.primitives block.1 (program.ranks.idxOf (program.rankAt block)) with
  | .ok primitives => primitives
  | .error _ => []

def network : ProcessRing.Network program.Block NcclPrimitive (NcclMessage A) where
  next := Equiv.prodCongr (Equiv.refl _) (Equiv.addRight 1)
  program := program.blockPrimitives
  receives := NcclPrimitive.receive
  sends := NcclPrimitive.send
  accepts primitive message := message.tag == primitive.tag
  result block primitive := primitive.outcome (source (program.rankAt block))

section Blocks

variable (block : program.Block)

theorem order_length : (program.ranksForChannel block.1).length = program.width :=
  (program.order_perm block.1.isLt).length_eq

theorem order_nodup : (program.ranksForChannel block.1).Nodup :=
  (program.order_perm block.1.isLt).nodup_iff.mpr program.checked.2.1

theorem rankAt_eq :
    (program.ranksForChannel block.1)[block.2.val]? = some (program.rankAt block) := by
  have hlt : block.2.val < (program.ranksForChannel block.1).length := by
    rw [program.order_length]
    exact block.2.isLt
  simp [rankAt, hlt]

theorem idxOf_rankAt :
    (program.ranksForChannel block.1).idxOf (program.rankAt block) = block.2 := by
  obtain ⟨hlt, hat⟩ := List.getElem?_eq_some_iff.mp (program.rankAt_eq block)
  rw [← hat]
  exact (program.order_nodup block).idxOf_getElem _ _

theorem ringIndex_rankAt :
    program.ringIndex block.1 (program.ranks.idxOf (program.rankAt block)) = block.2 ∧
      program.ranks.idxOf (program.rankAt block) < program.width := by
  have hmem :=
    (program.order_perm block.1.isLt).subset (mem_of_getElem? (program.rankAt_eq block))
  have hindex := idxOf_lt_length_of_mem hmem
  refine ⟨?_, hindex⟩
  rw [ringIndex, getD_eq_getElem?_getD, getElem?_eq_getElem hindex, Option.getD_some,
    getElem_idxOf hindex, program.idxOf_rankAt]

theorem blockPrimitives_eq :
    program.blockPrimitives block = program.ringPrimitives block.1 block.2 := by
  obtain ⟨hring, hrank⟩ := program.ringIndex_rankAt block
  rw [blockPrimitives, program.primitives_eq block.1.isLt hrank (by rw [hring]; exact block.2.isLt),
    hring]

def meaning (primitive : NcclPrimitive) : NcclMessage A :=
  ⟨primitive.tag, primitive.ownData fun byte =>
    carried (fun position => source (program.rankAt (block.1, position)) byte)
      primitive.stage block.2⟩

end Blocks

theorem pair_slices (block : program.Block) {loop stage : Nat}
    (hstage : stage < 2 * program.width - 2) :
    List.Forall₂ ((program.network source).Pair (program.meaning source)
        programOrder block)
      (program.stageSlices block.1 block.2 loop stage)
      (program.stageSlices block.1 (block.2 + 1 : Fin program.width) loop (stage + 1)) := by
  have hchunk : chunkAt program.width (block.2 + 1 : Fin program.width).val (stage + 1) =
      chunkAt program.width block.2 stage := by
    have hval : (block.2 + 1 : Fin program.width).val = (block.2.val + 1) % program.width := by
      simp [Fin.val_add]
    rw [hval]
    exact chunkAt_succ block.2.isLt hstage
  rw [stageSlices, stageSlices, stageParts, stageParts, hchunk]
  refine forall₂_map_left_iff.mpr (forall₂_map_right_iff.mpr
    (forall₂_same.mpr fun slice _ => ⟨?_, ?_, ?_⟩))
  · simp [network, meaning, slicePrimitive, NcclPrimitive.tag]
  · have hnext : (program.network source).next block = (block.1, block.2 + 1) := rfl
    rw [hnext]
    simp only [network, meaning, outcome, slicePrimitive, NcclPrimitive.tag,
      ownData, carried, add_sub_cancel_right, zipWith_map, zipWith_self]
    split <;> simp_all
  · simp only [programOrder, slicePrimitive]
    omega

theorem network_matched :
    (program.network source).Matched (program.meaning source) programOrder where
  sources block primitive hprimitive hreceive := by
    have hmem : primitive ∈ program.ringPrimitives block.1 block.2 := by
      rw [← program.blockPrimitives_eq]
      exact hprimitive
    obtain ⟨loop, -, stage, -, hslices⟩ := program.mem_ringPrimitives.mp hmem
    obtain ⟨sliceIndex, size, -, rfl⟩ := mem_stageSlices hslices
    obtain rfl : stage = 0 := by simpa [network, slicePrimitive] using hreceive
    have hwidth := NeZero.pos program.width
    simp [network, meaning, slicePrimitive, outcome, NcclPrimitive.tag,
      ownData, carried, hwidth]
  paired block := by
    show List.Forall₂ _ ((program.blockPrimitives block).filter NcclPrimitive.send)
      ((program.blockPrimitives (block.1, block.2 + 1)).filter NcclPrimitive.receive)
    rw [blockPrimitives_eq, blockPrimitives_eq, filter_send, filter_receive]
    refine List.Forall₂.flatMap_same fun loop _ => List.Forall₂.flatMap_same fun stage hstage => ?_
    exact program.pair_slices source block (mem_range.mp hstage)
  sorted block := by
    show (program.blockPrimitives block).Pairwise _
    rw [blockPrimitives_eq]
    exact program.ringPrimitives_sorted block.1 block.2

end NcclRingProgram

end Execution

end SimLLM
