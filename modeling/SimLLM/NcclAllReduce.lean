import SimLLM.NcclRing

namespace List

variable {parts : List Nat}

theorem take_sum_add_le {i j size : Nat} (hij : i < j) (hi : parts[i]? = some size) :
    (parts.take i).sum + size ≤ (parts.take j).sum := by
  induction parts generalizing i j with
  | nil => simp at hi
  | cons part parts ih =>
    obtain ⟨j, rfl⟩ : ∃ k, j = k + 1 := ⟨j - 1, by omega⟩
    cases i with
    | zero =>
      obtain rfl : part = size := by simpa using hi
      simp
    | succ i =>
      have hrest := ih (show i < j by omega) (by simpa using hi)
      simp only [take_succ_cons, sum_cons]
      omega

theorem part_unique {i j first second place : Nat} (hi : parts[i]? = some first)
    (hj : parts[j]? = some second)
    (hfirst : (parts.take i).sum ≤ place ∧ place < (parts.take i).sum + first)
    (hsecond : (parts.take j).sum ≤ place ∧ place < (parts.take j).sum + second) : i = j := by
  rcases lt_trichotomy i j with hlt | heq | hlt
  · have := take_sum_add_le hlt hi
    omega
  · exact heq
  · have := take_sum_add_le hlt hj
    omega

theorem exists_part {place : Nat} (h : place < parts.sum) : ∃ i size, parts[i]? = some size ∧
      (parts.take i).sum ≤ place ∧ place < (parts.take i).sum + size := by
  induction parts generalizing place with
  | nil => simp at h
  | cons part parts ih =>
    by_cases hfirst : place < part
    · exact ⟨0, part, by simp, by simp, by simpa using hfirst⟩
    · have hrest : place - part < parts.sum := by
        rw [sum_cons] at h
        omega
      obtain ⟨i, size, hi, hlow, hhigh⟩ := ih hrest
      refine ⟨i + 1, size, by simpa using hi, ?_, ?_⟩ <;>
        rw [take_succ_cons, sum_cons] <;> omega

theorem sum_cells (total cell count : Nat) :
    ((List.range count).map fun k => min cell (total - k * cell)).sum =
      min total (count * cell) := by
  induction count with
  | zero => simp
  | succ count ih =>
    rw [range_succ, map_append, sum_append, ih, map_singleton,
      sum_singleton, Nat.succ_mul]
    omega

variable {α β : Type}

theorem sum_map_flatMap (l : List α) (f : α → List β) (g : β → Nat) :
    ((l.flatMap f).map g).sum = (l.map fun a => ((f a).map g).sum).sum := by
  induction l with
  | nil => simp
  | cons a l ih => simp [ih]

theorem sum_map_sum_comm (l : List α) (m : List β) (f : α → β → Nat) :
    (l.map fun a => (m.map (f a)).sum).sum = (m.map fun b => (l.map fun a => f a b).sum).sum := by
  induction l with
  | nil => simp
  | cons a l ih => simp [ih, sum_map_add]

theorem filterMap_eq_singleton {entries : List α} {order : α → Nat} {f : α → Option β} {entry : α}
    {result : β} (hsorted : entries.Pairwise fun first second => order first < order second)
    (hentry : entry ∈ entries) (hresult : f entry = some result)
    (hunique : ∀ other ∈ entries, (f other).isSome → order other = order entry) :
    entries.filterMap f = [result] := by
  induction entries with
  | nil => simp at hentry
  | cons head entries ih =>
    obtain ⟨hhead, htail⟩ := pairwise_cons.mp hsorted
    rcases mem_cons.mp hentry with rfl | hmem
    · have hothers : entries.filterMap f = [] := by
        refine filterMap_eq_nil_iff.mpr fun other hother => ?_
        cases hf : f other with
        | none => rfl
        | some _ =>
          have hplace := hunique other (by simp [hother]) (by simp [hf])
          have := hhead other hother
          omega
      simp [hresult, hothers]
    · have hnone : f head = none := by
        cases hf : f head with
        | none => rfl
        | some _ =>
          have hplace := hunique head (by simp) (by simp [hf])
          have := hhead entry hmem
          omega
      rw [filterMap_cons_none hnone]
      exact ih htail hmem fun other hother => hunique other (by simp [hother])

end List

namespace SimLLM

open List

theorem le_ceilDiv_mul (value : Nat) {divisor : Nat} (h : 0 < divisor) :
    value ≤ ceilDiv value divisor * divisor := by
  have hdiv := Nat.div_add_mod (value + divisor - 1) divisor
  have hmod := Nat.mod_lt (value + divisor - 1) h
  rw [ceilDiv, Nat.mul_comm]
  omega

theorem div_lt_ceilDiv {place value divisor : Nat} (h : 0 < divisor) (hplace : place < value) :
    place / divisor < ceilDiv value divisor := by
  have hcover := le_ceilDiv_mul value h
  exact (Nat.div_lt_iff_lt_mul h).mpr (by omega)

namespace NcclRingProgram

variable (program : NcclRingProgram) (channel loop : Nat)

theorem chunkLimit_pos : 0 < program.protocol.chunkLimit := by
  cases program.protocol <;> decide

theorem loopSpan_pos : 0 < program.loopSpan :=
  Nat.mul_pos (NeZero.pos program.width) program.chunkLimit_pos

theorem chunks_reach :
    min (program.loopRemaining channel loop) (program.width * program.chunkBytes channel loop) =
      min (program.loopRemaining channel loop) program.loopSpan := by
  have hwidth := NeZero.pos program.width
  have hcover := le_ceilDiv_mul (program.loopRemaining channel loop)
    (show 0 < program.width * 16 by omega)
  rw [chunkBytes, loopSpan]
  rcases le_total program.protocol.chunkLimit
    (ceilDiv (program.loopRemaining channel loop) (program.width * 16) * 16) with hle | hle
  · rw [min_eq_left hle]
  · have hspan := Nat.mul_le_mul_left program.width hle
    rw [min_eq_right hle]
    have hcells : program.loopRemaining channel loop ≤ program.width *
        (ceilDiv (program.loopRemaining channel loop) (program.width * 16) * 16) := by
      rwa [Nat.mul_left_comm] at hcover
    omega

theorem chunkParts_sum (protocol : NcclProtocol) (useful : Nat) :
    (chunkParts protocol useful).sum = useful := by
  cases protocol <;> simp [chunkParts]
  omega

theorem chunkAt_lt (ringIndex stage : Nat) :
    chunkAt program.width ringIndex stage < program.width :=
  Nat.mod_lt _ (NeZero.pos program.width)

def placeInLoop (place : Nat) : Nat := place % program.loopSpan

def placeInChunk (place : Nat) : Nat :=
  program.placeInLoop place % program.chunkBytes channel (place / program.loopSpan)

def chunkOf (place : Nat) : Nat :=
  program.placeInLoop place / program.chunkBytes channel (place / program.loopSpan)

theorem place_unique {chunkIndex inside place : Nat} (hchunk : chunkIndex < program.width)
    (hinside : inside < program.usefulBytes channel loop chunkIndex)
    (hplace : place = loop * program.loopSpan +
      (chunkIndex * program.chunkBytes channel loop + inside)) :
    place < program.channelCount channel ∧ loop = place / program.loopSpan ∧
      chunkIndex = program.chunkOf channel place ∧ inside = program.placeInChunk channel place := by
  have hreach := program.chunks_reach channel loop
  have hnext := Nat.mul_le_mul_right (program.chunkBytes channel loop) hchunk
  rw [usefulBytes] at hinside
  rw [Nat.succ_mul] at hnext
  have hbound : chunkIndex * program.chunkBytes channel loop + inside < program.loopSpan := by omega
  have hloop : place / program.loopSpan = loop := by
    rw [hplace, Nat.mul_comm, Nat.mul_add_div program.loopSpan_pos, Nat.div_eq_of_lt hbound,
      Nat.add_zero]
  have hmod : program.placeInLoop place =
      program.chunkBytes channel loop * chunkIndex + inside := by
    rw [placeInLoop, hplace, Nat.mul_comm loop, Nat.mul_add_mod, Nat.mod_eq_of_lt hbound,
      Nat.mul_comm]
  have hwithin : inside < program.chunkBytes channel loop := by omega
  refine ⟨?_, hloop.symm, ?_, ?_⟩
  · rw [loopRemaining] at hinside hreach
    omega
  · rw [chunkOf, hmod, hloop, Nat.mul_add_div (by omega), Nat.div_eq_of_lt hwithin, Nat.add_zero]
  · rw [placeInChunk, hmod, hloop, Nat.mul_add_mod, Nat.mod_eq_of_lt hwithin]

theorem place_exists {place : Nat} (hplace : place < program.channelCount channel) :
    program.chunkOf channel place < program.width ∧
      program.placeInChunk channel place < program.usefulBytes channel (place / program.loopSpan)
        (program.chunkOf channel place) ∧
      place = place / program.loopSpan * program.loopSpan +
        (program.chunkOf channel place * program.chunkBytes channel (place / program.loopSpan) +
          program.placeInChunk channel place) := by
  have hspan := Nat.mod_lt place program.loopSpan_pos
  have hsplit := Nat.div_add_mod place program.loopSpan
  have hreach := program.chunks_reach channel (place / program.loopSpan)
  rw [Nat.mul_comm] at hsplit
  have hleft : program.placeInLoop place <
      program.loopRemaining channel (place / program.loopSpan) := by
    rw [placeInLoop, loopRemaining]
    omega
  have hin : program.placeInLoop place <
      program.width * program.chunkBytes channel (place / program.loopSpan) := by
    rw [placeInLoop] at hleft ⊢
    omega
  have hpositive : 0 < program.chunkBytes channel (place / program.loopSpan) := by
    rcases Nat.eq_zero_or_pos (program.chunkBytes channel (place / program.loopSpan)) with h | h
    · rw [h, Nat.mul_zero] at hin
      omega
    · exact h
  have hcut := Nat.div_add_mod (program.placeInLoop place)
    (program.chunkBytes channel (place / program.loopSpan))
  have hrest := Nat.mod_lt (program.placeInLoop place) hpositive
  rw [Nat.mul_comm] at hcut
  rw [← chunkOf, ← placeInChunk] at hcut
  rw [← placeInChunk] at hrest
  refine ⟨(Nat.div_lt_iff_lt_mul hpositive).mpr hin, ?_, ?_⟩
  · rw [usefulBytes]
    omega
  · rw [hcut, placeInLoop]
    exact hsplit.symm

section Placement

variable {program} {channel loop} {ringIndex stage : Nat} {primitive : NcclPrimitive}

section

variable (h : primitive ∈ program.stageSlices channel ringIndex loop stage)

include h

theorem sliceParts : (program.stageParts channel ringIndex loop stage)[primitive.sliceIndex]? =
      some primitive.usefulBytes := by
  obtain ⟨sliceIndex, size, hslice, rfl⟩ := mem_stageSlices h
  exact mk_mem_zipIdx_iff_getElem?.mp hslice

theorem offsetBytes_eq :
    primitive.offsetBytes = program.channelBase channel + loop * program.loopSpan +
      chunkAt program.width ringIndex stage * program.chunkBytes channel loop +
      ((program.stageParts channel ringIndex loop stage).take primitive.sliceIndex).sum := by
  obtain ⟨sliceIndex, size, -, rfl⟩ := mem_stageSlices h
  rfl

theorem slice_le :
    ((program.stageParts channel ringIndex loop stage).take primitive.sliceIndex).sum +
        primitive.usefulBytes ≤
      program.usefulBytes channel loop (chunkAt program.width ringIndex stage) := by
  have hget := sliceParts h
  have hlt := (List.getElem?_eq_some_iff.mp hget).1
  have hsum := take_sum_add_le hlt hget
  rwa [take_length, stageParts, chunkParts_sum] at hsum

theorem byte_unique {byte : Nat} (hlow : primitive.offsetBytes ≤ byte)
    (hhigh : byte < primitive.offsetBytes + primitive.usefulBytes) :
    ∃ place < program.channelCount channel, byte = program.channelBase channel + place ∧
      loop = place / program.loopSpan ∧
      chunkAt program.width ringIndex stage = program.chunkOf channel place ∧
      ((program.stageParts channel ringIndex loop stage).take primitive.sliceIndex).sum ≤
        program.placeInChunk channel place ∧
      program.placeInChunk channel place <
        ((program.stageParts channel ringIndex loop stage).take primitive.sliceIndex).sum +
          primitive.usefulBytes := by
  have hoffset := offsetBytes_eq h
  have hle := slice_le h
  have hwithin : byte - program.channelBase channel - loop * program.loopSpan -
      chunkAt program.width ringIndex stage * program.chunkBytes channel loop <
      program.usefulBytes channel loop (chunkAt program.width ringIndex stage) := by omega
  obtain ⟨hplace, hloop, hchunk, hinside⟩ := program.place_unique channel loop
    (program.chunkAt_lt ringIndex stage) hwithin
    (show byte - program.channelBase channel = _ by omega)
  refine ⟨_, hplace, by omega, hloop, hchunk, ?_, ?_⟩ <;> rw [← hinside] <;> omega

end

theorem byte_exists (hring : ringIndex < program.width) {place : Nat}
    (hplace : place < program.channelCount channel) :
    ∃ primitive ∈ program.ringPrimitives channel ringIndex, program.width - 1 ≤ primitive.stage ∧
      primitive.outputStore = true ∧
      primitive.offsetBytes ≤ program.channelBase channel + place ∧
      program.channelBase channel + place < primitive.offsetBytes + primitive.usefulBytes := by
  obtain ⟨hchunk, hinside, hsplit⟩ := program.place_exists channel hplace
  obtain ⟨stage, hstage, hstore, hat, -⟩ := exists_store_stage program.width_eq hring hchunk
  rw [← chunkParts_sum program.protocol (program.usefulBytes _ _ _)] at hinside
  obtain ⟨sliceIndex, size, hslice, hlow, hhigh⟩ := exists_part hinside
  rw [← hat] at hslice hlow hhigh hsplit
  have hmem : program.slicePrimitive channel ringIndex (place / program.loopSpan) stage
      (chunkAt program.width ringIndex stage) sliceIndex size (program.stripeList size) ∈
      program.stageSlices channel ringIndex (place / program.loopSpan) stage :=
    mem_map.mpr ⟨(size, sliceIndex), mk_mem_zipIdx_iff_getElem?.mpr hslice, rfl⟩
  have hoffset := offsetBytes_eq hmem
  have hloop := div_lt_ceilDiv program.loopSpan_pos hplace
  refine ⟨_, program.mem_ringPrimitives.mpr ⟨_, hloop, stage, hstage, hmem⟩, hstore,
    by simp [slicePrimitive, hstore], ?_⟩
  simp only [slicePrimitive]
  omega

theorem store_unique (hring : ringIndex < program.width) {first second : NcclPrimitive}
    (hfirst : first ∈ program.ringPrimitives channel ringIndex)
    (hsecond : second ∈ program.ringPrimitives channel ringIndex)
    (hstore : first.outputStore = true) (hstore' : second.outputStore = true) {byte : Nat}
    (hlow : first.offsetBytes ≤ byte) (hhigh : byte < first.offsetBytes + first.usefulBytes)
    (hlow' : second.offsetBytes ≤ byte) (hhigh' : byte < second.offsetBytes + second.usefulBytes) :
    first.programOrder = second.programOrder := by
  obtain ⟨loop, -, stage, hstage, hfirst⟩ := program.mem_ringPrimitives.mp hfirst
  obtain ⟨loop', -, stage', hstage', hsecond⟩ := program.mem_ringPrimitives.mp hsecond
  obtain ⟨place, hplace, hbyte, hloop, hchunk, hslice⟩ := byte_unique hfirst hlow hhigh
  obtain ⟨place', -, hbyte', hloop', hchunk', hslice'⟩ := byte_unique hsecond hlow' hhigh'
  obtain rfl : place = place' := by omega
  subst hloop hloop'
  -- the chunk is stored at one stage only
  have hstages : stage = stage' := by
    obtain ⟨at_, -, -, -, hunique⟩ := exists_store_stage program.width_eq hring
      (program.chunkAt_lt ringIndex stage)
    have hlate : program.width - 1 ≤ stage := by
      obtain ⟨_, _, -, rfl⟩ := mem_stageSlices hfirst
      simpa [slicePrimitive] using hstore
    have hlate' : program.width - 1 ≤ stage' := by
      obtain ⟨_, _, -, rfl⟩ := mem_stageSlices hsecond
      simpa [slicePrimitive] using hstore'
    rw [hunique stage hstage hlate rfl,
      hunique stage' hstage' hlate' (hchunk'.trans hchunk.symm)]
  subst hstages
  have hindex := part_unique (sliceParts hfirst) (sliceParts hsecond) hslice hslice'
  obtain ⟨hloop, hstage, -⟩ := stageSlices_fields hfirst
  obtain ⟨hloop', hstage', -⟩ := stageSlices_fields hsecond
  rw [NcclPrimitive.programOrder, NcclPrimitive.programOrder, hloop, hloop', hstage, hstage',
    hindex]

end Placement

end NcclRingProgram

section NetworkBytes

namespace NcclRingProgram

variable (program : NcclRingProgram)

def chunkTotal (channel chunkIndex : Nat) : Nat :=
  ((List.range (program.loopCount channel)).map fun loop =>
    program.usefulBytes channel loop chunkIndex).sum

theorem sent_bytes (channel ringIndex : Nat) :
    (((program.ringPrimitives channel ringIndex).filter NcclPrimitive.send).map
      NcclPrimitive.usefulBytes).sum =
      ((List.range (2 * program.width - 2)).map fun stage =>
        program.chunkTotal channel (chunkAt program.width ringIndex stage)).sum := by
  have hstage : ∀ loop stage, ((program.stageSlices channel ringIndex loop stage).map
      NcclPrimitive.usefulBytes).sum =
        program.usefulBytes channel loop (chunkAt program.width ringIndex stage) := by
    intro loop stage
    rw [stageSlices, map_map]
    have hsizes := zipIdx_map_fst 0 (program.stageParts channel ringIndex loop stage)
    exact (congrArg List.sum hsizes).trans (chunkParts_sum _ _)
  rw [filter_send]
  simp only [sum_map_flatMap, hstage, chunkTotal]
  exact sum_map_sum_comm _ _ _

theorem chunkTotal_sum (channel : Nat) :
    ((List.range program.width).map (program.chunkTotal channel)).sum =
      program.channelCount channel := by
  have hloop : ∀ loop, ((List.range program.width).map fun chunkIndex =>
      program.usefulBytes channel loop chunkIndex).sum =
        min program.loopSpan (program.channelCount channel - loop * program.loopSpan) := by
    intro loop
    have hcells := sum_cells (program.loopRemaining channel loop)
      (program.chunkBytes channel loop) program.width
    rw [program.chunks_reach] at hcells
    rw [min_comm]
    exact hcells
  show ((List.range program.width).map fun chunkIndex =>
    ((List.range (program.loopCount channel)).map fun loop =>
      program.usefulBytes channel loop chunkIndex).sum).sum = _
  rw [sum_map_sum_comm]
  simp only [hloop, sum_cells]
  exact min_eq_left (le_ceilDiv_mul _ program.loopSpan_pos)

theorem map_getD_range (entries : List Nat) :
    (List.range entries.length).map (fun index => entries.getD index 0) = entries := by
  refine ext_getElem (by simp) fun index _ _ => by simp_all

theorem ringIndex_perm {channel : Nat} (hchannel : channel < program.channelBytes.length) :
    ((List.range program.width).map (program.ringIndex channel)).Perm
      (List.range program.width) := by
  have horder := program.order_perm hchannel
  have hnodup := horder.nodup_iff.mpr program.checked.2.1
  have hpositions : (program.ranksForChannel channel).map (program.ranksForChannel channel).idxOf =
      List.range program.width := by
    refine ext_getElem (by simp [horder.length_eq, width]) fun index hindex _ => ?_
    rw [getElem_map, getElem_range]
    exact hnodup.idxOf_getElem _ _
  have hranks : (List.range program.width).map (program.ringIndex channel) =
      program.ranks.map (program.ranksForChannel channel).idxOf := by
    conv_rhs => rw [← map_getD_range program.ranks, map_map]
    rfl
  rw [hranks, ← hpositions]
  exact horder.symm.map _

theorem usefulNetworkBytes_eq :
    program.usefulNetworkBytes = .ok (2 * (program.width - 1) * program.payloadBytes) := by
  obtain ⟨-, -, -, hsum, -⟩ := program.checked
  have hchannel : ∀ channel ∈ List.range program.channelBytes.length,
      (List.sum <$> (List.range program.width).mapM fun rank => do
        let primitives ← program.primitives channel rank
        (.ok ((primitives.filter NcclPrimitive.send).map NcclPrimitive.usefulBytes).sum :
          Except PyError Nat)) =
        .ok ((2 * program.width - 2) * program.channelCount channel) := by
    intro channel hchannel
    have hperm := program.ringIndex_perm (mem_range.mp hchannel)
    have hblock : ∀ rank ∈ List.range program.width, (do
        let primitives ← program.primitives channel rank
        (.ok ((primitives.filter NcclPrimitive.send).map NcclPrimitive.usefulBytes).sum :
          Except PyError Nat)) = .ok (((List.range (2 * program.width - 2)).map fun stage =>
            program.chunkTotal channel
              (chunkAt program.width (program.ringIndex channel rank) stage)).sum) := by
      intro rank hrank
      have hring := mem_range.mp (hperm.subset (mem_map_of_mem hrank))
      rw [program.primitives_eq (mem_range.mp hchannel) (mem_range.mp hrank) hring,
        ok_bind, sent_bytes]
    rw [mapM_eq_map hblock]
    refine congrArg Except.ok ?_
    have hsums := (hperm.map fun position => ((List.range (2 * program.width - 2)).map fun stage =>
      program.chunkTotal channel (chunkAt program.width position stage)).sum).sum_nat
    rw [map_map] at hsums
    rw [← program.chunkTotal_sum channel, ← sum_chunkAt program.width_eq]
    exact hsums
  rw [usefulNetworkBytes, networkBytes, mapM_eq_map hchannel]
  refine congrArg Except.ok ?_
  rw [sum_map_mul_left, ← hsum]
  conv_rhs => rw [← map_getD_range program.channelBytes]
  rw [show 2 * program.width - 2 = 2 * (program.width - 1) by omega]
  rfl

end NcclRingProgram

end NetworkBytes

section Slots

def NcclProtocol.stripeBytes : NcclProtocol → Nat
  | ll => 512
  | ll128 => 2048
  | simple => 512

theorem protocolStripe_encoded (payload : Nat) (protocol : NcclProtocol) (warps index : Nat) :
    (protocolStripe payload protocol warps index).encodedBytes ≤ protocol.stripeBytes := by
  cases protocol <;>
    simp only [protocolStripe, NcclProtocol.stripeBytes, NcclProtocol.quantum, ceilDiv] <;> omega

theorem stripes_fit {protocol : NcclProtocol} {useful size : Nat}
    (huseful : useful ≤ protocol.chunkLimit) (hsize : size ∈ chunkParts protocol useful) :
    ceilDiv size protocol.quantum * protocol.stripeBytes ≤
      (if protocol = .simple then 2 else 1) * protocol.slotBytes := by
  cases protocol <;>
    simp only [chunkParts, NcclProtocol.chunkLimit, NcclProtocol.quantum, NcclProtocol.stripeBytes,
      NcclProtocol.slotBytes, NcclProtocol.bufferBytes, ceilDiv, mem_cons, not_mem_nil,
      or_false, reduceCtorEq, if_true, if_false] at huseful hsize ⊢ <;> omega

namespace NcclRingProgram

variable (program : NcclRingProgram)

theorem encodedBytes_le {channel ringIndex : Nat} {primitive : NcclPrimitive}
    (h : primitive ∈ program.ringPrimitives channel ringIndex) :
    primitive.encodedBytes ≤ primitive.steps * program.protocol.slotBytes := by
  obtain ⟨loop, -, stage, -, h⟩ := program.mem_ringPrimitives.mp h
  obtain ⟨sliceIndex, size, hslice, rfl⟩ := mem_stageSlices h
  have huseful : program.usefulBytes channel loop (chunkAt program.width ringIndex stage) ≤
      program.protocol.chunkLimit := by
    rw [usefulBytes, chunkBytes]
    omega
  have hstripes : ∀ bytes ∈ ((program.stripeList size).map NcclStripe.encodedBytes),
      bytes ≤ program.protocol.stripeBytes := by
    intro bytes hbytes
    simp only [stripeList, map_map, mem_map] at hbytes
    obtain ⟨index, -, rfl⟩ := hbytes
    exact protocolStripe_encoded size program.protocol program.workers index
  refine (sum_le_card_nsmul _ _ hstripes).trans ?_
  simpa [stripeList, slicePrimitive] using
    stripes_fit huseful (fst_mem_of_mem_zipIdx hslice)

end NcclRingProgram

end Slots

section Stored

variable {A : Type} [AddCommMonoid A]

def storedAt (byte : Nat) (entry : NcclPrimitive × NcclMessage A) : Option A :=
  if entry.1.outputStore && decide (entry.1.offsetBytes ≤ byte) then
    entry.2.data[byte - entry.1.offsetBytes]?
  else none

namespace NcclRingProgram

variable (program : NcclRingProgram) (source : Nat → Nat → A)

def positionsOf (channel : Fin program.channelBytes.length) (rank : Nat) :
    List (Fin program.width) :=
  (List.finRange program.width).filter fun position => program.rankAt (channel, position) == rank

def storedValues (state : ProcessRing.State program.Block NcclPrimitive (NcclMessage A))
    (rank byte : Nat) : List A :=
  (List.finRange program.channelBytes.length).flatMap fun channel =>
    (program.positionsOf channel rank).flatMap fun position =>
      (state.log (channel, position)).filterMap (storedAt byte)

theorem storedAt_meaning (block : program.Block) (primitive : NcclPrimitive) (byte : Nat) :
    storedAt byte (primitive, program.meaning source block primitive) =
      if primitive.outputStore = true ∧ primitive.offsetBytes ≤ byte ∧
          byte < primitive.offsetBytes + primitive.usefulBytes then
        some (carried (fun position => source (program.rankAt (block.1, position)) byte)
          primitive.stage block.2)
      else none := by
  simp only [storedAt, meaning, NcclPrimitive.ownData, Bool.and_eq_true, decide_eq_true_eq]
  by_cases hlow : primitive.offsetBytes ≤ byte
  · by_cases hhigh : byte < primitive.offsetBytes + primitive.usefulBytes
    · have hat : primitive.offsetBytes + (byte - primitive.offsetBytes) = byte := by omega
      have hlength : byte - primitive.offsetBytes < primitive.usefulBytes := by omega
      simp [hlow, hhigh, hat, hlength]
    · have hlength : primitive.usefulBytes ≤ byte - primitive.offsetBytes := by omega
      simp [hlow, hhigh, hlength]
  · simp [hlow]

/-- A block that has finished has stored the complete sum at every byte of its channel once. -/
theorem block_stores (block : program.Block) (byte : Nat) :
    ((program.blockPrimitives block).map fun primitive =>
      (primitive, program.meaning source block primitive)).filterMap (storedAt byte) =
      (if program.channelBase block.1 ≤ byte ∧
          byte < program.channelBase block.1 + program.channelCount block.1 then
        some (∑ position, source (program.rankAt (block.1, position)) byte)
      else none).toList := by
  rw [program.blockPrimitives_eq, filterMap_map]
  have hvalue : ∀ primitive, (storedAt byte ∘ fun primitive =>
      (primitive, program.meaning source block primitive)) primitive = _ :=
    fun primitive => program.storedAt_meaning source block primitive byte
  by_cases hbyte : program.channelBase block.1 ≤ byte ∧
      byte < program.channelBase block.1 + program.channelCount block.1
  · obtain ⟨primitive, hmem, hstage, hstore, hlow, hhigh⟩ := byte_exists block.2.isLt
      (show byte - program.channelBase block.1 < program.channelCount block.1 by omega)
    rw [Nat.add_sub_cancel' hbyte.1] at hlow hhigh
    rw [if_pos hbyte]
    refine filterMap_eq_singleton (program.ringPrimitives_sorted block.1 block.2) hmem ?_ ?_
    · rw [hvalue, if_pos ⟨hstore, hlow, hhigh⟩, carried_eq_sum _ (by omega)]
    · intro other hother hsome
      rw [hvalue] at hsome
      split at hsome
      · next h => exact store_unique block.2.isLt hother hmem h.1 hstore h.2.1 h.2.2 hlow hhigh
      · simp at hsome
  · rw [if_neg hbyte]
    refine filterMap_eq_nil_iff.mpr fun primitive hmem => ?_
    rw [hvalue, if_neg]
    rintro ⟨-, hlow, hhigh⟩
    obtain ⟨loop, -, stage, -, hmem⟩ := program.mem_ringPrimitives.mp hmem
    obtain ⟨place, hplace, hat, -⟩ := byte_unique hmem hlow hhigh
    omega

theorem sum_positions (channel : Fin program.channelBytes.length) (byte : Nat) :
    ∑ position, source (program.rankAt (channel, position)) byte =
      (program.ranks.map fun rank => source rank byte).sum := by
  have horder := program.order_perm channel.isLt
  rw [← (horder.map fun rank => source rank byte).sum_eq, ← Fin.sum_univ_fun_getElem]
  refine Fintype.sum_equiv (finCongr horder.length_eq.symm) _ _ fun position => ?_
  obtain ⟨hlt, hat⟩ := List.getElem?_eq_some_iff.mp (program.rankAt_eq (channel, position))
  simp [← hat]

theorem positionsOf_eq (channel : Fin program.channelBytes.length) {rank : Nat}
    (hrank : rank ∈ program.ranks) : ∃ position, program.positionsOf channel rank = [position] := by
  have horder := program.order_perm channel.isLt
  have hindex := idxOf_lt_length_of_mem (horder.mem_iff.mpr hrank)
  let position : Fin program.width :=
    ⟨(program.ranksForChannel channel).idxOf rank, by rwa [horder.length_eq] at hindex⟩
  have hposition : program.rankAt (channel, position) = rank := by
    simp [rankAt, position, hindex]
  refine ⟨position, ?_⟩
  rw [positionsOf, ← filterMap_eq_filter]
  refine filterMap_eq_singleton (pairwise_lt_finRange _) (mem_finRange position)
    (by simp [Option.guard, hposition]) fun other _ hother => ?_
  have hsame : program.rankAt (channel, other) = rank := by
    simpa [Option.guard] using hother
  rw [← program.idxOf_rankAt (channel, other), hsame]

theorem stored_when_finished {state : ProcessRing.State program.Block NcclPrimitive (NcclMessage A)}
    (h : (program.network source).Coherent (program.meaning source)
      NcclPrimitive.programOrder state)
    (hfinished : ∀ block, state.rest block = []) {rank : Nat} (hrank : rank ∈ program.ranks)
    (byte : Nat) : program.storedValues state rank byte =
      if byte < program.payloadBytes then [(program.ranks.map fun rank => source rank byte).sum]
      else [] := by
  have hchannel : ∀ channel, ((program.positionsOf channel rank).flatMap fun position =>
      (state.log (channel, position)).filterMap (storedAt byte)) =
        (if program.channelBase channel ≤ byte ∧
          byte < program.channelBase channel + program.channelCount channel then
        some (program.ranks.map fun rank => source rank byte).sum else none).toList := by
    intro channel
    obtain ⟨position, hposition⟩ := program.positionsOf_eq channel hrank
    rw [hposition, flatMap_singleton, h.log_eq (hfinished _),
      ← program.sum_positions source channel byte]
    exact program.block_stores source (channel, position) byte
  obtain ⟨-, -, -, hsum, -⟩ := program.checked
  simp only [storedValues, hchannel, ← filterMap_eq_flatMap_toList]
  split
  · next hbyte =>
    rw [← hsum] at hbyte
    obtain ⟨channel, size, hsize, hlow, hhigh⟩ := exists_part hbyte
    have hlt := (List.getElem?_eq_some_iff.mp hsize).1
    have hcount : ∀ {channel size : Nat}, program.channelBytes[channel]? = some size →
        program.channelCount channel = size := fun h => by simp [channelCount, h]
    refine filterMap_eq_singleton (pairwise_lt_finRange _)
      (mem_finRange ⟨channel, hlt⟩) (if_pos ⟨hlow, by rwa [hcount hsize]⟩) ?_
    intro other _ hsome
    split at hsome
    · next hother =>
      have hget := getElem?_eq_getElem other.isLt
      refine part_unique hget hsize ?_ ⟨hlow, hhigh⟩
      rwa [hcount hget] at hother
    · simp at hsome
  · next hbyte =>
    refine filterMap_eq_nil_iff.mpr fun channel _ => if_neg fun hin => hbyte ?_
    have hget := getElem?_eq_getElem channel.isLt
    have hend := take_sum_add_le channel.isLt hget
    rw [take_length, hsum] at hend
    have hcount : program.channelCount channel = program.channelBytes[channel.val] := by
      simp [channelCount]
    rw [channelBase, hcount] at hin
    omega

/-- The ring is an allreduce. In every interleaving of the blocks no message meets the wrong
primitive, some continuation finishes all of them, and none is stuck before; then every rank has
stored every payload byte once, with the sum of what each rank contributed. The useful bytes sent
are those of a ring, and what each primitive sends fits the slots of its steps. -/
theorem nccl_ring_allreduce :
    (∀ schedule, ∃ state,
      (program.network source).run schedule (program.network source).start = .ok state ∧
      ((∃ block, state.rest block ≠ []) →
        ∃ block, (program.network source).ready state block = true) ∧
      (∃ more final, (program.network source).run more state = .ok final ∧
        ∀ block, final.rest block = []) ∧
      ((∀ block, state.rest block = []) → ∀ rank ∈ program.ranks, ∀ byte,
        program.storedValues state rank byte =
          if byte < program.payloadBytes then
            [(program.ranks.map fun rank => source rank byte).sum]
          else [])) ∧
    program.usefulNetworkBytes = .ok (2 * (program.width - 1) * program.payloadBytes) ∧
    ∀ channel < program.channelBytes.length, ∀ rankIndex < program.width, ∃ primitives,
      program.primitives channel rankIndex = .ok primitives ∧
      ∀ primitive ∈ primitives,
        primitive.encodedBytes ≤ primitive.steps * program.protocol.slotBytes := by
  have hmatched := program.network_matched source
  refine ⟨fun schedule => ?_, program.usefulNetworkBytes_eq, fun channel hchannel rank hrank => ?_⟩
  · obtain ⟨state, hrun, hstate⟩ := hmatched.start.run hmatched schedule
    refine ⟨state, hrun, ?_, hstate.completes hmatched, ?_⟩
    · rintro ⟨block, hblock⟩
      exact hstate.exists_ready hmatched hblock
    · intro hfinished rank hrank byte
      exact program.stored_when_finished source hstate hfinished hrank byte
  · have hring := mem_range.mp ((program.ringIndex_perm hchannel).subset
      (mem_map_of_mem (mem_range.mpr hrank)))
    exact ⟨_, program.primitives_eq hchannel hrank hring, fun _ => program.encodedBytes_le⟩

example : ∃ program : NcclRingProgram, program.width = 4 ∧ program.protocol = .simple :=
  ⟨⟨{ payloadBytes := 4100, ranks := [3, 1, 0, 2], protocol := .simple, channelBytes := [4096, 4]
      warps := 17, channelRankOrders := some [[0, 1, 2, 3], [3, 1, 0, 2]] }, by decide⟩, rfl, rfl⟩

end NcclRingProgram

end Stored

end SimLLM
