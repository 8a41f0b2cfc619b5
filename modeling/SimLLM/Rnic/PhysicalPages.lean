import SimLLM.Rnic.PeerMemory

namespace SimLLM.Rnic

theorem div_eq_of_mem_page {page byte size frame : Nat} (hsize : 0 < size) (haligned : size ∣ page)
    (hframe : size ∣ frame) (hlow : page ≤ byte) (hhigh : byte < page + size) :
    byte / frame = page / frame := by
  obtain ⟨index, rfl⟩ := haligned
  obtain ⟨count, rfl⟩ := hframe
  have hbyte : byte / size = index := by
    apply Nat.div_eq_of_lt_le
    · rwa [Nat.mul_comm]
    · rwa [Nat.add_mul, Nat.one_mul, Nat.mul_comm]
  rw [← Nat.div_div_eq_div_mul, ← Nat.div_div_eq_div_mul, hbyte, Nat.mul_div_cancel_left _ hsize]

theorem pages_meet_iff {page other size frame : Nat} (hsize : 0 < size) (hframe : size ∣ frame)
    (hpositive : 0 < frame) (haligned : size ∣ page) (hother : frame ∣ other) :
    (∃ byte, (page ≤ byte ∧ byte < page + size) ∧ other ≤ byte ∧ byte < other + frame) ↔
      page / frame = other / frame := by
  constructor
  · rintro ⟨byte, ⟨hlow, hhigh⟩, hlow', hhigh'⟩
    rw [← div_eq_of_mem_page hsize haligned hframe hlow hhigh]
    exact div_eq_of_mem_page hpositive hother (Nat.dvd_refl frame) hlow' hhigh'
  · intro hsame
    have hother' := Nat.div_mul_cancel hother
    have hlow := Nat.div_mul_le_self page frame
    have hhigh : page < page / frame * frame + frame := Nat.lt_div_mul_add hpositive
    rw [hsame, hother'] at hlow hhigh
    exact ⟨page, ⟨Nat.le_refl page, by omega⟩, hlow, hhigh⟩

theorem isPowerOfTwo_dvd {lhs rhs : Nat} (hl : isPowerOfTwo lhs = true)
    (hr : isPowerOfTwo rhs = true) (hle : lhs ≤ rhs) : lhs ∣ rhs := by
  have hpower : ∀ value, isPowerOfTwo value = true → ∃ k, value = 2 ^ k := by
    intro value hvalue
    simp only [isPowerOfTwo, Bool.and_eq_true, bne_iff_ne, ne_eq, beq_iff_eq] at hvalue
    exact Nat.ne_zero_and_sub_one_eq_zero_iff_isPowerOfTwo.mp hvalue
  obtain ⟨i, rfl⟩ := hpower lhs hl
  obtain ⟨j, rfl⟩ := hpower rhs hr
  exact Nat.pow_dvd_pow 2 ((Nat.pow_le_pow_iff_right (by omega)).mp hle)

def HostMemoryAllocation.Contains (allocation : HostMemoryAllocation) (byte : Nat) : Prop :=
  ∃ page ∈ allocation.pages.physicalPageAddresses,
    page ≤ byte ∧ byte < page + allocation.pages.pageSizeBytes

def HostMemoryAllocation.Covers (allocation : HostMemoryAllocation) (byte : Nat) : Prop :=
  allocation.virtualAddress ≤ byte ∧ byte < allocation.virtualAddress + allocation.lengthBytes

def PhysicallyApart (lhs rhs : HostMemoryAllocation) : Prop :=
  lhs.endpoint = rhs.endpoint → ∀ byte, ¬ (lhs.Contains byte ∧ rhs.Contains byte)

def VirtuallyApart (lhs rhs : HostMemoryAllocation) : Prop :=
  lhs.endpoint = rhs.endpoint → ∀ byte, ¬ (lhs.Covers byte ∧ rhs.Covers byte)

def framesMeet (lhs rhs : HostMemoryAllocation) : Bool :=
  let frame := max lhs.pages.pageSizeBytes rhs.pages.pageSizeBytes
  lhs.endpoint == rhs.endpoint && lhs.pages.physicalPageAddresses.any fun page =>
    rhs.pages.physicalPageAddresses.any fun other => page / frame == other / frame

structure AlignedPages (allocation : HostMemoryAllocation) : Prop where
  power : isPowerOfTwo allocation.pages.pageSizeBytes = true
  large : 4096 ≤ allocation.pages.pageSizeBytes
  aligned : ∀ page ∈ allocation.pages.physicalPageAddresses, allocation.pages.pageSizeBytes ∣ page

theorem validatePhysicalPages_eq_ok {size : Nat} {seen pages : List Nat}
    (h : validatePhysicalPages size seen pages = .ok ()) : ∀ page ∈ pages, size ∣ page := by
  induction pages generalizing seen with
  | nil => simp
  | cons page rest ih =>
    obtain ⟨_, hfirst, h⟩ := of_bind h
    intro other hother
    rcases List.mem_cons.mp hother with rfl | hother
    · rw [require_eq_ok, Bool.and_eq_true, beq_iff_eq] at hfirst
      exact Nat.dvd_of_mod_eq_zero hfirst.1
    · exact ih h other hother

theorem validateAllocation_eq_ok {allocation : HostMemoryAllocation}
    (h : validateAllocation allocation = .ok ()) : AlignedPages allocation := by
  replace h := of_check h
  replace h := of_check h
  replace h := of_check h
  replace h := of_check h
  replace h := of_check h
  replace h := of_check h
  obtain ⟨_, hgeometry, h⟩ := of_bind h
  obtain ⟨_, hpages, _⟩ := of_bind h
  rw [require_eq_ok, Bool.and_eq_true, Bool.and_eq_true, decide_eq_true_eq] at hgeometry
  exact ⟨hgeometry.1.1, hgeometry.1.2, validatePhysicalPages_eq_ok hpages⟩

theorem framesMeet_comm (lhs rhs : HostMemoryAllocation) :
    framesMeet lhs rhs = framesMeet rhs lhs := by
  rw [Bool.eq_iff_iff]
  simp only [framesMeet, Bool.and_eq_true, beq_iff_eq, List.any_eq_true, Nat.max_comm]
  constructor
  · rintro ⟨hendpoint, page, hpage, other, hother, hsame⟩
    exact ⟨hendpoint.symm, other, hother, page, hpage, hsame.symm⟩
  · rintro ⟨hendpoint, page, hpage, other, hother, hsame⟩
    exact ⟨hendpoint.symm, other, hother, page, hpage, hsame.symm⟩

variable {lhs rhs : HostMemoryAllocation}

theorem PhysicallyApart.symm (h : PhysicallyApart lhs rhs) : PhysicallyApart rhs lhs :=
  fun hendpoint byte hboth => h hendpoint.symm byte hboth.symm

theorem physicallyApart_iff (hl : AlignedPages lhs) (hr : AlignedPages rhs) :
    PhysicallyApart lhs rhs ↔ framesMeet lhs rhs = false := by
  -- the smaller page size divides the larger one, so the statement is about the larger one
  wlog hle : lhs.pages.pageSizeBytes ≤ rhs.pages.pageSizeBytes generalizing lhs rhs
  · rw [framesMeet_comm, ← this hr hl (by omega)]
    exact ⟨PhysicallyApart.symm, PhysicallyApart.symm⟩
  have hlarge := hl.large
  have hdvd := isPowerOfTwo_dvd hl.power hr.power hle
  have hmeet := fun page hpage other hother =>
    pages_meet_iff (by omega) hdvd (by omega) (hl.aligned page hpage) (hr.aligned other hother)
  have hframe := Nat.max_eq_right hle
  rw [← Bool.not_eq_true]
  simp only [framesMeet, hframe, Bool.and_eq_true, beq_iff_eq, List.any_eq_true]
  constructor
  · rintro hapart ⟨hendpoint, page, hpage, other, hother, hsame⟩
    obtain ⟨byte, hbyte, hbyte'⟩ := (hmeet page hpage other hother).mpr hsame
    exact hapart hendpoint byte ⟨⟨page, hpage, hbyte⟩, other, hother, hbyte'⟩
  · rintro hframes hendpoint byte ⟨⟨page, hpage, hbyte⟩, other, hother, hbyte'⟩
    have hsame := (hmeet page hpage other hother).mp ⟨byte, hbyte, hbyte'⟩
    exact hframes ⟨hendpoint, page, hpage, other, hother, hsame⟩

theorem virtuallyApart_of_not_overlap (h : extentsOverlap lhs rhs = false) :
    VirtuallyApart lhs rhs := by
  rintro hendpoint byte ⟨⟨hlow, hhigh⟩, hlow', hhigh'⟩
  simp only [extentsOverlap, hendpoint, beq_self_eq_true, Bool.true_and,
    Bool.and_eq_false_imp, decide_eq_true_eq, decide_eq_false_iff_not] at h
  omega

end SimLLM.Rnic
