import Mathlib

/-! Weighted rounds over classes in a linear order: each class has a credit, a grant goes to the
first offered class with credit left, and a new round fills the offered classes when none has. -/

namespace CreditRounds

variable {ι : Type*} [LinearOrder ι] {weight credits next : ι → Nat} {offered labels : Finset ι}
  {winner c : ι}

def filled (weight credits : ι → Nat) (offered : Finset ι) : ι → Nat :=
  if ∀ l ∈ offered, credits l = 0 then fun l => if l ∈ offered then weight l else credits l
  else credits

structure Grant (weight : ι → Nat) (offered : Finset ι) (credits : ι → Nat) (winner : ι)
    (next : ι → Nat) : Prop where
  isOffered : winner ∈ offered
  credit : 0 < filled weight credits offered winner
  first : ∀ l ∈ offered, 0 < filled weight credits offered l → winner ≤ l
  spent : ∀ l, next l = filled weight credits offered l - if l = winner then 1 else 0

/-- How many grants the other classes can take before `c` has to be served. A class without
credit waits for the new round, and in it for the classes before it. -/
def waiting (weight : ι → Nat) (labels : Finset ι) (c : ι) (credits : ι → Nat) : Nat :=
  if 0 < credits c then ∑ l ∈ labels with l < c, credits l
  else ∑ l ∈ labels.erase c, credits l + ∑ l ∈ labels with l < c, weight l

theorem filled_le (hle : ∀ l, credits l ≤ weight l) (l : ι) :
    filled weight credits offered l ≤ weight l := by
  unfold filled
  split
  · dsimp only
    split
    · exact le_rfl
    · exact hle l
  · exact hle l

theorem filled_pos (hpos : ∀ l, 0 < weight l) (hne : offered.Nonempty) :
    ∃ l ∈ offered, 0 < filled weight credits offered l := by
  obtain ⟨l, hl⟩ := hne
  by_cases hround : ∀ l ∈ offered, credits l = 0
  · exact ⟨l, hl, by simp only [filled, if_pos hround, if_pos hl, hpos]⟩
  · obtain ⟨k, hk⟩ := not_forall.mp hround
    obtain ⟨hk, hcredit⟩ := Classical.not_imp.mp hk
    exact ⟨k, hk, by simpa only [filled, if_neg hround] using Nat.pos_of_ne_zero hcredit⟩

theorem waiting_le (hle : ∀ l, credits l ≤ weight l) : waiting weight labels c credits ≤
      ∑ l ∈ labels.erase c, weight l + ∑ l ∈ labels with l < c, weight l := by
  unfold waiting
  split
  · exact (Finset.sum_le_sum fun l _ => hle l).trans (Nat.le_add_left _ _)
  · exact Nat.add_le_add_right (Finset.sum_le_sum fun l _ => hle l) _

section

variable (grant : Grant weight offered credits winner next)

include grant

theorem Grant.le_weight (hle : ∀ l, credits l ≤ weight l) (l : ι) : next l ≤ weight l:= by
  rw [grant.spent]
  exact (Nat.sub_le _ _).trans (filled_le hle l)

theorem Grant.sum_spent (hw : winner ∈ labels) :
    ∑ l ∈ labels, next l + 1 = ∑ l ∈ labels, filled weight credits offered l := by
  have hrest : ∑ l ∈ labels.erase winner, next l =
      ∑ l ∈ labels.erase winner, filled weight credits offered l :=
    Finset.sum_congr rfl fun l hl => by
      rw [grant.spent, if_neg (Finset.ne_of_mem_erase hl), Nat.sub_zero]
  have hwinner : next winner + 1 = filled weight credits offered winner := by
    rw [grant.spent, if_pos rfl, Nat.sub_add_cancel grant.credit]
  rw [← Finset.add_sum_erase labels _ hw, ← Finset.add_sum_erase labels _ hw, hrest]
  omega

theorem Grant.waiting_lt
    (hpos : ∀ l, 0 < weight l) (hle : ∀ l, credits l ≤ weight l) (hsub : offered ⊆ labels)
    (hc : c ∈ offered) (hne : winner ≠ c) :
    waiting weight labels c next < waiting weight labels c credits := by
  have hkept : next c = filled weight credits offered c := by
    rw [grant.spent, if_neg hne.symm, Nat.sub_zero]
  have hearlier : 0 < filled weight credits offered c →
      ∑ l ∈ labels with l < c, next l + 1 =
        ∑ l ∈ labels with l < c, filled weight credits offered l := fun h =>
    grant.sum_spent (Finset.mem_filter.mpr
      ⟨hsub grant.isOffered, lt_of_le_of_ne (grant.first c hc h) hne⟩)
  by_cases hround : ∀ l ∈ offered, credits l = 0
  · -- a new round: `c` is filled and waits only for the classes before it
    have hfilled : filled weight credits offered c = weight c := by
      rw [filled, if_pos hround, if_pos hc]
    have hsum := hearlier (hfilled ▸ hpos c)
    have hbound : ∑ l ∈ labels with l < c, filled weight credits offered l ≤
        ∑ l ∈ labels with l < c, weight l := Finset.sum_le_sum fun l _ => filled_le hle l
    rw [waiting, if_pos (by rw [hkept, hfilled]; exact hpos c), waiting,
      if_neg (by rw [hround c hc]; exact Nat.lt_irrefl 0)]
    omega
  · have hfilled : filled weight credits offered = credits := if_neg hround
    rw [hfilled] at hkept hearlier
    rw [waiting, waiting, hkept]
    split
    next hcredit =>
      omega
    next =>
      have hsum := grant.sum_spent (Finset.mem_erase.mpr ⟨hne, hsub grant.isOffered⟩)
      rw [hfilled] at hsum
      omega

end

end CreditRounds
