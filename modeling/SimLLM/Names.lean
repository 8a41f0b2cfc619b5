import Mathlib

namespace Names

open List

theorem separator_inj {α : Type} {c : α} {a b s t : List α} (ha : c ∉ a) (hb : c ∉ b)
    (h : a ++ c :: s = b ++ c :: t) : a = b ∧ s = t := by
  rcases append_eq_append_iff.mp h with ⟨middle, rfl, hmiddle⟩ | ⟨middle, rfl, hmiddle⟩
  all_goals cases middle <;> simp_all

theorem isDigit_of_mem_toString {n : Nat} {c : Char} (h : c ∈ (toString n).toList) :
    c.isDigit = true := by
  rw [Nat.toString_eq_repr, Nat.toList_repr] at h
  exact Nat.isDigit_of_mem_toDigits (by decide) (by decide) h

theorem colon_not_mem_toString (n : Nat) : ':' ∉ (toString n).toList := by
  intro h
  have hdigit := isDigit_of_mem_toString h
  revert hdigit
  decide

theorem toString_toList_inj {m n : Nat} (h : (toString m).toList = (toString n).toList) :
    m = n := by
  simp only [Nat.toString_eq_repr, Nat.toList_repr] at h
  rw [← Nat.ofDigitChars_ten_toDigits (n := m), h, Nat.ofDigitChars_ten_toDigits]

theorem numbered_inj {w : List Char} {m n : Nat} {s t : List Char}
    (h : w ++ (toString m).toList ++ ':' :: s = w ++ (toString n).toList ++ ':' :: t) :
    m = n ∧ s = t := by
  rw [append_assoc, append_assoc, append_cancel_left_eq] at h
  obtain ⟨hd, hs⟩ := separator_inj (colon_not_mem_toString m) (colon_not_mem_toString n) h
  exact ⟨toString_toList_inj hd, hs⟩

theorem flatMap_inj {α β : Type} {code : α → List β} (hne : ∀ a, code a ≠ [])
    (hcode : ∀ a b s t, code a ++ s = code b ++ t → a = b) {s t : List α}
    (h : s.flatMap code = t.flatMap code) : s = t := by
  induction s generalizing t with
  | nil =>
    cases t with
    | nil => rfl
    | cons b t => simp [hne] at h
  | cons a s ih =>
    cases t with
    | nil => simp [hne] at h
    | cons b t =>
      rw [flatMap_cons, flatMap_cons] at h
      obtain rfl := hcode a b _ _ h
      rw [ih (append_cancel_left h)]

end Names
