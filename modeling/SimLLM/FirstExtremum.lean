import Mathlib

namespace FirstExtremum

variable {α κ : Type} [LinearOrder κ]

def maxBy (key : α → κ) : List α → Option α
  | [] => none
  | x :: xs => some (xs.foldl (fun best y => if key best < key y then y else best) x)

def minBy (key : α → κ) : List α → Option α
  | [] => none
  | x :: xs => some (xs.foldl (fun best y => if key y < key best then y else best) x)

private theorem foldl_max_spec (key : α → κ) (xs : List α) (x : α) :
    let best := xs.foldl (fun best y => if key best < key y then y else best) x
    best ∈ x :: xs ∧ ∀ y ∈ x :: xs, key y ≤ key best := by
  induction xs generalizing x with
  | nil => simp
  | cons z zs ih =>
    simp only [List.foldl_cons]
    split
    next hlt =>
      obtain ⟨hm, hb⟩ := ih z
      refine ⟨by simp [List.mem_cons.mp hm], ?_⟩
      exact List.forall_mem_cons.mpr ⟨le_trans (le_of_lt hlt) (hb z (by simp)), hb⟩
    next hle =>
      obtain ⟨hm, hb⟩ := ih x
      refine ⟨by rcases List.mem_cons.mp hm with h | h <;> simp [h], ?_⟩
      intro y hy
      rcases List.mem_cons.mp hy with rfl | hy
      · exact hb _ (by simp)
      · rcases List.mem_cons.mp hy with rfl | hy
        · exact le_trans (not_lt.mp hle) (hb x (by simp))
        · exact hb y (by simp [hy])

variable {key : α → κ} {xs : List α}

theorem exists_maxBy (key : α → κ) (h : xs ≠ []) : ∃ best, maxBy key xs = some best := by
  cases xs with
  | nil => cases h rfl
  | cons x xs => exact ⟨_, rfl⟩

theorem maxBy_mem {best : α} (h : maxBy key xs = some best) : best ∈ xs := by
  cases xs with
  | nil => simp [maxBy] at h
  | cons x xs =>
    cases h
    exact (foldl_max_spec key xs x).1

theorem le_maxBy {best y : α} (h : maxBy key xs = some best) (hy : y ∈ xs) : key y ≤ key best := by
  cases xs with
  | nil => simp at hy
  | cons x xs =>
    cases h
    exact (foldl_max_spec key xs x).2 y hy

theorem minBy_eq_maxBy_dual (key : α → κ) (xs : List α) :
    minBy key xs = maxBy (fun x => OrderDual.toDual (key x)) xs := by
  cases xs with
  | nil => rfl
  | cons x xs => rfl

theorem exists_minBy (key : α → κ) (h : xs ≠ []) : ∃ best, minBy key xs = some best := by
  rw [minBy_eq_maxBy_dual]
  exact exists_maxBy _ h

theorem minBy_mem {best : α} (h : minBy key xs = some best) : best ∈ xs :=
  maxBy_mem ((minBy_eq_maxBy_dual key xs).symm.trans h)

theorem minBy_le {best y : α} (h : minBy key xs = some best) (hy : y ∈ xs) : key best ≤ key y := by
  rw [minBy_eq_maxBy_dual] at h
  have hle := le_maxBy h hy
  exact OrderDual.toDual_le_toDual.mp hle

theorem perm_cons_eraseP {ι : Type} [DecidableEq ι] {id : α → ι} {x : α}
    (hnodup : (xs.map id).Nodup) (hmem : x ∈ xs) :
    xs.Perm (x :: xs.eraseP (id · == id x)) := by
  obtain ⟨taken, before, after, -, htaken, hsplit, herase⟩ :=
    List.exists_of_eraseP hmem (p := (id · == id x)) (by simp)
  obtain rfl : taken = x :=
    List.inj_on_of_nodup_map hnodup (by simp [hsplit]) hmem (by simpa using htaken)
  rw [herase, hsplit]
  exact List.perm_middle

end FirstExtremum
