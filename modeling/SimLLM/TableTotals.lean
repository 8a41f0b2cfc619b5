import SimLLM.Table

namespace Table

open List

variable {κ α : Type}

variable {table : Table κ α} {key : κ} {value : α}

def total (weight : α → Nat) (table : Table κ α) : Nat := (table.values.map weight).sum

@[simp] theorem total_cons (weight : α → Nat) (entry : κ × α) (rest : Table κ α) :
    total weight (entry :: rest) = weight entry.2 + total weight rest := by
  simp [total, values]

theorem total_one (table : Table κ α) : total (fun _ => 1) table = table.length := by
  simp [total, values, Function.comp_def]

theorem total_add (f g : α → Nat) (table : Table κ α) :
    total (fun x => f x + g x) table = total f table + total g table :=
  sum_map_add

theorem total_congr {f g : α → Nat} (h : ∀ x ∈ table.values, f x = g x) :
    total f table = total g table := by
  unfold total
  rw [map_congr_left h]

theorem weight_le_total (weight : α → Nat) {x : α} (h : x ∈ table.values) :
    weight x ≤ total weight table :=
  le_sum_of_mem (mem_map_of_mem h)

theorem countP_values (p : α → Bool) (table : Table κ α) :
    table.values.countP p = total (fun x => if p x then 1 else 0) table := by
  induction table with
  | nil => rfl
  | cons entry rest ih =>
    rw [total_cons, ← ih]
    simp only [values, map_cons, countP_cons]
    omega

def mapValues {β : Type} (f : α → β) (table : Table κ α) : Table κ β :=
  table.map fun entry => (entry.1, f entry.2)

@[simp] theorem keys_mapValues {β : Type} (f : α → β) (table : Table κ α) :
    (table.mapValues f).keys = table.keys := by
  simp [keys, mapValues, Function.comp_def]

variable [DecidableEq κ]

theorem value_mem_of_get? (h : table.get? key = some value) : value ∈ table.values :=
  mem_map.mpr ⟨(key, value), mem_of_get? h, rfl⟩

theorem mem_values_set {x : α}
    (h : x ∈ (table.set key value).values) : x = value ∨ x ∈ table.values := by
  obtain ⟨entry, hentry, rfl⟩ := mem_map.mp h
  rcases mem_set hentry with rfl | hentry
  · exact .inl rfl
  · exact .inr (mem_map_of_mem hentry)

theorem values_set_new (value : α) (h : table.get? key = none) :
    (table.set key value).values = table.values ++ [value] := by
  rw [set_of_get?_none h, values, map_append]
  rfl

theorem values_perm_erase (hkeys : table.keys.Nodup)
    (h : table.get? key = some value) : table.values.Perm (value :: (table.erase key).values) :=
  (perm_cons_erase hkeys h).map Prod.snd

theorem mem_values_erase {x : α} (h : x ∈ (table.erase key).values) : x ∈ table.values :=
  (filter_sublist.map Prod.snd).subset h

theorem total_set_new (weight : α → Nat) (value : α) (h : table.get? key = none) :
    total weight (table.set key value) = total weight table + weight value := by
  simp [total, values_set_new value h]

theorem total_set_old (weight : α → Nat) {old : α} (value : α) (h : table.get? key = some old) :
    total weight (table.set key value) + weight old = total weight table + weight value := by
  induction table with
  | nil => cases h
  | cons entry rest ih =>
    rw [get?_cons] at h
    by_cases hkey : entry.1 = key
    · rw [if_pos hkey] at h
      cases h
      rw [Table.set, if_pos hkey, total_cons, total_cons]
      dsimp only
      omega
    · rw [if_neg hkey] at h
      have hrest := ih h
      rw [Table.set, if_neg hkey, total_cons, total_cons]
      omega

theorem total_add_to (table : Table κ Nat) (key : κ) (amount : Nat) :
    total (fun count => count) (table.set key ((table.get? key).getD 0 + amount)) =
      total (fun count => count) table + amount := by
  cases hheld : table.get? key with
  | none =>
    have htotal := total_set_new (fun count => count) (0 + amount) hheld
    rw [Option.getD_none]
    omega
  | some held =>
    have htotal := total_set_old (fun count => count) (held + amount) hheld
    rw [Option.getD_some]
    omega

theorem total_erase (weight : α → Nat) (hkeys : table.keys.Nodup)
    {old : α} (h : table.get? key = some old) :
    total weight (table.erase key) + weight old = total weight table := by
  have hsum := ((values_perm_erase hkeys h).map weight).sum_nat
  rw [map_cons, sum_cons] at hsum
  unfold total
  omega

theorem mem_keys_of_get? (h : table.get? key = some value) : key ∈ table.keys :=
  mem_map.mpr ⟨(key, value), mem_of_get? h, rfl⟩

theorem exists_get? (h : key ∈ table.keys) : ∃ value, table.get? key = some value :=
  Option.ne_none_iff_exists'.mp fun hnone => get?_eq_none_iff.mp hnone h

@[simp] theorem get?_mapValues {β : Type} (f : α → β) (table : Table κ α) (key : κ) :
    (table.mapValues f).get? key = (table.get? key).map f := by
  induction table with
  | nil => rfl
  | cons entry rest ih =>
    have hcons : mapValues f (entry :: rest) = (entry.1, f entry.2) :: mapValues f rest := rfl
    rw [hcons, get?_cons, get?_cons, ih]
    split <;> rfl

theorem count_selected_keys (p : α → Bool) (hkeys : table.keys.Nodup) (key : κ) :
    ((table.filter fun entry => p entry.2).map Prod.fst).count key =
      if (table.get? key).any p then 1 else 0 := by
  induction table with
  | nil => rfl
  | cons entry rest ih =>
    obtain ⟨hnew, hrest⟩ := nodup_cons.mp hkeys
    have hcount := ih hrest
    rw [get?_cons]
    by_cases hkey : entry.1 = key
    · have hnone := get?_eq_none_iff.mpr (hkey ▸ hnew)
      rw [hnone] at hcount
      rw [if_pos hkey]
      by_cases hp : p entry.2 = true
      · simp [hp, hkey, hcount]
      · simp [hp, hcount]
    · rw [if_neg hkey]
      by_cases hp : p entry.2 = true
      · simp [hp, hkey, hcount]
      · simp [hp, hcount]

end Table
