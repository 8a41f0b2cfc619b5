import Mathlib

abbrev Table (κ α : Type) := List (κ × α)

abbrev Dict (α : Type) := Table String α

namespace List

variable {α β : Type} [BEq β] [LawfulBEq β] {values : List α} {key : α → β} {x : α} {k : β}

theorem of_find?_key (h : values.find? (key · == k) = some x) : x ∈ values ∧ key x = k :=
  ⟨mem_of_find?_eq_some h, by simpa using find?_some h⟩

theorem find?_key (hnodup : (values.map key).Nodup) (hmem : x ∈ values) :
    values.find? (key · == key x) = some x := by
  cases hfind : values.find? (key · == key x) with
  | none =>
    rw [find?_eq_none] at hfind
    simpa using hfind x hmem
  | some found =>
    obtain ⟨hfound, hkey⟩ := of_find?_key hfind
    exact congrArg some (inj_on_of_nodup_map hnodup hfound hmem hkey)

end List

namespace Table

open List

variable {κ α : Type} [DecidableEq κ]

variable {table : Table κ α} {key : κ} {value : α}

def get? (table : Table κ α) (key : κ) : Option α :=
  (table.find? (·.1 == key)).map Prod.snd

def set : Table κ α → κ → α → Table κ α
  | [], key, value => [(key, value)]
  | entry :: rest, key, value =>
    if entry.1 = key then (key, value) :: rest else entry :: Table.set rest key value

def erase (table : Table κ α) (key : κ) : Table κ α := table.filter (·.1 != key)

def values (table : Table κ α) : List α := table.map Prod.snd

def keys (table : Table κ α) : List κ := table.map Prod.fst

@[simp] theorem get?_nil (key : κ) : Table.get? ([] : Table κ α) key = none := rfl

theorem get?_cons (entry : κ × α) (rest : Table κ α) (key : κ) : Table.get? (entry :: rest) key =
      if entry.1 = key then some entry.2 else Table.get? rest key := by
  unfold Table.get?
  by_cases h : entry.1 = key
  · simp [h]
  · simp [h, find?_cons_of_neg]

theorem get?_eq_none_iff : table.get? key = none ↔ key ∉ table.keys := by
  induction table with
  | nil => simp [keys]
  | cons entry rest ih =>
    rw [get?_cons]
    by_cases h : entry.1 = key
    · simp [h, keys]
    · rw [if_neg h, ih]
      simp [keys, Ne.symm h]

theorem mem_of_get? (h : table.get? key = some value) : (key, value) ∈ table := by
  obtain ⟨entry, hfind, rfl⟩ := Option.map_eq_some_iff.mp h
  obtain ⟨hmem, rfl⟩ := of_find?_key hfind
  exact hmem

theorem get?_of_mem (hkeys : table.keys.Nodup)
    (h : (key, value) ∈ table) : table.get? key = some value := by
  unfold Table.get?
  rw [find?_key hkeys h]
  rfl

theorem mem_values_iff (hkeys : table.keys.Nodup) :
    value ∈ table.values ↔ ∃ key, table.get? key = some value := by
  constructor
  · intro h
    obtain ⟨⟨key, other⟩, hmem, rfl⟩ := mem_map.mp h
    exact ⟨key, get?_of_mem hkeys hmem⟩
  · rintro ⟨key, h⟩
    exact mem_map.mpr ⟨(key, value), mem_of_get? h, rfl⟩

theorem get?_set (table : Table κ α) (key other : κ) (value : α) :
    (table.set key value).get? other = if key = other then some value else table.get? other := by
  induction table with
  | nil => rw [Table.set, get?_cons]
  | cons entry rest ih =>
    unfold Table.set
    by_cases h : entry.1 = key
    · rw [if_pos h, get?_cons, get?_cons]
      by_cases hother : key = other
      · simp [hother]
      · simp [hother, h]
    · rw [if_neg h, get?_cons, get?_cons, ih]
      by_cases hother : entry.1 = other
      · have hne : key ≠ other := fun heq => h (hother.trans heq.symm)
        simp [hother, hne]
      · simp [hother]

theorem get?_set_self (table : Table κ α) (key : κ) (value : α) :
    (table.set key value).get? key = some value := by
  rw [get?_set, if_pos rfl]

theorem of_get?_set {other : κ} {found : α} (h : (table.set key value).get? other = some found) :
    key = other ∧ value = found ∨ key ≠ other ∧ table.get? other = some found := by
  rw [get?_set] at h
  split at h
  next heq => exact .inl ⟨heq, Option.some.inj h⟩
  next hne => exact .inr ⟨hne, h⟩

theorem forall_set {P : κ → α → Prop} (hnew : P key value)
    (hold : ∀ other found, table.get? other = some found → P other found) :
    ∀ other found, (table.set key value).get? other = some found → P other found := by
  intro other found h
  rcases of_get?_set h with ⟨rfl, rfl⟩ | ⟨-, h⟩
  · exact hnew
  · exact hold other found h

theorem exists_set {P : α → Prop} {other : κ}
    (h : ∃ found, table.get? other = some found ∧ P found)
    (hnew : ∀ found, key = other → table.get? key = some found → P found → P value) :
    ∃ found, (table.set key value).get? other = some found ∧ P found := by
  obtain ⟨found, hget, hfound⟩ := h
  rw [get?_set]
  by_cases hkey : key = other
  · subst hkey
    exact ⟨value, if_pos rfl, hnew found rfl hget hfound⟩
  · exact ⟨found, by rw [if_neg hkey, hget], hfound⟩

theorem get?_erase (table : Table κ α) (key other : κ) :
    (table.erase key).get? other = if key = other then none else table.get? other := by
  unfold Table.get? Table.erase
  rw [find?_filter]
  split
  next h => simp [h]
  next h =>
    congr 2
    funext entry
    by_cases hother : entry.1 = other
    · simp [hother, Ne.symm h]
    · simp [hother]

variable {entry : κ × α}

theorem mem_set (h : entry ∈ table.set key value) : entry = (key, value) ∨ entry ∈ table := by
  induction table with
  | nil => exact .inl (mem_singleton.mp h)
  | cons first rest ih =>
    unfold Table.set at h
    split at h
    next =>
      rcases mem_cons.mp h with rfl | h
      · exact .inl rfl
      · exact .inr (mem_cons_of_mem first h)
    next =>
      rcases mem_cons.mp h with rfl | h
      · exact .inr mem_cons_self
      · exact (ih h).imp_right (mem_cons_of_mem first)

theorem keys_set (table : Table κ α) (key : κ) (value : α) :
    (table.set key value).keys = if key ∈ table.keys then table.keys else table.keys ++ [key] := by
  induction table with
  | nil => rfl
  | cons entry rest ih =>
    unfold Table.set
    by_cases h : entry.1 = key
    · simp [h, keys]
    · rw [if_neg h]
      have hcons : keys (entry :: Table.set rest key value) =
          entry.1 :: keys (Table.set rest key value) := rfl
      rw [hcons, ih]
      by_cases hmem : key ∈ keys rest
      · simp [keys] at hmem ⊢
        simp [hmem]
      · simp [keys] at hmem ⊢
        simp [hmem, Ne.symm h]

theorem set_of_get?_none (h : table.get? key = none) (value : α) :
    table.set key value = table ++ [(key, value)] := by
  induction table with
  | nil => rfl
  | cons entry rest ih =>
    rw [get?_cons] at h
    split at h
    next => cases h
    next hne =>
      rw [Table.set, if_neg hne, ih h]
      rfl

theorem mem_erase : entry ∈ table.erase key ↔ entry ∈ table ∧ entry.1 ≠ key := by
  simp [Table.erase]

theorem perm_cons_erase (hkeys : table.keys.Nodup)
    (hget : table.get? key = some value) : table.Perm ((key, value) :: table.erase key) := by
  induction table with
  | nil => cases hget
  | cons entry rest ih =>
    obtain ⟨hnew, hrest⟩ := nodup_cons.mp hkeys
    rw [get?_cons] at hget
    by_cases h : entry.1 = key
    · rw [if_pos h] at hget
      obtain rfl : entry = (key, value) := Prod.ext h (Option.some.inj hget)
      have hkept : Table.erase ((key, value) :: rest) key = rest := by
        simp only [erase, filter_cons, bne_self_eq_false, Bool.false_eq_true, if_false]
        exact filter_eq_self.mpr fun other hother =>
          bne_iff_ne.mpr fun heq => hnew (mem_map.mpr ⟨other, hother, heq⟩)
      rw [hkept]
    · rw [if_neg h] at hget
      have hkept : Table.erase (entry :: rest) key = entry :: Table.erase rest key := by
        simp [erase, h]
      rw [hkept]
      exact ((ih hrest hget).cons entry).trans (List.Perm.swap _ _ _)

theorem erase_keys_nodup (h : table.keys.Nodup) (key : κ) : (table.erase key).keys.Nodup :=
  h.sublist (filter_sublist.map _)

theorem set_keys_nodup (h : table.keys.Nodup) (key : κ) (value : α) :
    (table.set key value).keys.Nodup := by
  rw [keys_set]
  split
  next => exact h
  next hnew => simpa [nodup_append] using ⟨h, fun x hx heq => hnew (heq ▸ hx)⟩

end Table
