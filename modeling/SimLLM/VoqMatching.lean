import SimLLM.Table

namespace SimLLM

structure Demand (ι ρ : Type) where
  input : ι
  output : ι
  pool : Option ρ
  wireBytes : Nat

/-- The crossbar while a match is made: the ports in use, what is left of the pools, and the
heads selected so far. -/
structure Crossbar (α ι ρ : Type) where
  usedInputs : List ι := []
  usedOutputs : List ι := []
  remaining : ρ → Nat
  selected : List α := []

variable {α ι ρ : Type} [DecidableEq ι] [DecidableEq ρ]

section Select

variable (demand : α → Demand ι ρ)

def Crossbar.offer (crossbar : Crossbar α ι ρ) (head : α) : Crossbar α ι ρ :=
  let asked := demand head
  if asked.input ∈ crossbar.usedInputs ∨ asked.output ∈ crossbar.usedOutputs ∨
      asked.pool.any (fun pool => decide (crossbar.remaining pool < asked.wireBytes)) then crossbar
  else
    { usedInputs := asked.input :: crossbar.usedInputs
      usedOutputs := asked.output :: crossbar.usedOutputs
      remaining := fun pool =>
        crossbar.remaining pool - if asked.pool = some pool then asked.wireBytes else 0
      selected := crossbar.selected ++ [head] }

def selectHeads (capacity : ρ → Nat) (heads : List α) : List α :=
  (heads.foldl (Crossbar.offer demand) { remaining := capacity }).selected

def rotatedSelect (capacity : ρ → Nat) (cursor : Nat) (ordered : List α) : List α × Nat :=
  if ordered = [] then ([], cursor)
  else
    let offset := cursor % ordered.length
    let selected := selectHeads demand capacity (ordered.rotate offset)
    (selected, (offset + max 1 selected.length) % ordered.length)

def poolBytes (pool : ρ) (heads : List α) : Nat :=
  (heads.map fun head => if (demand head).pool = some pool then (demand head).wireBytes else 0).sum

structure Legal (capacity : ρ → Nat) (heads : List α) : Prop where
  inputs : (heads.map fun head => (demand head).input).Nodup
  outputs : (heads.map fun head => (demand head).output).Nodup
  pools : ∀ pool, poolBytes demand pool heads ≤ capacity pool

end Select

variable {demand : α → Demand ι ρ} {capacity : ρ → Nat} {heads selected : List α} {head : α}

omit [DecidableEq ι] in
theorem poolBytes_concat (pool : ρ) : poolBytes demand pool (heads ++ [head]) =
    poolBytes demand pool heads +
      if (demand head).pool = some pool then (demand head).wireBytes else 0 := by
  simp [poolBytes]

theorem legal_concat : Legal demand capacity (heads ++ [head]) ↔
    Legal demand capacity heads ∧ (∀ other ∈ heads, (demand other).input ≠ (demand head).input) ∧
      (∀ other ∈ heads, (demand other).output ≠ (demand head).output) ∧
      ∀ pool, poolBytes demand pool (heads ++ [head]) ≤ capacity pool := by
  constructor
  · intro h
    have hinputs := h.inputs
    have houtputs := h.outputs
    simp only [List.map_append, List.nodup_append, List.mem_map] at hinputs houtputs
    refine ⟨⟨hinputs.1, houtputs.1, fun pool => ?_⟩, by simpa using hinputs.2.2,
      by simpa using houtputs.2.2, h.pools⟩
    exact (Nat.le_add_right _ _).trans ((poolBytes_concat pool).symm.trans_le (h.pools pool))
  · rintro ⟨h, hinputs, houtputs, hpools⟩
    refine ⟨?_, ?_, hpools⟩
    · simpa [List.nodup_append] using ⟨h.inputs, hinputs⟩
    · simpa [List.nodup_append] using ⟨h.outputs, houtputs⟩

omit [DecidableEq ι] in
theorem legal_map {β : Type} {f : β → α} {heads : List β} :
    Legal demand capacity (heads.map f) ↔ Legal (fun head => demand (f head)) capacity heads := by
  constructor
  · rintro ⟨hinputs, houtputs, hpools⟩
    rw [List.map_map] at hinputs houtputs
    simp only [poolBytes, List.map_map] at hpools
    exact ⟨hinputs, houtputs, hpools⟩
  · rintro ⟨hinputs, houtputs, hpools⟩
    refine ⟨?_, ?_, ?_⟩ <;> simpa only [poolBytes, List.map_map]

omit [DecidableEq ι] in
theorem Legal.sublist (h : Legal demand capacity heads) (hsub : selected.Sublist heads) :
    Legal demand capacity selected :=
  ⟨h.inputs.sublist (hsub.map _), h.outputs.sublist (hsub.map _),
    fun pool => (hsub.map _).sum_le_sum (by simp) |>.trans (h.pools pool)⟩

/-- What the crossbar holds after some heads: a legal match, its ports and what it leaves of the
pools, to which no head that was passed over can be added. -/
structure Crossbar.Matches (demand : α → Demand ι ρ) (capacity : ρ → Nat) (heads : List α)
    (crossbar : Crossbar α ι ρ) : Prop where
  legal : Legal demand capacity crossbar.selected
  sublist : crossbar.selected.Sublist heads
  inputs : crossbar.usedInputs = (crossbar.selected.map fun head => (demand head).input).reverse
  outputs : crossbar.usedOutputs = (crossbar.selected.map fun head => (demand head).output).reverse
  remaining : ∀ pool,
    crossbar.remaining pool + poolBytes demand pool crossbar.selected = capacity pool
  maximal : ∀ head ∈ heads, head ∉ crossbar.selected →
    ¬ Legal demand capacity (crossbar.selected ++ [head])

theorem Crossbar.Matches.blocked_iff {crossbar : Crossbar α ι ρ}
    (h : crossbar.Matches demand capacity heads) :
    ((demand head).input ∈ crossbar.usedInputs ∨ (demand head).output ∈ crossbar.usedOutputs ∨
      (demand head).pool.any
        (fun pool => decide (crossbar.remaining pool < (demand head).wireBytes))) ↔
      ¬ Legal demand capacity (crossbar.selected ++ [head]) := by
  have hpools : (∀ pool, poolBytes demand pool (crossbar.selected ++ [head]) ≤ capacity pool) ↔
      ¬ (demand head).pool.any
        (fun pool => decide (crossbar.remaining pool < (demand head).wireBytes)) := by
    simp only [poolBytes_concat]
    cases hpool : (demand head).pool with
    | none => simpa using h.legal.pools
    | some own =>
      simp only [Option.some.injEq, Option.any_some, decide_eq_true_eq]
      constructor
      · intro hall
        have hroom := hall own
        have hleft := h.remaining own
        rw [if_pos rfl] at hroom
        omega
      · intro hroom pool
        have hleft := h.remaining pool
        split
        next heq =>
          subst heq
          omega
        next => omega
  rw [legal_concat, hpools, h.inputs, h.outputs]
  simp only [List.mem_reverse, List.mem_map, h.legal, true_and, not_and_or, not_not, not_forall,
    exists_prop, ne_eq]

theorem Crossbar.Matches.offer {crossbar : Crossbar α ι ρ}
    (h : crossbar.Matches demand capacity heads) :
    (crossbar.offer demand head).Matches demand capacity (heads ++ [head]) := by
  unfold Crossbar.offer
  dsimp only
  split
  next hblocked =>
    refine { h with sublist := h.sublist.trans (List.sublist_append_left _ _), maximal := ?_ }
    intro other hother hnot
    rcases List.mem_append.mp hother with hother | hother
    · exact h.maximal other hother hnot
    · obtain rfl := List.mem_singleton.mp hother
      exact h.blocked_iff.mp hblocked
  next hfree =>
    have hlegal := not_not.mp (mt h.blocked_iff.mpr hfree)
    refine ⟨hlegal, h.sublist.append (.refl _), by simp [h.inputs], by simp [h.outputs], ?_, ?_⟩
    · intro pool
      have hleft := h.remaining pool
      have hroom := hlegal.pools pool
      rw [poolBytes_concat] at hroom ⊢
      dsimp only
      omega
    · intro other hother hnot hmore
      have hne : other ∉ crossbar.selected := fun hmem => hnot (List.mem_append_left _ hmem)
      rcases List.mem_append.mp hother with hother | hother
      · refine h.maximal other hother hne (hmore.sublist ?_)
        exact (List.sublist_append_left _ _).append (.refl _)
      · exact hnot (List.mem_append_right _ hother)

theorem matches_foldl (demand : α → Demand ι ρ) (capacity : ρ → Nat) (heads : List α) :
    (heads.foldl (Crossbar.offer demand) { remaining := capacity }).Matches demand capacity
      heads := by
  induction heads using List.reverseRecOn with
  | nil => exact ⟨⟨.nil, .nil, by simp [poolBytes]⟩, .refl _, rfl,
    rfl, by simp [poolBytes], by simp⟩
  | append_singleton heads head ih =>
    rw [List.foldl_append]
    exact ih.offer

end SimLLM
