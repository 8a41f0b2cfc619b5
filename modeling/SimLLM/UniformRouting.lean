import SimLLM.Table

namespace SimLLM

open List

structure MoeActivationPrecision where
  dispatchBytesPerElement : Nat
  combineBytesPerElement : Nat
  dispatch_pos : 0 < dispatchBytesPerElement
  combine_pos : 0 < combineBytesPerElement

def uniformRoutingSchema : String := "simllm-balanced-uniform-routing-v1"

section choice

variable {δ : Type} [LinearOrder δ] (digest : String → δ)

def saltedPermutation (worldSize tokenIndex salt : Nat) : List Nat :=
  let text := uniformRoutingSchema ++ ":" ++ toString worldSize ++ ":" ++ toString tokenIndex ++
    ":" ++ toString salt ++ ":"
  (range worldSize).insertionSort fun a b =>
    digest (text ++ toString a) ≤ digest (text ++ toString b)

def localAssignments (permutation : List Nat) (worldSize topK : Nat) : Nat :=
  ((range worldSize).map fun source => (range topK).countP fun k =>
    permutation[(source + k) % worldSize]? == some source).sum

def chooseSalt (permutation : Nat → List Nat) (error : List Nat → Nat) :
    List Nat → Option (Nat × List Nat) → List Nat
  | [], best => (best.map Prod.snd).getD []
  | salt :: rest, best =>
    let candidate := (error (permutation salt), permutation salt)
    if candidate.1 = 0 then candidate.2
    else
      let better := best.all fun held =>
        candidate.1 < held.1 || (candidate.1 == held.1 && decide (candidate.2 < held.2))
      chooseSalt permutation error rest (if better then some candidate else best)

def uniformDestinationPermutation (worldSize tokenIndex topK : Nat) : List Nat :=
  chooseSalt (saltedPermutation digest worldSize tokenIndex)
    (fun permutation => ((localAssignments permutation worldSize topK : Int) - topK).natAbs)
    (range 256) none

theorem chooseSalt_perm {permutation : Nat → List Nat} {error : List Nat → Nat} {target : List Nat}
    (h : ∀ salt, permutation salt ~ target) (salts : List Nat) (best : Option (Nat × List Nat))
    (hbest : ∀ held ∈ best, held.2 ~ target) (hsome : salts = [] → best.isSome = true) :
    chooseSalt permutation error salts best ~ target := by
  induction salts generalizing best with
  | nil =>
    obtain ⟨held, rfl⟩ := Option.isSome_iff_exists.mp (hsome rfl)
    exact hbest held rfl
  | cons salt rest ih =>
    rw [chooseSalt]
    split
    · exact h salt
    · refine ih _ ?_ ?_ <;> split
      · rintro _ ⟨⟩
        exact h salt
      · exact hbest
      · exact fun _ => rfl
      · cases best with
        | none => simp_all
        | some held => exact fun _ => rfl

theorem uniformDestinationPermutation_perm (worldSize tokenIndex topK : Nat) :
    uniformDestinationPermutation digest worldSize tokenIndex topK ~ range worldSize :=
  chooseSalt_perm (fun _ => perm_insertionSort _ _) _ none (by simp) (by simp)

end choice

def destinations (permutation : List Nat) (worldSize sourceIndex topK : Nat) : List Nat :=
  ((range topK).filterMap fun k => permutation[(sourceIndex + k) % worldSize]?).dedup

theorem nodup_inj {l : List Nat} {i j a b : Nat} (h : l.Nodup) (hi : l[i]? = some a)
    (hj : l[j]? = some b) : a = b ↔ i = j := by
  obtain ⟨_, rfl⟩ := List.getElem?_eq_some_iff.mp hi
  obtain ⟨_, rfl⟩ := List.getElem?_eq_some_iff.mp hj
  exact h.getElem_inj_iff

theorem count_mod (W k a : Nat) :
    (∑ r ∈ Finset.range W, if (a + r) % W < k then 1 else 0) = min k W := by
  induction a with
  | zero =>
    have hplace : ∀ r ∈ Finset.range W,
        (if (0 + r) % W < k then 1 else 0) = if r < k then 1 else 0 := by
      intro r hr
      rw [Nat.zero_add, Nat.mod_eq_of_lt (Finset.mem_range.mp hr)]
    have hfilter : (Finset.range W).filter (· < k) = Finset.range (min k W) := by
      ext r
      simp [and_comm]
    rw [Finset.sum_congr rfl hplace, ← Finset.card_filter, hfilter, Finset.card_range]
  | succ a ih =>
    -- The window moves by one: the term it loses and the term it gains are equal.
    have hfirst := Finset.sum_range_succ' (fun r => if (a + r) % W < k then 1 else 0) W
    rw [Finset.sum_range_succ, ih, Nat.add_mod_right] at hfirst
    simp only [Nat.add_right_comm a 1, ← Nat.add_assoc, Nat.add_zero] at hfirst ⊢
    omega

section windows

variable {permutation : List Nat} {W i j topK : Nat} (hperm : permutation ~ range W)

include hperm

theorem destinations_lt (hj : j ∈ destinations permutation W i topK) : j < W := by
  obtain ⟨k, -, hk⟩ := mem_filterMap.mp (mem_dedup.mp hj)
  exact mem_range.mp (hperm.mem_iff.mp (mem_of_getElem? hk))

theorem mem_destinations (hi : i < W) (hj : j < W) : j ∈ destinations permutation W i topK ↔
      (permutation.idxOf j + (W - i)) % W < topK := by
  have hmem : j ∈ permutation := hperm.mem_iff.mpr (mem_range.mpr hj)
  have hplace : permutation.idxOf j < W :=
    (idxOf_lt_length_of_mem hmem).trans_eq (by simpa using hperm.length_eq)
  have hat := getElem?_idxOf hmem
  have hget : ∀ q, permutation[q]? = some j ↔ q = permutation.idxOf j := fun q =>
    ⟨fun hq => (nodup_inj (hperm.nodup_iff.mpr nodup_range) hq hat).mp rfl, fun hq => hq ▸ hat⟩
  simp only [destinations, mem_dedup, mem_filterMap, mem_range, hget]
  constructor
  · rintro ⟨k, hk, hq⟩
    rw [← hq, Nat.mod_add_mod, show i + k + (W - i) = k + W by omega, Nat.add_mod_right]
    exact (Nat.mod_le k W).trans_lt hk
  · refine fun h => ⟨_, h, ?_⟩
    rw [Nat.add_mod_mod,
      show i + (permutation.idxOf j + (W - i)) = permutation.idxOf j + W by omega,
      Nat.add_mod_right, Nat.mod_eq_of_lt hplace]

def reaches (permutation : List Nat) (W topK i j : Nat) : Nat :=
  if j ∈ destinations permutation W i topK then 1 else 0

theorem sum_reaches (hi : i < W) :
    ∑ j ∈ Finset.range W, reaches permutation W topK i j = min topK W := by
  let behind := fun q => if (W - i + q) % W < topK then 1 else 0
  have hplaces : permutation.map permutation.idxOf = range W := by
    refine ext_getElem (by simpa using hperm.length_eq) fun q hq _ => ?_
    rw [getElem_map, getElem_range]
    exact (hperm.nodup_iff.mpr nodup_range).idxOf_getElem q (by simpa using hq)
  calc _ = ∑ j ∈ Finset.range W, behind (permutation.idxOf j) := by
        refine Finset.sum_congr rfl fun j hj => ?_
        simp only [reaches, mem_destinations hperm hi (Finset.mem_range.mp hj), Nat.add_comm,
          behind]
    _ = (permutation.map (behind ∘ permutation.idxOf)).sum := (hperm.map _).sum_eq.symm
    _ = min topK W := by
      rw [← map_map, hplaces]
      exact count_mod W topK (W - i)

theorem sum_reached (hj : j < W) :
    ∑ i ∈ Finset.range W, reaches permutation W topK i j = min topK W := by
  rw [← Finset.sum_range_reflect, ← count_mod W topK (permutation.idxOf j + 1)]
  refine Finset.sum_congr rfl fun i hi => ?_
  have hi := Finset.mem_range.mp hi
  have hplace : permutation.idxOf j + (W - (W - 1 - i)) = permutation.idxOf j + 1 + i := by omega
  simp only [reaches, mem_destinations hperm (by omega : W - 1 - i < W) hj, hplace]

theorem countP_destinations (p : Nat → Prop) [DecidablePred p] :
    (destinations permutation W i topK).countP (p ·) =
      ∑ j ∈ Finset.range W, if p j then reaches permutation W topK i j else 0 := by
  have hnodup : ((destinations permutation W i topK).filter (p ·)).Nodup :=
    (nodup_dedup _).filter _
  simp only [reaches, ← ite_and]
  rw [countP_eq_length_filter, ← toFinset_card_of_nodup hnodup, ← Finset.card_filter]
  congr 1
  ext j
  simp only [mem_toFinset, mem_filter, Finset.mem_filter, Finset.mem_range, decide_eq_true_eq]
  exact ⟨fun h => ⟨destinations_lt hperm h.1, h.symm⟩, fun h => h.2.symm⟩

end windows

def addVector (vectors : Table (Nat × Nat) Nat) (pair : Nat × Nat) : Table (Nat × Nat) Nat :=
  vectors.set pair ((vectors.get? pair).getD 0 + 1)

def tallied (p : Nat × Nat → Bool) (vectors : List ((Nat × Nat) × Nat)) : Nat :=
  ((vectors.filter fun item => p item.1).map Prod.snd).sum

section tally

variable (p : Nat × Nat → Bool) (vectors : Table (Nat × Nat) Nat) (pairs : List (Nat × Nat))

theorem tallied_cons (item : (Nat × Nat) × Nat) :
    tallied p (item :: vectors) = (if p item.1 then item.2 else 0) + tallied p vectors := by
  unfold tallied
  cases hitem : p item.1 <;> simp [hitem]

theorem tallied_addVector (pair : Nat × Nat) :
    tallied p (addVector vectors pair) = tallied p vectors + if p pair then 1 else 0 := by
  unfold addVector
  induction vectors with
  | nil => simp [Table.set, tallied_cons, Nat.add_comm]
  | cons item rest ih =>
    rw [Table.set, Table.get?_cons, tallied_cons]
    split
    next heq =>
      rw [tallied_cons, heq]
      dsimp only [Option.getD_some]
      split <;> omega
    next =>
      rw [tallied_cons, ih]
      omega

theorem tallied_foldl :
    tallied p (pairs.foldl addVector vectors) = tallied p vectors + pairs.countP p := by
  induction pairs generalizing vectors with
  | nil => rfl
  | cons pair rest ih =>
    rw [foldl_cons, ih, tallied_addVector, countP_cons]
    omega

theorem foldl_addVector_pos : ∀ item ∈ pairs.foldl addVector [], 0 < item.2 := by
  refine foldlRecOn (motive := fun vectors : Table _ Nat => ∀ item ∈ vectors, 0 < item.2)
    pairs addVector nofun fun vectors ih pair _ item hitem => ?_
  rcases Table.mem_set hitem with rfl | hold
  · exact Nat.succ_pos _
  · exact ih item hold

end tally

def routedPairs (ranks : List Nat) (permutations : List (List Nat)) (topK : Nat) :
    List (Nat × Nat) :=
  ranks.zipIdx.flatMap fun entry => permutations.flatMap fun permutation =>
    (destinations permutation ranks.length entry.2 topK).filterMap fun destinationIndex => do
      let destination ← ranks[destinationIndex]?
      if destination = entry.1 then none else some (entry.1, destination)

def dispatchVectors (ranks : List Nat) (permutations : List (List Nat)) (topK : Nat) :
    List ((Nat × Nat) × Nat) :=
  ((routedPairs ranks permutations topK).foldl addVector []).insertionSort fun a b =>
    toLex a.1 ≤ toLex b.1

def uniformPopulationPairPayloads {δ : Type} [LinearOrder δ] (digest : String → δ)
    (ranks : List Nat) (tokensPerRank topK hiddenSize : Nat) (precision : MoeActivationPrecision) :
    List (Nat × Nat × Nat) × List (Nat × Nat × Nat) :=
  let permutations := (range tokensPerRank).map fun token =>
    uniformDestinationPermutation digest ranks.length token topK
  let items := dispatchVectors ranks permutations topK
  (items.map fun item =>
      (item.1.1, item.1.2, item.2 * hiddenSize * precision.dispatchBytesPerElement),
    items.map fun item =>
      (item.1.2, item.1.1, item.2 * hiddenSize * precision.combineBytesPerElement))

def localTokens (route : Nat → List Nat) (W topK T i : Nat) : Nat :=
  ∑ t ∈ Finset.range T, reaches (route t) W topK i i

/-- A plan in vectors that is balanced: with the tokens that stay local, every rank sends and
receives `share` vectors a token. -/
structure BalancedPopulation (ranks : List Nat) (T share : Nat) (localTokens : Nat → Nat)
    (items : List ((Nat × Nat) × Nat)) : Prop where
  sent : ∀ i rank, ranks[i]? = some rank →
    tallied (·.1 = rank) items + localTokens i = T * share
  received : ∀ i rank, ranks[i]? = some rank →
    tallied (·.2 = rank) items + localTokens i = T * share
  members : ∀ item ∈ items, item.1.1 ∈ ranks ∧ item.1.2 ∈ ranks ∧ item.1.1 ≠ item.1.2
  positive : ∀ item ∈ items, 0 < item.2
  bounded : ∀ item ∈ items, tallied (· = item.1) items ≤ T

section population

variable {ranks : List Nat} {route : Nat → List Nat} {T topK a : Nat}

theorem mem_routedPairs {permutations : List (List Nat)} {pair : Nat × Nat}
    (h : pair ∈ routedPairs ranks permutations topK) :
    pair.1 ∈ ranks ∧ pair.2 ∈ ranks ∧ pair.1 ≠ pair.2 := by
  obtain ⟨entry, hentry, h⟩ := mem_flatMap.mp h
  obtain ⟨permutation, -, h⟩ := mem_flatMap.mp h
  obtain ⟨j, -, h⟩ := mem_filterMap.mp h
  obtain ⟨d, hd, h⟩ := Option.bind_eq_some_iff.mp h
  split at h
  next => cases h
  next hne =>
    obtain rfl := Option.some.inj h
    exact ⟨mem_of_getElem? (mk_mem_zipIdx_iff_getElem?.mp hentry), mem_of_getElem? hd,
      Ne.symm hne⟩

theorem sum_others {W : Nat} (f : Nat → Nat) (ha : a < W) :
    (∑ j ∈ Finset.range W, if j ≠ a then f j else 0) + f a = ∑ j ∈ Finset.range W, f j := by
  rw [← Finset.sum_filter, Finset.filter_ne', Finset.sum_erase_add _ _ (Finset.mem_range.mpr ha)]

variable (hranks : ranks.Nodup) (hroute : ∀ t, route t ~ range ranks.length)

include hranks hroute

theorem countP_routedPairs (p : Nat × Nat → Bool) (q : Nat → Nat → Prop)
    [∀ i j, Decidable (q i j)]
    (hq : ∀ i j s d, ranks[i]? = some s → ranks[j]? = some d → (p (s, d) = true ↔ q i j)) :
    (routedPairs ranks ((range T).map route) topK).countP p =
      ∑ t ∈ Finset.range T, ∑ i ∈ Finset.range ranks.length, ∑ j ∈ Finset.range ranks.length,
        if q i j ∧ j ≠ i then reaches (route t) ranks.length topK i j else 0 := by
  have hindex : ∀ F : Nat → Nat, (ranks.zipIdx.map fun entry => F entry.2).sum =
      ∑ i ∈ Finset.range ranks.length, F i := by
    intro F
    rw [← Function.comp_def, ← map_map, zipIdx_map_snd, ← range_eq_range']
    rfl
  rw [Finset.sum_comm, ← hindex, routedPairs, countP_flatMap]
  refine congrArg List.sum (map_congr_left fun entry hentry => ?_)
  have hsource := mk_mem_zipIdx_iff_getElem?.mp hentry
  rw [Function.comp_apply, countP_flatMap, map_map]
  refine congrArg List.sum (map_congr_left fun t _ => ?_)
  rw [← countP_destinations (hroute t), Function.comp_apply, Function.comp_apply, countP_filterMap]
  refine countP_congr fun j hj => ?_
  obtain ⟨d, hdestination⟩ : ∃ d, ranks[j]? = some d :=
    ⟨_, getElem?_eq_getElem (destinations_lt (hroute t) hj)⟩
  rw [hdestination, decide_eq_true_eq, ← hq _ _ _ _ hsource hdestination, Ne,
    ← nodup_inj hranks hdestination hsource]
  by_cases h : d = entry.1 <;> simp [h]

theorem dispatchVectors_balanced :
    BalancedPopulation ranks T (min topK ranks.length) (localTokens route ranks.length topK T)
      (dispatchVectors ranks ((range T).map route) topK) := by
  have hperm := perm_insertionSort (fun a b => toLex a.1 ≤ toLex b.1)
    ((routedPairs ranks ((range T).map route) topK).foldl addVector [])
  have htally : ∀ p, tallied p (dispatchVectors ranks ((range T).map route) topK) =
      (routedPairs ranks ((range T).map route) topK).countP p := by
    intro p
    rw [← Nat.zero_add (countP _ _)]
    exact ((hperm.filter _).map _).sum_eq.trans (tallied_foldl p [] _)
  have hpositive := fun item hitem => foldl_addVector_pos _ item (hperm.subset hitem)
  have hmembers : ∀ item ∈ dispatchVectors ranks ((range T).map route) topK,
      item.1 ∈ routedPairs ranks ((range T).map route) topK := by
    intro item hitem
    have hheld : item.2 ≤ tallied (· = item.1) _ :=
      le_sum_of_mem (mem_map_of_mem (mem_filter.mpr ⟨hitem, decide_eq_true rfl⟩))
    rw [htally] at hheld
    obtain ⟨pair, hpair, heq⟩ := countP_pos_iff.mp ((hpositive item hitem).trans_le hheld)
    exact of_decide_eq_true heq ▸ hpair
  refine ⟨fun a rank ha => ?_, fun a rank ha => ?_,
    fun item hitem => mem_routedPairs (hmembers item hitem), hpositive, fun item hitem => ?_⟩
  · have hlt := (List.getElem?_eq_some_iff.mp ha).1
    rw [htally, countP_routedPairs hranks hroute _ (fun i _ => i = a) fun i j s d hs _ => by
      rw [decide_eq_true_eq, nodup_inj hranks hs ha]]
    simp only [ite_and, Finset.sum_ite_irrel, Finset.sum_const_zero, Finset.sum_ite_eq',
      Finset.mem_range, hlt, if_true, localTokens, ← Finset.sum_add_distrib,
      sum_others (reaches _ _ topK a) hlt, sum_reaches (hroute _) hlt, Finset.sum_const,
      Finset.card_range, smul_eq_mul]
  · have hlt := (List.getElem?_eq_some_iff.mp ha).1
    rw [htally, countP_routedPairs hranks hroute _ (fun _ j => j = a) fun i j s d _ hd => by
      rw [decide_eq_true_eq, nodup_inj hranks hd ha]]
    simp only [ite_and, Finset.sum_ite_eq', Finset.mem_range, hlt, if_true, localTokens,
      ← Finset.sum_add_distrib, ne_comm (a := a), sum_others (reaches _ _ topK · a) hlt,
      sum_reached (hroute _) hlt, Finset.sum_const, Finset.card_range, smul_eq_mul]
  · obtain ⟨hs, hd, -⟩ := mem_routedPairs (hmembers item hitem)
    obtain ⟨a, ha⟩ := mem_iff_getElem?.mp hs
    obtain ⟨b, hb⟩ := mem_iff_getElem?.mp hd
    rw [htally, countP_routedPairs hranks hroute _ (fun i j => i = a ∧ j = b)
      fun i j s d hs hd => by
      rw [decide_eq_true_eq, Prod.ext_iff, nodup_inj hranks hs ha, nodup_inj hranks hd hb]]
    refine (Finset.sum_le_card_nsmul _ _ 1 fun t _ => ?_).trans (by simp)
    simp only [ite_and, Finset.sum_ite_irrel, Finset.sum_const_zero, Finset.sum_ite_eq', reaches]
    split_ifs <;> omega

end population

/-- Balanced uniform routing: whatever the digest, with the tokens that stay local every rank sends
and receives `tokensPerRank * min topK ranks.length` vectors, no pair carries more than
`tokensPerRank`, and combine is the transpose of dispatch. -/
theorem uniform_population_balanced {δ : Type} [LinearOrder δ] (digest : String → δ)
    {ranks : List Nat} (hranks : ranks.Nodup) (tokensPerRank topK : Nat) {hiddenSize : Nat}
    (hhidden : 0 < hiddenSize) (precision : MoeActivationPrecision) :
    let route := fun token => uniformDestinationPermutation digest ranks.length token topK
    let plan := uniformPopulationPairPayloads digest ranks tokensPerRank topK hiddenSize precision
    ∃ items, BalancedPopulation ranks tokensPerRank (min topK ranks.length)
        (localTokens route ranks.length topK tokensPerRank) items ∧
      plan.1 = items.map (fun item =>
        (item.1.1, item.1.2, item.2 * hiddenSize * precision.dispatchBytesPerElement)) ∧
      plan.2 = items.map (fun item =>
        (item.1.2, item.1.1, item.2 * hiddenSize * precision.combineBytesPerElement)) ∧
      ∀ entry ∈ plan.1 ++ plan.2, 0 < entry.2.2 := by
  intro route plan
  have hbalanced := @dispatchVectors_balanced _ route tokensPerRank topK hranks
    fun token => uniformDestinationPermutation_perm digest _ token topK
  refine ⟨_, hbalanced, rfl, rfl, fun entry hentry => ?_⟩
  have hpos := fun item hitem => Nat.mul_pos (hbalanced.positive item hitem) hhidden
  rcases mem_append.mp hentry with h | h
  · obtain ⟨item, hitem, rfl⟩ := mem_map.mp h
    exact Nat.mul_pos (hpos item hitem) precision.dispatch_pos
  · obtain ⟨item, hitem, rfl⟩ := mem_map.mp h
    exact Nat.mul_pos (hpos item hitem) precision.combine_pos

theorem uniform_population_two : [4, 7].Nodup ∧ 0 < 8 ∧ ∃ items, BalancedPopulation [4, 7] 2 1
    (localTokens (fun token => uniformDestinationPermutation String.length 2 token 1) 2 1 2)
    items := by
  obtain ⟨items, h, -⟩ := uniform_population_balanced String.length (by decide : [4, 7].Nodup) 2 1
    (by decide : 0 < 8) ⟨2, 1, by decide, by decide⟩
  exact ⟨by decide, by decide, items, h⟩

end SimLLM
