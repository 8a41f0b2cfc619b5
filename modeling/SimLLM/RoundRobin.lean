import SimLLM.Arbitration
import SimLLM.CreditRounds
import SimLLM.ExceptRules

namespace SimLLM

open List CreditRounds FirstExtremum

def RoundRobinWeights.classWeight (config : RoundRobinWeights) (classLabel : Int) : Nat :=
  ((config.weights.find? (·.1 == classLabel.toNat)).map Prod.snd).getD config.defaultWeight

def RoundRobinWeights.left (config : RoundRobinWeights) (credits : RoundRobinCredits)
    (classLabel : Int) : Nat :=
  (credits.get? classLabel).getD (config.classWeight classLabel)

def offeredLabels (candidates : List ArbitrationCandidate) : List Int :=
  sortedSet (candidates.map (·.classLabel))

def RoundRobinWeights.selects (config : RoundRobinWeights) (credits : RoundRobinCredits) :
    List (List ArbitrationCandidate) →
      List (Except PyError ArbitrationCandidate) × RoundRobinCredits
  | [] => ([], credits)
  | candidates :: rest =>
    let (answer, next) := (weightedRoundRobinArbitrationPolicy config).select credits candidates
    let (answers, final) := config.selects next rest
    (answer :: answers, final)

def UsesOnly (labels : Finset Int) (candidates : List ArbitrationCandidate) : Prop :=
  ∀ candidate ∈ candidates, candidate.classLabel ∈ labels

/-- A class offered in every call is granted, if there are more calls than the other classes can
take: a round of each of them, and one more of those before it. -/
def RoundRobinWeights.Serves (config : RoundRobinWeights) (labels : Finset Int)
    (credits : RoundRobinCredits) (c : Int) (window : List (List ArbitrationCandidate)) : Prop :=
  (∀ candidates ∈ window, UsesOnly labels candidates ∧ c ∈ offeredLabels candidates) →
    ∑ label ∈ labels.erase c, config.classWeight label +
      ∑ label ∈ labels with label < c, config.classWeight label < window.length →
    ∃ granted, .ok granted ∈ (config.selects credits window).1 ∧ granted.classLabel = c

variable {config : RoundRobinWeights} {credits next : RoundRobinCredits} {label : Int}
  {present : List Int} {candidates : List ArbitrationCandidate} {granted : ArbitrationCandidate}
  {labels : Finset Int}

theorem classWeight_pos (config : RoundRobinWeights) (label : Int) :
    0 < config.classWeight label := by
  unfold RoundRobinWeights.classWeight
  cases hfind : config.weights.find? (·.1 == label.toNat) with
  | none => exact config.defaultWeight_pos
  | some entry => exact config.weights_pos entry (mem_of_find?_eq_some hfind)

theorem weight_eq (h : 0 ≤ label) : config.weight label = .ok (config.classWeight label) :=
  if_neg (not_lt.mpr h)

theorem credit_eq (h : 0 ≤ label) :
    config.credit credits label = .ok (config.left credits label) := by
  rw [RoundRobinWeights.credit, weight_eq h]
  rfl

theorem RoundRobinCredits.get?_set (credits : RoundRobinCredits) (label other : Int)
    (credit : Nat) : (credits.set label credit).get? other =
      if other = label then some credit else credits.get? other := by
  simp only [RoundRobinCredits.get?, RoundRobinCredits.set, find?_append, find?_filter]
  split
  next heq =>
    rw [heq, find?_eq_none.mpr fun entry _ => by simp]
    simp
  next hne =>
    rw [find?_cons_of_neg (by simp [Ne.symm hne]), find?_nil, Option.or_none]
    congr 2
    funext entry
    by_cases h : entry.1 = other <;> simp [h, hne]

theorem left_set (credits : RoundRobinCredits) (label other : Int) (credit : Nat) :
    config.left (credits.set label credit) other =
      if other = label then credit else config.left credits other := by
  rw [RoundRobinWeights.left, RoundRobinCredits.get?_set]
  split <;> rfl

theorem refill_left (hlabels : ∀ label ∈ present, 0 ≤ label) :
    ∃ refilled, present.foldlM (fun acc label => do
        let weight ← config.weight label
        .ok (RoundRobinCredits.set acc label weight)) credits = .ok refilled ∧
      ∀ label, config.left refilled label =
        if label ∈ present then config.classWeight label else config.left credits label := by
  induction present generalizing credits with
  | nil => exact ⟨credits, rfl, fun label => by simp⟩
  | cons first present ih =>
    obtain ⟨refilled, hfold, hleft⟩ := @ih (credits.set first (config.classWeight first))
      fun label hl => hlabels label (mem_cons_of_mem first hl)
    refine ⟨refilled, ?_, fun label => ?_⟩
    · rw [foldlM_cons, weight_eq (hlabels first mem_cons_self)]
      exact hfold
    · rw [hleft, left_set]
      by_cases hfirst : label = first
      · simp [hfirst]
      · simp [hfirst]

theorem eligible_eq (hlabels : ∀ label ∈ present, 0 ≤ label) :
    ∃ after, config.eligible credits present =
        .ok (present.filter (fun label => decide (0 < config.left after label)), after) ∧
      config.left after = filled config.classWeight (config.left credits) present.toFinset := by
  have hfilter : (present.filterM fun label => do
      let credit ← config.credit credits label
      .ok (decide (0 < credit))) =
        .ok (present.filter fun label => decide (0 < config.left credits label)) :=
    Except.filterM_eq_filter fun label hl => by rw [credit_eq (hlabels label hl)]; rfl
  have hround :
      (present.filter fun label => decide (0 < config.left credits label)).isEmpty = true ↔
      ∀ label ∈ present.toFinset, config.left credits label = 0 := by
    simp [filter_eq_nil_iff]
  rw [RoundRobinWeights.eligible, hfilter, ok_bind, filled]
  split
  next hempty =>
    obtain ⟨refilled, hfold, hleft⟩ := refill_left hlabels
    refine ⟨refilled, ?_, ?_⟩
    · rw [hfold, ok_bind, filter_eq_self.mpr fun label hl => ?_]
      rw [hleft, if_pos hl]
      exact decide_eq_true (classWeight_pos config label)
    · rw [if_pos (hround.mp hempty)]
      funext label
      simp [hleft]
  next hsome => exact ⟨credits, rfl, (if_neg fun h => hsome (hround.mpr h)).symm⟩

theorem mem_offeredLabels :
    label ∈ offeredLabels candidates ↔ ∃ candidate ∈ candidates, candidate.classLabel = label := by
  simp [offeredLabels]

theorem UsesOnly.mem (huses : UsesOnly labels candidates) (h : label ∈ offeredLabels candidates) :
    label ∈ labels := by
  obtain ⟨candidate, hc, rfl⟩ := mem_offeredLabels.mp h
  exact huses candidate hc

section

variable (hlabels : ∀ label ∈ labels, 0 ≤ label)
include hlabels

theorem select_grant (haware : config.classAware = true) (hne : candidates ≠ [])
    (huses : UsesOnly labels candidates) (credits : RoundRobinCredits) :
    ∃ granted next, (weightedRoundRobinArbitrationPolicy config).select credits candidates =
        (.ok granted, next) ∧
      granted ∈ candidates ∧
      (∀ other ∈ candidates, other.classLabel = granted.classLabel →
        granted.baselineSequence ≤ other.baselineSequence) ∧
      CreditRounds.Grant config.classWeight (offeredLabels candidates).toFinset
    (config.left credits)
        granted.classLabel (config.left next) := by
  obtain ⟨after, heligible, hleft⟩ := @eligible_eq config credits (offeredLabels candidates)
    fun label hl => hlabels label (huses.mem hl)
  obtain ⟨first, hfirst⟩ := exists_mem_of_ne_nil candidates hne
  obtain ⟨label, hlabel, hcredit⟩ := @filled_pos _ _ _ (config.left credits)
    (offeredLabels candidates).toFinset (classWeight_pos config)
    ⟨first.classLabel, mem_toFinset.mpr (mem_offeredLabels.mpr ⟨first, hfirst, rfl⟩)⟩
  have hmem : ∀ {label}, label ∈ (offeredLabels candidates).filter
      (fun label => decide (0 < config.left after label)) ↔
        label ∈ offeredLabels candidates ∧ 0 < config.left after label := by simp
  -- the classes with credit, in ascending order: there is one, and the first one wins
  have hsorted : ((offeredLabels candidates).filter fun label =>
      decide (0 < config.left after label)).Pairwise (· ≤ ·) :=
    (pairwise_insertionSort _ _).filter _
  generalize (offeredLabels candidates).filter _ = eligible at heligible hmem hsorted
  rw [← hleft] at hcredit
  cases eligible with
  | nil => cases hmem.mpr ⟨mem_toFinset.mp hlabel, hcredit⟩
  | cons winner rest =>
    obtain ⟨hoffered, hwinner⟩ := hmem.mp mem_cons_self
    obtain ⟨candidate, hcandidate, hclass⟩ := mem_offeredLabels.mp hoffered
    have hin : candidate ∈ candidates.filter (·.classLabel == winner) :=
      mem_filter.mpr ⟨hcandidate, beq_iff_eq.mpr hclass⟩
    obtain ⟨granted, hmin⟩ := exists_minBy (·.baselineSequence) (ne_nil_of_mem hin)
    obtain ⟨hgranted, hlabel⟩ := mem_filter.mp (minBy_mem hmin)
    have hlabel := beq_iff_eq.mp hlabel
    have hgrant : config.grantClass credits candidates =
        .ok (granted, after.set winner (config.left after winner - 1)) := by
      rw [RoundRobinWeights.grantClass, ← offeredLabels, heligible]
      dsimp only [ok_bind]
      rw [credit_eq (hlabels winner (huses.mem hoffered)), ok_bind, identitySelect, hmin]
      rfl
    refine ⟨granted, after.set winner (config.left after winner - 1),
      by simp [weightedRoundRobinArbitrationPolicy, hne, haware, hgrant], hgranted,
      fun other ho hsame => minBy_le hmin (mem_filter.mpr
        ⟨ho, beq_iff_eq.mpr (hsame.trans hlabel)⟩), ?_⟩
    rw [hlabel]
    refine ⟨mem_toFinset.mpr hoffered, hleft ▸ hwinner, fun label hl hpos => ?_,
      fun label => ?_⟩
    · rw [← hleft] at hpos
      rcases mem_cons.mp (hmem.mpr ⟨mem_toFinset.mp hl, hpos⟩) with rfl | hrest
      · exact le_rfl
      · exact rel_of_pairwise_cons hsorted hrest
    · rw [← hleft, left_set]
      split
      next heq => rw [heq]
      next => rfl

theorem selects_left_le {calls : List (List ArbitrationCandidate)}
    (huses : ∀ candidates ∈ calls, UsesOnly labels candidates)
    (hle : ∀ label, config.left credits label ≤ config.classWeight label) (label : Int) :
    config.left (config.selects credits calls).2 label ≤ config.classWeight label := by
  induction calls generalizing credits with
  | nil => exact hle label
  | cons candidates calls ih =>
    obtain ⟨hfirst, hrest⟩ := forall_mem_cons.mp huses
    have hnext : ∀ label, config.left
        ((weightedRoundRobinArbitrationPolicy config).select credits candidates).2 label ≤
          config.classWeight label := by
      by_cases hne : candidates = []
      · simpa [weightedRoundRobinArbitrationPolicy, hne] using hle
      cases haware : config.classAware with
      | false => simpa [weightedRoundRobinArbitrationPolicy, hne, haware] using hle
      | true =>
        obtain ⟨granted, next, hselect, -, -, hgrant⟩ :=
          select_grant hlabels haware hne hfirst credits
        rw [hselect]
        exact hgrant.le_weight hle
    exact ih hrest hnext

theorem selects_waiting {window : List (List ArbitrationCandidate)} {c : Int}
    (haware : config.classAware = true)
    (hwindow : ∀ candidates ∈ window, UsesOnly labels candidates ∧ c ∈ offeredLabels candidates)
    (hle : ∀ label, config.left credits label ≤ config.classWeight label) :
    (∃ granted, .ok granted ∈ (config.selects credits window).1 ∧ granted.classLabel = c) ∨
      window.length ≤ waiting config.classWeight labels c (config.left credits) := by
  induction window generalizing credits with
  | nil => exact .inr (Nat.zero_le _)
  | cons candidates window ih =>
    obtain ⟨⟨huses, hoffered⟩, hrest⟩ := forall_mem_cons.mp hwindow
    obtain ⟨candidate, hcandidate, -⟩ := mem_offeredLabels.mp hoffered
    obtain ⟨granted, next, hselect, -, -, hgrant⟩ :=
      select_grant hlabels haware (ne_nil_of_mem hcandidate) huses credits
    simp only [RoundRobinWeights.selects, hselect]
    by_cases hserved : granted.classLabel = c
    · exact .inl ⟨granted, mem_cons_self, hserved⟩
    have hlt := hgrant.waiting_lt (classWeight_pos config) hle
      (fun label hl => huses.mem (mem_toFinset.mp hl)) (mem_toFinset.mpr hoffered) hserved
    rcases ih hrest (hgrant.le_weight hle) with ⟨later, hmem, hlater⟩ | hbound
    · exact .inl ⟨later, mem_cons_of_mem _ hmem, hlater⟩
    · exact .inr (Nat.succ_le_of_lt (hbound.trans_lt hlt))

end

/-- Credits stay in their range and every grant takes one that was there, a grant is the first of
its class, and a class-aware policy starves no class. -/
theorem round_robin_serves (config : RoundRobinWeights) (labels : Finset Int)
    (calls : List (List ArbitrationCandidate)) (hlabels : ∀ label ∈ labels, 0 ≤ label)
    (huses : ∀ candidates ∈ calls, UsesOnly labels candidates) :
    let credits := (config.selects {} calls).2
    (∀ label credit, credits.get? label = some credit → credit ≤ config.classWeight label) ∧
      (∀ candidates granted next, UsesOnly labels candidates →
        (weightedRoundRobinArbitrationPolicy config).select credits candidates =
          (.ok granted, next) →
        granted ∈ candidates ∧
          (∀ other ∈ candidates, other.classLabel = granted.classLabel →
            granted.baselineSequence ≤ other.baselineSequence) ∧
          (config.classAware = true → CreditRounds.Grant config.classWeight
            (offeredLabels candidates).toFinset (config.left credits) granted.classLabel
            (config.left next))) ∧
      (config.classAware = true → ∀ c window, config.Serves labels credits c window) := by
  intro credits
  have hle := @selects_left_le config {} labels hlabels calls huses fun label => le_rfl
  refine ⟨fun label credit hget => ?_, fun candidates granted next hused hselect => ?_,
    fun haware c window hwindow hlong => ?_⟩
  · have hlabel := hle label
    rwa [RoundRobinWeights.left, hget] at hlabel
  · have hne : candidates ≠ [] := by
      rintro rfl
      cases hselect
    cases haware : config.classAware with
    | false =>
      simp only [weightedRoundRobinArbitrationPolicy, List.isEmpty_iff, hne, haware,
        Bool.not_false, if_true, if_false, Prod.mk.injEq, identitySelect, firstOrError] at hselect
      obtain ⟨hmin, -⟩ := hselect
      split at hmin
      · cases hmin
      next hbest =>
        cases hmin
        exact ⟨minBy_mem hbest, fun other ho _ => minBy_le hbest ho, Bool.noConfusion⟩
    | true =>
      obtain ⟨_, _, heq, hmem, hfirst, hgrant⟩ := select_grant hlabels haware hne hused credits
      cases hselect.symm.trans heq
      exact ⟨hmem, hfirst, fun _ => hgrant⟩
  · rcases selects_waiting hlabels haware hwindow hle with hserved | hbound
    · exact hserved
    · exact absurd (hbound.trans (waiting_le hle)) (not_le.mpr hlong)

def twoClasses : List ArbitrationCandidate := [⟨"first", 0, 0, 0⟩, ⟨"second", 1, 0, 1⟩]

theorem second_class_served :
    ∃ granted, .ok granted ∈ (RoundRobinWeights.selects {} {}
        [twoClasses, twoClasses, twoClasses]).1 ∧ granted.classLabel = 1 :=
  (round_robin_serves {} {0, 1} [] (by decide) (by simp)).2.2 rfl 1 _
    (by simp [UsesOnly, mem_offeredLabels, twoClasses]) (by decide)

/-- With labels ignored the second class is never served. -/
theorem unaware_policy_starves :
    ∃ (config : RoundRobinWeights) (window : List (List ArbitrationCandidate)),
      ¬ config.Serves {0, 1} {} 1 window := by
  refine ⟨⟨[], 1, false, by simp, by decide⟩, [twoClasses, twoClasses, twoClasses], fun h => ?_⟩
  obtain ⟨granted, hmem, hclass⟩ :=
    h (by simp [UsesOnly, mem_offeredLabels, twoClasses]) (by decide)
  have hfirst : granted = ⟨"first", 0, 0, 0⟩ := by
    simpa [RoundRobinWeights.selects, weightedRoundRobinArbitrationPolicy, identitySelect,
      firstOrError, minBy, twoClasses] using hmem
  rw [hfirst] at hclass
  cases hclass

end SimLLM
