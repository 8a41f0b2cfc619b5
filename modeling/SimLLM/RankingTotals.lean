import SimLLM.BottleneckHistory
import SimLLM.TableTotals

namespace SimLLM

open List

variable {kernelKey : KernelEvidence → String}

variable {parts : List RankingPart} {visits : List QueueVisit}
  {totals : List ((BottleneckClass × Option Nat) × Nat)} {made : BottleneckRanking kernelKey}
  {cursor : Nat} {part : RankingPart}

theorem addTotal_eq (totals : List ((BottleneckClass × Option Nat) × Nat))
    (key : BottleneckClass × Option Nat) (duration : Nat) : addTotal totals key duration =
      Table.set totals key ((Table.get? totals key).getD 0 + duration) := by
  induction totals with
  | nil => simp [addTotal, Table.set]
  | cons entry rest ih =>
    rw [addTotal, Table.set, Table.get?_cons]
    by_cases h : entry.1 = key
    · simp [h]
    · simp [h, ih]

structure TotalsFacts (parts : List RankingPart)
    (totals : List ((BottleneckClass × Option Nat) × Nat)) : Prop where
  sum : ((totals.map Prod.snd).sum : Int) = (parts.map (·.2.2)).sum
  keys : ∀ key ∈ totals.map Prod.fst, ∃ part ∈ parts, (part.1, part.2.1) = key
  nodup : (totals.map Prod.fst).Nodup

theorem addPart_facts
    {next : List ((BottleneckClass × Option Nat) × Nat)} (facts : TotalsFacts parts totals)
    (h : addPart totals part = .ok next) : TotalsFacts (parts ++ [part]) next := by
  obtain ⟨_, hpos, h⟩ := of_bind h
  have hduration : 0 ≤ part.2.2 := by simpa using hpos
  cases h
  rw [addTotal_eq]
  refine ⟨?_, ?_, Table.set_keys_nodup facts.nodup _ _⟩
  · have hsum := facts.sum
    have htotal := Table.total_add_to totals (part.1, part.2.1) part.2.2.toNat
    simp only [Table.total, Table.values, map_id'] at htotal
    rw [htotal, map_append, sum_append, map_singleton, sum_singleton]
    omega
  · intro key hkey
    obtain ⟨entry, hentry, rfl⟩ := mem_map.mp hkey
    rcases Table.mem_set hentry with rfl | hentry
    · exact ⟨part, by simp, rfl⟩
    · obtain ⟨other, hother, heq⟩ := facts.keys entry.1 (mem_map_of_mem hentry)
      exact ⟨other, by simp [hother], heq⟩

theorem totals_facts (h : parts.foldlM addPart [] = .ok totals) : TotalsFacts parts totals :=
  foldlM_done TotalsFacts h ⟨by simp, by simp, by simp⟩ fun _ _ _ _ _ _ facts hstep =>
    addPart_facts facts hstep

variable {className : BottleneckClass} {width : Option Nat}

theorem ClassShare.make_eq_ok {span : Nat} {share : ClassShare}
    (h : ClassShare.make className width span = .ok share) :
    share.className = className ∧ share.participantWidth = width ∧ share.spanPs = span := by
  unfold ClassShare.make at h
  repeat' split at h
  all_goals cases h
  exact ⟨rfl, rfl, rfl⟩

theorem positive_sum (totals : List ((BottleneckClass × Option Nat) × Nat)) :
    ((totals.filter (·.2 != 0)).map Prod.snd).sum = (totals.map Prod.snd).sum := by
  have hfilter := sum_filter_bne_zero (totals.map Prod.snd)
  rwa [filter_map] at hfilter

variable {classes : List ClassShare}

theorem rankedClasses_sum (h : rankedClasses totals = .ok classes) :
    (classes.map (·.spanPs)).sum = (totals.map Prod.snd).sum := by
  obtain ⟨shares, hshares, h⟩ := of_bind h
  cases h
  have hperm : (shares.insertionSort fun a b => a.order ≤ b.order).Perm shares :=
    perm_insertionSort _ _
  rw [(hperm.map (·.spanPs)).sum_eq]
  have hspans := (mapM_eq_ok.mp hshares).map_eq_map fun entry share hmade =>
      (ClassShare.make_eq_ok hmade).2.2
  rw [hspans, positive_sum]

variable {kernels : List KernelEvidence} {tails : List FlowTail}

theorem BottleneckRanking.make_eq_ok {span divisor : Nat}
    (h : BottleneckRanking.make kernelKey span divisor classes kernels tails = .ok made) :
    made.spanPs = span ∧ made.divisor = divisor := by
  unfold BottleneckRanking.make at h
  repeat' split at h
  all_goals cases h
  exact ⟨rfl, rfl⟩

variable {divisor : Nat}

theorem ranking_span (h : ranking kernelKey parts kernels tails divisor = .ok made) :
    (made.spanPs : Int) = (parts.map (·.2.2)).sum ∧ made.divisor = divisor := by
  obtain ⟨totals, htotals, h⟩ := of_bind h
  obtain ⟨classes, hclasses, h⟩ := of_bind h
  obtain ⟨_, -, h⟩ := of_bind h
  obtain ⟨_, -, h⟩ := of_bind h
  obtain ⟨hspan, hdivisor⟩ := BottleneckRanking.make_eq_ok h
  refine ⟨?_, hdivisor⟩
  rw [hspan, rankedClasses_sum hclasses]
  exact (totals_facts htotals).sum

theorem parts_sum (value : BottleneckRanking kernelKey) :
    ((value.classes.map ClassShare.part).map (·.2.2)).sum = (value.spanPs : Int) := by
  rw [← value.conserves, Nat.cast_list_sum, map_map, map_map]
  rfl

theorem flatParts_sum (values : List (BottleneckRanking kernelKey)) :
    ((values.flatMap fun value => value.classes.map ClassShare.part).map (·.2.2)).sum =
      (((values.map (·.spanPs)).sum : Nat) : Int) := by
  induction values with
  | nil => rfl
  | cons value rest ih =>
    rw [flatMap_cons, map_append, sum_append, parts_sum, ih]
    simp

theorem combine_span {values : List (BottleneckRanking kernelKey)}
    (h : combine kernelKey values divisor = .ok made) :
    made.spanPs = (values.map (·.spanPs)).sum ∧ made.divisor = divisor := by
  replace h := of_check h
  obtain ⟨hspan, hdivisor⟩ := ranking_span h
  refine ⟨?_, hdivisor⟩
  have hsum := flatParts_sum values
  omega

section Classify

variable {context : SegmentOwner} {segment : RuntimeCriticalSegment}

theorem visitParts_sum (context : SegmentOwner) (cursor : Nat) (visit : QueueVisit) :
    ((visitParts context cursor visit).map (·.2.2)).sum =
      ((max cursor visit.completedAtPs : Nat) : Int) - cursor := by
  have heligible := visit.eligible_le_started
  have hstarted := visit.started_le_finished
  have hfinished := visit.finished_le_completed
  simp only [visitParts, map_cons, map_nil, sum_cons, sum_nil]
  omega

variable {visit : QueueVisit}

theorem visitParts_nonneg (h : part ∈ visitParts context cursor visit) : 0 ≤ part.2.2 := by
  simp only [visitParts, mem_cons, not_mem_nil, or_false] at h
  rcases h with rfl | rfl | rfl <;> simp only <;> omega

theorem selectedParts_sum (h : selectedParts context segment cursor visits = .ok parts) :
    (parts.map (·.2.2)).sum = (segment.completedAtPs : Int) - cursor := by
  induction visits generalizing cursor parts with
  | nil =>
    cases h
    simp
  | cons visit rest ih =>
    replace h := of_check h
    replace h := of_check h
    obtain ⟨tail, htail, h⟩ := of_bind h
    cases h
    rw [map_append, sum_append, visitParts_sum, ih htail]
    omega

theorem selectedParts_accepts (cursor : Nat)
    (howner : ∀ visit ∈ visits, visit.operationId = segment.operationId)
    (hwithin : ∀ visit ∈ visits, visit.completedAtPs ≤ segment.completedAtPs) :
    ∃ parts, selectedParts context segment cursor visits = .ok parts := by
  induction visits generalizing cursor with
  | nil => exact ⟨_, rfl⟩
  | cons visit rest ih =>
    obtain ⟨tail, htail⟩ := ih (max cursor visit.completedAtPs)
      (fun other hother => howner other (by simp [hother]))
      (fun other hother => hwithin other (by simp [hother]))
    refine ⟨visitParts context cursor visit ++ tail, ?_⟩
    have hhead := howner visit (by simp)
    have hbound := hwithin visit (by simp)
    simp [selectedParts, hhead, hbound, require, htail, pure, Except.pure]

structure PartFacts (context : SegmentOwner) (visits : List QueueVisit) (part : RankingPart) :
    Prop where
  nonneg : 0 ≤ part.2.2
  width : part.2.1.isSome = part.1.communicates
  positive : ∀ width ∈ part.2.1, 0 < width
  evidenced : part.1 = .hbmBound ∨ part.1 = .computeBound →
    ∃ visit ∈ visits, kernelServed context visit.resource.kind = true ∧
      context.kernel.map (·.boundClass) = some part.1

theorem kernel_boundClass_cases (kernel : KernelEvidence) :
    kernel.boundClass = .unclassifiedKernel ∨ kernel.boundClass = .hbmBound ∨
      kernel.boundClass = .computeBound := by
  unfold KernelEvidence.boundClass
  split
  next => exact .inl rfl
  next =>
    split
    next => exact .inr (.inl rfl)
    next => exact .inr (.inr rfl)

theorem visitClass_communicates (context : SegmentOwner) (visit : QueueVisit) :
    (visitClass context visit).communicates = (visitWidth context visit).isSome := by
  unfold visitClass visitWidth
  by_cases hhost : visit.resource.kind = .hostLaunchQueue
  · simp [hhost, communicationKinds, BottleneckClass.communicates]
  · by_cases hcomm : visit.resource.kind ∈ communicationKinds
    · simp only [hhost, if_false, hcomm, if_true, Option.isSome_some]
      split
      next => rfl
      next => split <;> rfl
    · simp only [hhost, if_false, hcomm, Option.isSome_none]
      split
      next =>
        cases hkernel : context.kernel with
        | none => rfl
        | some kernel =>
          rcases kernel_boundClass_cases kernel with h | h | h <;>
            simp [h, BottleneckClass.communicates]
      next =>
        split
        next => rfl
        next => split <;> rfl

theorem visitClass_bound
    (h : visitClass context visit = .hbmBound ∨ visitClass context visit = .computeBound) :
    kernelServed context visit.resource.kind = true ∧
      context.kernel.map (·.boundClass) = some (visitClass context visit) := by
  unfold visitClass at h ⊢
  by_cases hhost : visit.resource.kind = .hostLaunchQueue
  · simp [hhost] at h
  · by_cases hcomm : visit.resource.kind ∈ communicationKinds
    · simp only [hhost, if_false, hcomm, if_true] at h
      by_cases hfabric : visit.resource.kind ∈ fabricKinds
      · simp [hfabric] at h
      · by_cases hstage : visit.stage = some "co_critical_ps" <;> simp [hfabric, hstage] at h
    · by_cases hserved : kernelServed context visit.resource.kind = true
      · simp only [hhost, if_false, hcomm, hserved, if_true] at h ⊢
        cases hkernel : context.kernel with
        | none => simp [hkernel] at h
        | some kernel => exact ⟨trivial, rfl⟩
      · simp only [hhost, if_false, hcomm, hserved] at h
        by_cases hdma : visit.resource.kind = .copyEngine ∨ context.owner = some .dma
        · simp [hdma] at h
        · by_cases hkv : visit.resource.kind = .hbmQueue ∧ context.owner = some .kv <;>
            simp [hdma, hkv] at h

theorem queueClass_communicates (name : BottleneckClass) :
    (queueClass name).communicates = name.communicates := by
  cases name <;> rfl

theorem queueClass_not_bound (name : BottleneckClass) :
    ¬ (queueClass name = .hbmBound ∨ queueClass name = .computeBound) := by
  cases name <;> simp [queueClass]

theorem visitParts_facts (hwidth : 0 < context.width) (hmem : visit ∈ visits)
    (h : part ∈ visitParts context cursor visit) : PartFacts context visits part := by
  have hnonneg := visitParts_nonneg h
  have hpositive : ∀ width ∈ visitWidth context visit, 0 < width := by
    intro width hmem
    unfold visitWidth at hmem
    split at hmem
    next =>
      cases hmem
      exact hwidth
    next => cases hmem
  simp only [visitParts, mem_cons, not_mem_nil, or_false] at h
  rcases h with rfl | rfl | rfl
  · exact ⟨hnonneg, rfl, by simp, by simp⟩
  · refine ⟨hnonneg, ?_, hpositive, ?_⟩
    · rw [queueClass_communicates, visitClass_communicates]
    · intro hbound
      exact absurd hbound (queueClass_not_bound _)
  · refine ⟨hnonneg, (visitClass_communicates context visit).symm, hpositive, ?_⟩
    intro hbound
    obtain ⟨hserved, hkernel⟩ := visitClass_bound hbound
    exact ⟨visit, hmem, hserved, hkernel⟩

theorem selectedParts_facts (hwidth : 0 < context.width) {all : List QueueVisit}
    (hsub : ∀ visit ∈ visits, visit ∈ all)
    (hcursor : cursor ≤ segment.completedAtPs)
    (h : selectedParts context segment cursor visits = .ok parts) :
    ∀ part ∈ parts, PartFacts context all part := by
  induction visits generalizing cursor parts with
  | nil =>
    cases h
    intro part hpart
    obtain rfl : part = (.externalDependency, none, (segment.completedAtPs : Int) - cursor) := by
      simpa using hpart
    exact ⟨by simp only; omega, rfl, by simp, by simp⟩
  | cons visit rest ih =>
    replace h := of_check h
    obtain ⟨_, hwithin, h⟩ := of_bind h
    obtain ⟨tail, htail, h⟩ := of_bind h
    have hbound : visit.completedAtPs ≤ segment.completedAtPs := by simpa using hwithin
    cases h
    intro part hpart
    rcases mem_append.mp hpart with hpart | hpart
    · exact visitParts_facts hwidth (hsub visit (by simp)) hpart
    · exact ih (fun other hother => hsub other (by simp [hother])) (by omega) htail part hpart

theorem foldParts_total (h : ∀ part ∈ parts, 0 ≤ part.2.2)
    (totals : List ((BottleneckClass × Option Nat) × Nat)) :
    ∃ last, parts.foldlM addPart totals = .ok last := by
  obtain ⟨last, hlast, -⟩ := Except.foldlM_total (fun _ => True)
    (f := addPart) (l := parts) (b := totals) trivial fun acc part hpart _ =>
      ⟨_, by simp [addPart, require, h part hpart, pure, Except.pure]; rfl, trivial⟩
  exact ⟨last, hlast⟩

theorem ClassShare.make_total {span : Nat} (hspan : 0 < span) (hpositive : ∀ w ∈ width, 0 < w)
    (hwidth : width.isSome = className.communicates) :
    ∃ share, ClassShare.make className width span = .ok share := by
  unfold ClassShare.make
  rw [dif_pos hspan, dif_pos hpositive, dif_pos hwidth]
  exact ⟨_, rfl⟩

variable {β κ : Type}

theorem byKey_toList [LinearOrder κ] (key : β → κ) (entry : Option β) :
    byKey key entry.toList = entry.toList := by
  cases entry with
  | none => rfl
  | some entry => simp [byKey, sortedSet, lastWith]

theorem toList_map_pairwise (R : κ → κ → Prop) (key : β → κ) (entry : Option β) :
    (entry.toList.map key).Pairwise R := by
  cases entry <;> simp

theorem ranking_accepts
    (facts : ∀ part ∈ parts, PartFacts context visits part) (kernel : Option KernelEvidence)
    (tail : Option FlowTail)
    (hkernel : ∀ visit ∈ visits, kernelServed context visit.resource.kind = true →
      kernel = context.kernel) :
    ∃ made, ranking kernelKey parts kernel.toList tail.toList = .ok made := by
  obtain ⟨totals, htotals⟩ := foldParts_total (fun part hpart => (facts part hpart).nonneg) []
  have htotal := totals_facts htotals
  obtain ⟨shares, hshares⟩ : ∃ shares, (totals.filter (·.2 != 0)).mapM
      (fun entry => ClassShare.make entry.1.1 entry.1.2 entry.2) = .ok shares := by
    refine mapM_total fun entry hentry => ?_
    obtain ⟨hmem, hpos⟩ := mem_filter.mp hentry
    obtain ⟨part, hpart, hkey⟩ := htotal.keys entry.1 (mem_map.mpr ⟨entry, hmem, rfl⟩)
    have hfacts := facts part hpart
    have hnonzero : entry.2 ≠ 0 := by simpa using hpos
    rw [← hkey]
    exact ClassShare.make_total (by omega) hfacts.positive hfacts.width
  have hclasses : rankedClasses totals =
      .ok (shares.insertionSort fun a b => a.order ≤ b.order) := by
    simp [rankedClasses, hshares, pure, Except.pure]
  have hmade := mapM_eq_ok.mp hshares
  have hperm : (shares.insertionSort fun a b => a.order ≤ b.order).Perm shares :=
    perm_insertionSort _ _
  have hkeys : shares.map (·.key) = (totals.filter (·.2 != 0)).map Prod.fst :=
    hmade.map_eq_map fun entry share hshare => by
      obtain ⟨hclass, hwidth, -⟩ := ClassShare.make_eq_ok hshare
      exact Prod.ext hclass hwidth
  have hkernels : kernel.toList.foldlM checkKernels [] = .ok kernel.toList := by
    cases kernel <;> rfl
  have htails : tail.toList.foldlM checkTails [] = .ok tail.toList := by
    cases tail <;> rfl
  have hranked : (shares.insertionSort fun a b => a.order ≤ b.order).Pairwise
      (·.order ≤ ·.order) := pairwise_insertionSort _ _
  have hdistinct : ((shares.insertionSort fun a b => a.order ≤ b.order).map (·.key)).Nodup := by
    rw [(hperm.map (·.key)).nodup_iff, hkeys]
    exact htotal.nodup.sublist (filter_sublist.map _)
  have hevidenced : ∀ share ∈ shares.insertionSort fun a b => a.order ≤ b.order,
      share.className = .hbmBound ∨ share.className = .computeBound →
        ∃ evidence ∈ kernel.toList, evidence.boundClass = share.className := by
    intro share hshare hbound
    have hkey : share.key ∈ (totals.filter (·.2 != 0)).map Prod.fst := by
      rw [← hkeys]
      exact mem_map.mpr ⟨share, hperm.mem_iff.mp hshare, rfl⟩
    obtain ⟨part, hpart, hpartkey⟩ := htotal.keys share.key
      ((filter_sublist.map _).subset hkey)
    have hclass : part.1 = share.className := congrArg Prod.fst hpartkey
    obtain ⟨visit, hvisit, hserved, hbounds⟩ := (facts part hpart).evidenced (hclass ▸ hbound)
    rw [hkernel visit hvisit hserved]
    cases hcontext : context.kernel with
    | none => simp [hcontext] at hbounds
    | some evidence =>
      refine ⟨evidence, by simp, ?_⟩
      simpa [hcontext, hclass] using hbounds
  have hidentified : (kernel.toList.map (·.identity)).Nodup := toList_map_pairwise _ _ kernel
  unfold ranking
  simp only [htotals, hclasses, hkernels, htails, byKey_toList, ok_bind]
  unfold BottleneckRanking.make
  rw [dif_pos Nat.one_pos, dif_pos rfl, dif_pos hranked, dif_pos hdistinct, dif_pos hevidenced,
    dif_pos hidentified, dif_pos (toList_map_pairwise _ _ kernel),
    dif_pos (toList_map_pairwise _ _ tail)]
  exact ⟨_, rfl⟩

theorem classifySegment_span (h : classifySegment kernelKey segment visits context = .ok made) :
    made.spanPs = segment.breakdown.operationLatencyPs ∧ made.divisor = 1 := by
  obtain ⟨parts, -, h⟩ := of_bind h
  obtain ⟨result, hresult, h⟩ := of_bind h
  obtain ⟨_, hspan, h⟩ := of_bind h
  cases h
  exact ⟨by simpa using hspan, (ranking_span hresult).2⟩

/-- The conservation check never fails: visits of the operation that complete within the segment
are classified, and their classes span its latency. -/
theorem classifySegment_accepts (hwidth : 0 < context.width)
    (howner : ∀ visit ∈ visits, visit.operationId = segment.operationId)
    (hwithin : ∀ visit ∈ visits, visit.completedAtPs ≤ segment.completedAtPs) :
    ∃ made, classifySegment kernelKey segment visits context = .ok made := by
  obtain ⟨parts, hparts⟩ := selectedParts_accepts segment.startedAtPs howner hwithin
  have hfacts := selectedParts_facts hwidth (fun _ hvisit => hvisit) segment.started_le_completed
    hparts
  let kernelUsed := visits.any (kernelServed context ·.resource.kind)
  let kernel := if kernelUsed then context.kernel else none
  let tail := if fabricUsed context segment.startedAtPs visits then context.flowTail else none
  have hkernel : ∀ visit ∈ visits, kernelServed context visit.resource.kind = true →
      kernel = context.kernel := by
    intro visit hvisit hserved
    have hused : kernelUsed = true := any_eq_true.mpr ⟨visit, hvisit, hserved⟩
    exact if_pos hused
  obtain ⟨made, hmade⟩ : ∃ made, ranking kernelKey parts kernel.toList tail.toList = .ok made :=
    ranking_accepts hfacts kernel tail hkernel
  have hspan : made.spanPs = segment.breakdown.operationLatencyPs := by
    have hsum := (ranking_span hmade).1
    have htotal := selectedParts_sum hparts
    have hlatency := segment.breakdown_conserves
    omega
  have hkernels : (if visits.any (kernelServed context ·.resource.kind) then context.kernel.toList
      else []) = kernel.toList := by
    show (if kernelUsed then _ else _) = (if kernelUsed then _ else _ : Option _).toList
    split <;> rfl
  have htails : (if fabricUsed context segment.startedAtPs visits then context.flowTail.toList
      else []) = tail.toList := by
    show _ = (if _ then _ else _ : Option _).toList
    split <;> rfl
  refine ⟨made, ?_⟩
  unfold classifySegment
  simp only [hparts, ok_bind, hkernels, htails, hmade, hspan, beq_self_eq_true, require,
    if_true]
  rfl

end Classify

end SimLLM
