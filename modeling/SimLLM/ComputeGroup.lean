import SimLLM.LocalFacts

namespace SimLLM

open List

variable {κ π σ τ : Type} {cfg : RuntimeConfig κ σ τ} {policy : ArbitrationPolicy π} {p p' : π}
  {selected : ReadyEntry} {entries group : List ReadyEntry} {state : RuntimeState}

theorem groupStart_le_iff {rank start : Nat} : groupStart rank group state ≤ start ↔
    (∀ entry ∈ group, entry.ready.byRank.get rank ≤ start) ∧ state.gpuAvailable rank ≤ start ∧
      ((∃ entry ∈ group, 0 < entry.operation.hbmDemand) → state.hbmAvailable rank ≤ start) := by
  have hready : (group.map (·.ready.byRank.get rank)).foldl max 0 ≤ start ↔
      ∀ entry ∈ group, entry.ready.byRank.get rank ≤ start := by
    rw [foldl_max]
    cases hmax : (group.map (·.ready.byRank.get rank)).max? with
    | none => simp_all
    | some best => simpa using max?_le_iff hmax
  unfold groupStart
  dsimp only
  split
  next huses =>
    simp only [max_le_iff, hready, and_assoc]
    simp_all
  next huses =>
    simp only [max_le_iff, hready]
    simp_all

theorem ComputeGroup.start_eq {members : List ReadyEntry}
    (h : ComputeGroup cfg policy selected entries state p group p' members) :
    groupStart selected.operation.rank group state =
      groupStart selected.operation.rank [selected] state := by
  have hmember := fun entry (he : entry ∈ group) => h.member entry (h.perm.mem_iff.mp he)
  simp only [isGroupMember, Bool.and_eq_true, decide_eq_true_eq, Bool.or_eq_true, beq_iff_eq]
    at hmember
  apply le_antisymm
  · obtain ⟨-, hgpu, -⟩ := groupStart_le_iff.mp (le_refl (groupStart _ [selected] state))
    refine groupStart_le_iff.mpr ⟨fun entry he => (hmember entry he).1.2, hgpu, ?_⟩
    rintro ⟨entry, he, hdemand⟩
    exact (hmember entry he).2.resolve_left hdemand.ne'
  · obtain ⟨hready, hgpu, hhbm⟩ := groupStart_le_iff.mp (le_refl (groupStart _ group state))
    refine groupStart_le_iff.mpr ⟨by simpa using hready selected h.selected, hgpu, ?_⟩
    rintro ⟨entry, he, hdemand⟩
    exact hhbm ⟨entry, mem_singleton.mp he ▸ h.selected, hdemand⟩

/-- **Compute grouping never delays the selected kernel.** The group is the ready compute work of
its rank that can start with it, in the order of the policy's grants, and the visits it is realized
by start when the selected operation alone would. -/
theorem compute_group_never_delays (hnodup : (entries.map (·.id)).Nodup)
    (hselected : selected ∈ entries) (hcompute : selected.operation.compute?.isSome)
    (h : computeGroup cfg policy selected entries state p = .ok group p') :
    let rank := selected.operation.rank
    (group.map (·.id)).Nodup ∧ selected ∈ group ∧
      (∃ members, members <+ entries ∧ group.Perm members ∧
        (∀ entry ∈ members, entry.operation.compute?.isSome ∧ entry.operation.rank = rank) ∧
        if cfg.serialCompute then p' = p else GrantOrder policy members p group p') ∧
      ∀ (graph : ExecutionGraph) (wqe : τ) outcomes m',
        scheduleComputeGroup cfg graph group ⟨state, wqe⟩ = .ok (outcomes, m') →
        ∀ outcome ∈ outcomes, ∃ launch service, outcome.visits = launch :: service ∧
          ∀ visit ∈ service, visit.startedAtPs =
            max (max (selected.ready.byRank.get rank) (state.gpuAvailable rank))
              (if 0 < selected.operation.hbmDemand then state.hbmAvailable rank else 0) := by
  intro rank
  obtain ⟨members, hgroup⟩ := computeGroup_spec hnodup hselected hcompute h
  have hmember := hgroup.member
  simp only [isGroupMember, Bool.and_eq_true, beq_iff_eq] at hmember
  refine ⟨hgroup.nodup hnodup, hgroup.selected, ⟨members, hgroup.ready, hgroup.perm,
    fun entry he => (hmember entry he).1.1, hgroup.granted⟩, ?_⟩
  intro graph wqe outcomes m' hrun outcome houtcome
  obtain ⟨rank', finished, run⟩ := scheduleComputeGroup_run hrun
  obtain rfl : rank = rank' := run.same_rank selected hgroup.selected
  obtain ⟨entry, -, duration, -, hscheduled⟩ := run.members.exists_left houtcome
  obtain ⟨gpu, hbm, hgpu, hhbm, -, rfl⟩ := scheduleGroupMember_eq_ok hscheduled
  have hstart : groupStart rank group state = max (max (selected.ready.byRank.get rank)
      (state.gpuAvailable rank)) (if 0 < selected.operation.hbmDemand then state.hbmAvailable rank
        else 0) := by
    rw [hgroup.start_eq]
    simp only [groupStart, map_cons, map_nil, foldl_cons, foldl_nil, any_cons, any_nil,
      Bool.or_false, decide_eq_true_eq, Nat.zero_max]
    split <;> simp [rank]
  refine ⟨entry.launch, gpu :: hbm, rfl, forall_mem_cons.mpr ⟨?_, fun visit hv => ?_⟩⟩
  · rw [hgpu]
    exact hstart
  · rw [(hhbm visit hv).2]
    exact hstart

def readyKernel (name : String) (index readyAtPs : Nat) (hbmBytes : Option Nat) : ReadyEntry where
  operation := { operationId := name, rank := 0, logicalQueue := "compute"
                 work := .compute { kernel := "k", hbmBytes := hbmBytes
                                    nominalDurationPs := some 10 } }
  index := index
  launch := { executionId := "x", operationId := name, resource := launchResource 0
              submittedAtPs := readyAtPs, eligibleAtPs := readyAtPs, startedAtPs := readyAtPs
              finishedAtPs := readyAtPs, completedAtPs := readyAtPs
              submitted_le_eligible := Nat.le_refl readyAtPs
              eligible_le_started := Nat.le_refl readyAtPs
              started_le_finished := Nat.le_refl readyAtPs
              finished_le_completed := Nat.le_refl readyAtPs }
  ready := ⟨.const [0] readyAtPs, .const [0] none, readyAtPs⟩

/-- While the HBM is busy, the kernel that needs it is left out. -/
theorem busy_hbm_left_out :
    let entries := [readyKernel "a" 0 1 none, readyKernel "b" 1 0 (some 8),
      readyKernel "c" 2 0 none]
    let group := [readyKernel "a" 0 1 none, readyKernel "c" 2 0 none]
    let options : RuntimeOptions Unit := {}
    computeGroup options.bypass identityArbitrationPolicy (readyKernel "a" 0 1 none) entries
      { hbmAvailable := fun _ => 9 } () = .ok group () ∧ readyKernel "a" 0 1 none ∈ group := by
  intro entries group options
  have hgroup : computeGroup options.bypass identityArbitrationPolicy (readyKernel "a" 0 1 none)
    entries { hbmAvailable := fun _ => 9 } () = .ok group () := rfl
  exact ⟨hgroup, (compute_group_never_delays (by decide) (by simp [entries]) (by decide)
    hgroup).2.1⟩

end SimLLM
