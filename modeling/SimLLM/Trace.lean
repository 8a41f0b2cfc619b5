import SimLLM.Staging

namespace SimLLM

open List FirstExtremum

variable {selected entry : ReadyEntry} {entries remaining order group : List ReadyEntry}
variable {scheduled : List ScheduledOperation} {state : RuntimeState} {fuel : Nat}

variable {κ π σ τ : Type} {cfg : RuntimeConfig κ σ τ} {policy : ArbitrationPolicy π}
  {context : GraphContext} {edges : List EffectiveDependencyEdge} {launched : List Launched}

variable {p p' : π}

theorem entryOf_eq_ok {candidate : ArbitrationCandidate}
    (h : entryOf entries candidate = .ok entry) :
    entry ∈ entries ∧ entry.id = candidate.operationId := by
  unfold entryOf at h
  split at h
  next found hfind =>
    cases h
    exact of_find?_key hfind
  next => cases h

theorem selectReadyOperation_mem (h : selectReadyOperation policy entries p = .ok selected p') :
    selected ∈ entries := by
  obtain ⟨granted, middle, -, h⟩ := EStateM.bind_eq_ok.mp h
  exact (entryOf_eq_ok (liftExcept_ok h).1).1

/-- The answers a policy gives until nothing remains, each one of the members still offered. -/
inductive GrantOrder (policy : ArbitrationPolicy π) :
    List ReadyEntry → π → List ReadyEntry → π → Prop
  | nil (p : π) : GrantOrder policy [] p [] p
  | cons {remaining rest : List ReadyEntry} {entry : ReadyEntry} {p between p' : π}
      (member : entry ∈ remaining)
      (answer : policy.select p
        ((remaining.insertionSort (fun a b => a.index ≤ b.index)).map ReadyEntry.candidate) =
          (.ok entry.candidate, between))
      (later : GrantOrder policy (remaining.eraseP (·.id == entry.id)) between rest p') :
      GrantOrder policy remaining p (entry :: rest) p'

theorem grant_eq_ok {candidates : List ArbitrationCandidate} {granted : ArbitrationCandidate}
    (h : grant policy candidates p = .ok granted p') :
    granted ∈ candidates ∧ policy.select p candidates = (.ok granted, p') := by
  unfold grant at h
  split at h
  next => cases h
  next answer after hselect =>
    split at h
    next hmem =>
      cases h
      exact ⟨hmem, hselect⟩
    next => cases h

theorem arbitratedOrder_granted (hnodup : (remaining.map (·.id)).Nodup)
    (hfuel : remaining.length ≤ fuel)
    (h : arbitratedOrder policy fuel remaining p = .ok order p') :
    GrantOrder policy remaining p order p' ∧ order.Perm remaining := by
  induction fuel generalizing remaining order p p' with
  | zero =>
    obtain rfl := length_eq_zero_iff.mp (Nat.le_zero.mp hfuel)
    cases h
    exact ⟨.nil p, .nil⟩
  | succ fuel ih =>
    unfold arbitratedOrder at h
    split at h
    next hempty =>
      obtain rfl := isEmpty_iff.mp hempty
      cases h
      exact ⟨.nil p, .nil⟩
    next =>
      obtain ⟨granted, p₁, hgrant, h⟩ := EStateM.bind_eq_ok.mp h
      obtain ⟨entry, p₂, hentry, h⟩ := EStateM.bind_eq_ok.mp h
      obtain ⟨rest, p₃, hrest, h⟩ := EStateM.bind_eq_ok.mp h
      cases h
      obtain ⟨hoffered, hanswer⟩ := grant_eq_ok hgrant
      obtain ⟨hfound, rfl⟩ := liftExcept_ok hentry
      obtain ⟨hmem, hid⟩ := entryOf_eq_ok hfound
      obtain ⟨other, hother, rfl⟩ := mem_map.mp hoffered
      obtain rfl : entry = other :=
        inj_on_of_nodup_map hnodup hmem ((perm_insertionSort _ _).mem_iff.mp hother) hid
      have hperm := perm_cons_eraseP hnodup hmem
      have hlength := hperm.length_eq
      rw [length_cons] at hlength
      obtain ⟨hgranted, hleft⟩ := ih ((eraseP_sublist.map _).nodup hnodup) (by omega) hrest
      exact ⟨.cons hmem hanswer hgranted, (hleft.cons entry).trans hperm.symm⟩

/-- The group of a selected operation: members that do not push its start back, all of them in the
order the policy grants them. -/
structure ComputeGroup (cfg : RuntimeConfig κ σ τ) (policy : ArbitrationPolicy π)
    (selected : ReadyEntry) (entries : List ReadyEntry) (state : RuntimeState) (p : π)
    (group : List ReadyEntry) (p' : π) (members : List ReadyEntry) : Prop where
  ready : members <+ entries
  member : ∀ entry ∈ members, isGroupMember selected.operation.rank
    (groupStart selected.operation.rank [selected] state) state entry = true
  selected : selected ∈ group
  perm : group.Perm members
  granted : if cfg.serialCompute then p' = p else GrantOrder policy members p group p'

theorem ComputeGroup.nodup {members : List ReadyEntry}
    (h : ComputeGroup cfg policy selected entries state p group p' members)
    (hnodup : (entries.map (·.id)).Nodup) : (group.map (·.id)).Nodup :=
  ((h.perm.map _).nodup_iff).mpr ((h.ready.map _).nodup hnodup)

theorem isGroupMember_self (hcompute : selected.operation.compute?.isSome) :
    isGroupMember selected.operation.rank (groupStart selected.operation.rank [selected] state)
      state selected = true := by
  by_cases hdemand : 0 < selected.operation.hbmDemand
  · simp [isGroupMember, groupStart, hcompute, hdemand]
  · simp [isGroupMember, groupStart, hcompute, hdemand]
    omega

theorem computeGroup_spec (hnodup : (entries.map (·.id)).Nodup) (hselected : selected ∈ entries)
    (hcompute : selected.operation.compute?.isSome)
    (h : computeGroup cfg policy selected entries state p = .ok group p') :
    ∃ members, ComputeGroup cfg policy selected entries state p group p' members := by
  have hself := @isGroupMember_self selected state hcompute
  unfold computeGroup at h
  split at h
  next hserial =>
    cases h
    exact ⟨[selected], singleton_sublist.mpr hselected, by simpa using hself, by simp, .refl _,
      by rw [if_pos hserial]⟩
  next hserial =>
    have hmembers := filter_sublist (p := isGroupMember selected.operation.rank
      (groupStart selected.operation.rank [selected] state) state) (l := entries)
    obtain ⟨hgranted, hperm⟩ := arbitratedOrder_granted ((hmembers.map _).nodup hnodup) le_rfl h
    exact ⟨_, hmembers, fun entry he => (mem_filter.mp he).2,
      hperm.mem_iff.mpr (mem_filter.mpr ⟨hselected, hself⟩), hperm, by rwa [if_neg hserial]⟩

/-- One iteration of the scheduling loop, with everything it can do: it grants entries that
are ready after the operations scheduled before, either a compute group or one other
operation. -/
structure Iteration (cfg : RuntimeConfig κ σ τ) (context : GraphContext)
    (edges : List EffectiveDependencyEdge) (launched : List Launched)
    (scheduled : List ScheduledOperation) (m : Machine τ) (grant : Grant τ) (after : Machine τ) :
    Prop where
  before : grant.before = m
  granted_ne : grant.granted ≠ []
  granted_nodup : (grant.granted.map (·.id)).Nodup
  ready : ∀ entry ∈ grant.granted, ∃ source ∈ readyLaunches edges launched scheduled,
    readyEntry edges scheduled source = .ok entry
  realized : scheduleComputeGroup cfg context.graph grant.granted m = .ok (grant.outcomes, after) ∨
    ∃ entry outcome, grant.granted = [entry] ∧ grant.outcomes = [outcome] ∧
      scheduleNoncompute cfg context entry m = .ok (outcome, after)

theorem readyEntry_id {source : Launched} (h : readyEntry edges scheduled source = .ok entry) :
    entry.operation = source.operation ∧ entry.index = source.index ∧
      entry.launch = source.launch := by
  obtain ⟨ready, -, h⟩ := of_bind h
  cases h
  exact ⟨rfl, rfl, rfl⟩

theorem readyEntries_ids {sources : List Launched}
    (h : sources.mapM (readyEntry edges scheduled) = .ok entries) :
    entries.map (·.id) = sources.map (·.operation.operationId) :=
  (mapM_eq_ok.mp h).map_eq_map fun _ _ hentry =>
    congrArg (·.operationId) (readyEntry_id hentry).1

theorem grantSelected_eq (entries : List ReadyEntry) (selected : ReadyEntry) (m : Machine τ) :
    grantSelected cfg policy context entries selected m =
      if selected.operation.compute?.isSome then do
        let group ← computeGroup cfg policy selected entries m.state
        let (outcomes, after) ← liftExcept (scheduleComputeGroup cfg context.graph group m)
        pure (⟨m, group, outcomes⟩, after)
      else (do
        let (outcome, after) ← liftExcept (scheduleNoncompute cfg context selected m)
        pure (⟨m, [selected], [outcome]⟩, after)) := by
  unfold grantSelected ExecutionOperation.compute?
  cases selected.operation.work <;> rfl

theorem scheduleStep_iteration {loop next : LoopState τ}
    (hnodup : (launched.map (·.operation.operationId)).Nodup)
    (h : scheduleStep cfg policy context edges launched loop p = .ok next p') :
    ∃ grant, next.grants = loop.grants ++ [grant] ∧
      Iteration cfg context edges launched loop.scheduled loop.machine grant next.machine := by
  obtain ⟨entries, p₁, hentries, h⟩ := EStateM.bind_eq_ok.mp h
  have hmap := (liftExcept_ok hentries).1
  have hids : (entries.map (·.id)).Nodup := by
    rw [readyEntries_ids hmap]
    exact (filter_sublist.map _).nodup hnodup
  have hready : ∀ entry ∈ entries, ∃ source ∈ readyLaunches edges launched loop.scheduled,
      readyEntry edges loop.scheduled source = .ok entry := fun entry he =>
    mapM_mem hmap he
  split at h
  next => cases h
  next =>
    obtain ⟨selected, p₂, hselect, h⟩ := EStateM.bind_eq_ok.mp h
    have hmem := selectReadyOperation_mem hselect
    obtain ⟨⟨grant, machine⟩, p₃, hgrant, h⟩ := EStateM.bind_eq_ok.mp h
    cases h
    refine ⟨grant, rfl, ?_⟩
    rw [grantSelected_eq] at hgrant
    split at hgrant
    next hcompute =>
      obtain ⟨group, p₄, hgroup, hgrant⟩ := EStateM.bind_eq_ok.mp hgrant
      obtain ⟨⟨outcomes, after⟩, p₅, houtcomes, hgrant⟩ := EStateM.bind_eq_ok.mp hgrant
      cases hgrant
      obtain ⟨members, spec⟩ := computeGroup_spec hids hmem hcompute hgroup
      exact ⟨rfl, ne_nil_of_mem spec.selected, spec.nodup hids,
        fun entry he => hready entry (spec.ready.subset (spec.perm.mem_iff.mp he)),
        .inl (liftExcept_ok houtcomes).1⟩
    next =>
      obtain ⟨⟨outcome, after⟩, p₅, houtcome, hgrant⟩ := EStateM.bind_eq_ok.mp hgrant
      cases hgrant
      refine ⟨rfl, by simp, by simp, ?_, .inr ⟨selected, outcome, rfl, rfl,
        (liftExcept_ok houtcome).1⟩⟩
      intro entry he
      cases mem_singleton.mp he
      exact hready selected hmem

inductive Trace (cfg : RuntimeConfig κ σ τ) (context : GraphContext)
    (edges : List EffectiveDependencyEdge) (launched : List Launched) (start : Machine τ) :
    List (Grant τ) → Machine τ → Prop
  | nil : Trace cfg context edges launched start [] start
  | snoc {grants : List (Grant τ)} {m after : Machine τ} {grant : Grant τ}
      (run : Trace cfg context edges launched start grants m)
      (step : Iteration cfg context edges launched (grants.flatMap (·.outcomes)) m grant after) :
      Trace cfg context edges launched start (grants ++ [grant]) after

theorem scheduleLoop_trace {start : Machine τ} {loop final : LoopState τ}
    (hnodup : (launched.map (·.operation.operationId)).Nodup)
    (run : Trace cfg context edges launched start loop.grants loop.machine)
    (h : scheduleLoop cfg policy context edges launched fuel loop p = .ok final p') :
    Trace cfg context edges launched start final.grants final.machine ∧
      ∀ entry ∈ launched, isScheduled final.scheduled entry.operation.operationId := by
  induction fuel generalizing loop p with
  | zero =>
    unfold scheduleLoop at h
    split at h
    next hall =>
      cases h
      exact ⟨run, by simpa using hall⟩
    next => cases h
  | succ fuel ih =>
    unfold scheduleLoop at h
    split at h
    next hall =>
      cases h
      exact ⟨run, by simpa using hall⟩
    next =>
      obtain ⟨next, p₁, hstep, h⟩ := EStateM.bind_eq_ok.mp h
      obtain ⟨grant, hgrants, hiteration⟩ := scheduleStep_iteration hnodup hstep
      refine ih ?_ h
      rw [hgrants]
      exact run.snoc hiteration

end SimLLM
