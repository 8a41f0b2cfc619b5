import SimLLM.ComposedRnic
import SimLLM.ReportFacts

namespace SimLLM

open List

theorem escapeId_eq_replace (value : String) :
    escapeId value = replaceChar ':' "%3A" (replaceChar '%' "%25" value) := by
  have hfirst : (replaceChar '%' "%25" value).toList = _ := String.toList_ofList
  unfold escapeId
  rw [replaceChar, hfirst, flatMap_assoc]
  refine congrArg (fun code => String.ofList (value.toList.flatMap code)) (funext fun c => ?_)
  by_cases hpercent : c = '%'
  · subst hpercent
    rfl
  · simp [hpercent]

theorem escapeId_inj {s t : String} (h : escapeId s = escapeId t) : s = t := by
  refine String.toList_inj.mp (Names.flatMap_inj ?_ ?_ (String.ofList_injective h))
  · intro c
    split_ifs <;> simp
  · intro a b s t hcode
    -- only the escaped characters start with a percent sign, and they go on differently
    split_ifs at hcode <;> simp at hcode <;> grind

theorem colon_not_mem_escapeId (value : String) : ':' ∉ (escapeId value).toList := by
  unfold escapeId
  rw [String.toList_ofList]
  intro h
  obtain ⟨c, -, hc⟩ := mem_flatMap.mp h
  split_ifs at hc <;> simp at hc
  exact absurd hc.symm ‹_›

theorem toList_colon : ":".toList = [':'] := rfl

theorem escaped_pair_inj {w e o e' o' : String} {s t : List Char}
    (h : (w ++ escapeId e ++ ":" ++ escapeId o).toList ++ ':' :: s =
      (w ++ escapeId e' ++ ":" ++ escapeId o').toList ++ ':' :: t) :
    e = e' ∧ o = o' ∧ s = t := by
  simp only [String.toList_append, append_assoc, append_cancel_left_eq, toList_colon,
    singleton_append] at h
  obtain ⟨he, h⟩ := Names.separator_inj (colon_not_mem_escapeId e) (colon_not_mem_escapeId e') h
  obtain ⟨ho, h⟩ := Names.separator_inj (colon_not_mem_escapeId o) (colon_not_mem_escapeId o') h
  exact ⟨escapeId_inj (String.toList_inj.mp he), escapeId_inj (String.toList_inj.mp ho), h⟩

theorem escaped_inj {w e o e' o' : String}
    (h : w ++ escapeId e ++ ":" ++ escapeId o = w ++ escapeId e' ++ ":" ++ escapeId o') :
    e = e' ∧ o = o' := by
  obtain ⟨he, ho, -⟩ := @escaped_pair_inj w e o e' o' [] [] (by rw [h])
  exact ⟨he, ho⟩

theorem ledgerWqeId_inj {a b : SemanticWqeSubmission} (h : ledgerWqeId a = ledgerWqeId b) :
    a.executionId = b.executionId ∧ a.operationId = b.operationId ∧
      a.extentIndex = b.extentIndex := by
  have hparts (front : String) (n : Nat) :
      (front ++ ":" ++ toString n).toList = front.toList ++ ':' :: (toString n).toList := by
    rw [String.toList_append, String.toList_append, append_assoc, toList_colon, singleton_append]
  have hl := congrArg String.toList h
  unfold ledgerWqeId at hl
  rw [hparts, hparts] at hl
  obtain ⟨he, ho, hn⟩ := escaped_pair_inj hl
  exact ⟨he, ho, Names.toString_toList_inj hn⟩

section Sends

variable {κ σ τ : Type} {cfg : RuntimeConfig κ σ τ} {graph : ExecutionGraph} {entry : ReadyEntry}
  {m m' : Machine τ} {outcome : ScheduledOperation} {P : WqeLifecycleProjection → Prop}

variable (hsubmit : ∀ before submission wqe after,
  cfg.authority.submit before submission = .ok (wqe, after) →
    ProjectionAgrees cfg submission wqe → P wqe)

include hsubmit

theorem send_wqes {request : SendRequest} {send : SendSchedule}
    (h : scheduleSemanticSend cfg graph entry.operation request m = .ok (send, m')) :
    ∀ wqe ∈ send.projection.toList, P wqe := by
  rcases scheduleSemanticSend_cases h with
    ⟨-, -, -, -, hnone, -⟩ | ⟨-, wqe, after, hanswer, hagrees, -, hsome, -⟩
  · simp [hnone]
  · simpa [hsome] using hsubmit _ _ _ _ hanswer hagrees

theorem scheduleControl_wqes {work : ControlWork}
    (h : scheduleControl cfg graph entry work m = .ok (outcome, m')) :
    ∀ wqe ∈ outcome.wqes, P wqe := by
  obtain ⟨control, fan, logical, paths, witness, -, hfan, -, -, rfl⟩ := scheduleControl_eq_ok h
  refine foldlM_invariant (fun acc : FanOut τ => ∀ wqe ∈ acc.wqes, P wqe) hfan nofun ?_
  intro acc after destination _ hacc hstep
  rcases deliverControl_cases hstep with rfl | ⟨request, send, hsend, -, hwqes⟩
  · exact hacc
  · rw [hwqes]
    exact forall_mem_append.mpr ⟨hacc, send_wqes hsubmit hsend⟩

theorem scheduleCollective_wqes {work : CollectiveWork} {goalTags : List Nat}
    {plan : Option CollectivePlan}
    (h : scheduleCollective cfg graph entry work goalTags plan m = .ok (outcome, m')) :
    ∀ wqe ∈ outcome.wqes, P wqe := by
  obtain ⟨expansion, hwqes, -, -, heq⟩ := scheduleCollective_expansion
    (Q := fun acc : Expansion τ => ∀ wqe ∈ acc.wqes, P wqe) (fun hacc hhop => by
      obtain ⟨between, -, -, hsend, -⟩ := scheduleHop_eq_ok hhop
      exact forall_mem_append.mpr ⟨hacc, send_wqes hsubmit hsend⟩) nofun h
  rwa [heq]

theorem scheduleNoncompute_wqes {context : GraphContext}
    (h : scheduleNoncompute cfg context entry m = .ok (outcome, m')) :
    ∀ wqe ∈ outcome.wqes, P wqe := by
  unfold scheduleNoncompute at h
  split at h
  next work hwork =>
    obtain ⟨choice, copy, hbm, ranks, run⟩ := scheduleDma_run hwork h
    rw [run.outcome_eq]
    exact nofun
  next =>
    dsimp only at h
    split at h
    next =>
      cases h
      exact nofun
    next =>
      obtain ⟨visit, -, rfl, -⟩ := scheduleKvTraffic_eq_ok h
      exact nofun
  next => exact scheduleControl_wqes hsubmit h
  next =>
    obtain ⟨tags, -, h⟩ := of_bind h
    exact scheduleCollective_wqes hsubmit h
  next => cases h

theorem Trace.wqes {context : GraphContext} {edges : List EffectiveDependencyEdge}
    {launched : List Launched} {start : Machine τ} {grants : List (Grant τ)}
    (run : Trace cfg context edges launched start grants m) :
    ∀ wqe ∈ (grants.flatMap (·.outcomes)).flatMap (·.wqes), P wqe := by
  induction run with
  | nil => exact nofun
  | snoc _ step ih =>
    rw [flatMap_append, flatMap_append]
    refine forall_mem_append.mpr ⟨ih, ?_⟩
    simp only [flatMap_cons, flatMap_nil, append_nil, mem_flatMap]
    rintro wqe ⟨outcome, houtcome, hwqe⟩
    rcases step.realized with hgroup | ⟨entry, one, -, houtcomes, hone⟩
    · obtain ⟨rank, finished, group⟩ := scheduleComputeGroup_run hgroup
      obtain ⟨entry, -, duration, -, hmember⟩ := group.members.exists_left houtcome
      obtain ⟨gpu, hbm, -, -, -, rfl⟩ := scheduleGroupMember_eq_ok hmember
      cases hwqe
    · rw [houtcomes, mem_singleton] at houtcome
      exact scheduleNoncompute_wqes hsubmit hone wqe (houtcome ▸ hwqe)

end Sends

section Ledger

variable {κ π : Type} {options : RuntimeOptions κ}

structure LedgerNamed (wqe : WqeLifecycleProjection) (submission : SemanticWqeSubmission) :
    Prop where
  wqeId : wqe.wqeId = ledgerWqeId submission
  operationId : wqe.operationId = submission.operationId
  extentIndex : wqe.extentIndex = submission.extentIndex
  queues : ∀ queue ∈ [wqe.sqId, wqe.rqId, wqe.cqId, wqe.qpId], ∃ rank kind,
    queue = atlahsName rank ++ kind

theorem bypass_named {before after : AtlahsWqeLedger} {submission : SemanticWqeSubmission}
    {wqe : WqeLifecycleProjection}
    (h : options.bypass.authority.submit before submission = .ok (wqe, after)) :
    LedgerNamed wqe submission := by
  change AtlahsWqeLedger.submit _ _ _ _ = _ at h
  unfold AtlahsWqeLedger.submit at h
  split at h
  next =>
    cases h
    refine ⟨rfl, rfl, rfl, ?_⟩
    simp only [AtlahsWqeLedger.record, mem_cons, not_mem_nil, or_false, forall_eq_or_imp, forall_eq]
    exact ⟨⟨_, _, rfl⟩, ⟨_, _, rfl⟩, ⟨_, _, rfl⟩, ⟨_, _, rfl⟩⟩
  next => cases h

theorem RunFacts.wqes_nodup {graph : ExecutionGraph} {edges : List EffectiveDependencyEdge}
    {scheduled : List ScheduledOperation} (run : RunFacts graph edges scheduled) :
    ((scheduled.flatMap (·.wqes)).map fun wqe => (wqe.operationId, wqe.extentIndex)).Nodup := by
  have howner : ∀ outcome ∈ scheduled, (outcome.wqes.map (·.extentIndex)).Nodup ∧
      ∀ wqe ∈ outcome.wqes, wqe.operationId = outcome.operation.operationId := by
    intro outcome houtcome
    obtain ⟨prior, entry, real⟩ := run.realized outcome houtcome
    exact ⟨real.facts.extents, fun wqe hwqe =>
      ((real.facts.wqes wqe hwqe).operationId).trans (by rw [real.facts.operation])⟩
  rw [map_flatMap, nodup_flatMap]
  refine ⟨fun outcome houtcome => ?_, ?_⟩
  · refine Nodup.of_map Prod.snd ?_
    rw [map_map]
    exact (howner outcome houtcome).1
  · refine (pairwise_map.mp run.ids_nodup).imp_of_mem fun {a b} ha hb hne => ?_
    intro key hfirst hsecond
    obtain ⟨w, hw, rfl⟩ := mem_map.mp hfirst
    obtain ⟨v, hv, heq⟩ := mem_map.mp hsecond
    apply hne
    rw [← (howner a ha).2 w hw, ← (howner b hb).2 v hv, (Prod.mk.inj heq).1]

def aliasedGraph : ExecutionGraph where
  executionId := "step"
  stepIndex := 0
  releasedAtPs := 0
  operations := ["a:b", "a%3Ab"].map fun name =>
    { operationId := name, rank := 0, logicalQueue := "control"
      work := .control { message := "m", destinationRanks := [8], payloadBytes := 8 } }

def nativeWqe (id atPs : Nat) : ComposedWqeObservation :=
  ⟨id + 1, 0, atPs, atPs, atPs + 1, Nat.succ_pos id, Nat.zero_le atPs, Nat.le_refl atPs,
    Nat.le_succ atPs⟩

def twoWqeCell (bytes : Nat) : ComposedRnicCell where
  payloadBytes := bytes + 1
  doorbellServicePs := 0
  wqes := [nativeWqe 0 0, nativeWqe 1 1]
  payload_pos := Nat.succ_pos bytes
  wqe_count := .inr rfl
  eligible := by simp [nativeWqe]

end Ledger

end SimLLM
