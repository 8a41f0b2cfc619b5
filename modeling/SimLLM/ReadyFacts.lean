import SimLLM.GraphFacts
import SimLLM.Trace

namespace SimLLM

open FirstExtremum

variable {acc : ReadinessState} {witness : CausalWitness} {rank : Nat}
variable {edge : EffectiveDependencyEdge} {outcome : ScheduledOperation}

theorem selectCausalWitness_spec (first : Nat × Option CausalWitness)
    (others : List (Nat × Option CausalWitness)) :
    ∃ chosen ∈ first :: others, selectCausalWitness first others = chosen.2 := by
  obtain ⟨chosen, hbest⟩ := exists_maxBy candidateKey (List.cons_ne_nil first others)
  refine ⟨chosen, maxBy_mem hbest, ?_⟩
  rw [selectCausalWitness, hbest]
  rfl

def Boundary (scheduled : List ScheduledOperation) (witness : CausalWitness) : Prop :=
  ∃ predecessor, scheduled? scheduled witness.predecessorId = some predecessor ∧
    witness.participantRank ∈ predecessor.participantCompletedAtPs.ranks ∧
    predecessor.participantCompletedAtPs.get witness.participantRank = witness.completedAtPs

def EdgeMet (ranks : List Nat) (scheduled : List ScheduledOperation) (byRank : RankMap Nat)
    (edge : EffectiveDependencyEdge) : Prop :=
  ∃ predecessor, scheduled? scheduled edge.predecessorId = some predecessor ∧
    match edge.scope with
    | .wholeOperation => ∀ rank ∈ ranks, predecessor.logicalCompletedAtPs ≤ byRank.get rank
    | .participantLocal => ∃ rank, edge.participantRank = some rank ∧
        rank ∈ predecessor.participantCompletedAtPs.ranks ∧
        predecessor.participantCompletedAtPs.get rank ≤ byRank.get rank

structure Readies (launch : QueueVisit) (ranks : List Nat) (scheduled : List ScheduledOperation)
    (acc : ReadinessState) : Prop where
  keys : acc.readiness.ranks = ranks
  witness_keys : acc.witnesses.ranks = ranks
  launched : ∀ rank, launch.completedAtPs ≤ acc.readiness.get rank
  witness : ∀ rank w, acc.witnesses.get rank = some w →
    w.completedAtPs ≤ acc.readiness.get rank ∧ Boundary scheduled w

section Constrain

variable {launch : QueueVisit} {ranks : List Nat} {scheduled : List ScheduledOperation}

theorem Readies.constrain (inv : Readies launch ranks scheduled acc)
    (hboundary : Boundary scheduled witness) (hrank : rank ∈ ranks) :
    Readies launch ranks scheduled (acc.constrain witness rank) := by
  have hmem := inv.keys ▸ hrank
  have hmem' := inv.witness_keys ▸ hrank
  refine ⟨?_, ?_, ?_, ?_⟩
  · exact (RankMap.set_ranks_of_mem hmem).trans inv.keys
  · exact (RankMap.set_ranks_of_mem hmem').trans inv.witness_keys
  · intro r
    have hlaunch := inv.launched r
    simp only [ReadinessState.constrain, RankMap.set_get]
    split
    next heq =>
      subst heq
      omega
    next => exact hlaunch
  · intro r w hw
    simp only [ReadinessState.constrain, RankMap.set_get] at hw ⊢
    split at hw
    next heq =>
      subst heq
      rw [if_pos rfl]
      cases hprev : acc.witnesses.get r with
      | none =>
        simp only [hprev, Option.some.injEq] at hw
        subst hw
        exact ⟨le_max_right _ _, hboundary⟩
      | some previous =>
        simp only [hprev] at hw
        obtain ⟨hle, hprior⟩ := inv.witness r previous hprev
        obtain ⟨chosen, hchosen, hselect⟩ := selectCausalWitness_spec
          (previous.completedAtPs, some previous) [(witness.completedAtPs, some witness)]
        rw [hselect] at hw
        simp only [List.mem_cons, List.not_mem_nil, or_false] at hchosen
        rcases hchosen with rfl | rfl
        · cases hw
          exact ⟨le_trans hle (le_max_left _ _), hprior⟩
        · cases hw
          exact ⟨le_max_right _ _, hboundary⟩
    next hne =>
      rw [if_neg hne]
      exact inv.witness r w hw

theorem constrain_mono (acc : ReadinessState) (witness : CausalWitness) (rank r : Nat) :
    acc.readiness.get r ≤ (acc.constrain witness rank).readiness.get r := by
  simp only [ReadinessState.constrain, RankMap.set_get]
  split
  next heq =>
    subst heq
    exact le_max_left _ _
  next => exact le_refl _

theorem EdgeMet.mono {byRank byRank' : RankMap Nat} (h : EdgeMet ranks scheduled byRank edge)
    (hle : ∀ r, byRank.get r ≤ byRank'.get r) : EdgeMet ranks scheduled byRank' edge := by
  obtain ⟨predecessor, hfind, hmet⟩ := h
  refine ⟨predecessor, hfind, ?_⟩
  cases hscope : edge.scope with
  | wholeOperation =>
    simp only [hscope] at hmet
    exact fun rank hrank => le_trans (hmet rank hrank) (hle rank)
  | participantLocal =>
    simp only [hscope] at hmet
    obtain ⟨rank, hrank, hin, hmet⟩ := hmet
    exact ⟨rank, hrank, hin, le_trans hmet (hle rank)⟩

theorem logicalCompletionParticipantRank_spec
    (h : logicalCompletionParticipantRank outcome = .ok rank) :
    rank ∈ outcome.participantCompletedAtPs.ranks ∧
      outcome.participantCompletedAtPs.get rank = outcome.logicalCompletedAtPs := by
  simp only [logicalCompletionParticipantRank] at h
  split at h
  next best hbest =>
    cases h
    have hmem := List.mem_filter.mp (maxBy_mem hbest)
    exact ⟨hmem.1, by simpa using hmem.2⟩
  next => cases h

theorem lookupScheduled_eq_ok {outcomes : List ScheduledOperation} {id : String} :
    lookupScheduled outcomes id = .ok outcome ↔ scheduled? outcomes id = some outcome := by
  unfold lookupScheduled
  cases scheduled? outcomes id <;> simp

section

variable (inv : Readies launch ranks scheduled acc)

include inv

theorem Readies.constrainAll (constrained : List Nat)
    (hboundary : Boundary scheduled witness) (hsub : ∀ rank ∈ constrained, rank ∈ ranks) :
    let final := constrained.foldl (ReadinessState.constrain witness) acc
    Readies launch ranks scheduled final ∧
      (∀ r, acc.readiness.get r ≤ final.readiness.get r) ∧
      ∀ r ∈ constrained, witness.completedAtPs ≤ final.readiness.get r := by
  induction constrained generalizing acc with
  | nil => exact ⟨inv, fun r => le_refl _, by simp⟩
  | cons rank rest ih =>
    have hstep := inv.constrain hboundary (hsub rank (by simp))
    obtain ⟨hinv, hmono, hall⟩ := ih hstep fun r hr => hsub r (by simp [hr])
    refine ⟨hinv, fun r => le_trans (constrain_mono acc witness rank r) (hmono r), ?_⟩
    intro r hr
    rcases List.mem_cons.mp hr with rfl | hr
    · refine le_trans ?_ (hmono r)
      simp [ReadinessState.constrain, RankMap.set_get]
    · exact hall r hr

theorem Readies.applyEdge {next : ReadinessState}
    (hlocal : ∀ rank, edge.participantRank = some rank → rank ∈ ranks)
    (h : applyEdge ranks scheduled acc edge = .ok next) : Readies launch ranks scheduled next ∧
      (∀ r, acc.readiness.get r ≤ next.readiness.get r) ∧
      EdgeMet ranks scheduled next.readiness edge := by
  obtain ⟨predecessor, hlookup, h⟩ := of_bind h
  obtain ⟨⟨witness, constrained⟩, hconstraint, h⟩ := of_bind h
  cases h
  have hfind := lookupScheduled_eq_ok.mp hlookup
  unfold edgeConstraint at hconstraint
  cases hscope : edge.scope with
  | wholeOperation =>
    simp only [hscope] at hconstraint
    obtain ⟨rank, hrank, heq⟩ := of_bind hconstraint
    cases heq
    obtain ⟨hin, hcompleted⟩ := logicalCompletionParticipantRank_spec hrank
    have hboundary : Boundary scheduled
        ⟨edge.predecessorId, rank, predecessor.logicalCompletedAtPs⟩ :=
      ⟨predecessor, hfind, hin, hcompleted⟩
    obtain ⟨hinv, hmono, hall⟩ := inv.constrainAll ranks hboundary fun r hr => hr
    refine ⟨hinv, hmono, predecessor, hfind, ?_⟩
    simp only [hscope]
    exact hall
  | participantLocal =>
    simp only [hscope] at hconstraint
    cases hrank : edge.participantRank with
    | none => simp [hrank] at hconstraint
    | some rank =>
      simp only [hrank] at hconstraint
      split at hconstraint
      next hin =>
        cases hconstraint
        have hboundary : Boundary scheduled ⟨edge.predecessorId, rank,
            predecessor.participantCompletedAtPs.get rank⟩ := ⟨predecessor, hfind, hin, rfl⟩
        obtain ⟨hinv, hmono, hall⟩ := inv.constrainAll [rank] hboundary
          (by simpa using hlocal rank hrank)
        refine ⟨hinv, hmono, predecessor, hfind, ?_⟩
        simp only [hscope]
        exact ⟨rank, hrank, hin, hall rank (by simp)⟩
      next => cases hconstraint

theorem Readies.applyEdges {incoming : List EffectiveDependencyEdge} {final : ReadinessState}
    (hlocal : ∀ edge ∈ incoming, ∀ rank, edge.participantRank = some rank → rank ∈ ranks)
    (h : incoming.foldlM (SimLLM.applyEdge ranks scheduled) acc = .ok final) :
    Readies launch ranks scheduled final ∧
      (∀ r, acc.readiness.get r ≤ final.readiness.get r) ∧
      ∀ edge ∈ incoming, EdgeMet ranks scheduled final.readiness edge := by
  induction incoming generalizing acc with
  | nil =>
    cases h
    exact ⟨inv, fun r => le_refl _, by simp⟩
  | cons edge rest ih =>
    obtain ⟨next, hedge, hrest⟩ := of_bind h
    obtain ⟨hinv, hmono, hmet⟩ := inv.applyEdge (hlocal edge (by simp)) hedge
    obtain ⟨hfinal, hmono', hall⟩ := ih hinv (fun e he => hlocal e (by simp [he])) hrest
    refine ⟨hfinal, fun r => le_trans (hmono r) (hmono' r), ?_⟩
    exact List.forall_mem_cons.mpr ⟨hmet.mono hmono', hall⟩

end

end Constrain

/-- What makes an entry ready: every participant waits for the launch and for each edge, and
the witness of a participant names the boundary it waits for. -/
structure ReadyFacts (edges : List EffectiveDependencyEdge) (scheduled : List ScheduledOperation)
    (entry : ReadyEntry) : Prop where
  keys : entry.ready.byRank.ranks = operationParticipantRanks entry.operation
  witness_keys : entry.ready.witnesses.ranks = operationParticipantRanks entry.operation
  launched : ∀ rank, entry.launch.completedAtPs ≤ entry.ready.byRank.get rank
  witness : ∀ rank w, entry.ready.witnesses.get rank = some w →
    w.completedAtPs ≤ entry.ready.byRank.get rank ∧ Boundary scheduled w
  eligible : entry.ready.eligibleAtPs = minValue entry.ready.byRank
  met : ∀ edge ∈ incomingEdges edges entry.id,
    EdgeMet (operationParticipantRanks entry.operation) scheduled entry.ready.byRank edge

theorem readyEntry_facts {edges : List EffectiveDependencyEdge}
    {scheduled : List ScheduledOperation} {source : Launched} {entry : ReadyEntry}
    (hlocal : ∀ edge ∈ edges, edge.operationId = source.operation.operationId →
      ∀ rank, edge.participantRank = some rank →
        rank ∈ operationParticipantRanks source.operation)
    (h : readyEntry edges scheduled source = .ok entry) : ReadyFacts edges scheduled entry := by
  obtain ⟨ready, hready, h⟩ := of_bind h
  cases h
  obtain ⟨final, hfold, hready⟩ := of_bind hready
  cases hready
  have hstart : Readies source.launch (operationParticipantRanks source.operation) scheduled
      ⟨.const (operationParticipantRanks source.operation) source.launch.completedAtPs,
        .const (operationParticipantRanks source.operation) none⟩ :=
    ⟨rfl, rfl, fun _ => le_refl _, by simp⟩
  obtain ⟨hinv, -, hmet⟩ := hstart.applyEdges (fun edge he rank hrank => by
    obtain ⟨hin, hid⟩ := List.mem_filter.mp he
    exact hlocal edge hin (by simpa using hid) rank hrank) hfold
  exact ⟨hinv.keys, hinv.witness_keys, hinv.launched, hinv.witness, rfl, hmet⟩

end SimLLM
