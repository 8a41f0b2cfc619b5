import SimLLM.WqeLedger
import SimLLM.SerialServer
import SimLLM.Table

namespace SimLLM

open List SerialServer AtlahsWqeLedger

structure WqePortReservation where
  wqeId : String
  rnicId : String
  startedAtPs : Nat
  finishedAtPs : Nat
  serviceBytes : Nat
  deriving DecidableEq, Repr

def AtlahsWqeLedger.sourcePortReservations (ledger : AtlahsWqeLedger) : List WqePortReservation :=
  ledger.records.map fun row =>
    ⟨row.wqeId, row.rnicId, row.startedAtPs, row.finishedAtPs, row.payloadBytes⟩

def AtlahsWqeLedger.receiverPortReservations (ledger : AtlahsWqeLedger) :
    List WqePortReservation :=
  ledger.records.filterMap fun row => row.ingress.map fun port =>
    ⟨row.wqeId, port.destinationRnicId, row.startedAtPs, row.finishedAtPs, row.payloadBytes⟩

def byteLedger (reservations : List WqePortReservation) : Dict Nat :=
  (reservations.foldl (fun (totals : Dict Nat) reservation => totals.set reservation.rnicId
    ((totals.get? reservation.rnicId).getD 0 + reservation.serviceBytes)) []).insertionSort
      fun a b => a.1 ≤ b.1

def AtlahsWqeLedger.submitAll (profile : CoarseDeviceProfile) (receiverIngress : Bool)
    (ledger : AtlahsWqeLedger) (submissions : List SemanticWqeSubmission) : AtlahsWqeLedger :=
  submissions.foldl (fun ledger submission =>
    match ledger.submit profile receiverIngress submission with
    | .ok (_, after) => after
    | .error _ => ledger) ledger

structure SameWqe (R : Nat → Nat → Prop) (a b : WqeLifecycleProjection) : Prop where
  wqeId : a.wqeId = b.wqeId
  work : (a.rnicId, a.payloadBytes) = (b.rnicId, b.payloadBytes)
  sequences : (a.sqPostSequence, a.cqPostSequence) = (b.sqPostSequence, b.cqPostSequence)
  started : R a.startedAtPs b.startedAtPs
  finished : R a.finishedAtPs b.finishedAtPs
  completed : R a.completedAtPs b.completedAtPs

structure Coupled (R : Nat → Nat → Prop) (plain ingress : AtlahsWqeLedger) : Prop where
  available : ∀ rnic, R (plain.availableAtPs rnic) (ingress.availableAtPs rnic)
  sqSequences : plain.sqSequences = ingress.sqSequences
  cqSequences : plain.cqSequences = ingress.cqSequences
  records : List.Forall₂ (SameWqe R) plain.records ingress.records

variable {R : Nat → Nat → Prop} {plain ingress ledger : AtlahsWqeLedger}
  {profile : CoarseDeviceProfile} {submissions : List SemanticWqeSubmission}
  {submission : SemanticWqeSubmission} {receiverIngress : Bool}

theorem submitAll_cons : ledger.submitAll profile receiverIngress (submission :: submissions) =
    (if ordered : submission.submittedAtPs ≤ submission.eligibleAtPs then
      ledger.append (ledger.record profile receiverIngress submission ordered)
    else ledger).submitAll profile receiverIngress submissions := by
  by_cases ordered : submission.submittedAtPs ≤ submission.eligibleAtPs <;>
    simp [AtlahsWqeLedger.submitAll, AtlahsWqeLedger.submit, ordered]

theorem Coupled.append (coupled : Coupled R plain ingress)
    (hadd : ∀ a b c, R a b → R (a + c) (b + c))
    (ordered : submission.submittedAtPs ≤ submission.eligibleAtPs)
    (hstart : R (plain.start false submission) (ingress.start true submission)) :
    Coupled R (plain.append (plain.record profile false submission ordered))
      (ingress.append (ingress.record profile true submission ordered)) where
  available := by
    intro rnic
    simp only [AtlahsWqeLedger.append, AtlahsWqeLedger.record, updateKey]
    split
    · exact hadd _ _ _ hstart
    · exact coupled.available rnic
  sqSequences := by
    simp only [AtlahsWqeLedger.append, AtlahsWqeLedger.record, coupled.sqSequences]
  cqSequences := by
    simp only [AtlahsWqeLedger.append, AtlahsWqeLedger.record, coupled.cqSequences]
  records := by
    have hfinish := hadd _ _ (serializationPs submission.payloadBytes profile.rnicRateBps) hstart
    refine rel_append coupled.records (.cons ⟨rfl, rfl, ?_, hstart, hfinish,
      hadd _ _ profile.completionDeliveryPs hfinish⟩ .nil)
    simp only [AtlahsWqeLedger.record, coupled.sqSequences, coupled.cqSequences]

theorem Coupled.submitAll_le (coupled : Coupled (· ≤ ·) plain ingress) :
    Coupled (· ≤ ·) (plain.submitAll profile false submissions)
      (ingress.submitAll profile true submissions) := by
  induction submissions generalizing plain ingress with
  | nil => exact coupled
  | cons submission submissions ih =>
    rw [submitAll_cons, submitAll_cons]
    split
    next ordered =>
      refine ih (coupled.append (fun a b c h => Nat.add_le_add_right h c) ordered ?_)
      have hsource : plain.sourceReady submission ≤ ingress.sourceReady submission :=
        max_le_max_left _ (coupled.available _)
      exact hsource.trans (ingress.sourceReady_le_start true submission)
    next => exact ih coupled

theorem Coupled.submitAll_eq (coupled : Coupled Eq plain ingress)
    (hapart : (submissions.filter (ingressActive true)).Pairwise
      fun a b => rnicId a.destinationRank ≠ rnicId b.destinationRank)
    (hidle : ∀ submission ∈ submissions, ingressActive true submission →
      ingress.receiverAvailableAtPs (rnicId submission.destinationRank) = 0) :
    Coupled Eq (plain.submitAll profile false submissions)
      (ingress.submitAll profile true submissions) := by
  induction submissions generalizing plain ingress with
  | nil => exact coupled
  | cons submission submissions ih =>
    obtain ⟨hfirst, hrest⟩ := forall_mem_cons.mp hidle
    have hlater := hapart.sublist ((sublist_cons_self submission submissions).filter _)
    rw [submitAll_cons, submitAll_cons]
    split
    next ordered =>
      have hsource : plain.sourceReady submission = ingress.sourceReady submission := by
        rw [sourceReady, coupled.available, sourceReady]
      have hstart : plain.start false submission = ingress.start true submission := by
        rw [start, start, hsource]
        split
        next h => cases h
        next =>
          split
          next hactive => rw [hfirst hactive, Nat.max_zero]
          next => rfl
      refine ih (coupled.append (fun a b c h => h ▸ rfl) ordered hstart) hlater ?_
      intro later hmem hactive
      simp only [AtlahsWqeLedger.append, AtlahsWqeLedger.record]
      by_cases hown : ingressActive true submission = true
      · rw [filter_cons_of_pos hown] at hapart
        simp only [hown, if_true, updateKey]
        rw [if_neg (Ne.symm (rel_of_pairwise_cons hapart
          (mem_filter.mpr ⟨hmem, hactive⟩)))]
        exact hrest later hmem hactive
      · simp only [hown, Bool.false_eq_true, if_false]
        exact hrest later hmem hactive
    next => exact ih coupled hlater hrest

def portSlot (rnic : String) (row : WqeLifecycleProjection) :
    Slot String Nat WqeLifecycleProjection :=
  ⟨rnic, row.startedAtPs, row.finishedAtPs, row, row.started_le_finished⟩

structure Reserves (ledger : AtlahsWqeLedger) : Prop where
  source : Serves (fun _ => 0) (ledger.records.map fun row => portSlot row.rnicId row)
    ledger.availableAtPs
  receiver : Serves (fun _ => 0) (ledger.records.filterMap fun row => row.ingress.map fun port =>
    portSlot port.destinationRnicId row) ledger.receiverAvailableAtPs

theorem updateKey_eq (mapping : String → Nat) (key : String) (value : Nat) :
    updateKey mapping key value = Function.update mapping key value := by
  funext k
  rw [updateKey, Function.update_apply]

theorem Reserves.append (reserves : Reserves ledger)
    (ordered : submission.submittedAtPs ≤ submission.eligibleAtPs) :
    Reserves (ledger.append (ledger.record profile receiverIngress submission ordered)) where
  source := by
    rw [AtlahsWqeLedger.append, map_append]
    refine reserves.source.append (.single ?_ (updateKey_eq _ _ _))
    exact (le_max_right _ _).trans (ledger.sourceReady_le_start receiverIngress submission)
  receiver := by
    rw [AtlahsWqeLedger.append, filterMap_append]
    by_cases hactive : ingressActive receiverIngress submission = true
    · simp only [AtlahsWqeLedger.record, hactive, if_true]
      refine reserves.receiver.append (.single ?_ (updateKey_eq _ _ _))
      show ledger.receiverAvailableAtPs (rnicId submission.destinationRank) ≤
        ledger.start receiverIngress submission
      unfold start
      rw [if_pos hactive]
      exact le_max_right _ _
    · simpa [AtlahsWqeLedger.record, hactive] using reserves.receiver

theorem Reserves.submitAll (reserves : Reserves ledger) :
    Reserves (ledger.submitAll profile receiverIngress submissions) := by
  induction submissions generalizing ledger with
  | nil => exact reserves
  | cons submission submissions ih =>
    rw [submitAll_cons]
    split
    next ordered => exact ih (reserves.append ordered)
    next => exact ih reserves

def WqePortReservation.Before (a b : WqePortReservation) : Prop :=
  a.rnicId = b.rnicId → a.finishedAtPs ≤ b.startedAtPs

theorem Reserves.in_order (reserves : Reserves ledger) :
    ledger.sourcePortReservations.Pairwise WqePortReservation.Before ∧
      ledger.receiverPortReservations.Pairwise WqePortReservation.Before := by
  have hsource := pairwise_map.mp reserves.source.pairwise
  refine ⟨pairwise_map.mpr hsource, ?_⟩
  have hslots : ledger.receiverPortReservations = (ledger.records.filterMap fun row =>
      row.ingress.map fun port => portSlot port.destinationRnicId row).map fun slot =>
        ⟨slot.label.wqeId, slot.key, slot.start, slot.finish, slot.label.payloadBytes⟩ := by
    simp only [receiverPortReservations, map_filterMap, Option.map_map]
    rfl
  rw [hslots]
  exact pairwise_map.mpr reserves.receiver.pairwise

theorem byteLedger_congr {a b : List WqePortReservation}
    (h : a.map (fun r => (r.rnicId, r.serviceBytes)) = b.map fun r => (r.rnicId, r.serviceBytes)) :
    byteLedger a = byteLedger b := by
  have hfold : ∀ reservations : List WqePortReservation, byteLedger reservations =
      ((reservations.map fun r => (r.rnicId, r.serviceBytes)).foldl (fun (totals : Dict Nat) r =>
        totals.set r.1 ((totals.get? r.1).getD 0 + r.2)) []).insertionSort fun a b => a.1 ≤ b.1 :=
    fun reservations => by rw [foldl_map]; rfl
  rw [hfold, hfold, h]

/-- Every WQE of a list of submissions is served with receiver ingress no earlier than without it,
and at the same time if no two of them share a receiver. -/
theorem receiver_ingress_only_delays (profile : CoarseDeviceProfile)
    (submissions : List SemanticWqeSubmission) :
    let plain := AtlahsWqeLedger.submitAll profile false {} submissions
    let ingress := AtlahsWqeLedger.submitAll profile true {} submissions
    List.Forall₂ (SameWqe (· ≤ ·)) plain.records ingress.records ∧
      byteLedger plain.sourcePortReservations = byteLedger ingress.sourcePortReservations ∧
      (∀ ledger ∈ [plain, ingress],
        ledger.sourcePortReservations.Pairwise WqePortReservation.Before ∧
          ledger.receiverPortReservations.Pairwise WqePortReservation.Before) ∧
      ((submissions.filter (ingressActive true)).Pairwise
          (fun a b => rnicId a.destinationRank ≠ rnicId b.destinationRank) →
        List.Forall₂ (SameWqe Eq) plain.records ingress.records) := by
  intro plain ingress
  have hle : Coupled (· ≤ ·) plain ingress := Coupled.submitAll_le
    ⟨fun _ => le_rfl, rfl, rfl, .nil⟩
  have hreserves : ∀ receiverIngress,
      Reserves (AtlahsWqeLedger.submitAll profile receiverIngress {} submissions) := fun _ =>
    Reserves.submitAll ⟨.nil _, .nil _⟩
  refine ⟨hle.records, byteLedger_congr ?_, ?_, fun hapart => ?_⟩
  · simp only [sourcePortReservations, map_map]
    exact (hle.records.map_eq_map fun a b same => same.work.symm).symm
  · simpa using ⟨(hreserves false).in_order, (hreserves true).in_order⟩
  · exact (Coupled.submitAll_eq ⟨fun _ => rfl, rfl, rfl, .nil⟩ hapart fun _ _ _ => rfl).records

/-- Only with ingress are bytes charged to a receiver. -/
theorem receiver_bytes_differ :
    ∃ submissions, byteLedger
        (AtlahsWqeLedger.submitAll {} false {} submissions).receiverPortReservations ≠
      byteLedger (AtlahsWqeLedger.submitAll {} true {} submissions).receiverPortReservations :=
  ⟨[⟨"execution", "send", 0, 8, 1, 0, 0, "default", 0, 0, 0, none⟩], by decide +kernel⟩

end SimLLM
