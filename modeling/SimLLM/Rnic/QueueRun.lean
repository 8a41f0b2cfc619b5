import SimLLM.Rnic.QueueEvents

namespace SimLLM.Rnic

open List

variable {φ : Type}

inductive QueueCall where
  | post (request : WorkRequest) (nowPs : Nat)
  | postBatch (requests : List WorkRequest) (nowPs : Nat)
  | doorbell (nowPs : Nat) (producerTask : Option RnicProducerTaskLink)
  | progress (port : NetworkPort) (nowPs : Nat)
  | networkEvent (received : NetworkEvent)
  | poll (maxEntries nowPs : Nat)

inductive QueueAction where
  | call (memory : VirtualHostMemory) (call : QueueCall)
  | otherTraffic (request : PcieTransactionRequest) (attribution : PcieEndpointAttribution)

structure QueueRun (φ : Type) where
  session : Session φ
  polled : List CompletionEntry := []

section Step

variable (service : PcieService φ) (setup : WorkQueueSetup)

def QueueCall.perform (memory : VirtualHostMemory) : QueueCall → QueueM φ (List CompletionEntry)
  | .post request nowPs => do
    let _ ← postSend setup memory request nowPs
    return []
  | .postBatch requests nowPs => do
    let _ ← postSendBatch setup memory requests nowPs
    return []
  | .doorbell nowPs producerTask => do
    let _ ← ringDoorbell service setup memory nowPs producerTask
    return []
  | .progress port nowPs => do
    let _ ← Rnic.progress service setup memory port nowPs
    return []
  | .networkEvent received => do
    onNetworkEvent service setup memory received
    return []
  | .poll maxEntries nowPs => pollCompletionQueue setup maxEntries nowPs

def QueueRun.step (run : QueueRun φ) : QueueAction → QueueRun φ
  | .call memory call =>
    match call.perform service setup memory run.session with
    | .ok entries session => { session := session, polled := run.polled ++ entries }
    | .error _ session => { run with session := session }
  | .otherTraffic request attribution =>
    match run.session.fabric.schedule service request attribution with
    | .ok (_, fabric) => { run with session := { run.session with fabric := fabric } }
    | .error _ => run

def QueueRun.start (fabric : PcieFabric φ) (actions : List QueueAction) : QueueRun φ :=
  actions.foldl (QueueRun.step service setup) { session := { queue := {}, fabric := fabric } }

end Step

variable {service : PcieService φ} {setup : WorkQueueSetup}

theorem Session.Inv.fresh (fabric : PcieFabric φ) :
    Session.Inv setup [] none { queue := {}, fabric := fabric } := by
  have hwqe : ∀ wqeId record, ({} : WorkQueue).wqe wqeId ≠ .ok record := by
    intro wqeId record hrecord
    have hget := (WorkQueue.wqe_eq_ok.mp hrecord).2.1
    cases hget
  have hnone : ∀ {α : Type} {P : α → Prop}, ∀ a ∈ ([] : List α), P a :=
    fun _ hmem => absurd hmem not_mem_nil
  refine ⟨⟨?_, ?_, ⟨?_, ?_⟩, ?_, hnone, ?_, ?_, fun _ => ⟨rfl, rfl, rfl⟩⟩, rfl, rfl, rfl⟩
  · exact ⟨rfl, rfl, rfl, rfl, Nat.zero_le _, rfl, Nat.one_pos, Nat.le_refl _⟩
  · intro index record hget
    cases hget
  · intro state
    cases state <;> exact nodup_nil
  · intro state hneeds wqeId
    constructor
    · intro hmem
      cases state <;> cases hmem
    · rintro ⟨record, hrecord, _⟩
      exact absurd hrecord (hwqe wqeId record)
  · exact ⟨nodup_nil, hnone, hnone, hnone⟩
  · intro wqeId
    constructor
    · intro hfailed
      cases hfailed
    · rintro (⟨outcome, hmem, _⟩ | ⟨record, hrecord, _⟩)
      · cases hmem
      · exact absurd hrecord (hwqe wqeId record)
  · refine ⟨⟨rfl, rfl, rfl, hnone⟩, hnone, hnone, List.Pairwise.nil, hnone, rfl, rfl, ?_,
      Nat.le_refl _, rfl, Nat.zero_le _⟩
    intro entry hentry
    cases hentry

variable {lost : Option CompletionEntry}

theorem QueueCall.perform_inv {s : Session φ} {polled : List CompletionEntry}
    (h : s.Inv setup polled lost) (memory : VirtualHostMemory) (call : QueueCall) :
    (call.perform service setup memory s).Ends
      (fun entries s' => ∃ lost, s'.Inv setup (polled ++ entries) lost)
      (fun s' => ∃ lost, s'.Inv setup polled lost) := by
  have hquiet : ∀ s' : Session φ, s'.Inv setup polled lost →
      ((pure [] : QueueM φ (List CompletionEntry)) s').Ends
        (fun entries s' => ∃ lost, s'.Inv setup (polled ++ entries) lost)
        (fun s' => ∃ lost, s'.Inv setup polled lost) :=
    fun s' h' => ⟨lost, by rw [append_nil]; exact h'⟩
  cases call with
  | post request nowPs =>
    exact (postSend_inv h).bind (fun _ => hquiet) fun _ hsame => ⟨lost, hsame ▸ h⟩
  | postBatch requests nowPs =>
    exact (postSendFrom_inv h).bind (fun _ => hquiet) fun _ h' => ⟨lost, h'⟩
  | doorbell nowPs producerTask =>
    exact (ringDoorbell_inv h).bind (fun _ => hquiet) fun _ hsame => ⟨lost, hsame ▸ h⟩
  | progress port nowPs =>
    refine (progress_inv h).bind ?_ fun _ h' => h'.1
    rintro _ s' ⟨⟨lost', h'⟩, _⟩
    exact ⟨lost', by rw [append_nil]; exact h'⟩
  | networkEvent received =>
    exact (onNetworkEvent_inv h).bind (fun _ => hquiet) fun _ hsame => ⟨lost, hsame ▸ h⟩
  | poll maxEntries nowPs =>
    refine (pollCompletionQueue_inv h).mono (fun _ _ h' => h'.1) ?_
    rintro s' ⟨rfl, _⟩
    exact ⟨lost, h⟩

theorem QueueRun.step_inv {run : QueueRun φ} (h : run.session.Inv setup run.polled lost)
    (action : QueueAction) : ∃ lost, (run.step service setup action).session.Inv setup
      (run.step service setup action).polled lost := by
  cases action with
  | call memory call =>
    have hcall : (call.perform service setup memory run.session).Ends _ _ :=
      QueueCall.perform_inv h memory call
    simp only [QueueRun.step]
    cases hresult : call.perform service setup memory run.session with
    | ok entries session | error error session =>
      rw [hresult] at hcall
      exact hcall
  | otherTraffic request attribution =>
    simp only [QueueRun.step]
    cases hscheduled : run.session.fabric.schedule service request attribution with
    | error error => exact ⟨lost, h⟩
    | ok scheduled =>
      refine ⟨lost, ?_, h.settled⟩
      refine h.consistent.withHorizon fun item hitem => ?_
      refine Nat.le_trans (h.consistent.cqes.bounded item hitem) ?_
      unfold cqeHorizon
      cases setup.pcie with
      | none => exact Nat.le_refl _
      | some attachment => exact PcieFabric.schedule_posted_le hscheduled _

theorem QueueRun.inv_start (service : PcieService φ) (setup : WorkQueueSetup)
    (fabric : PcieFabric φ) (actions : List QueueAction) :
    ∃ lost, (QueueRun.start service setup fabric actions).session.Inv setup
      (QueueRun.start service setup fabric actions).polled lost := by
  unfold QueueRun.start
  have hfresh : ∃ lost, Session.Inv setup
      ({ session := { queue := {}, fabric := fabric } } : QueueRun φ).polled lost
      ({ session := { queue := {}, fabric := fabric } } : QueueRun φ).session :=
    ⟨none, Session.Inv.fresh fabric⟩
  generalize ({ session := { queue := {}, fabric := fabric } } : QueueRun φ) = run at hfresh
  induction actions generalizing run with
  | nil => exact hfresh
  | cons action rest ih =>
    obtain ⟨lost, h⟩ := hfresh
    exact ih (run.step service setup action) (QueueRun.step_inv h action)

def QueueCall.atomic : QueueCall → Bool
  | .post .. | .doorbell .. | .networkEvent _ | .poll .. => true
  | .postBatch .. | .progress .. => false

theorem QueueCall.perform_rejected {s : Session φ} {polled : List CompletionEntry}
    (h : s.Inv setup polled lost) (memory : VirtualHostMemory)
    {call : QueueCall} (hcall : call.atomic = true) :
    (call.perform service setup memory s).Ends (fun _ _ => True) (· = s) := by
  cases call with
  | post request nowPs => exact (postSend_inv h).bind fun _ _ _ => trivial
  | doorbell nowPs producerTask => exact (ringDoorbell_inv h).bind fun _ _ _ => trivial
  | networkEvent received => exact (onNetworkEvent_inv h).bind fun _ _ _ => trivial
  | poll maxEntries nowPs =>
    exact (pollCompletionQueue_inv h).mono (fun _ _ _ => trivial) fun _ hback => hback.1
  | postBatch requests nowPs | progress port nowPs => cases hcall

/-- A post, doorbell, network event or poll that throws after any run leaves the queue and its
fabric as they were, and the run goes on as if it had never been made. -/
theorem rejected_call_atomic (service : PcieService φ) (setup : WorkQueueSetup)
    (fabric : PcieFabric φ) (earlier later : List QueueAction) (memory : VirtualHostMemory)
    {call : QueueCall} (hcall : call.atomic = true) {error : CppError} {left : Session φ}
    (h : call.perform service setup memory (QueueRun.start service setup fabric earlier).session =
      .error error left) :
    left = (QueueRun.start service setup fabric earlier).session ∧
      QueueRun.start service setup fabric (earlier ++ .call memory call :: later) =
        QueueRun.start service setup fabric (earlier ++ later) := by
  obtain ⟨lost, hinv⟩ := QueueRun.inv_start service setup fabric earlier
  have hsame := ends_of_eq_error (QueueCall.perform_rejected hinv memory hcall) h
  have hstep : (QueueRun.start service setup fabric earlier).step service setup
      (.call memory call) = QueueRun.start service setup fabric earlier := by
    simp only [QueueRun.step, h, hsame]
  refine ⟨hsame, ?_⟩
  unfold QueueRun.start at hstep ⊢
  rw [foldl_append, foldl_cons, hstep, foldl_append]

/-- A scalar queue refuses a producer task and goes on. -/
theorem refused_task_atomic :
    let setup := scalarSetup 1 1 (by decide)
    let posted : QueueAction := .call {} (.post {} 3)
    let doorbell : QueueCall := .doorbell 3 (some ⟨1, "t", .gpuInitiated, {}, 0, 0, 0, 0, 0⟩)
    QueueRun.start promptService setup promptFabric [posted, .call {} doorbell] =
      QueueRun.start promptService setup promptFabric [posted] := by
  intro setup posted doorbell
  exact (@rejected_call_atomic _ promptService setup promptFabric [posted] [] {} doorbell rfl _ _
    rfl).2

end SimLLM.Rnic
