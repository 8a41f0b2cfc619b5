import SimLLM.Rnic.QueueRun

namespace SimLLM.Rnic

variable {φ : Type} {service : PcieService φ} {setup : WorkQueueSetup} {memory : VirtualHostMemory}
  {polled : List CompletionEntry} {lost : Option CompletionEntry} {s : Session φ}
variable {port : NetworkPort} {queue : WorkQueue} {next : Option Nat} {nowPs : Nat}

theorem exists_sooner_le {atPs : Nat} :
    (∃ t ∈ sooner next atPs, t ≤ nowPs) ↔ (∃ t ∈ next, t ≤ nowPs) ∨ atPs ≤ nowPs := by
  unfold sooner
  cases next with
  | none => simp
  | some t => by_cases hlt : atPs < t <;> simp [hlt] <;> omega

theorem cqeDue_iff :
    (∃ t ∈ queue.pendingCqes.head?.map fun item => max item.1.1 queue.lastObservedTimePs,
      t ≤ nowPs) ↔ queue.lastObservedTimePs ≤ nowPs ∧ queue.cqeDue nowPs = true := by
  unfold WorkQueue.cqeDue
  cases queue.pendingCqes.head? with
  | none => simp
  | some item =>
    simp
    omega

theorem nextEventTime_le_iff (h : queue.nextEventTime = .ok next) :
    (∃ t ∈ next, t ≤ nowPs) ↔ queue.lastObservedTimePs ≤ nowPs ∧ queue.due nowPs = true := by
  unfold WorkQueue.nextEventTime at h
  split at h
  next hfatal =>
    cases h
    simp [WorkQueue.due, hfatal]
  next hlive =>
    have hdue : queue.due nowPs = (queue.cqeDue nowPs || queue.submitDue nowPs) := by
      simp [WorkQueue.due, hlive]
    rw [hdue, Bool.or_eq_true, and_or_left, ← cqeDue_iff]
    split at h
    next hready =>
      cases h
      simp [WorkQueue.submitDue, WorkQueue.headAdmission, hready]
    next wqeId rest hready =>
      obtain ⟨record, hrecord, h⟩ := of_bind h
      split at h
      next => cases h
      next admitted hadmitted =>
        have hadmission : queue.headAdmission = some admitted := by
          simp [WorkQueue.headAdmission, hready, hrecord, hadmitted, Except.toOption]
        unfold WorkQueue.submitDue WorkQueue.stillBlocked
        rw [hadmission]
        split at h
        next hblocked =>
          split at h
          next hretry =>
            cases h
            simp [hblocked, hretry]
          next retryAt hretry =>
            cases h
            rw [exists_sooner_le]
            refine or_congr_right ?_
            simp [hblocked, hretry]
            omega
        next hfree =>
          cases h
          rw [exists_sooner_le]
          refine or_congr_right ?_
          simp [hfree]
          omega

def Worked (before after : WorkQueue) : Prop :=
  before.counters.cqesVisible < after.counters.cqesVisible ∨
    before.counters.networkSubmitAttempts < after.counters.networkSubmitAttempts ∨
    before.fatal = false ∧ after.fatal = true

theorem Worked.of_work {before after : WorkQueue} (h : before.work < after.work) :
    Worked before after := by
  unfold WorkQueue.work at h
  unfold Worked
  cases hbefore : before.fatal <;> cases hafter : after.fatal <;>
    simp only [hbefore, hafter, Bool.toNat_true, Bool.toNat_false] at h <;> simp <;> omega

theorem progress_advances (h : s.Inv setup polled lost)
    (htime : s.queue.lastObservedTimePs ≤ nowPs) :
    (progress service setup memory port nowPs s).EndsIn (Advances nowPs s) := by
  refine (progress_inv h).mono (fun _ _ hdone => hdone.2.2) ?_
  rintro s' ⟨_, ⟨_, hback⟩ | hadvances⟩
  · omega
  · exact hadvances

end SimLLM.Rnic
