import SimLLM.Rnic.RxFrames

namespace SimLLM.Rnic

open List EStateM

variable {config : RnicRxPipelineConfig} {packet : RnicRxPacket} {nowPs : Nat}
variable {pipeline : RnicRxPipeline} {qp : QpState} {key : Nat × Nat} {first opening : Nat}

def reachesProcessor (config : RnicRxPipelineConfig) (pipeline : RnicRxPipeline)
    (packet : RnicRxPacket) (nowPs : Nat) : Bool :=
  match ingress config packet nowPs pipeline with
  | .ok verdict _ => !verdict.refused
  | .error _ _ => false

def reachesSequenceCheck (config : RnicRxPipelineConfig) (pipeline : RnicRxPipeline)
    (packet : RnicRxPacket) (nowPs : Nat) : Bool :=
  match ingress config packet nowPs pipeline with
  | .error _ _ => false
  | .ok verdict metered =>
    let opened := openQp config packet metered
    !verdict.refused && ceilingsAdmit config packet nowPs opened &&
      match chargeCeilings config packet nowPs opened with
      | .ok _ _ => true
      | .error _ _ => false

/-- A packet that does not reach the sequence check gets no answer. -/
def Unanswered (result : Option RnicRxResult) : Prop :=
  ∀ answer, result = some answer → answer.outcome = .discardedSilently ∧ answer.reply = none

def answerOf : EStateM.Result CppError RnicRxPipeline RnicRxResult → Option RnicRxResult
  | .ok result _ => some result
  | .error _ _ => none

theorem sequenceCheck_rate (qp : QpState) (rate : RateGate) :
    sequenceCheck packet { qp with rate := rate } =
      ({ (sequenceCheck packet qp).1 with rate := rate }, (sequenceCheck packet qp).2) := by
  unfold sequenceCheck
  split
  · rfl
  · dsimp only
    split
    · rfl
    · split
      · rfl
      · split <;> rfl

/-- A packet the stream does not wait for moves nothing: it is acknowledged again, or the missing
one is asked for, unless that was done before. -/
theorem sequenceCheck_unexpected {qp : QpState} (hreliable : packet.service ≠ .unreliable)
    (hne : packet.psn ≠ qp.expectedPsn) : ∃ recovery outcome reply,
      sequenceCheck packet qp = ({ qp with inRecovery := recovery }, outcome, reply) ∧
      outcome ≠ .delivered ∧ (∀ given, reply = some given →
        given.kind = .ack ∧ given.psn + 1 = qp.expectedPsn ∨
        given.kind = .nak ∧ given.psn = qp.expectedPsn) ∧
      (reply.isSome = true ∨ qp.inRecovery = true) := by
  rw [sequenceCheck, if_neg hreliable, if_neg hne]
  split
  next hlow =>
    refine ⟨_, _, _, rfl, nofun, ?_, .inl rfl⟩
    rintro _ ⟨⟩
    exact .inl ⟨rfl, Nat.sub_add_cancel (Nat.zero_lt_of_lt hlow)⟩
  next =>
    split
    next =>
      refine ⟨_, _, _, rfl, nofun, ?_, .inl rfl⟩
      rintro _ ⟨⟩
      exact .inr ⟨rfl, rfl⟩
    next hquiet =>
      exact ⟨_, _, _, rfl, nofun, nofun, .inr (by simp_all)⟩

inductive PacketEffect (config : RnicRxPipelineConfig) (before : RnicRxPipeline)
    (packet : RnicRxPacket) (nowPs : Nat) (after : RnicRxPipeline) :
    Option RnicRxResult → Prop where
  | stopped {result : Option RnicRxResult}
      (reaches : reachesProcessor config before packet nowPs = false)
      (checked : reachesSequenceCheck config before packet nowPs = false)
      (qps : after.qps = before.qps) (silent : Unanswered result) :
      PacketEffect config before packet nowPs after result
  | opened {result : Option RnicRxResult} (rate : RateGate)
      (reaches : reachesProcessor config before packet nowPs = true)
      (checked : reachesSequenceCheck config before packet nowPs = false)
      (pair : after.qps.get? packet.key = some { qpState config before packet with rate := rate })
      (others : ∀ key, key ≠ packet.key → after.qps.get? key = before.qps.get? key)
      (silent : Unanswered result) :
      PacketEffect config before packet nowPs after result
  | checked {answer : RnicRxResult} (rate : RateGate)
      (reaches : reachesProcessor config before packet nowPs = true)
      (checked : reachesSequenceCheck config before packet nowPs = true)
      (pair : after.qps.get? packet.key =
        some { (sequenceCheck packet (qpState config before packet)).1 with rate := rate })
      (others : ∀ key, key ≠ packet.key → after.qps.get? key = before.qps.get? key)
      (outcome : answer.outcome = (sequenceCheck packet (qpState config before packet)).2.1)
      (reply : answer.reply = (sequenceCheck packet (qpState config before packet)).2.2) :
      PacketEffect config before packet nowPs after (some answer)

theorem qpState_congr {other : RnicRxPipeline} (h : other.qps = pipeline.qps) :
    qpState config other packet = qpState config pipeline packet := by
  unfold qpState
  rw [h]

theorem qpState_of_get? (h : pipeline.qps.get? packet.key = some qp) :
    qpState config pipeline packet = qp := by
  unfold qpState
  rw [h]
  rfl

theorem openQp_get? :
    (openQp config packet pipeline).qps.get? packet.key =
      some (qpState config pipeline packet) := by
  simp [openQp, Table.get?_set]

theorem get?_set_of_ne {qps : Table (Nat × Nat) QpState} {other : Nat × Nat}
    (h : other ≠ key) : (qps.set key qp).get? other = qps.get? other := by
  rw [Table.get?_set, if_neg (Ne.symm h)]

theorem openQp_others (h : key ≠ packet.key) :
    (openQp config packet pipeline).qps.get? key = pipeline.qps.get? key :=
  get?_set_of_ne h

theorem acceptPacket_eq {cnp : Option (Nat × Nat)}
    (h : pipeline.qps.get? packet.key = some qp) :
    ∃ answer after, acceptPacket config packet nowPs cnp pipeline = .ok answer after ∧
      after.qps = pipeline.qps.set packet.key (sequenceCheck packet qp).1 ∧
      answer.outcome = (sequenceCheck packet qp).2.1 ∧
      answer.reply = (sequenceCheck packet qp).2.2 := by
  let entered := enterBuffer config packet nowPs pipeline
  have hentered : entered.qps = pipeline.qps := enterBuffer_qps
  have hqp : qpState config entered packet = qp := by
    rw [qpState_congr hentered]
    exact qpState_of_get? h
  refine ⟨_, _, rfl, ?_, ?_, ?_⟩
  · show (noteOutcome packet _ _ _).qps = _
    rw [noteOutcome_qps]
    show entered.qps.set packet.key (sequenceCheck packet (qpState config entered packet)).1 = _
    rw [hqp, hentered]
  · show (sequenceCheck packet (qpState config entered packet)).2.1 = _
    rw [hqp]
  · show (sequenceCheck packet (qpState config entered packet)).2.2 = _
    rw [hqp]

theorem onPacket_effect (before : RnicRxPipeline) :
    PacketEffect config before packet nowPs (onPacket config packet nowPs before).state
      (answerOf (onPacket config packet nowPs before)) := by
  have hingress := @keepsQps_ingress config packet nowPs before
  cases hverdict : ingress config packet nowPs before with
  | error error metered =>
    rw [hverdict] at hingress
    rw [onPacket_thrown hverdict]
    exact .stopped (by simp [reachesProcessor, hverdict]) (by simp [reachesSequenceCheck, hverdict])
      hingress nofun
  | ok verdict metered =>
    rw [hverdict] at hingress
    have hmetered : metered.qps = before.qps := hingress
    by_cases hrefused : verdict.refused = true
    · rw [onPacket_refused hverdict hrefused]
      refine .stopped (by simp [reachesProcessor, hverdict, hrefused])
        (by simp [reachesSequenceCheck, hverdict, hrefused]) ?_ ?_
      · exact notePause_qps.trans hmetered
      · rintro answer hanswer
        cases hanswer
        exact ⟨rfl, rfl⟩
    · rw [onPacket_passed hverdict hrefused]
      have hreaches : reachesProcessor config before packet nowPs = true := by
        simp [reachesProcessor, hverdict, hrefused]
      let opened := openQp config packet metered
      have hqp : qpState config metered packet = qpState config before packet :=
        qpState_congr hmetered
      have hpair : opened.qps.get? packet.key = some (qpState config before packet) := by
        rw [← hqp]
        exact openQp_get?
      have hothers : ∀ key, key ≠ packet.key → opened.qps.get? key = before.qps.get? key := by
        intro key hkey
        rw [openQp_others hkey, hmetered]
      by_cases hadmits : ceilingsAdmit config packet nowPs opened = true
      · rw [receiveProcessor_admitted hadmits]
        have hcharged := @chargeCeilings_ends config packet nowPs opened
        have hopened : qpState config opened packet = qpState config before packet :=
          qpState_of_get? hpair
        cases hcharge : chargeCeilings config packet nowPs opened with
        | error error failed =>
          rw [hcharge] at hcharged
          obtain ⟨-, -, rate, hrate⟩ := hcharged
          rw [bind_of_error hcharge]
          refine .opened rate hreaches ?_ ?_ ?_ nofun
          · simp only [reachesSequenceCheck, hverdict]
            rw [show openQp config packet metered = opened from rfl, hcharge]
            simp
          · show failed.qps.get? packet.key = _
            rw [hrate, Table.get?_set, if_pos rfl, hopened]
          · intro key hkey
            show failed.qps.get? key = _
            rw [hrate, get?_set_of_ne hkey, hothers key hkey]
        | ok _ charged =>
          rw [hcharge] at hcharged
          obtain ⟨-, -, rate, hrate⟩ := hcharged
          rw [bind_of_ok hcharge]
          have hget : charged.qps.get? packet.key =
              some { qpState config before packet with rate := rate } := by
            rw [hrate, Table.get?_set, if_pos rfl, hopened]
          obtain ⟨answer, after, haccept, hafter, houtcome, hreply⟩ :=
            @acceptPacket_eq config packet nowPs charged _ verdict.cnp hget
          rw [sequenceCheck_rate] at hafter houtcome hreply
          rw [haccept]
          refine .checked rate hreaches ?_ ?_ ?_ houtcome hreply
          · simp only [reachesSequenceCheck, hverdict]
            rw [show openQp config packet metered = opened from rfl, hcharge]
            simp [hrefused, hadmits]
          · show after.qps.get? packet.key = _
            rw [hafter, Table.get?_set, if_pos rfl]
          · intro key hkey
            show after.qps.get? key = _
            rw [hafter, get?_set_of_ne hkey, hrate, get?_set_of_ne hkey, hothers key hkey]
      · rw [receiveProcessor_limited hadmits]
        refine .opened (qpState config before packet).rate hreaches ?_ ?_ ?_ ?_
        · simp only [reachesSequenceCheck, hverdict]
          rw [show openQp config packet metered = opened from rfl]
          simp [hadmits]
        · show (notePause config _).qps.get? packet.key = _
          rw [notePause_qps]
          exact hpair
        · intro key hkey
          show (notePause config _).qps.get? key = _
          rw [notePause_qps]
          exact hothers key hkey
        · rintro answer hanswer
          cases hanswer
          exact ⟨rfl, rfl⟩

inductive RxCall where
  | packet (packet : RnicRxPacket) (nowPs : Nat)
  | progress (nowPs : Nat)
  deriving DecidableEq, Repr

structure RxEntry where
  before : RnicRxPipeline
  packet : RnicRxPacket
  nowPs : Nat
  answer : Option RnicRxResult
  deriving DecidableEq, Repr

structure RxRun where
  pipeline : RnicRxPipeline
  log : List RxEntry := []

namespace RxRun

def step (config : RnicRxPipelineConfig) (run : RxRun) : RxCall → RxRun
  | .packet packet nowPs =>
    let ended := onPacket config packet nowPs run.pipeline
    ⟨ended.state, run.log ++ [⟨run.pipeline, packet, nowPs, answerOf ended⟩]⟩
  | .progress nowPs => { run with pipeline := (rxProgress config nowPs run.pipeline).state }

def after (config : RnicRxPipelineConfig) (start : RnicRxPipeline) (calls : List RxCall) : RxRun :=
  calls.foldl (step config) { pipeline := start }

end RxRun

def NumberedFrom (first : Nat) (key : Nat × Nat) (calls : List RxCall) : Prop :=
  ∀ packet nowPs, .packet packet nowPs ∈ calls → packet.key = key →
    packet.service = .reliableConnected ∧ first ≤ packet.psn ∧ packet.psn + 1 < 2 ^ 32

def deliveredPsns (key : Nat × Nat) (log : List RxEntry) : List Nat :=
  log.filterMap fun entry =>
    if entry.packet.key = key ∧ entry.answer.any (·.outcome == .delivered) then
      some entry.packet.psn
    else none

structure Reliable (first : Nat) (key : Nat × Nat) (log : List RxEntry) : Prop where
  delivered : deliveredPsns key log = List.range' first (deliveredPsns key log).length
  acknowledged : ∀ done entry rest, log = done ++ entry :: rest → entry.packet.key = key →
    ∀ answer reply, entry.answer = some answer → answer.reply = some reply → reply.kind = .ack →
      ∀ psn, first ≤ psn → psn ≤ reply.psn → psn ∈ deliveredPsns key (done ++ [entry])
  missing : ∀ done entry rest, log = done ++ entry :: rest → entry.packet.key = key →
    ∀ answer reply, entry.answer = some answer → answer.reply = some reply → reply.kind = .nak →
      reply.psn = first + (deliveredPsns key done).length

def openingEntry (config : RnicRxPipelineConfig) (key : Nat × Nat) (log : List RxEntry) :
    Option RxEntry :=
  log.find? fun entry => entry.packet.key == key &&
    reachesProcessor config entry.before entry.packet entry.nowPs

def SomeChecked (config : RnicRxPipelineConfig) (key : Nat × Nat) (log : List RxEntry) : Prop :=
  ∃ entry ∈ log, entry.packet.key = key ∧
    reachesSequenceCheck config entry.before entry.packet entry.nowPs = true

structure StreamFacts (config : RnicRxPipelineConfig) (opening : Nat) (key : Nat × Nat)
    (log : List RxEntry) (qp : QpState) : Prop where
  delivered : deliveredPsns key log = List.range' opening (deliveredPsns key log).length
  expected : qp.expectedPsn = opening + (deliveredPsns key log).length
  below : qp.expectedPsn < 2 ^ 32
  replies : ∀ done entry rest, log = done ++ entry :: rest → entry.packet.key = key →
    ∀ answer reply, entry.answer = some answer → answer.reply = some reply →
      reply.kind = .ack ∧ reply.psn + 1 = opening + (deliveredPsns key (done ++ [entry])).length ∨
      reply.kind = .nak ∧ reply.psn = opening + (deliveredPsns key done).length
  answered : qp.inRecovery = true ∨ SomeChecked config key log →
    ∃ entry ∈ log, entry.packet.key = key ∧
      ∃ answer reply, entry.answer = some answer ∧ answer.reply = some reply

def RxEntry.Quiet (config : RnicRxPipelineConfig) (key : Nat × Nat) (entry : RxEntry) : Prop :=
  entry.packet.key = key → Unanswered entry.answer ∧
    reachesSequenceCheck config entry.before entry.packet entry.nowPs = false

variable {log : List RxEntry} {entry : RxEntry}

section Stream

variable {next : QpState}

theorem deliveredPsns_append (log more : List RxEntry) :
    deliveredPsns key (log ++ more) = deliveredPsns key log ++ deliveredPsns key more :=
  filterMap_append

theorem deliveredPsns_delivered {answer : RnicRxResult} (hkey : entry.packet.key = key)
    (hanswer : entry.answer = some answer) (houtcome : answer.outcome = .delivered) :
    deliveredPsns key [entry] = [entry.packet.psn] := by
  simp [deliveredPsns, hkey, hanswer, houtcome]

theorem deliveredPsns_discarded (h : entry.packet.key = key → ∀ answer, entry.answer = some answer →
      answer.outcome ≠ .delivered) : deliveredPsns key [entry] = [] := by
  unfold deliveredPsns
  rw [filterMap_cons, if_neg]
  · rfl
  · rintro ⟨hkey, hdelivered⟩
    cases hanswer : entry.answer with
    | none => simp [hanswer] at hdelivered
    | some answer =>
      rw [hanswer] at hdelivered
      exact h hkey answer hanswer (by simpa using hdelivered)

theorem split_snoc {last : RxEntry} {done rest : List RxEntry}
    (h : log ++ [last] = done ++ entry :: rest) :
    done = log ∧ entry = last ∨ ∃ rest', log = done ++ entry :: rest' := by
  rcases rest.eq_nil_or_concat with rfl | ⟨init, tail, rfl⟩
  · obtain ⟨hlog, hlast⟩ := append_inj' h rfl
    exact .inl ⟨hlog.symm, (List.cons.inj hlast).1.symm⟩
  · rw [concat_eq_append, ← cons_append, ← append_assoc] at h
    exact .inr ⟨init, (append_inj' h rfl).1⟩

theorem RxEntry.Quiet.delivered_nil (h : entry.Quiet config key) :
    deliveredPsns key [entry] = [] := by
  apply deliveredPsns_discarded
  intro hkey answer hanswer hdelivered
  rw [((h hkey).1 answer hanswer).1] at hdelivered
  cases hdelivered

theorem StreamFacts.quiet (h : StreamFacts config opening key log qp)
    (hquiet : entry.Quiet config key) (hexpected : next.expectedPsn = qp.expectedPsn)
    (hrecovery : next.inRecovery = qp.inRecovery) :
    StreamFacts config opening key (log ++ [entry]) next := by
  have hpsns : deliveredPsns key (log ++ [entry]) = deliveredPsns key log := by
    rw [deliveredPsns_append, hquiet.delivered_nil, append_nil]
  refine ⟨by rw [hpsns]; exact h.delivered, by rw [hpsns, hexpected, h.expected],
    by rw [hexpected]; exact h.below, ?_, ?_⟩
  · intro done other rest hsplit hkey answer reply hanswer hreply
    rcases split_snoc hsplit with ⟨rfl, rfl⟩ | ⟨rest', hsplit⟩
    · rw [((hquiet hkey).1 answer hanswer).2] at hreply
      cases hreply
    · exact h.replies done other rest' hsplit hkey answer reply hanswer hreply
  · rintro hanswered
    have hbefore : qp.inRecovery = true ∨ SomeChecked config key log := by
      rcases hanswered with hanswered | ⟨other, hother, hkey, hchecked⟩
      · exact .inl (hrecovery ▸ hanswered)
      · rcases mem_append.mp hother with hother | hother
        · exact .inr ⟨other, hother, hkey, hchecked⟩
        · rw [mem_singleton.mp hother] at hkey hchecked
          rw [(hquiet hkey).2] at hchecked
          cases hchecked
    obtain ⟨other, hother, hfacts⟩ := h.answered hbefore
    exact ⟨other, mem_append_left _ hother, hfacts⟩

theorem StreamFacts.start (hlog : ∀ entry ∈ log, entry.Quiet config key)
    (hexpected : qp.expectedPsn = opening) (hbelow : opening < 2 ^ 32)
    (hrecovery : qp.inRecovery = false) : StreamFacts config opening key log qp := by
  induction log using List.reverseRecOn with
  | nil =>
    refine ⟨rfl, hexpected, hexpected ▸ hbelow, ?_, ?_⟩
    · intro done entry rest hsplit
      simp at hsplit
    · rintro (hanswered | ⟨entry, hentry, _⟩)
      · rw [hrecovery] at hanswered
        cases hanswered
      · cases hentry
  | append_singleton log entry ih =>
    have hbefore := ih fun other hother => hlog other (mem_append_left _ hother)
    exact hbefore.quiet (hlog entry (by simp)) rfl rfl

variable (h : StreamFacts config opening key log qp) (hkey : entry.packet.key = key)

include h hkey

theorem StreamFacts.answer {answer : RnicRxResult} {reply : Option RxReply}
    (hanswer : entry.answer = some answer) (hreply : answer.reply = reply)
    (hdelivered : deliveredPsns key (log ++ [entry]) =
      List.range' opening (deliveredPsns key (log ++ [entry])).length)
    (hexpected : next.expectedPsn = opening + (deliveredPsns key (log ++ [entry])).length)
    (hbelow : next.expectedPsn < 2 ^ 32)
    (hlast : ∀ given, reply = some given → given.kind = .ack ∧ given.psn + 1 = next.expectedPsn ∨
      given.kind = .nak ∧ given.psn = qp.expectedPsn)
    (hrecovery : reply.isSome = true ∨ qp.inRecovery = true) :
    StreamFacts config opening key (log ++ [entry]) next := by
  refine ⟨hdelivered, hexpected, hbelow, ?_, ?_⟩
  · intro done other rest hsplit hother given wire hgiven hwire
    rcases split_snoc hsplit with ⟨rfl, rfl⟩ | ⟨rest', hsplit⟩
    · cases Option.some.inj (hanswer.symm.trans hgiven)
      rcases hlast wire (hreply.symm.trans hwire) with ⟨hkind, hpsn⟩ | ⟨hkind, hpsn⟩
      · exact .inl ⟨hkind, hpsn.trans hexpected⟩
      · exact .inr ⟨hkind, hpsn.trans h.expected⟩
    · exact h.replies done other rest' hsplit hother given wire hgiven hwire
  · intro _
    rcases hrecovery with hsome | hrecovery
    · obtain ⟨wire, hwire⟩ := Option.isSome_iff_exists.mp hsome
      exact ⟨entry, by simp, hkey, answer, wire, hanswer, hreply.trans hwire⟩
    · obtain ⟨other, hother, hfacts⟩ := h.answered (.inl hrecovery)
      exact ⟨other, mem_append_left _ hother, hfacts⟩

theorem StreamFacts.checked {answer : RnicRxResult} {rate : RateGate}
    (hservice : entry.packet.service = .reliableConnected) (hbelow : entry.packet.psn + 1 < 2 ^ 32)
    (hanswer : entry.answer = some answer)
    (houtcome : answer.outcome = (sequenceCheck entry.packet qp).2.1)
    (hreply : answer.reply = (sequenceCheck entry.packet qp).2.2) :
    StreamFacts config opening key (log ++ [entry])
      { (sequenceCheck entry.packet qp).1 with rate := rate } := by
  have hexpected := h.expected
  have hsmall := h.below
  have hunreliable : ¬ entry.packet.service = .unreliable := by simp [hservice]
  by_cases hnext : entry.packet.psn = qp.expectedPsn
  · -- the packet the stream waits for
    have hcheck : sequenceCheck entry.packet qp =
        ({ qp with expectedPsn := (qp.expectedPsn + 1) % 2 ^ 32, inRecovery := false },
          .delivered, some { kind := .ack, psn := entry.packet.psn }) := by
      rw [sequenceCheck, if_neg hunreliable, if_pos hnext]
    rw [hcheck] at houtcome hreply ⊢
    have hpsns : deliveredPsns key (log ++ [entry]) =
        deliveredPsns key log ++ [entry.packet.psn] := by
      rw [deliveredPsns_append, deliveredPsns_delivered hkey hanswer houtcome]
    have hlength : (deliveredPsns key (log ++ [entry])).length =
        (deliveredPsns key log).length + 1 := by
      rw [hpsns, length_append]
      rfl
    have hwrap : (qp.expectedPsn + 1) % 2 ^ 32 = qp.expectedPsn + 1 := Nat.mod_eq_of_lt (by omega)
    refine h.answer hkey hanswer hreply ?_ ?_ ?_ ?_ (.inl rfl)
    · rw [hlength, List.range'_concat, hpsns, ← h.delivered, hnext, hexpected, Nat.one_mul]
    · show (qp.expectedPsn + 1) % 2 ^ 32 = _
      omega
    · show (qp.expectedPsn + 1) % 2 ^ 32 < 2 ^ 32
      omega
    · rintro given hgiven
      cases hgiven
      refine .inl ⟨rfl, ?_⟩
      show entry.packet.psn + 1 = (qp.expectedPsn + 1) % 2 ^ 32
      omega
  · -- a duplicate or a packet ahead: nothing is delivered
    obtain ⟨recovery, outcome, reply, hcheck, hnot, hlast, hrecovery⟩ :=
      sequenceCheck_unexpected hunreliable hnext
    rw [hcheck] at houtcome hreply ⊢
    have hpsns : deliveredPsns key (log ++ [entry]) = deliveredPsns key log := by
      have hnone : deliveredPsns key [entry] = [] := by
        apply deliveredPsns_discarded
        intro _ given hgiven
        cases Option.some.inj (hanswer.symm.trans hgiven)
        rw [houtcome]
        exact hnot
      rw [deliveredPsns_append, hnone, append_nil]
    refine h.answer hkey hanswer hreply ?_ ?_ hsmall hlast hrecovery
    · rw [hpsns]
      exact h.delivered
    · rw [hpsns]
      exact hexpected

end Stream

inductive StreamState (config : RnicRxPipelineConfig) (key : Nat × Nat) (run : RxRun) : Prop where
  | unopened (opening : openingEntry config key run.log = none)
      (pair : run.pipeline.qps.get? key = none)
      (quiet : ∀ entry ∈ run.log, entry.Quiet config key)
  | opened (first : RxEntry) (qp : QpState) (opening : openingEntry config key run.log = some first)
      (pair : run.pipeline.qps.get? key = some qp)
      (facts : StreamFacts config first.packet.psn key run.log qp)

theorem openingEntry_append :
    openingEntry config key (log ++ [entry]) = (openingEntry config key log).or
      (if entry.packet.key == key && reachesProcessor config entry.before entry.packet entry.nowPs
        then some entry else none) := by
  unfold openingEntry
  rw [find?_append]
  congr 1
  rw [find?_cons]
  split
  next h => rw [if_pos h]
  next h => rw [if_neg (by simp [h])]; rfl

variable {run : RxRun} {start after : RnicRxPipeline} {answer : Option RnicRxResult}
  {calls : List RxCall}

theorem StreamState.ownPacket (h : StreamState config packet.key run)
    (heffect : PacketEffect config run.pipeline packet nowPs after answer)
    (hservice : packet.service = .reliableConnected) (hbelow : packet.psn + 1 < 2 ^ 32) :
    StreamState config packet.key
      ⟨after, run.log ++ [⟨run.pipeline, packet, nowPs, answer⟩]⟩ := by
  cases h with
  | unopened hopening hpair hquiet =>
    -- the state a first packet of the pair creates waits for that packet
    have hfresh : (qpState config run.pipeline packet).expectedPsn = packet.psn ∧
        (qpState config run.pipeline packet).inRecovery = false := by
      unfold qpState
      rw [hpair]
      exact ⟨rfl, rfl⟩
    have hstart : StreamFacts config packet.psn packet.key run.log
        (qpState config run.pipeline packet) :=
      .start hquiet hfresh.1 (by omega) hfresh.2
    cases heffect with
    | stopped hreaches hchecked hqps hsilent =>
      refine .unopened ?_ (by rw [hqps]; exact hpair)
        (forall_mem_concat hquiet fun _ => ⟨hsilent, hchecked⟩)
      rw [openingEntry_append, hopening]
      simp [hreaches]
    | opened rate hreaches hchecked hnew hothers hsilent =>
      refine .opened ⟨run.pipeline, packet, nowPs, answer⟩ _ ?_ hnew
        (hstart.quiet (fun _ => ⟨hsilent, hchecked⟩) rfl rfl)
      rw [openingEntry_append, hopening]
      simp [hreaches]
    | @checked reply rate hreaches hchecked hnew hothers houtcome hreply =>
      refine .opened ⟨run.pipeline, packet, nowPs, some reply⟩ _ ?_ hnew
        (hstart.checked rfl hservice hbelow rfl houtcome hreply)
      rw [openingEntry_append, hopening]
      simp [hreaches]
  | opened first qp hopening hpair hfacts =>
    have hqp : qpState config run.pipeline packet = qp := qpState_of_get? hpair
    have hkept : ∀ entry, openingEntry config packet.key (run.log ++ [entry]) = some first := by
      intro entry
      rw [openingEntry_append, hopening]
      rfl
    cases heffect with
    | stopped hreaches hchecked hqps hsilent =>
      exact .opened first qp (hkept _) (by rw [hqps]; exact hpair)
        (hfacts.quiet (fun _ => ⟨hsilent, hchecked⟩) rfl rfl)
    | opened rate hreaches hchecked hnew hothers hsilent =>
      rw [hqp] at hnew
      exact .opened first _ (hkept _) hnew
        (hfacts.quiet (fun _ => ⟨hsilent, hchecked⟩) rfl rfl)
    | checked rate hreaches hchecked hnew hothers houtcome hreply =>
      rw [hqp] at hnew houtcome hreply
      exact .opened first _ (hkept _) hnew
        (hfacts.checked rfl hservice hbelow rfl houtcome hreply)

theorem StreamState.otherPacket (h : StreamState config key run)
    (heffect : PacketEffect config run.pipeline packet nowPs after answer)
    (hkey : packet.key ≠ key) :
    StreamState config key ⟨after, run.log ++ [⟨run.pipeline, packet, nowPs, answer⟩]⟩ := by
  have hpair : after.qps.get? key = run.pipeline.qps.get? key := by
    cases heffect with
    | stopped _ _ hqps _ => rw [hqps]
    | opened _ _ _ _ hothers _ | checked _ _ _ _ hothers _ _ => exact hothers key (Ne.symm hkey)
  have hopening : ∀ entry : RxEntry, entry.packet.key ≠ key →
      openingEntry config key (run.log ++ [entry]) = openingEntry config key run.log := by
    intro entry hne
    rw [openingEntry_append, if_neg (by simp [hne]), Option.or_none]
  cases h with
  | unopened hnone hempty hquiet =>
    exact .unopened ((hopening _ hkey).trans hnone) (hpair.trans hempty)
      (forall_mem_concat hquiet fun heq => absurd heq hkey)
  | opened first qp hfirst hqp hfacts =>
    exact .opened first qp ((hopening _ hkey).trans hfirst) (hpair.trans hqp)
      (hfacts.quiet (fun heq => absurd heq hkey) rfl rfl)

theorem StreamState.step (h : StreamState config key run) (call : RxCall)
    (hsender : NumberedFrom first key [call]) : StreamState config key (run.step config call) := by
  cases call with
  | packet packet nowPs =>
    by_cases hkey : packet.key = key
    · obtain ⟨hservice, _, hbelow⟩ := hsender packet nowPs (by simp) hkey
      subst hkey
      exact h.ownPacket (onPacket_effect run.pipeline) hservice hbelow
    · exact h.otherPacket (onPacket_effect run.pipeline) hkey
  | progress nowPs =>
    have hqps : (rxProgress config nowPs run.pipeline).state.qps = run.pipeline.qps :=
      (keepsQps_rxProgress run.pipeline).state
    cases h with
    | unopened hnone hempty hquiet => exact .unopened hnone (by rw [← hempty, ← hqps]; rfl) hquiet
    | opened first qp hfirst hqp hfacts =>
      exact .opened first qp hfirst (by rw [← hqp, ← hqps]; rfl) hfacts

theorem streamState_after (hstart : start.qps = []) (hsender : NumberedFrom first key calls) :
    StreamState config key (RxRun.after config start calls) := by
  induction calls using List.reverseRecOn with
  | nil =>
    exact .unopened rfl (by show start.qps.get? key = none; rw [hstart]; rfl)
      (by simp [RxRun.after])
  | append_singleton calls call ih =>
    rw [RxRun.after, foldl_append]
    have hbefore := ih fun packet nowPs hmem => hsender packet nowPs (mem_append_left _ hmem)
    exact hbefore.step call fun packet nowPs hmem =>
      hsender packet nowPs (mem_append_right _ hmem)

theorem log_entries
    (h : entry ∈ (RxRun.after config start calls).log) : .packet entry.packet entry.nowPs ∈ calls ∧
      ∃ after, PacketEffect config entry.before entry.packet entry.nowPs after entry.answer := by
  induction calls using List.reverseRecOn with
  | nil => simp [RxRun.after] at h
  | append_singleton calls call ih =>
    rw [RxRun.after, foldl_append] at h
    have hearlier := fun hmem => (ih hmem).imp_left (mem_append_left [call])
    cases call with
    | packet packet nowPs =>
      rcases mem_append.mp h with h | h
      · exact hearlier h
      · rw [mem_singleton.mp h]
        exact ⟨by simp, _, onPacket_effect _⟩
    | progress nowPs => exact hearlier h

theorem PacketEffect.unanswered (h : PacketEffect config pipeline packet nowPs after answer)
    (hchecked : reachesSequenceCheck config pipeline packet nowPs = false) : Unanswered answer := by
  cases h with
  | stopped _ _ _ hsilent | opened _ _ _ _ _ hsilent => exact hsilent
  | checked _ _ hreached =>
    rw [hchecked] at hreached
    cases hreached

theorem Reliable.of_unanswered
    (h : ∀ entry ∈ log, entry.packet.key = key → Unanswered entry.answer) :
    Reliable first key log := by
  have hnone : deliveredPsns key log = [] := by
    unfold deliveredPsns
    rw [filterMap_eq_nil_iff]
    intro entry hentry
    rw [if_neg]
    rintro ⟨hkey, hdelivered⟩
    obtain ⟨answer, hanswer, houtcome⟩ := Option.any_eq_true _ _ |>.mp hdelivered
    rw [(h entry hentry hkey answer hanswer).1] at houtcome
    cases houtcome
  have hsilent : ∀ done entry rest, log = done ++ entry :: rest → entry.packet.key = key →
      ∀ answer reply, entry.answer = some answer → answer.reply = some reply → False := by
    intro done entry rest hsplit hkey answer reply hanswer hreply
    rw [(h entry (by simp [hsplit]) hkey answer hanswer).2] at hreply
    cases hreply
  refine ⟨by rw [hnone]; rfl, ?_, ?_⟩
  all_goals
    intro done entry rest hsplit hkey answer reply hanswer hreply
    exact (hsilent done entry rest hsplit hkey answer reply hanswer hreply).elim

theorem StreamFacts.reliable (h : StreamFacts config opening key log qp) : Reliable opening key
      log := by
  -- every prefix of what was delivered counts up from the opening number
  have hcounted : ∀ done rest, log = done ++ rest →
      deliveredPsns key done = List.range' opening (deliveredPsns key done).length := by
    intro done rest hsplit
    have hall := h.delivered
    rw [hsplit, deliveredPsns_append, length_append, ← List.range'_append_1] at hall
    exact (append_inj hall (by simp)).1
  refine ⟨h.delivered, ?_, ?_⟩
  · intro done entry rest hsplit hkey answer reply hanswer hreply hkind psn hlow hhigh
    rcases h.replies done entry rest hsplit hkey answer reply hanswer hreply with ⟨_, hpsn⟩ |
      ⟨hnak, _⟩
    · rw [hcounted (done ++ [entry]) rest (by simp [hsplit])]
      rw [mem_range'_1]
      omega
    · rw [hkind] at hnak
      cases hnak
  · intro done entry rest hsplit hkey answer reply hanswer hreply hkind
    rcases h.replies done entry rest hsplit hkey answer reply hanswer hreply with ⟨hack, _⟩ |
      ⟨_, hpsn⟩
    · rw [hkind] at hack
      cases hack
    · exact hpsn

theorem StreamFacts.unreliable (h : StreamFacts config opening key log qp) (hlt : first < opening)
    (hreliable : Reliable first key log) : ¬ SomeChecked config key log := by
  intro hchecked
  obtain ⟨entry, hentry, hkey, answer, reply, hanswer, hreply⟩ := h.answered (.inr hchecked)
  obtain ⟨done, rest, hsplit⟩ := append_of_mem hentry
  rcases h.replies done entry rest hsplit hkey answer reply hanswer hreply with
    ⟨hkind, hpsn⟩ | ⟨hkind, hpsn⟩
  · -- an acknowledgement covers the first number, which was not delivered
    have hmem := hreliable.acknowledged done entry rest hsplit hkey answer reply hanswer
      hreply hkind first (Nat.le_refl first) (by omega)
    have hsub : first ∈ deliveredPsns key log := by
      rw [hsplit, ← singleton_append, ← append_assoc, deliveredPsns_append]
      exact mem_append_left _ hmem
    rw [h.delivered, mem_range'_1] at hsub
    omega
  · -- a negative acknowledgement names the opening number instead
    have hnamed := hreliable.missing done entry rest hsplit hkey answer reply hanswer hreply hkind
    omega

theorem make_qps (h : RnicRxPipeline.make config = .ok start) :
    start.qps = [] := by
  obtain ⟨_, _, hstart⟩ := of_bind h
  cases hstart
  rfl

/-- **Reliable receive.** The responder takes the number it first sees past the ingress meter for
the start of the stream. What a stream is told is sound exactly when that packet is the sender's
first, unless nothing of the stream ever reaches the sequence check. -/
theorem receive_reliable_iff {start : RnicRxPipeline} (first : Nat) (key : Nat × Nat)
    (calls : List RxCall) (hmake : RnicRxPipeline.make config = .ok start)
    (hsender : NumberedFrom first key calls) :
    Reliable first key (RxRun.after config start calls).log ↔
      (∀ entry, openingEntry config key (RxRun.after config start calls).log = some entry →
        entry.packet.psn = first) ∨
      ¬ SomeChecked config key (RxRun.after config start calls).log := by
  have hstate : StreamState config key (RxRun.after config start calls) :=
    streamState_after (make_qps hmake) hsender
  cases hstate with
  | unopened hnone hpair hquiet =>
    refine iff_of_true (Reliable.of_unanswered fun entry hentry hkey =>
      (hquiet entry hentry hkey).1)
      (.inl fun entry hentry => ?_)
    rw [hnone] at hentry
    cases hentry
  | opened opening qp hopening hpair hfacts =>
    have hmem := (log_entries (mem_of_find?_eq_some hopening)).1
    have hkey : opening.packet.key = key := by
      have hfound := find?_some hopening
      simp only [Bool.and_eq_true, beq_iff_eq] at hfound
      exact hfound.1
    have hle := (hsender _ _ hmem hkey).2.1
    constructor
    · intro hreliable
      by_cases hfirst : opening.packet.psn = first
      · refine .inl fun entry hentry => ?_
        rw [hopening] at hentry
        cases hentry
        exact hfirst
      · exact .inr (hfacts.unreliable (by omega) hreliable)
    · rintro (hfirst | hunchecked)
      · have heq := hfirst opening hopening
        rw [← heq]
        exact hfacts.reliable
      · apply Reliable.of_unanswered
        intro entry hentry hentrykey
        obtain ⟨-, after, heffect⟩ := log_entries hentry
        apply heffect.unanswered
        by_contra hreached
        exact hunchecked ⟨entry, hentry, hentrykey, by simpa using hreached⟩

def openConfig : RnicRxPipelineConfig := { enabled := true }

def streamPacket (psn : Nat) : RnicRxPacket :=
  { qpn := 1, source := 2, psn := psn, payloadBytes := 8, wireBytes := 16 }

/-- Packets 0 and 1 of a stream that lost nothing. -/
theorem receive_reliable_in_order :
    Reliable 0 (2, 1)
      (RxRun.after openConfig {} [.packet (streamPacket 0) 0, .packet (streamPacket 1) 5]).log := by
  refine (receive_reliable_iff 0 (2, 1) _ (by decide) ?_).mpr (.inl ?_)
  · intro packet nowPs hmem _
    simp only [mem_cons, RxCall.packet.injEq, not_mem_nil, or_false] at hmem
    rcases hmem with ⟨rfl, rfl⟩ | ⟨rfl, rfl⟩ <;> decide
  · intro entry hentry
    have hopening : (openingEntry openConfig (2, 1) (RxRun.after openConfig {}
        [.packet (streamPacket 0) 0, .packet (streamPacket 1) 5]).log).map (·.packet.psn) =
          some 0 := by
      decide
    rw [hentry] at hopening
    exact Option.some.inj hopening

/-- The sender's packet 0 is lost on the wire: packet 1 is delivered and acknowledged, and the
retransmitted packet 0 is then discarded as a duplicate. -/
theorem lost_first_acknowledged :
    RnicRxPipeline.make openConfig = .ok {} ∧
      (let run := RxRun.after openConfig {} [.packet (streamPacket 1) 0,
        .packet { streamPacket 0 with kind := .retransmission } 5]
      run.log.map (fun entry => (entry.packet.psn, entry.answer.map fun answer =>
          (answer.outcome, answer.reply.map fun reply => (reply.kind, reply.psn)))) =
        [(1, some (.delivered, some (.ack, 1))), (0, some (.discardedDuplicate, some (.ack, 1)))] ∧
      deliveredPsns (2, 1) run.log = [1] ∧ ¬ Reliable 0 (2, 1) run.log) := by
  refine ⟨by decide, by decide, by decide, fun hreliable => ?_⟩
  exact absurd hreliable.delivered (by decide)

end SimLLM.Rnic
