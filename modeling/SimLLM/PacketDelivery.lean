import SimLLM.PacketPort
import SimLLM.StateRules

namespace SimLLM

open List

section Coverage

def PacketRange.Holds (range : PacketRange) (byte : Nat) : Prop :=
  range.2.1 ≤ byte ∧ byte < range.2.1 + range.2.2

theorem coverFrom_tiles {ranges : List PacketRange} {first last : Nat}
    (h : ranges.foldlM coverFrom first = .ok last) : first ≤ last ∧
      (∀ range ∈ ranges, first ≤ range.2.1 ∧ range.2.1 + range.2.2 ≤ last) ∧
      ∀ byte, first ≤ byte → byte < last →
        ∃ range ∈ ranges, range.Holds byte ∧
          ∀ other ∈ ranges, other.Holds byte → other = range := by
  induction ranges generalizing first with
  | nil =>
    obtain rfl := Except.ok.inj h
    refine ⟨le_rfl, by simp, ?_⟩
    intro byte hfirst hlast
    omega
  | cons head rest ih =>
    obtain ⟨cursor, hcursor, h⟩ := of_bind h
    obtain ⟨_, hstart, hcursor⟩ := of_bind hcursor
    obtain rfl := Except.ok.inj hcursor
    have hstart' : head.2.1 = first := by simpa using hstart
    obtain ⟨hle, hwithin, htiles⟩ := ih h
    refine ⟨by omega, forall_mem_cons.mpr ⟨by omega, fun range hrange => ?_⟩, ?_⟩
    · have hbounds := hwithin range hrange
      omega
    · intro byte hfirst hlast
      by_cases hhead : byte < first + head.2.2
      · -- the head holds the byte, and the rest starts after it
        refine ⟨head, by simp, ⟨by omega, by omega⟩,
          forall_mem_cons.mpr ⟨fun _ => rfl, fun other hother hholds => ?_⟩⟩
        have hbounds := hwithin other hother
        have hlow := hholds.1
        omega
      · obtain ⟨range, hrange, hholds, hunique⟩ := htiles byte (by omega) hlast
        refine ⟨range, by simp [hrange], hholds, forall_mem_cons.mpr ⟨fun hheld => ?_, hunique⟩⟩
        have hhigh := hheld.2
        omega

def PacketAttempt.DeliveredData (attempt : PacketAttempt) : Prop :=
  attempt.lastKind = .delivered ∧ attempt.first.packetKind.isData = true

def PacketAttempt.range (attempt : PacketAttempt) : PacketRange :=
  (attempt.first.packetIndex, attempt.first.payloadOffsetBytes, attempt.first.payloadBytes)

variable {children : List PacketAttempt}

theorem mem_deliveredRanges {range : PacketRange} : range ∈ deliveredRanges children ↔
      ∃ child ∈ children, child.DeliveredData ∧ child.range = range := by
  simp [deliveredRanges, PacketAttempt.DeliveredData, PacketAttempt.range, and_assoc]

/-- The delivered data attempts of an extent carry every byte of its payload, each under one
packet, and nothing beyond it. -/
structure Covered (payloadBytes : Nat) (children : List PacketAttempt) : Prop where
  within : ∀ child ∈ children, child.DeliveredData →
    child.first.payloadOffsetBytes + child.first.payloadBytes ≤ payloadBytes
  bytes : ∀ byte < payloadBytes, ∃! packetIndex, ∃ child ∈ children, child.DeliveredData ∧
    child.first.packetIndex = packetIndex ∧ child.range.Holds byte

theorem Covered.congr {payloadBytes : Nat} {others : List PacketAttempt}
    (covered : Covered payloadBytes children) (h : ∀ child, child ∈ children ↔ child ∈ others) :
    Covered payloadBytes others := by
  refine ⟨fun child hchild => covered.within child ((h child).mpr hchild), ?_⟩
  simpa only [h] using covered.bytes

theorem checkCoverage_covers {admission : PacketExtentAdmission}
    (h : checkCoverage admission children = .ok ()) : Covered admission.payloadBytes children := by
  obtain ⟨cursor, hcursor, h⟩ := of_bind h
  have hend : cursor = admission.payloadBytes := by simpa using require_eq_ok.mp h
  subst hend
  obtain ⟨-, hwithin, htiles⟩ := coverFrom_tiles hcursor
  have hmem : ∀ {child}, child ∈ children → child.DeliveredData →
      child.range ∈ (deliveredRanges children).insertionSort fun a b =>
        toLex (a.2.1, a.1) ≤ toLex (b.2.1, b.1) := by
    intro child hchild hdelivered
    exact (perm_insertionSort _ _).mem_iff.mpr
      (mem_deliveredRanges.mpr ⟨child, hchild, hdelivered, rfl⟩)
  refine ⟨?_, ?_⟩
  · intro child hchild hdelivered
    exact (hwithin _ (hmem hchild hdelivered)).2
  · intro byte hbyte
    obtain ⟨range, hrange, hholds, hunique⟩ := htiles byte (Nat.zero_le byte) hbyte
    obtain ⟨child, hchild, hdelivered, rfl⟩ := mem_deliveredRanges.mp
      ((perm_insertionSort _ _).mem_iff.mp hrange)
    refine ⟨child.first.packetIndex, ⟨child, hchild, hdelivered, rfl, hholds⟩, ?_⟩
    rintro packetIndex ⟨other, hother, hotherDelivered, rfl, hotherHolds⟩
    have hsame := hunique _ (hmem hother hotherDelivered) hotherHolds
    exact congrArg Prod.fst hsame

end Coverage

def PacketPortLedger.observed (ledger : PacketPortLedger) (event : PacketAttemptEvent)
    (updated : PacketAttempt) : PacketPortLedger :=
  { ledger with
    attempts := ledger.attempts.set event.attemptToken updated
    attemptIds := ledger.attemptIds.insert event.attemptId
    logicalGeometry :=
      if event.packetKind.isData then ledger.logicalGeometry.set event.logicalId
        (event.payloadOffsetBytes, event.payloadBytes)
      else ledger.logicalGeometry
    events := ledger.events ++ [event]
    lastCallbackAtPs := max ledger.lastCallbackAtPs event.eventTimePs }

variable {ledger : PacketPortLedger}

theorem ends_checked {β : Type} {check : Except PyError β}
    {commit : β → EStateM PyError PacketPortLedger Unit} {Q : Unit → PacketPortLedger → Prop}
    (h : ∀ value, check = .ok value → (commit value ledger).Ends Q (· = ledger)) :
    ((liftExcept check >>= commit) ledger).Ends Q (· = ledger) := by
  cases check with
  | error error => exact rfl
  | ok value => exact h value rfl

structure PortFacts (ledger : PacketPortLedger) : Prop where
  tokens : ledger.attempts.keys.Nodup
  disjoint : ∀ token, ledger.attempts.get? token ≠ none → ledger.admissions.get? token = none
  identified : ∀ token attempt, ledger.attempts.get? token = some attempt →
    attempt.first.attemptId ∈ ledger.attemptIds
  unique : ∀ token other attempt attempt', ledger.attempts.get? token = some attempt →
    ledger.attempts.get? other = some attempt' →
    attempt.first.attemptId = attempt'.first.attemptId → token = other
  recorded : ∀ event ∈ ledger.events, ∃ attempt,
    ledger.attempts.get? event.attemptToken = some attempt ∧
      attempt.first.extentToken = event.extentToken ∧ event.eventTimePs ≤ attempt.lastTimePs
  retired : ∀ token terminal, ledger.terminals.get? token = some terminal →
    ∀ other attempt, ledger.attempts.get? other = some attempt →
      attempt.first.extentToken = token →
      attempt.terminal = true ∧ attempt.lastTimePs ≤ terminal.atPs
  delivered : ∀ token terminal, ledger.terminals.get? token = some terminal →
    terminal.kind = .delivered → ∃ admission, ledger.admissions.get? token = some admission ∧
      Covered admission.payloadBytes (ledger.children token)

theorem mem_children (htokens : ledger.attempts.keys.Nodup) {extentToken : Nat}
    {attempt : PacketAttempt} : attempt ∈ ledger.children extentToken ↔
      (∃ token, ledger.attempts.get? token = some attempt) ∧
        attempt.first.extentToken = extentToken := by
  rw [PacketPortLedger.children, mem_filter, Table.mem_values_iff htokens, beq_iff_eq]

theorem PortFacts.start {context : PacketPortContext}
    (h : PacketPortLedger.new context = .ok ledger) : PortFacts ledger := by
  replace h := of_check h
  cases h
  constructor <;> simp [Table.keys]

theorem PortFacts.admission (facts : PortFacts ledger) (value : PacketExtentAdmission)
    (hnew : ledger.admissions.get? value.extentToken = none)
    (hfree : ledger.attempts.get? value.extentToken = none) :
    PortFacts { ledger with admissions := ledger.admissions.set value.extentToken value } := by
  refine { facts with disjoint := ?_, delivered := ?_ }
  · intro token hattempt
    have hne : value.extentToken ≠ token := by
      rintro rfl
      exact hattempt hfree
    rw [Table.get?_set, if_neg hne]
    exact facts.disjoint token hattempt
  · intro token terminal hterminal hkind
    obtain ⟨admission, hadmission, hcovered⟩ := facts.delivered token terminal hterminal hkind
    have hne : value.extentToken ≠ token := by
      rintro rfl
      rw [hnew] at hadmission
      cases hadmission
    refine ⟨admission, ?_, hcovered⟩
    rw [Table.get?_set, if_neg hne, hadmission]

/-- What an accepted row is about: an extent that has not retired, and an attempt that either
starts under a free token and a new identity or goes on. -/
structure Observation (ledger : PacketPortLedger) (event : PacketAttemptEvent)
    (updated : PacketAttempt) : Prop where
  live : ledger.terminals.get? event.extentToken = none
  parent : updated.first.extentToken = event.extentToken
  identity : updated.first.attemptId = event.attemptId
  time : updated.lastTimePs = event.eventTimePs
  attempt : (ledger.attempts.get? event.attemptToken = none ∧
      ledger.admissions.get? event.attemptToken = none ∧ event.attemptId ∉ ledger.attemptIds) ∨
    ∃ attempt, ledger.attempts.get? event.attemptToken = some attempt ∧
      updated.first = attempt.first ∧ attempt.lastTimePs ≤ event.eventTimePs

variable {event : PacketAttemptEvent} {updated : PacketAttempt}

theorem checkObservation_effect (h : ledger.checkObservation event = .ok updated) :
    Observation ledger event updated := by
  replace h := of_check h
  replace h := of_check h
  replace h := of_check h
  split at h
  next => cases h
  next admission hadmission =>
    obtain ⟨_, hlive, h⟩ := of_bind h
    replace h := of_check h
    replace h := of_check h
    replace h := of_check h
    have hlive' := Option.isNone_iff_eq_none.mp (require_eq_ok.mp hlive)
    split at h
    next hnone =>
      replace h := of_check h
      obtain ⟨_, hfree, h⟩ := of_bind h
      obtain ⟨_, hid, h⟩ := of_bind h
      replace h := of_check h
      cases h
      have hfree' := Option.isNone_iff_eq_none.mp (require_eq_ok.mp hfree)
      have hid' : event.attemptId ∉ ledger.attemptIds := by simpa using require_eq_ok.mp hid
      exact ⟨hlive', rfl, rfl, rfl, .inl ⟨hnone, hfree', hid'⟩⟩
    next attempt hattempt =>
      replace h := of_check h
      obtain ⟨_, hgeometry, h⟩ := of_bind h
      obtain ⟨_, htime, h⟩ := of_bind h
      replace h := of_check h
      cases h
      have hsame := beq_iff_eq.mp (require_eq_ok.mp hgeometry)
      simp only [PacketAttemptEvent.geometry, Prod.mk.injEq] at hsame
      have hle : attempt.lastTimePs ≤ event.eventTimePs := by simpa using require_eq_ok.mp htime
      refine ⟨hlive', hsame.1, ?_, rfl, .inr ⟨attempt, hattempt, rfl, hle⟩⟩
      simp only [PacketAttemptEvent.attemptId, Prod.mk.injEq]
      exact ⟨hsame.1, hsame.2.2.2.1, hsame.2.2.2.2.1⟩

section

variable (seen : Observation ledger event updated)

include seen

theorem Observation.extent_ne {token : Nat}
    {terminal : PacketExtentTerminal} (hretired : ledger.terminals.get? token = some terminal) :
    event.extentToken ≠ token := by
  rintro rfl
  rw [seen.live] at hretired
  cases hretired

theorem Observation.goes_on {attempt : PacketAttempt}
    (h : ledger.attempts.get? event.attemptToken = some attempt) :
    updated.first = attempt.first ∧ attempt.lastTimePs ≤ event.eventTimePs := by
  rcases seen.attempt with ⟨hnone, -⟩ | ⟨known, hknown, hgoes⟩
  · rw [hnone] at h
    cases h
  · rw [hknown] at h
    cases h
    exact hgoes

theorem PortFacts.observation (facts : PortFacts ledger) :
    PortFacts (ledger.observed event updated) := by
  have htokens : (ledger.observed event updated).attempts.keys.Nodup :=
    Table.set_keys_nodup facts.tokens event.attemptToken updated
  -- an attempt of another token with the identity of this row cannot exist
  have hidentity : ∀ token attempt, ledger.attempts.get? token = some attempt →
      attempt.first.attemptId = event.attemptId → token = event.attemptToken := by
    intro token attempt hattempt hid
    rcases seen.attempt with ⟨-, -, hnew⟩ | ⟨known, hknown, hfirst, -⟩
    · exact absurd (hid ▸ facts.identified token attempt hattempt) hnew
    · refine facts.unique token event.attemptToken attempt known hattempt hknown ?_
      rw [hid, ← seen.identity, hfirst]
  -- the children of a retired extent are as they were
  have hchildren : ∀ token terminal, ledger.terminals.get? token = some terminal → ∀ attempt,
      attempt ∈ ledger.children token ↔
        attempt ∈ (ledger.observed event updated).children token := by
    intro token terminal hretired attempt
    have hother := seen.extent_ne hretired
    rw [mem_children facts.tokens, mem_children htokens]
    refine and_congr_left fun hparent => exists_congr fun other => ?_
    rw [PacketPortLedger.observed, Table.get?_set]
    split
    next hsame =>
      subst hsame
      refine iff_of_false (fun hknown => ?_) ?_
      · exact hother (seen.parent.symm.trans ((seen.goes_on hknown).1 ▸ hparent))
      · rintro ⟨⟩
        exact hother (seen.parent.symm.trans hparent)
    next => rfl
  refine ⟨htokens, ?_, ?_, ?_, ?_, ?_, ?_⟩
  · intro token hattempt
    rw [PacketPortLedger.observed, Table.get?_set] at hattempt
    split at hattempt
    next hsame =>
      subst hsame
      rcases seen.attempt with ⟨-, hfree, -⟩ | ⟨known, hknown, -⟩
      · exact hfree
      · exact facts.disjoint _ (by simp [hknown])
    next => exact facts.disjoint token hattempt
  · refine Table.forall_set ?_ fun token attempt hattempt => ?_ <;>
      refine mem_insert_iff.mpr ?_
    · exact .inl seen.identity
    · exact .inr (facts.identified token attempt hattempt)
  · intro token other attempt attempt' hattempt hattempt' hid
    rcases Table.of_get?_set hattempt with ⟨hsame, rfl⟩ | ⟨-, hattempt⟩ <;>
      rcases Table.of_get?_set hattempt' with ⟨hsame', rfl⟩ | ⟨-, hattempt'⟩
    · exact hsame.symm.trans hsame'
    · exact (hsame.symm.trans
        (hidentity other attempt' hattempt' (hid.symm.trans seen.identity)).symm)
    · exact (hidentity token attempt hattempt (hid.trans seen.identity)).trans hsame'
    · exact facts.unique token other attempt attempt' hattempt hattempt' hid
  · refine forall_mem_concat (fun row hrow => ?_)
      ⟨updated, Table.get?_set_self .., seen.parent, seen.time.ge⟩
    refine Table.exists_set (facts.recorded row hrow) ?_
    rintro attempt - hattempt ⟨hparent, htime⟩
    obtain ⟨hfirst, hle⟩ := seen.goes_on hattempt
    exact ⟨hfirst ▸ hparent, by rw [seen.time]; omega⟩
  · intro token terminal hterminal other attempt hattempt hparent
    have hmem := (hchildren token terminal hterminal attempt).mpr
      ((mem_children htokens).mpr ⟨⟨other, hattempt⟩, hparent⟩)
    obtain ⟨⟨known, hknown⟩, -⟩ := (mem_children facts.tokens).mp hmem
    exact facts.retired token terminal hterminal known attempt hknown hparent
  · intro token terminal hterminal hkind
    obtain ⟨admission, hadmission, hcovered⟩ := facts.delivered token terminal hterminal hkind
    exact ⟨admission, hadmission, hcovered.congr (hchildren token terminal hterminal)⟩

end

theorem PortFacts.retirement (facts : PortFacts ledger) {terminal : PacketExtentTerminal}
    (h : ledger.checkRetirement terminal = .ok ()) (lastCallbackAtPs : Nat) :
    ledger.terminals.get? terminal.extentToken = none ∧ PortFacts { ledger with
      terminals := ledger.terminals.set terminal.extentToken terminal
      lastCallbackAtPs := lastCallbackAtPs } := by
  replace h := of_check h
  split at h
  next => cases h
  next admission hadmission =>
    obtain ⟨_, hnew, h⟩ := of_bind h
    replace h := of_check h
    replace h := of_check h
    obtain ⟨_, hended, h⟩ := of_bind h
    have hended' := all_eq_true.mp (require_eq_ok.mp hended)
    refine ⟨Option.isNone_iff_eq_none.mp (require_eq_ok.mp hnew), { facts with
      retired := Table.forall_set ?_ facts.retired
      delivered := Table.forall_set ?_ facts.delivered }⟩
    · intro other attempt hattempt hparent
      have hchild := hended' attempt ((mem_children facts.tokens).mpr ⟨⟨other, hattempt⟩, hparent⟩)
      simpa using hchild
    · intro hkind
      rw [if_pos hkind] at h
      exact ⟨admission, hadmission, checkCoverage_covers h⟩

/-- Everything a call can do: refuse with the ledger as it was, or keep the facts and every
terminal, with no row added for a retired extent. -/
theorem PortFacts.apply (facts : PortFacts ledger) (call : PortCall) :
    (call.apply ledger).Ends (fun _ after => PortFacts after ∧
      ∀ token terminal, ledger.terminals.get? token = some terminal →
        after.terminals.get? token = some terminal ∧
        after.events.filter (·.extentToken = token) =
          ledger.events.filter (·.extentToken = token)) (· = ledger) := by
  cases call with
  | admission value =>
    refine ends_checked fun _ hcheck => ?_
    have hnew := require_eq_ok.mp hcheck
    simp only [Bool.and_eq_true, Option.isNone_iff_eq_none] at hnew
    exact ⟨facts.admission value hnew.1 hnew.2, fun _ _ h => ⟨h, rfl⟩⟩
  | observe event =>
    refine ends_checked fun updated hcheck => ?_
    have hseen := checkObservation_effect hcheck
    have hafter := facts.observation hseen
    have hrows : ∀ token terminal, ledger.terminals.get? token = some terminal →
        (ledger.observed event updated).events.filter (·.extentToken = token) =
          ledger.events.filter (·.extentToken = token) := by
      intro token terminal hterminal
      simp [PacketPortLedger.observed, hseen.extent_ne hterminal]
    unfold PacketPortLedger.observed at hafter
    cases hdata : event.packetKind.isData <;> rw [hdata] at hafter <;>
      exact ⟨hafter, fun token terminal h => ⟨h, hrows token terminal h⟩⟩
  | retire terminal =>
    refine ends_checked fun _ hcheck => ?_
    obtain ⟨hnone, hafter⟩ := facts.retirement hcheck (max ledger.lastCallbackAtPs terminal.atPs)
    refine ⟨hafter, ?_⟩
    intro token closed hclosed
    have hother : terminal.extentToken ≠ token := by
      rintro rfl
      rw [hnone] at hclosed
      cases hclosed
    refine ⟨?_, rfl⟩
    rw [Table.get?_set, if_neg hother, hclosed]

inductive PortCalls (first : PacketPortLedger) : PacketPortLedger → Prop
  | none : PortCalls first first
  | accepted {ledger after : PacketPortLedger} {call : PortCall} :
      PortCalls first ledger → call.apply ledger = .ok () after → PortCalls first after
  | refused {ledger after : PacketPortLedger} {call : PortCall} {error : PyError} :
      PortCalls first ledger → call.apply ledger = .error error after → PortCalls first after

variable {first : PacketPortLedger}

theorem PortCalls.all {after : PacketPortLedger} (calls : PortCalls first ledger)
    {more : List PortCall} (h : more.forM PortCall.apply ledger = .ok () after) :
    PortCalls first after :=
  EStateM.forM_invariant (PortCalls first) h calls fun _ _ _ reached hcall =>
    reached.accepted hcall

theorem PortCalls.keeps (calls : PortCalls first ledger) (facts : PortFacts first) :
    PortFacts ledger ∧ ∀ token terminal, first.terminals.get? token = some terminal →
      ledger.terminals.get? token = some terminal ∧
      ledger.events.filter (·.extentToken = token) =
        first.events.filter (·.extentToken = token) := by
  induction calls with
  | none => exact ⟨facts, fun _ _ h => ⟨h, rfl⟩⟩
  | accepted _ h ih =>
    obtain ⟨hfacts, hclosed⟩ := ih
    obtain ⟨hafter, hsame⟩ := ends_of_eq_ok (hfacts.apply _) h
    refine ⟨hafter, ?_⟩
    intro token terminal hterminal
    obtain ⟨hkept, hrows⟩ := hclosed token terminal hterminal
    obtain ⟨hkept', hrows'⟩ := hsame token terminal hkept
    exact ⟨hkept', hrows'.trans hrows⟩
  | refused _ h ih =>
    obtain rfl := ends_of_eq_error (ih.1.apply _) h
    exact ih

/-- Every ledger that calls reach keeps extent and attempt tokens apart and one token for each
attempt identity. A retired extent has only ended attempts, no row after its terminal time, and
no later row whatever calls follow. One retired as delivered has every byte of its payload in
exactly one delivered packet. A refused call changes nothing. -/
theorem packet_port_sound {context : PacketPortContext} {start ledger : PacketPortLedger}
    (hnew : PacketPortLedger.new context = .ok start) (calls : PortCalls start ledger) :
    (∀ token, ledger.admissions.get? token = none ∨ ledger.attempts.get? token = none) ∧
    (∀ token terminal, ledger.terminals.get? token = some terminal →
      (∀ other attempt, ledger.attempts.get? other = some attempt →
        attempt.first.extentToken = token →
        attempt.terminal = true ∧ attempt.lastTimePs ≤ terminal.atPs) ∧
      (∀ event ∈ ledger.events, event.extentToken = token → event.eventTimePs ≤ terminal.atPs) ∧
      ∀ later, PortCalls ledger later →
        later.terminals.get? token = some terminal ∧
        later.events.filter (·.extentToken = token) =
          ledger.events.filter (·.extentToken = token)) ∧
    (∀ token terminal, ledger.terminals.get? token = some terminal →
      terminal.kind = .delivered → ∃ admission, ledger.admissions.get? token = some admission ∧
        ∀ byte < admission.payloadBytes, ∃! packetIndex, ∃ other attempt,
          ledger.attempts.get? other = some attempt ∧ attempt.first.extentToken = token ∧
          attempt.lastKind = .delivered ∧ attempt.first.packetKind.isData = true ∧
          attempt.first.packetIndex = packetIndex ∧
          attempt.first.payloadOffsetBytes ≤ byte ∧
          byte < attempt.first.payloadOffsetBytes + attempt.first.payloadBytes) ∧
    (∀ token other attempt attempt', ledger.attempts.get? token = some attempt →
      ledger.attempts.get? other = some attempt' →
      attempt.first.attemptId = attempt'.first.attemptId → token = other) ∧
    ∀ call error after, PortCall.apply call ledger = .error error after → after = ledger := by
  have facts := (calls.keeps (.start hnew)).1
  refine ⟨?_, ?_, ?_, facts.unique, ?_⟩
  · intro token
    by_cases hattempt : ledger.attempts.get? token = none
    · exact .inr hattempt
    · exact .inl (facts.disjoint token hattempt)
  · intro token terminal hterminal
    refine ⟨facts.retired token terminal hterminal, ?_, ?_⟩
    · intro event hevent hparent
      obtain ⟨attempt, hattempt, hsame, htime⟩ := facts.recorded event hevent
      have hended := (facts.retired token terminal hterminal _ attempt hattempt
        (hsame.trans hparent)).2
      omega
    · intro later hlater
      exact (hlater.keeps facts).2 token terminal hterminal
  · intro token terminal hterminal hkind
    obtain ⟨admission, hadmission, hcovered⟩ := facts.delivered token terminal hterminal hkind
    refine ⟨admission, hadmission, ?_⟩
    intro byte hbyte
    obtain ⟨packetIndex, ⟨child, hchild, hdelivered, hindex, hholds⟩, hunique⟩ :=
      hcovered.bytes byte hbyte
    obtain ⟨⟨other, hother⟩, hparent⟩ := (mem_children facts.tokens).mp hchild
    refine ⟨packetIndex, ⟨other, child, hother, hparent, hdelivered.1, hdelivered.2, hindex,
      hholds.1, hholds.2⟩, ?_⟩
    rintro index ⟨known, attempt, hattempt, hattemptParent, hlast, hdata, hattemptIndex,
      hlow, hhigh⟩
    exact hunique index ⟨attempt, (mem_children facts.tokens).mpr
      ⟨⟨known, hattempt⟩, hattemptParent⟩, ⟨hlast, hdata⟩, hattemptIndex, hlow, hhigh⟩
  · intro call error after h
    have hsame := ends_of_eq_error (facts.apply call) h
    exact hsame

def plainPort : PacketPortContext where
  sessionId := "s"
  portId := "p"
  named := by decide
  abi_known := .inr rfl
  links_named := by simp
  links_distinct := by simp
  kinds_declared := by simp
  kinds_distinct := by decide

def smallExtent : PacketExtentAdmission where
  extentToken := 1
  producerId := 7
  payloadBytes := 4
  eligibleAtPs := 0
  positive := by decide
  bounded := by decide

def smallRow (kind : PacketEventKind) (eventTimePs : Fin 10) : PacketAttemptEvent where
  attemptToken := 2
  extentToken := 1
  wqeId := 7
  eventKind := kind
  eventTimePs := eventTimePs
  extentIndex := 0
  packetIndex := 0
  transmissionAttempt := 0
  payloadOffsetBytes := 0
  payloadBytes := 4
  wireBytes := 6
  packetKind := .data
  positive := by decide
  bounded := by have htime := eventTimePs.isLt; omega
  no_alias := by decide
  wire_covers := by decide

def smallTerminal : PacketExtentTerminal where
  extentToken := 1
  producerId := 7
  kind := .delivered
  atPs := 5
  positive := by decide
  bounded := by decide

theorem small_extent_delivered :
    ∃ start ledger, PacketPortLedger.new plainPort = .ok start ∧ PortCalls start ledger ∧
      ledger.terminals.get? 1 = some smallTerminal ∧
      ∃ admission, ledger.admissions.get? 1 = some admission ∧
        ∀ byte < admission.payloadBytes, ∃! packetIndex, ∃ other attempt,
          ledger.attempts.get? other = some attempt ∧ attempt.first.extentToken = 1 ∧
          attempt.lastKind = .delivered ∧ attempt.first.packetKind.isData = true ∧
          attempt.first.packetIndex = packetIndex ∧
          attempt.first.payloadOffsetBytes ≤ byte ∧
          byte < attempt.first.payloadOffsetBytes + attempt.first.payloadBytes := by
  have hnew : PacketPortLedger.new plainPort = .ok { context := plainPort } := rfl
  have hrun : ([.admission smallExtent, .observe (smallRow .txStarted 1),
      .observe (smallRow .txFinished 2), .observe (smallRow .rxArrived 3),
      .observe (smallRow .delivered 4), .retire smallTerminal] : List PortCall).forM PortCall.apply
        { context := plainPort } = .ok () _ := rfl
  have calls := PortCalls.none.all hrun
  exact ⟨_, _, hnew, calls, rfl, (packet_port_sound hnew calls).2.2.1 1 smallTerminal rfl rfl⟩

end SimLLM
