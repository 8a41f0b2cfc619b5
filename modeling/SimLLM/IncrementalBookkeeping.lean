import SimLLM.Bookkeeping

namespace SimLLM

def ValidationState.flat (state : ValidationState) : ValidationState := ⟨none, state.view⟩

theorem validateEntry_flat (entry : BookkeepingEntry) (expected : Nat) (state : ValidationState) :
    validateEntry entry expected state.flat =
      (validateEntry entry expected state).map ValidationState.flat := by
  have hview : state.flat.view = state.view := rfl
  unfold validateEntry
  rw [hview]
  by_cases hsequence : entry.sequence = expected
  · simp only [hsequence, beq_self_eq_true, require, if_true, ok_bind]
    cases heffect : checkFact state.view entry.fact (indexPath "ledger.entries" expected) with
    | error error => rfl
    | ok effect =>
      have hflat : ({ state with own := state.own.apply effect } : ValidationState).flat =
          { state.flat with own := state.flat.own.apply effect } := by
        unfold ValidationState.flat
        rw [ValidationState.view_apply]
      exact congrArg Except.ok hflat.symm
  · have hbeq : (entry.sequence == expected) = false := by simpa using hsequence
    simp only [hbeq, require]
    rfl

theorem validateEntries_flat (entries : List BookkeepingEntry) (start : Nat)
    (state : ValidationState) : validateEntries entries start state.flat =
      (validateEntries entries start state).map ValidationState.flat := by
  unfold validateEntries
  induction entries generalizing start state with
  | nil => rfl
  | cons entry rest ih =>
    rw [List.zipIdx_cons, List.foldlM_cons, List.foldlM_cons, validateEntry_flat]
    cases hentry : validateEntry entry start state with
    | error error => rfl
    | ok next => exact ih (start + 1) next

section Extend

variable (bookkeeper : RequestBookkeeper) (facts : List BookkeepingFact)

def RequestBookkeeper.followedBy : List BookkeepingEntry :=
  bookkeeper.entries ++ numberEntries bookkeeper.entries.length facts

/-- Validating the whole ledger from scratch is validating the batch over the state of the
entries so far. -/
theorem RequestBookkeeper.validate_followedBy : validateLedgerState (bookkeeper.followedBy facts) =
      (validateEntries (numberEntries bookkeeper.entries.length facts) bookkeeper.entries.length
        ⟨some bookkeeper.validation, {}⟩).map ValidationState.flat := by
  have hbase : (⟨some bookkeeper.validation, {}⟩ : ValidationState).flat =
      ⟨none, bookkeeper.validation⟩ := by
    simp [ValidationState.flat, ValidationState.view]
  have hprior : validateEntries bookkeeper.entries 0 {} = .ok ⟨none, bookkeeper.validation⟩ :=
    bookkeeper.valid
  rw [← validateEntries_flat, hbase, validateLedgerState, RequestBookkeeper.followedBy,
    validateEntries_append, hprior, Nat.zero_add]
  rfl

theorem RequestBookkeeper.extend_eq : (bookkeeper.extend facts).map
        (fun extended => (extended.entries, ValidationState.mk none extended.validation)) =
      (validateLedgerState (bookkeeper.followedBy facts)).map
        fun state => (bookkeeper.followedBy facts, state) := by
  rw [RequestBookkeeper.validate_followedBy]
  unfold RequestBookkeeper.extend
  dsimp only
  split
  next error h =>
    rw [h]
    rfl
  next overlay h =>
    have hwhole := congrArg (fun outcome => (outcome.map ValidationState.flat).map
      fun state => (bookkeeper.followedBy facts, state)) h
    exact hwhole.symm

/-- A batch is accepted, with the state that validating everything from scratch leaves, or
refused with the same error, exactly as the whole ledger is; a refusal changes nothing. -/
theorem extend_matches_validation :
    ((∃ extended, bookkeeper.extend facts = .ok extended) ↔
      ∃ state, validateLedgerState (bookkeeper.followedBy facts) = .ok state) ∧
    (∀ extended, bookkeeper.extend facts = .ok extended →
      extended.entries = bookkeeper.followedBy facts ∧
      validateLedgerState (bookkeeper.followedBy facts) = .ok ⟨none, extended.validation⟩) ∧
    (∀ error, bookkeeper.extend facts = .error error ↔
      validateLedgerState (bookkeeper.followedBy facts) = .error error) ∧
    ∀ error after, extendLedger facts bookkeeper = .error error after → after = bookkeeper := by
  have hextend := bookkeeper.extend_eq facts
  refine ⟨?_, ?_, ?_, ?_⟩
  · cases h : bookkeeper.extend facts <;>
      cases hwhole : validateLedgerState (bookkeeper.followedBy facts) <;>
      simp [h, hwhole, Except.map] at hextend ⊢
  · intro extended h
    cases hwhole : validateLedgerState (bookkeeper.followedBy facts) with
    | error error => simp [h, hwhole, Except.map] at hextend
    | ok state =>
      simp only [h, hwhole, Except.map, Except.ok.injEq, Prod.mk.injEq] at hextend
      exact ⟨hextend.1, congrArg Except.ok hextend.2.symm⟩
  · intro error
    cases h : bookkeeper.extend facts <;>
      cases hwhole : validateLedgerState (bookkeeper.followedBy facts) <;>
      simp [h, hwhole, Except.map] at hextend ⊢
    rw [hextend]
  · intro error after h
    unfold extendLedger at h
    split at h
    next => cases h
    next =>
      cases h
      rfl

end Extend

end SimLLM
