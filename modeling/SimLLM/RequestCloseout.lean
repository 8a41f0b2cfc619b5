import SimLLM.RequestLifetime
import SimLLM.StateRules

namespace SimLLM

open RequestRoutingLifetime RequestLifetimeRegistry

variable {lifetime : RequestRoutingLifetime} {staged : Dict RequestRoutingLifetime}
  {history : List StepRecord} {requestId : String} {graph : ExecutionGraph}
  {finished reachers ids : List String} {before next : Dict RequestRoutingLifetime}

def Settled (lifetime : RequestRoutingLifetime) : Prop :=
  (lifetime.schedulerFinished = false ∧ (lifetime.state = .joined ∨ lifetime.state = .executing)) ∨
  (lifetime.schedulerFinished = true ∧
    ((lifetime.state = .finishFlagged ∧ lifetime.isDrained = false) ∨
      (lifetime.state = .closed ∧ lifetime.isDrained = true)))

def Midway (lifetime : RequestRoutingLifetime) : Prop :=
  Settled lifetime ∨ lifetime.state = .executing

theorem join_settled (requestId : String) (view : RoutingViewDescriptor) (layers : MoeLayers) :
    Settled (.join requestId view layers) :=
  .inl ⟨rfl, .inl rfl⟩

theorem reconcile_settled (h : Midway lifetime) :
    Settled lifetime.reconcile ∧ lifetime.state.place ≤ lifetime.reconcile.state.place := by
  have hdrained : lifetime.reconcile.isDrained = lifetime.isDrained := rfl
  have hfinished : lifetime.reconcile.schedulerFinished = lifetime.schedulerFinished := rfl
  unfold Settled
  rw [hdrained, hfinished]
  rcases h with (⟨hopen, hstate⟩ | ⟨hdone, hstate⟩) | hstate
  · rcases hstate with hstate | hstate <;>
      simp [reconcile, hopen, hstate, RequestLifecycleState.place]
  · rcases hstate with ⟨hstate, hdrain⟩ | ⟨hstate, hdrain⟩ <;>
      simp [reconcile, hdone, hstate, hdrain, RequestLifecycleState.place]
  · cases hdone : lifetime.schedulerFinished <;> cases hdrain : lifetime.isDrained <;>
      simp [reconcile, hdone, hstate, hdrain, RequestLifecycleState.place]

structure StagedMove (finished : List String) (requestId : String)
    (old new : RequestRoutingLifetime) : Prop where
  view : new.routingView = old.routingView
  released : new.viewReleased = old.viewReleased
  forward : old.state.place ≤ new.state.place
  executing : old.state = .executing → new.state = .executing
  kept : old.schedulerFinished = true → new.schedulerFinished = true
  observed : new.schedulerFinished = true →
    old.schedulerFinished = true ∨ requestId ∈ finished

namespace StagedMove

variable {a b c : RequestRoutingLifetime}

theorem refl (a : RequestRoutingLifetime) : StagedMove finished requestId a a :=
  ⟨rfl, rfl, le_rfl, id, id, .inl⟩

theorem trans (h : StagedMove finished requestId a b) (h' : StagedMove finished requestId b c) :
    StagedMove finished requestId a c where
  view := h'.view.trans h.view
  released := h'.released.trans h.released
  forward := h.forward.trans h'.forward
  executing := fun ha => h'.executing (h.executing ha)
  kept := fun ha => h'.kept (h.kept ha)
  observed := fun hc => (h'.observed hc).elim h.observed .inr

end StagedMove

theorem enterExecution_move (finished : List String) (requestId : String)
    {entered : RequestRoutingLifetime} (h : lifetime.enterExecution = .ok entered)
    (mid : Midway lifetime) :
    StagedMove finished requestId lifetime entered ∧ entered.state = .executing := by
  unfold enterExecution at h
  split at h
  next => cases h
  next hclosed =>
    split at h
    next => cases h
    next hopen =>
      obtain rfl := Except.ok.inj h
      have hstate : lifetime.state = .joined ∨ lifetime.state = .executing := by
        rcases mid with (⟨-, hstate⟩ | ⟨hdone, -⟩) | hstate
        · exact hstate
        · exact absurd hdone hopen
        · exact .inr hstate
      refine ⟨⟨rfl, rfl, ?_, ?_, id, .inl⟩, ?_⟩ <;> rcases hstate with hstate | hstate <;>
        simp [hstate, RequestLifecycleState.place]

variable {scheduled : ScheduledRequest}

theorem coverScheduledTokens_move (finished : List String) (requestId : String)
    {covered : RequestRoutingLifetime} {reached : Bool}
    (h : lifetime.coverScheduledTokens scheduled = .ok (covered, reached)) :
    StagedMove finished requestId lifetime covered ∧ covered.state = lifetime.state := by
  obtain ⟨newTokens, -, h⟩ := of_bind h
  obtain ⟨context, -, h⟩ := of_bind h
  obtain ⟨cached, -, h⟩ := of_bind h
  dsimp only at h
  repeat' split at h
  all_goals cases h
  · exact ⟨.refl _, rfl⟩
  · exact ⟨⟨rfl, rfl, le_rfl, id, id, .inl⟩, rfl⟩

theorem flagFinish_move {flagged : RequestRoutingLifetime} (h : lifetime.flagFinish = .ok flagged)
    (mid : Midway lifetime) (hmem : requestId ∈ finished) :
    StagedMove finished requestId lifetime flagged ∧ flagged.state = .executing ∧
      flagged.schedulerFinished = true := by
  unfold flagFinish at h
  split at h
  next => cases h
  next hjoined =>
    split at h
    next => cases h
    next hopen =>
      obtain rfl := Except.ok.inj h
      refine ⟨⟨rfl, rfl, le_rfl, id, fun _ => rfl, fun _ => .inr hmem⟩, ?_, rfl⟩
      rcases mid with (⟨-, hstate | hstate⟩ | ⟨hdone, -⟩) | hstate
      · exact absurd hstate hjoined
      · exact hstate
      · exact absurd hdone hopen
      · exact hstate

variable {phase : String}

theorem markEndFlag_move (finished : List String) (requestId : String) {layer : Nat}
    {marked : RequestRoutingLifetime} (h : lifetime.markEndFlag phase layer = .ok marked) :
    StagedMove finished requestId lifetime marked ∧ marked.state = lifetime.state := by
  unfold markEndFlag at h
  repeat' split at h
  all_goals cases h
  all_goals exact ⟨⟨rfl, rfl, le_rfl, id, id, .inl⟩, rfl⟩

theorem stagedLifetime_eq_ok (h : stagedLifetime staged requestId = .ok lifetime) :
    staged.get? requestId = some lifetime := by
  unfold stagedLifetime at h
  split at h
  next hget =>
    cases h
    exact hget
  next => cases h

structure StagedFacts (before : Dict RequestRoutingLifetime) (finished : List String)
    (staged : Dict RequestRoutingLifetime) : Prop where
  keys : staged.keys = before.keys
  moved : ∀ id old, before.get? id = some old →
    ∃ new, staged.get? id = some new ∧ StagedMove finished id old new
  midway : ∀ id lifetime, staged.get? id = some lifetime → Midway lifetime

def AllExecuting (ids : List String) (staged : Dict RequestRoutingLifetime) : Prop :=
  ∀ id ∈ ids, ∃ lifetime, staged.get? id = some lifetime ∧ lifetime.state = .executing

def AllFinished (ids : List String) (staged : Dict RequestRoutingLifetime) : Prop :=
  ∀ id ∈ ids, ∃ lifetime, staged.get? id = some lifetime ∧ lifetime.schedulerFinished = true

section Replace

variable {old new : RequestRoutingLifetime}

theorem StagedFacts.replace (facts : StagedFacts before finished staged)
    (h : staged.get? requestId = some old) (move : StagedMove finished requestId old new)
    (hstate : new.state = .executing) : StagedFacts before finished (staged.set requestId new) := by
  refine ⟨?_, ?_, ?_⟩
  · rw [Table.keys_set, if_pos (Table.mem_keys_of_get? h), facts.keys]
  · intro id first hfirst
    refine Table.exists_set (facts.moved id first hfirst) ?_
    rintro middle rfl hmiddle hmove
    rw [h] at hmiddle
    cases hmiddle
    exact hmove.trans move
  · exact Table.forall_set (.inr hstate) facts.midway

theorem AllExecuting.replace (all : AllExecuting ids staged) (requestId : String)
    (hstate : new.state = .executing) : AllExecuting ids (staged.set requestId new) :=
  fun id hid => Table.exists_set (all id hid) fun _ _ _ _ => hstate

theorem AllFinished.replace (all : AllFinished ids staged) (h : staged.get? requestId = some old)
    (move : StagedMove finished requestId old new) :
    AllFinished ids (staged.set requestId new) := by
  intro id hid
  refine Table.exists_set (all id hid) ?_
  rintro found - hfound hdone
  rw [h] at hfound
  cases hfound
  exact move.kept hdone

end Replace

theorem stageScheduled_facts {acc next : Dict RequestRoutingLifetime × List String}
    (facts : StagedFacts before finished acc.1 ∧ AllExecuting acc.2 acc.1)
    (h : stageScheduled acc scheduled = .ok next) :
    StagedFacts before finished next.1 ∧ AllExecuting next.2 next.1 := by
  obtain ⟨lifetime, hlifetime, h⟩ := of_bind h
  obtain ⟨entered, hentered, h⟩ := of_bind h
  obtain ⟨⟨covered, reached⟩, hcovered, h⟩ := of_bind h
  have hget := stagedLifetime_eq_ok hlifetime
  obtain ⟨henter, hstate⟩ := enterExecution_move finished scheduled.requestId hentered
    (facts.1.midway _ _ hget)
  obtain ⟨hcover, hsame⟩ := coverScheduledTokens_move finished scheduled.requestId hcovered
  have hexec := hsame.trans hstate
  cases h
  refine ⟨facts.1.replace hget (henter.trans hcover) hexec, ?_⟩
  have hall := facts.2.replace scheduled.requestId hexec
  cases reached with
  | false => exact hall
  | true =>
    exact List.forall_mem_concat hall ⟨covered, Table.get?_set_self .., hexec⟩

theorem stageFinish_facts (hids : ∀ id ∈ ids, id ∈ finished)
    (h : ids.foldlM stageFinish staged = .ok next) (facts : StagedFacts before finished staged)
    (all : AllExecuting reachers staged) :
    StagedFacts before finished next ∧ AllExecuting reachers next ∧ AllFinished ids next := by
  refine foldlM_done (fun done staged => StagedFacts before finished staged ∧
    AllExecuting reachers staged ∧ AllFinished done staged) h ⟨facts, all, nofun⟩ ?_
  rintro done id rest staged next rfl ⟨facts, all, hdone⟩ hnext
  obtain ⟨lifetime, hlifetime, hnext⟩ := of_bind hnext
  obtain ⟨flagged, hflagged, hnext⟩ := of_bind hnext
  cases hnext
  have hget := stagedLifetime_eq_ok hlifetime
  obtain ⟨hmove, hexec, hset⟩ := flagFinish_move hflagged (facts.midway _ _ hget)
    (hids id (by simp))
  exact ⟨facts.replace hget hmove hexec, all.replace id hexec, List.forall_mem_concat
    (hdone.replace hget hmove) ⟨flagged, Table.get?_set_self .., hset⟩⟩

structure Marking (before : Dict RequestRoutingLifetime) (finished reachers : List String)
    (staged : Dict RequestRoutingLifetime) : Prop where
  facts : StagedFacts before finished staged
  executing : AllExecuting reachers staged
  flagged : AllFinished finished staged

theorem stageMark_marking {layer : Nat} (marking : Marking before finished reachers staged)
    (h : stageMark reachers phase layer staged requestId = .ok next) :
    Marking before finished reachers next := by
  unfold stageMark at h
  split at h
  next hmem =>
    obtain ⟨lifetime, hlifetime, h⟩ := of_bind h
    obtain ⟨marked, hmarked, h⟩ := of_bind h
    cases h
    have hget := stagedLifetime_eq_ok hlifetime
    obtain ⟨current, hcurrent, hexec⟩ := marking.executing requestId hmem
    rw [hget] at hcurrent
    cases hcurrent
    obtain ⟨hmove, hsame⟩ := markEndFlag_move finished requestId hmarked
    have hstate := hsame.trans hexec
    exact ⟨marking.facts.replace hget hmove hstate, marking.executing.replace requestId hstate,
      marking.flagged.replace hget hmove⟩
  next =>
    cases h
    exact marking

theorem stageEvent_marking {layers : MoeLayers} {event : CompletionEvent}
    (marking : Marking before finished reachers staged)
    (h : stageEvent layers graph reachers staged event = .ok next) :
    Marking before finished reachers next := by
  unfold stageEvent at h
  repeat' split at h
  any_goals cases h
  · exact marking
  · exact marking
  · exact foldlM_invariant (Marking before finished reachers) h marking
      fun _ _ _ _ => stageMark_marking

structure StepMove (finished : List String) (requestId : String)
    (old new : RequestRoutingLifetime) : Prop where
  view : new.routingView = old.routingView
  released : new.viewReleased = old.viewReleased
  forward : old.state.place ≤ new.state.place
  finish : new.schedulerFinished = true ↔ old.schedulerFinished = true ∨ requestId ∈ finished
  settled : Settled new

variable {registry after : RequestLifetimeRegistry} {record : StepRecord} {result : ExecutionResult}

theorem stageStep_moves
    (settled : ∀ id lifetime, registry.records.get? id = some lifetime → Settled lifetime)
    (h : registry.stageStep record graph result = .ok staged) :
    staged.keys = registry.records.keys ∧
    (∀ id ∈ record.finishedRequestIds, (registry.records.get? id).isSome) ∧
    ∀ id old, registry.records.get? id = some old →
      ∃ new, staged.get? id = some new ∧ StepMove record.finishedRequestIds id old new := by
  replace h := of_check h
  replace h := of_check h
  replace h := of_check h
  replace h := of_check h
  obtain ⟨_, hknown, h⟩ := of_bind h
  obtain ⟨⟨scheduled, reachers⟩, hscheduled, h⟩ := of_bind h
  obtain ⟨finished, hfinished, h⟩ := of_bind h
  obtain ⟨marked, hmarked, h⟩ := of_bind h
  cases h
  have hstart : StagedFacts registry.records record.finishedRequestIds registry.records :=
    ⟨rfl, fun id old hold => ⟨old, hold, .refl old⟩,
      fun id lifetime hget => .inl (settled id lifetime hget)⟩
  obtain ⟨hfacts, hreachers⟩ := foldlM_invariant
    (fun acc => StagedFacts registry.records record.finishedRequestIds acc.1 ∧
      AllExecuting acc.2 acc.1) hscheduled ⟨hstart, by simp [AllExecuting]⟩
    fun _ _ _ _ => stageScheduled_facts
  obtain ⟨hfacts, hreachers, hflagged⟩ := stageFinish_facts (fun _ hid => hid) hfinished hfacts
    hreachers
  have hmarking := foldlM_invariant
    (Marking registry.records record.finishedRequestIds reachers) hmarked
    ⟨hfacts, hreachers, hflagged⟩ fun _ _ _ _ => stageEvent_marking
  refine ⟨?_, ?_, ?_⟩
  · rw [Table.keys_mapValues, hmarking.facts.keys]
  · intro id hid
    obtain ⟨lifetime, hget, -⟩ := hmarking.flagged id hid
    exact Option.isSome_iff_exists.mpr
      (Table.exists_get? (hmarking.facts.keys ▸ Table.mem_keys_of_get? hget))
  · intro id old hold
    obtain ⟨new, hget, hmove⟩ := hmarking.facts.moved id old hold
    have hsettle := reconcile_settled (hmarking.facts.midway id new hget)
    refine ⟨new.reconcile, by rw [Table.get?_mapValues, hget]; rfl, ?_⟩
    refine ⟨hmove.view, hmove.released, hmove.forward.trans hsettle.2, ⟨hmove.observed, ?_⟩,
      hsettle.1⟩
    rintro (hdone | hmem)
    · exact hmove.kept hdone
    · obtain ⟨lifetime, hlifetime, hdone⟩ := hmarking.flagged id hmem
      rw [hget] at hlifetime
      cases hlifetime
      exact hdone

def RequestRoutingLifetime.releaseDue (lifetime : RequestRoutingLifetime) : Bool :=
  lifetime.state = .closed && !lifetime.viewReleased

def RequestRoutingLifetime.afterRelease (lifetime : RequestRoutingLifetime) :
    RequestRoutingLifetime :=
  if lifetime.releaseDue then { lifetime with viewReleased := true } else lifetime

theorem releaseViews_returning {records : Dict RequestRoutingLifetime}
    (returns : ∀ entry ∈ records, entry.2.routingView.releaseCallback = .ok ()) :
    releaseViews records = ⟨records.mapValues afterRelease,
      (records.filter fun entry => entry.2.releaseDue).map Prod.fst, none⟩ := by
  induction records with
  | nil => rfl
  | cons entry rest ih =>
    obtain ⟨requestId, lifetime⟩ := entry
    have hrest := ih fun entry hentry => returns entry (by simp [hentry])
    have hreturn : lifetime.routingView.releaseCallback = .ok () := returns (requestId, lifetime)
      (by simp)
    by_cases hdue : lifetime.releaseDue = true
    · have hcond : lifetime.state = .closed ∧ lifetime.viewReleased = false := by
        simpa [releaseDue] using hdue
      simp [releaseViews, hcond, hreturn, hrest, hdue, Table.mapValues, afterRelease]
    · have hcond : ¬ (lifetime.state = .closed ∧ lifetime.viewReleased = false) := by
        simpa [releaseDue] using hdue
      simp [releaseViews, hcond, hrest, hdue, Table.mapValues, afterRelease]

structure RegistryFacts (history : List StepRecord) (registry : RequestLifetimeRegistry) :
    Prop where
  keys : registry.records.keys.Nodup
  settled : ∀ id lifetime, registry.records.get? id = some lifetime → Settled lifetime
  returns : ∀ id lifetime, registry.records.get? id = some lifetime →
    lifetime.routingView.releaseCallback = .ok ()
  observed : ∀ id lifetime, registry.records.get? id = some lifetime →
    (lifetime.schedulerFinished = true ↔ ∃ step ∈ history, id ∈ step.finishedRequestIds)
  known : ∀ step ∈ history, ∀ id ∈ step.finishedRequestIds, (registry.records.get? id).isSome
  released : ∀ id lifetime, registry.records.get? id = some lifetime →
    (lifetime.viewReleased = true ↔ lifetime.state = .closed)
  counted : ∀ id, registry.released.count id =
    if (registry.records.get? id).any (·.viewReleased) then 1 else 0

theorem RegistryFacts.initial (layers : MoeLayers) : RegistryFacts [] { moeLayers := layers } := by
  constructor <;> simp [Table.keys]

theorem RegistryFacts.register {view : RoutingViewDescriptor}
    (facts : RegistryFacts history registry) (hreturn : view.releaseCallback = .ok ())
    (h : registry.register requestId view = .ok after) : RegistryFacts history after := by
  unfold RequestLifetimeRegistry.register at h
  split at h
  next => cases h
  next =>
    split at h
    next => cases h
    next hnew =>
      have hnone := Option.not_isSome_iff_eq_none.mp hnew
      obtain rfl := Except.ok.inj h
      refine ⟨Table.set_keys_nodup facts.keys _ _,
        Table.forall_set (join_settled _ _ _) facts.settled,
        Table.forall_set hreturn facts.returns, Table.forall_set ?_ facts.observed, ?_,
        Table.forall_set (by simp [RequestRoutingLifetime.join]) facts.released, ?_⟩
      · constructor
        · intro hdone
          cases hdone
        · rintro ⟨step, hstep, hmem⟩
          have hsome := facts.known step hstep requestId hmem
          rw [hnone] at hsome
          cases hsome
      · intro step hstep id hid
        rw [Table.get?_set]
        by_cases hsame : requestId = id
        · rw [if_pos hsame]
          rfl
        · rw [if_neg hsame]
          exact facts.known step hstep id hid
      · intro id
        rw [Table.get?_set, facts.counted id]
        by_cases hsame : requestId = id
        · rw [if_pos hsame, ← hsame, hnone]
          rfl
        · rw [if_neg hsame]

def RequestLifetimeRegistry.commitStep (registry : RequestLifetimeRegistry)
    (staged : Dict RequestRoutingLifetime) (executionId : String) : RequestLifetimeRegistry :=
  { registry with
    records := staged.mapValues afterRelease
    consumedExecutionIds := registry.consumedExecutionIds ++ [executionId]
    released := registry.released ++
      (staged.filter fun entry => entry.2.releaseDue).map Prod.fst }

theorem afterRelease_eq (lifetime : RequestRoutingLifetime) : lifetime.afterRelease =
    { lifetime with viewReleased := lifetime.releaseDue || lifetime.viewReleased } := by
  unfold afterRelease
  cases h : lifetime.releaseDue <;> simp

theorem StepMove.closed_kept {id : String}
    {old new : RequestRoutingLifetime} (move : StepMove finished id old new)
    (h : old.state = .closed) : new.state = .closed := by
  have hforward := move.forward
  rw [h] at hforward
  rcases move.settled with ⟨-, hstate | hstate⟩ | ⟨-, ⟨hstate, -⟩ | ⟨hstate, -⟩⟩ <;>
    simp_all [RequestLifecycleState.place]

section Commit

variable (facts : RegistryFacts history registry)
  (h : registry.stageStep record graph result = .ok staged)

include facts h

theorem RegistryFacts.staged_get?
    {id : String} {new : RequestRoutingLifetime} (hnew : staged.get? id = some new) :
    ∃ old, registry.records.get? id = some old ∧ StepMove record.finishedRequestIds id old new := by
  obtain ⟨hkeys, -, hmoves⟩ := stageStep_moves facts.settled h
  obtain ⟨old, hold⟩ := Table.exists_get? (hkeys ▸ Table.mem_keys_of_get? hnew)
  obtain ⟨moved, hmoved, hmove⟩ := hmoves id old hold
  rw [hnew] at hmoved
  cases hmoved
  exact ⟨old, hold, hmove⟩

theorem RegistryFacts.staged_returns :
    ∀ entry ∈ staged, entry.2.routingView.releaseCallback = .ok () := by
  intro entry hentry
  obtain ⟨old, hold, hmove⟩ := facts.staged_get? h
    (Table.get?_of_mem ((stageStep_moves facts.settled h).1 ▸ facts.keys) hentry)
  rw [hmove.view]
  exact facts.returns entry.1 old hold

theorem RegistryFacts.forall_commitStep {P : String → RequestRoutingLifetime → Prop}
    (hnew : ∀ id old new, registry.records.get? id = some old →
      StepMove record.finishedRequestIds id old new →
      P id { new with viewReleased := new.releaseDue || new.viewReleased }) :
    ∀ id lifetime, (registry.commitStep staged graph.executionId).records.get? id = some lifetime →
      P id lifetime := by
  intro id lifetime hget
  have hmapped := (Table.get?_mapValues _ staged id).symm.trans hget
  obtain ⟨new, hstaged, rfl⟩ := Option.map_eq_some_iff.mp hmapped
  obtain ⟨old, hold, hmove⟩ := facts.staged_get? h hstaged
  rw [afterRelease_eq]
  exact hnew id old new hold hmove

theorem RegistryFacts.commit :
    RegistryFacts (history ++ [record]) (registry.commitStep staged graph.executionId) := by
  obtain ⟨hkeys, hknown, hmoves⟩ := stageStep_moves facts.settled h
  have hpersist : ∀ id, (registry.records.get? id).isSome →
      ((registry.commitStep staged graph.executionId).records.get? id).isSome := by
    intro id hsome
    obtain ⟨old, hold⟩ := Option.isSome_iff_exists.mp hsome
    obtain ⟨new, hnew, -⟩ := hmoves id old hold
    show ((staged.mapValues _).get? id).isSome
    rw [Table.get?_mapValues, hnew]
    rfl
  refine ⟨?_, ?_, ?_, ?_, ?_, ?_, ?_⟩
  · show (staged.mapValues _).keys.Nodup
    rw [Table.keys_mapValues, hkeys]
    exact facts.keys
  · exact facts.forall_commitStep h fun _ _ _ _ hmove => hmove.settled
  · exact facts.forall_commitStep h fun id old _ hold hmove =>
      hmove.view ▸ facts.returns id old hold
  · refine facts.forall_commitStep h fun id old new hold hmove => ?_
    rw [hmove.finish, facts.observed id old hold]
    simp [or_and_right, exists_or]
  · intro step hstep id hid
    apply hpersist
    rcases List.mem_append.mp hstep with hstep | hstep
    · exact facts.known step hstep id hid
    · obtain rfl : step = record := by simpa using hstep
      exact hknown id hid
  · refine facts.forall_commitStep h fun id old new hold hmove => ?_
    have hclosed : new.viewReleased = true → new.state = .closed := by
      intro hreleased
      rw [hmove.released] at hreleased
      exact hmove.closed_kept ((facts.released id old hold).mp hreleased)
    unfold releaseDue
    cases hview : new.viewReleased with
    | false => simp
    | true => simp [hclosed hview]
  · intro id
    show (registry.released ++ _).count id = if ((staged.mapValues _).get? id).any _ then 1 else 0
    rw [List.count_append, facts.counted id, Table.get?_mapValues,
      Table.count_selected_keys _ (hkeys ▸ facts.keys)]
    cases hold : registry.records.get? id with
    | none =>
      have hnone := Table.get?_eq_none_iff.mpr (hkeys ▸ Table.get?_eq_none_iff.mp hold)
      simp [hnone]
    | some old =>
      obtain ⟨new, hnew, hmove⟩ := hmoves id old hold
      simp only [hnew, Option.any_some, Option.map_some, afterRelease_eq, ← hmove.released]
      unfold releaseDue
      cases new.viewReleased <;> simp

end Commit

theorem RegistryFacts.consumeStep_ends (facts : RegistryFacts history registry) :
    (consumeStep record graph result registry).Ends
      (fun _ after => ∃ staged, registry.stageStep record graph result = .ok staged ∧
        after = registry.commitStep staged graph.executionId) (· = registry) := by
  unfold consumeStep
  cases hstage : registry.stageStep record graph result with
  | error error => exact Eq.refl registry
  | ok staged =>
    dsimp only
    rw [releaseViews_returning (facts.staged_returns hstage)]
    exact ⟨staged, rfl, rfl⟩

/-- The registries that registrations and steps reach, with the steps accepted so far. The
registered views belong to the caller, whose release callbacks return. -/
inductive LifetimeRun (layers : MoeLayers) : List StepRecord → RequestLifetimeRegistry → Prop
  | start : LifetimeRun layers [] { moeLayers := layers }
  | register {history : List StepRecord} {registry after : RequestLifetimeRegistry}
      {requestId : String} {view : RoutingViewDescriptor} :
      LifetimeRun layers history registry → view.releaseCallback = .ok () →
      registry.register requestId view = .ok after → LifetimeRun layers history after
  | accepted {history : List StepRecord} {registry after : RequestLifetimeRegistry}
      {record : StepRecord} {graph : ExecutionGraph} {result : ExecutionResult} :
      LifetimeRun layers history registry →
      consumeStep record graph result registry = .ok () after →
      LifetimeRun layers (history ++ [record]) after
  | rejected {history : List StepRecord} {registry after : RequestLifetimeRegistry}
      {record : StepRecord} {graph : ExecutionGraph} {result : ExecutionResult}
      {error : PyError} :
      LifetimeRun layers history registry →
      consumeStep record graph result registry = .error error after →
      LifetimeRun layers history after

theorem LifetimeRun.facts {layers : MoeLayers} (run : LifetimeRun layers history registry) :
    RegistryFacts history registry := by
  induction run with
  | start => exact .initial layers
  | register _ hreturn h ih => exact ih.register hreturn h
  | accepted _ h ih =>
    obtain ⟨staged, hstage, rfl⟩ := ends_of_eq_ok ih.consumeStep_ends h
    exact ih.commit hstage
  | rejected _ h ih =>
    obtain rfl := ends_of_eq_error ih.consumeStep_ends h
    exact ih

theorem Settled.closed_iff (h : Settled lifetime) : lifetime.state = .closed ↔
      lifetime.schedulerFinished = true ∧ lifetime.isDrained = true := by
  rcases h with ⟨hopen, hstate | hstate⟩ | ⟨hdone, ⟨hstate, hdrain⟩ | ⟨hstate, hdrain⟩⟩ <;>
    simp [*]

def oneLayer : MoeLayers := ⟨[0], by simp, by simp, by simp⟩

def oneToken : RoutingViewDescriptor := ⟨1, 1, .ok (), by decide, by decide, by decide⟩

def pairwiseExchange (operationId channel : String) : ExecutionOperation where
  operationId := operationId
  rank := 0
  logicalQueue := "moe"
  work := .collective { collective := "all-to-allv", ranks := [0], payloadBytes := 0,
                        algorithmHint := some "pairwise", channelHint := some channel }
  correlation := { requestIds := ["r"], layer := some 0 }

def moeStepGraph : ExecutionGraph where
  executionId := "x"
  stepIndex := 0
  releasedAtPs := 0
  operations := [pairwiseExchange "d" "dispatch", pairwiseExchange "c" "combine"]

def moeStepResult : ExecutionResult where
  executionId := "x"
  completedAtPs := 0
  events := [⟨"x", "d", .completed, 0, none, none, none⟩, ⟨"x", "c", .completed, 0, none, none, none⟩]

def onlyStep : StepRecord where
  stepIndex := 0
  virtualTimePs := 0
  scheduled := [⟨"r", .prefill, 1, 0, 1⟩]
  finishedRequestIds := ["r"]

end SimLLM
