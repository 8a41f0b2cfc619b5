import SimLLM.CollectiveFacts

namespace SimLLM

open List FirstExtremum

variable {visits : List QueueVisit} {result : ActionResult} {results : ActionResults}
variable {actionId : String} {next : Nat}

variable {κ σ τ : Type} {cfg : RuntimeConfig κ σ τ} {graph : ExecutionGraph}
  {edges : List EffectiveDependencyEdge} {scheduled : List ScheduledOperation}
  {entry : ReadyEntry} {work : CollectiveWork} {plan : CollectivePlan} {m m' : Machine τ}

structure ResultFacts (entry : ReadyEntry) (visits : List QueueVisit) (result : ActionResult) :
    Prop where
  path : PathFacts entry result.completedAtPs result.path
  visited : ∀ visit ∈ result.path, visit ∈ visits
  witness : WitnessFrom entry result.completedAtPs result.witness

theorem ResultFacts.mono {visits' : List QueueVisit} (facts : ResultFacts entry visits result)
    (hsub : ∀ visit ∈ visits, visit ∈ visits') : ResultFacts entry visits' result :=
  { facts with visited := fun visit hv => hsub visit (facts.visited visit hv) }

theorem completed_le_of_actionKey_le {a b : ActionResult} (h : actionKey a ≤ actionKey b) :
    a.completedAtPs ≤ b.completedAtPs := by
  have hfst : ∀ result : ActionResult, (ofLex (actionKey result)).1 = result.completedAtPs := by
    intro result
    unfold actionKey
    cases result.witness <;> rfl
  rcases Prod.Lex.le_iff.mp h with hlt | ⟨heq, -⟩
  · rw [hfst, hfst] at hlt
    exact le_of_lt hlt
  · rw [hfst, hfst] at heq
    exact le_of_eq heq

theorem latestResult_spec (entry : ReadyEntry) (rank : Nat) (results : List ActionResult) :
    (latestResult entry rank results =
        ⟨entry.ready.byRank.get rank, entry.ready.witnesses.get rank, [entry.launch]⟩ ∨
      latestResult entry rank results ∈ results) ∧
    entry.ready.byRank.get rank ≤ (latestResult entry rank results).completedAtPs ∧
    ∀ result ∈ results, result.completedAtPs ≤ (latestResult entry rank results).completedAtPs := by
  unfold latestResult
  dsimp only
  obtain ⟨best, hbest⟩ := exists_maxBy actionKey (cons_ne_nil (⟨entry.ready.byRank.get rank,
    entry.ready.witnesses.get rank, [entry.launch]⟩ : ActionResult) results)
  rw [hbest]
  refine ⟨mem_cons.mp (maxBy_mem hbest), ?_, ?_⟩
  · have hle := le_maxBy hbest (mem_cons_self ..)
    exact completed_le_of_actionKey_le hle
  · intro result hr
    have hle := le_maxBy hbest (mem_cons_of_mem _ hr)
    exact completed_le_of_actionKey_le hle

theorem latestResult_facts (facts : EntryFacts graph edges scheduled entry)
    (hlaunch : entry.launch ∈ visits) {results : List ActionResult}
    (hresults : ∀ result ∈ results, ResultFacts entry visits result) (rank : Nat) :
    ResultFacts entry visits (latestResult entry rank results) := by
  rcases (latestResult_spec entry rank results).1 with heq | hmem
  · rw [heq]
    exact ⟨facts.launchPath (facts.launched rank), by simpa using hlaunch,
      facts.witnessFrom rank⟩
  · exact hresults _ hmem

theorem ActionResults.lookup_eq_ok :
    results.lookup actionId = .ok result ↔ results.get? actionId = some result := by
  unfold ActionResults.lookup
  cases results.get? actionId <;> simp

theorem ActionResults.get?_mem (h : results.get? actionId = some result) :
    (actionId, result) ∈ results.entries := by
  obtain ⟨⟨id, found⟩, hfind, rfl⟩ := Option.map_eq_some_iff.mp h
  obtain ⟨hmem, rfl⟩ := of_find?_key hfind
  exact hmem

structure ExtentFacts (graph : ExecutionGraph) (entry : ReadyEntry) (next : Nat)
    (acc : Expansion τ × ActionResults) : Prop where
  visits : VisitFacts graph entry acc.1.visits acc.1.wqes next
  results : ∀ finished ∈ acc.2.entries, ResultFacts entry acc.1.visits finished.2

variable {acc : Expansion τ × ActionResults}

theorem ExtentFacts.looked (inv : ExtentFacts graph entry next acc) {ids : List String}
    {finished : List ActionResult} (h : ids.mapM acc.2.lookup = .ok finished) :
    ∀ result ∈ finished, ResultFacts entry acc.1.visits result := by
  intro result hr
  obtain ⟨id, -, hlookup⟩ := mapM_mem h hr
  exact inv.results _ (ActionResults.get?_mem (ActionResults.lookup_eq_ok.mp hlookup))

theorem actionReady_facts (facts : EntryFacts graph edges scheduled entry)
    (inv : ExtentFacts graph entry next acc) {ready : ActionResult} {action : CollectivePlanAction}
    (haction : plan.action? actionId = some action)
    (h : actionReady entry plan acc.2 actionId = .ok ready) : ResultFacts entry acc.1.visits ready ∧
      entry.ready.byRank.get action.rank ≤ ready.completedAtPs := by
  unfold actionReady at h
  simp only [haction] at h
  obtain ⟨finished, hfinished, h⟩ := of_bind h
  cases h
  exact ⟨latestResult_facts facts inv.visits.launch_mem (inv.looked hfinished) action.rank,
    (latestResult_spec entry action.rank finished).2.1⟩

variable {next : Expansion τ × ActionResults}

theorem scheduleExtent_eq_ok {extent : CollectivePlanExtent × Nat}
    (h : scheduleExtent cfg graph entry plan acc extent = .ok next) :
    ∃ (round : CollectivePlanRound) (send receive : ActionResult) (hop : Hop)
        (machine : Machine τ),
      plan.rounds.find? (·.roundIndex == extent.1.roundIndex) = some round ∧
      actionReady entry plan acc.2 extent.1.sendActionId = .ok send ∧
      actionReady entry plan acc.2 extent.1.receiveActionId = .ok receive ∧
      scheduleHop cfg graph entry.operation entry.launch
        (planRequest plan round extent.1 extent.2) send.frontier receive.frontier
        acc.1.machine = .ok (hop, machine) ∧
      next = (acc.1.record hop machine,
        (acc.2.set extent.1.sendActionId
          ⟨hop.completedAtPs, hop.witness, send.path ++ hop.visits⟩).set
          extent.1.receiveActionId ⟨hop.completedAtPs, hop.witness, send.path ++ hop.visits⟩) := by
  unfold scheduleExtent at h
  split at h
  next => cases h
  next round hround =>
    obtain ⟨send, hsend, h⟩ := of_bind h
    obtain ⟨receive, hreceive, h⟩ := of_bind h
    obtain ⟨⟨hop, machine⟩, hhop, h⟩ := of_bind h
    obtain rfl := Except.ok.inj h
    exact ⟨round, send, receive, hop, machine, hround, hsend, hreceive, hhop, rfl⟩

theorem scheduleExtent_facts (facts : EntryFacts graph edges scheduled entry)
    (planned : PlanFacts plan work)
    (hranks : ∀ rank, rank ∈ operationParticipantRanks entry.operation ↔ rank ∈ work.ranks)
    {extent : CollectivePlanExtent} {index : Nat} (hextent : extent ∈ plan.extents)
    (inv : ExtentFacts graph entry index acc)
    (h : scheduleExtent cfg graph entry plan acc (extent, index) = .ok next) :
    ExtentFacts graph entry (index + 1) next := by
  obtain ⟨round, send, receive, hop, machine, -, hsend, hreceive, hhop, rfl⟩ :=
    scheduleExtent_eq_ok h
  obtain ⟨sender, hsender, hsource⟩ := planned.sends extent hextent
  obtain ⟨receiver, hreceiver, -⟩ := planned.receives extent hextent
  obtain ⟨sendFacts, hsendReady⟩ := actionReady_facts facts inv hsender hsend
  obtain ⟨receiveFacts, -⟩ := actionReady_facts facts inv hreceiver hreceive
  have hop_facts := scheduleHop_facts hhop
  have hsourceRank : extent.sourceRank ∈ operationParticipantRanks entry.operation := by
    rw [hranks, ← planned.ranks]
    exact (planned.extents extent hextent).2.2.1
  rw [hsource] at hsendReady
  have hvisits := hop_facts.visits inv.visits hsourceRank hsendReady
  have hsub : ∀ visit ∈ acc.1.visits, visit ∈ acc.1.visits ++ hop.visits :=
    fun visit hv => mem_append_left _ hv
  have hresult : ResultFacts entry (acc.1.visits ++ hop.visits)
      ⟨hop.completedAtPs, hop.witness, send.path ++ hop.visits⟩ := by
    refine ⟨hop_facts.path sendFacts.path, ?_,
      hop_facts.witnessFrom sendFacts.witness receiveFacts.witness⟩
    intro visit hv
    rcases mem_append.mp hv with hv | hv
    · exact hsub visit (sendFacts.visited visit hv)
    · exact mem_append_right _ hv
  refine ⟨hvisits, ?_⟩
  intro finished hf
  simp only [ActionResults.set, mem_cons] at hf
  rcases hf with rfl | rfl | hf
  · exact hresult
  · exact hresult
  · exact (inv.results finished hf).mono hsub

theorem terminalResult_eq_ok {terminal : Nat × List String} {answer : Nat × ActionResult}
    (h : terminalResult entry results terminal = .ok answer) :
    ∃ finished, terminal.2.mapM results.lookup = .ok finished ∧
      answer = (terminal.1, latestResult entry terminal.1 finished) := by
  obtain ⟨finished, hfinished, h⟩ := of_bind h
  exact ⟨finished, hfinished, (Except.ok.inj h).symm⟩

theorem terminalResults_ranks {terminals : List (Nat × List String)}
    {answers : List (Nat × ActionResult)}
    (h : terminals.mapM (terminalResult entry results) = .ok answers) :
    answers.map Prod.fst = terminals.map Prod.fst := by
  refine (mapM_eq_ok.mp h).map_eq_map fun terminal answer hanswer => ?_
  obtain ⟨finished, -, rfl⟩ := terminalResult_eq_ok hanswer
  rfl

theorem planProgress_spec {terminals : List (Nat × ActionResult)}
    (hnodup : (terminals.map Prod.fst).Nodup) :
    (planProgress terminals).completed.ranks = terminals.map Prod.fst ∧
    (planProgress terminals).witnesses.ranks = terminals.map Prod.fst ∧
    (planProgress terminals).paths.ranks = terminals.map Prod.fst ∧
    ∀ terminal ∈ terminals,
      (planProgress terminals).completed.get terminal.1 = terminal.2.completedAtPs ∧
      (planProgress terminals).witnesses.get terminal.1 = terminal.2.witness ∧
      (planProgress terminals).paths.get terminal.1 = terminal.2.path := by
  induction terminals using List.reverseRecOn with
  | nil => simp [planProgress]
  | append_singleton terminals last ih =>
    rw [map_append, nodup_append] at hnodup
    obtain ⟨hprior, -, hfresh⟩ := hnodup
    have hlast : last.1 ∉ terminals.map Prod.fst := fun hmem =>
      hfresh last.1 hmem last.1 (by simp) rfl
    obtain ⟨hkeys, hwitness, hpaths, hvalues⟩ := ih hprior
    have hfold : planProgress (terminals ++ [last]) =
        ⟨(planProgress terminals).completed.set last.1 last.2.completedAtPs,
          (planProgress terminals).witnesses.set last.1 last.2.witness,
          (planProgress terminals).paths.set last.1 last.2.path⟩ := by
      simp [planProgress]
    rw [hfold]
    refine ⟨?_, ?_, ?_, ?_⟩
    · simp [RankMap.set, hkeys, hlast]
    · simp [RankMap.set, hwitness, hlast]
    · simp [RankMap.set, hpaths, hlast]
    · intro terminal ht
      simp only [RankMap.set_get]
      rcases mem_append.mp ht with ht | ht
      · have hne : terminal.1 ≠ last.1 := fun heq =>
          hlast (heq ▸ mem_map_of_mem ht)
        simp only [if_neg hne]
        exact hvalues terminal ht
      · cases mem_singleton.mp ht
        simp

theorem scheduleCollectivePlan_facts (facts : EntryFacts graph edges scheduled entry)
    (hwork : entry.operation.work = .collective work)
    (hfacts : CollectiveFacts entry.operation work) (planned : PlanFacts plan work)
    {outcome : ScheduledOperation}
    (h : scheduleCollectivePlan cfg graph entry plan m = .ok (outcome, m')) :
    OutcomeFacts graph entry outcome := by
  have hranks := mem_participants_of_collective hwork hfacts
  obtain ⟨⟨expansion, results⟩, hextents, h⟩ := of_bind h
  obtain ⟨terminals, hterminals, h⟩ := of_bind h
  obtain ⟨finished, hfinish, h⟩ := of_bind h
  cases h
  have hstart : ExtentFacts graph entry 0 (expansionStart entry m, ({} : ActionResults)) :=
    ⟨facts.launchVisits 0, by simp⟩
  have inv := foldlM_zipIdx_invariant (ExtentFacts graph entry) hextents hstart
    fun index acc next extent he hacc => scheduleExtent_facts facts planned hranks he hacc
  have hkeys : terminals.map Prod.fst = work.ranks := by
    rw [terminalResults_ranks hterminals, planned.terminal_ranks, planned.ranks]
  obtain ⟨hcompleted, hwitnesses, hpaths, hvalues⟩ :=
    planProgress_spec (hkeys ▸ hfacts.ranks_nodup)
  have hresults : ∀ terminal ∈ terminals, ResultFacts entry expansion.visits terminal.2 ∧
      entry.ready.byRank.get terminal.1 ≤ terminal.2.completedAtPs := by
    intro terminal ht
    obtain ⟨source, -, hsource⟩ := mapM_mem hterminals ht
    obtain ⟨looked, hlooked, rfl⟩ := terminalResult_eq_ok hsource
    exact ⟨latestResult_facts facts inv.visits.launch_mem (inv.looked hlooked) source.1,
      (latestResult_spec entry source.1 looked).2.1⟩
  have hterminal : ∀ rank ∈ operationParticipantRanks entry.operation,
      ∃ terminal ∈ terminals, terminal.1 = rank := by
    intro rank hr
    have hr := (hranks rank).mp hr
    rw [← hkeys] at hr
    obtain ⟨terminal, ht, heq⟩ := mem_map.mp hr
    exact ⟨terminal, ht, heq⟩
  have hprogress : ProgressFacts entry expansion.visits (planProgress terminals) := by
    refine ⟨fun rank => ?_, fun rank => ?_, fun rank => ?_, ?_, ?_, ?_, ?_⟩
    · rw [hcompleted, hkeys, hranks]
    · rw [hpaths, hkeys, hranks]
    · rw [hwitnesses, hkeys, hranks]
    all_goals
      intro rank hr
      obtain ⟨terminal, ht, rfl⟩ := hterminal rank hr
      obtain ⟨htime, hwitness, hpath⟩ := hvalues terminal ht
      obtain ⟨hresult, hready⟩ := hresults terminal ht
    · rw [htime]
      exact hready
    · rw [htime, hpath]
      exact hresult.path
    · rw [hpath]
      exact hresult.visited
    · rw [htime, hwitness]
      exact hresult.witness
  refine finishCollective_facts inv.visits hprogress ⟨?_, ?_⟩ hfinish
  · intro path hp
    obtain ⟨terminal, ht, rfl⟩ := mem_map.mp hp
    obtain ⟨hresult, -⟩ := hresults terminal ht
    refine ⟨hresult.visited, terminal.1, ?_, ?_⟩
    · rw [hranks, ← hkeys]
      exact mem_map_of_mem ht
    · rw [(hvalues terminal ht).1]
      exact hresult.path
  · intro witness hw
    obtain ⟨terminal, ht, rfl⟩ := mem_map.mp hw
    obtain ⟨hresult, -⟩ := hresults terminal ht
    refine ⟨terminal.1, ?_, ?_⟩
    · rw [hranks, ← hkeys]
      exact mem_map_of_mem ht
    · rw [(hvalues terminal ht).1]
      exact hresult.witness

section Expansion

variable {Q : Expansion τ → Prop} (hrecord : ∀ {acc : Expansion τ} {request : HopRequest}
  {sender receiver : Frontier} {hop : Hop} {machine : Machine τ}, Q acc →
    scheduleHop cfg graph entry.operation entry.launch request sender receiver acc.machine =
      .ok (hop, machine) → Q (acc.record hop machine))

theorem finishCollective_parts {expansion : Expansion τ} {progress : Progress}
    {paths : List (List QueueVisit)} {pathWitnesses : List (Option CausalWitness)}
    {outcome : ScheduledOperation}
    (h : finishCollective graph entry expansion progress paths pathWitnesses = .ok outcome) :
    outcome.visits = expansion.visits ∧ outcome.wqes = expansion.wqes := by
  obtain ⟨index, -, h⟩ := of_bind h
  cases h
  exact ⟨rfl, rfl⟩

include hrecord

theorem ringRound_expansion {acc next : Expansion τ × Progress} {round : Nat × Nat} (inv : Q acc.1)
    (h : ringRound cfg graph entry work acc round = .ok next) : Q next.1 := by
  obtain ⟨⟨expansion, hops⟩, hsends, h⟩ := of_bind h
  obtain rfl := Except.ok.inj h
  refine foldlM_invariant (fun sent => Q sent.1) hsends inv ?_
  intro sent after member _ hsent hstep
  obtain ⟨⟨hop, machine⟩, hhop, hstep⟩ := of_bind hstep
  obtain rfl := Except.ok.inj hstep
  exact hrecord hsent hhop

theorem scheduleCollective_expansion {goalTags : List Nat} {plan : Option CollectivePlan}
    {outcome : ScheduledOperation} (hstart : Q (expansionStart entry m))
    (h : scheduleCollective cfg graph entry work goalTags plan m = .ok (outcome, m')) :
    ∃ expansion, Q expansion ∧ expansion.machine = m' ∧ outcome.visits = expansion.visits ∧
      outcome.wqes = expansion.wqes := by
  unfold scheduleCollective at h
  split at h
  next plan =>
    obtain ⟨⟨expansion, results⟩, hextents, h⟩ := of_bind h
    obtain ⟨terminals, -, h⟩ := of_bind h
    obtain ⟨finished, hfinish, h⟩ := of_bind h
    cases h
    refine ⟨expansion, ?_, rfl, finishCollective_parts hfinish⟩
    refine foldlM_invariant (fun acc => Q acc.1) hextents hstart ?_
    intro acc next extent _ hacc hstep
    obtain ⟨round, send, receive, hop, machine, -, -, -, hhop, rfl⟩ := scheduleExtent_eq_ok hstep
    exact hrecord hacc hhop
  next =>
    split at h
    next =>
      obtain ⟨⟨expansion, progress⟩, hrounds, h⟩ := of_bind h
      obtain ⟨finished, hfinish, h⟩ := of_bind h
      cases h
      exact ⟨expansion, foldlM_invariant (fun acc => Q acc.1) hrounds hstart
        fun _ _ _ _ hacc hstep => ringRound_expansion hrecord hacc hstep, rfl,
        finishCollective_parts hfinish⟩
    next =>
      split at h
      next =>
        split at h
        next => cases h
        next goalTag _ =>
          obtain ⟨done, hdone, h⟩ := of_bind h
          have inv : Q done.expansion := by
            refine foldlM_invariant (fun acc => Q acc.expansion) hdone hstart ?_
            intro acc next pair _ hacc hstep
            obtain ⟨⟨hop, machine⟩, hhop, hstep⟩ := of_bind hstep
            obtain rfl := Except.ok.inj hstep
            exact hrecord hacc hhop
          split at h
          all_goals
            obtain ⟨finished, hfinish, h⟩ := of_bind h
            cases h
            exact ⟨done.expansion, inv, rfl, finishCollective_parts hfinish⟩
      next => cases h

end Expansion

end SimLLM
