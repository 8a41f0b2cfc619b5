import SimLLM.RunFacts
import SimLLM.SerialServer

namespace SimLLM

open List SerialServer

variable {s : String} {a b : Nat} {resource : ResourceRef} {wqe : WqeLifecycleProjection}
variable {port : ReceiverIngress} {submission : SemanticWqeSubmission} {after : AtlahsWqeLedger}

inductive Server where
  | host (node : Nat)
  | gpu (rank : Nat)
  | hbm (rank : Nat)
  | copy (rank : Nat) (engineId : String)
  | control (rank : Nat)
  | nccl (rank : Nat) (channel : String)
  | nvlink (rank : Nat)
  | rnic (rank : Nat)
  | ingress (rank : Nat)
  deriving DecidableEq

def cursor (m : Machine AtlahsWqeLedger) : Server → Nat
  | .host node => m.state.hostAvailable node
  | .gpu rank => m.state.gpuAvailable rank
  | .hbm rank => m.state.hbmAvailable rank
  | .copy rank engineId => m.state.copyAvailable (rank, engineId)
  | .control rank => m.state.controlAvailable rank
  | .nccl rank channel => m.state.ncclAvailable (rank, channel)
  | .nvlink rank => m.state.nvlinkAvailable rank
  | .rnic rank => m.wqe.availableAtPs (rnicId rank)
  | .ingress rank => m.wqe.receiverAvailableAtPs (rnicId rank)

/-- The resources whose visits a server serves. A source RNIC is visited as the port itself
or, with receiver ingress, as its send queue. -/
def Server.Hosts : Server → ResourceRef → Prop
  | .host node, resource => resource = launchResource node
  | .gpu rank, resource => resource = workResource rank
  | .hbm rank, resource => resource = hbmResource rank
  | .copy rank engineId, resource => resource = copyResource rank engineId
  | .control rank, resource => resource = controlResource rank
  | .nccl rank channel, resource => resource = ncclResource rank channel
  | .nvlink rank, resource => resource = nvlinkResource rank
  | .rnic rank, resource => resource = ⟨.nic, rnicId rank⟩ ∨
      resource = ⟨.nicSendQueue, atlahsName rank ++ ":sq"⟩
  | .ingress rank, resource => resource = ⟨.nicReceiveQueue, atlahsName rank ++ ":rq"⟩

theorem append_left_cancel {w t : String} (h : w ++ s = w ++ t) : s = t := by
  have hl := congrArg String.toList h
  rw [String.toList_append, String.toList_append, append_cancel_left_eq] at hl
  exact String.toList_inj.mp hl

theorem atlahsName_suffix_inj (h : atlahsName a ++ s = atlahsName b ++ s) : a = b := by
  have hl := congrArg String.toList h
  rw [String.toList_append, String.toList_append, append_cancel_right_eq] at hl
  have hname := append_left_cancel (String.toList_inj.mp hl)
  exact (gpuName_separated_inj (s := "") (t := "") (by rw [hname])).1

def Server.kinds : Server → List ResourceKind
  | .host _ => [.hostLaunchQueue]
  | .gpu _ => [.gpuWorkQueue]
  | .hbm _ => [.hbmQueue]
  | .copy _ _ => [.copyEngine]
  | .control _ => [.controlQueue]
  | .nccl _ _ => [.ncclChannel]
  | .nvlink _ => [.nvlink]
  | .rnic _ => [.nic, .nicSendQueue]
  | .ingress _ => [.nicReceiveQueue]

theorem Server.Hosts.kind {server : Server} (h : server.Hosts resource) :
    resource.kind ∈ server.kinds := by
  cases server <;> simp only [Server.Hosts] at h
  case rnic rank => rcases h with rfl | rfl <;> simp [Server.kinds]
  all_goals subst h; exact mem_singleton_self _

theorem Server.hosts_unique {a b : Server} (ha : a.Hosts resource) (hb : b.Hosts resource) :
    a = b := by
  have hkinds : ¬ a.kinds.Disjoint b.kinds := fun h => h ha.kind hb.kind
  have hsame : ∀ {x y : ResourceRef}, resource = x → resource = y →
      x.resourceId = y.resourceId := fun hx hy => congrArg _ (hx.symm.trans hy)
  cases a <;> cases b <;> first
    | (refine absurd ?_ hkinds; simp [Server.kinds]; done)
    | simp only [Server.Hosts] at ha hb
  case host.host m n => exact congrArg Server.host (launchResource_inj (ha.symm.trans hb))
  case gpu.gpu m n => exact congrArg Server.gpu (gpuName_separated_inj (hsame ha hb)).1
  case hbm.hbm m n => exact congrArg Server.hbm (gpuName_separated_inj (hsame ha hb)).1
  case control.control m n =>
    exact congrArg Server.control (gpuName_separated_inj (hsame ha hb)).1
  case nvlink.nvlink m n => exact congrArg Server.nvlink (gpuName_separated_inj (hsame ha hb)).1
  case copy.copy m e n f =>
    obtain ⟨rfl, hengine⟩ := gpuName_separated_inj (hsame ha hb)
    exact congrArg (Server.copy m) (append_left_cancel hengine)
  case nccl.nccl m c n d =>
    obtain ⟨rfl, hchannel⟩ := gpuName_separated_inj (hsame ha hb)
    exact congrArg (Server.nccl m) (append_left_cancel hchannel)
  case ingress.ingress m n => exact congrArg Server.ingress (atlahsName_suffix_inj (hsame ha hb))
  case rnic.rnic m n =>
    apply congrArg Server.rnic
    rcases ha with ha | ha <;> rcases hb with hb | hb
    · exact rnicId_inj (hsame ha hb)
    · cases ha.symm.trans hb
    · cases ha.symm.trans hb
    · exact atlahsName_suffix_inj (hsame ha hb)

structure Occupancy where
  visits : List QueueVisit := []
  sent : List WqeLifecycleProjection := []
  received : List WqeLifecycleProjection := []

abbrev Holding := Slot Server Nat Occupancy

def Holding.Serving (holding : Holding) (wqe : WqeLifecycleProjection) : Prop :=
  holding.start ≤ wqe.startedAtPs ∧ wqe.finishedAtPs ≤ holding.finish

structure Holding.Sound (holding : Holding) : Prop where
  hosted : ∀ visit ∈ holding.label.visits, holding.key.Hosts visit.resource
  within : ∀ visit ∈ holding.label.visits,
    holding.start ≤ visit.startedAtPs ∧ visit.finishedAtPs ≤ holding.finish
  alone : holding.label.visits.length ≤ 1 ∨ ∃ rank, holding.key = .gpu rank ∨ holding.key = .hbm rank
  sent : ∀ wqe ∈ holding.label.sent, wqe.rnicId = rnicId wqe.sourceRank ∧
    holding.key = .rnic wqe.sourceRank ∧ holding.Serving wqe
  received : ∀ wqe ∈ holding.label.received,
    (∃ port, wqe.ingress = some port ∧ port.destinationRnicId = rnicId wqe.destinationRank) ∧
    holding.key = .ingress wqe.destinationRank ∧ holding.Serving wqe
  sent_alone : holding.label.sent.length ≤ 1
  received_alone : holding.label.received.length ≤ 1

structure Occupied (m : Machine AtlahsWqeLedger) (holdings : List Holding)
    (m' : Machine AtlahsWqeLedger) (visits : List QueueVisit)
    (wqes : List WqeLifecycleProjection) : Prop where
  serves : Serves (cursor m) holdings (cursor m')
  sound : ∀ holding ∈ holdings, holding.Sound
  visits_perm : visits.Perm (holdings.flatMap (·.label.visits))
  sent_perm : wqes.Perm (holdings.flatMap (·.label.sent))
  received_perm : (wqes.filter (·.ingress.isSome)).Perm (holdings.flatMap (·.label.received))

theorem Occupied.nil (m : Machine AtlahsWqeLedger) : Occupied m [] m [] [] :=
  ⟨.nil _, by simp, .refl _, .refl _, .refl _⟩

theorem Occupied.append {m m' m'' : Machine AtlahsWqeLedger} {first second : List Holding}
    {visits visits' : List QueueVisit} {wqes wqes' : List WqeLifecycleProjection}
    (h : Occupied m first m' visits wqes) (h' : Occupied m' second m'' visits' wqes') :
    Occupied m (first ++ second) m'' (visits ++ visits') (wqes ++ wqes') := by
  refine ⟨h.serves.append h'.serves, ?_, ?_, ?_, ?_⟩
  · exact forall_mem_append.mpr ⟨h.sound, h'.sound⟩
  · rw [flatMap_append]
    exact h.visits_perm.append h'.visits_perm
  · rw [flatMap_append]
    exact h.sent_perm.append h'.sent_perm
  · rw [filter_append, flatMap_append]
    exact h.received_perm.append h'.received_perm

def visitHolding (key : Server) (visit : QueueVisit) : Holding where
  key := key
  start := visit.startedAtPs
  finish := visit.finishedAtPs
  label := { visits := [visit] }
  ordered := visit.started_le_finished

theorem visitHolding_sound {key : Server} {visit : QueueVisit} (h : key.Hosts visit.resource) :
    (visitHolding key visit).Sound where
  hosted := by simpa [visitHolding] using h
  within := by simp [visitHolding]
  alone := by simp [visitHolding]
  sent := by simp [visitHolding]
  received := by simp [visitHolding]
  sent_alone := by simp [visitHolding]
  received_alone := by simp [visitHolding]

theorem Occupied.holding {m m' : Machine AtlahsWqeLedger} {holding : Holding}
    (sound : holding.Sound) (hsent : holding.label.sent = [])
    (hreceived : holding.label.received = [])
    (free : cursor m holding.key ≤ holding.start)
    (moved : cursor m' = Function.update (cursor m) holding.key holding.finish) :
    Occupied m [holding] m' holding.label.visits [] where
  serves := .single free moved
  sound := by simpa using sound
  visits_perm := by simp
  sent_perm := by simp [hsent]
  received_perm := by simp [hreceived]

theorem Occupied.visit {m m' : Machine AtlahsWqeLedger} (key : Server) {visit : QueueVisit}
    (hosted : key.Hosts visit.resource) (free : cursor m key ≤ visit.startedAtPs)
    (moved : cursor m' = Function.update (cursor m) key visit.finishedAtPs) :
    Occupied m [visitHolding key visit] m' [visit] [] :=
  .holding (visitHolding_sound hosted) rfl rfl free moved

section Transfers

variable {κ : Type} {options : RuntimeOptions κ} {graph : ExecutionGraph}
  {operation : ExecutionOperation} {m m' : Machine AtlahsWqeLedger}

theorem scheduleNcclChannel_occupied {rank : Nat} {channel : String}
    {submittedAtPs eligibleAtPs : Nat} {visit : QueueVisit}
    (h : scheduleNcclChannel options.bypass graph operation rank channel submittedAtPs
      eligibleAtPs m = .ok (visit, m')) : ∃ holdings, Occupied m holdings m' [visit] [] := by
  obtain ⟨hdata, rfl⟩ := scheduleNcclChannel_eq_ok h
  refine ⟨_, Occupied.visit (.nccl rank channel) ?_ ?_ ?_⟩
  · rw [hdata]
    rfl
  · rw [hdata]
    exact le_max_right _ _
  · funext key
    cases key <;> simp [cursor, RuntimeState.reserveNccl, Function.update_apply, updateKey]

theorem nativeWqeVisits_of_ingress (h : wqe.ingress = some port) :
    nativeWqeVisits wqe = ingressVisits wqe port (Option.mem_def.mpr h) := by
  unfold nativeWqeVisits
  split
  next other hother =>
    obtain rfl := Option.some.inj (hother.symm.trans h)
    rfl
  next hnone =>
    rw [hnone] at h
    cases h

theorem nativeWqeVisits_of_coarse (h : wqe.ingress = none) (hn : wqe.native = none) :
    nativeWqeVisits wqe = [coarseNicVisit wqe] := by
  unfold nativeWqeVisits
  split
  next other hother =>
    rw [hother] at h
    cases h
  next =>
    split
    next stages hstages =>
      rw [hstages] at hn
      cases hn
    next => rfl

def sourceHolding (wqe : WqeLifecycleProjection) (visit : QueueVisit) (start : Nat)
    (h : start ≤ wqe.finishedAtPs) : Holding where
  key := .rnic wqe.sourceRank
  start := start
  finish := wqe.finishedAtPs
  label := { visits := [visit], sent := [wqe] }
  ordered := h

def destinationHolding (wqe : WqeLifecycleProjection) (visit : QueueVisit) : Holding where
  key := .ingress wqe.destinationRank
  start := wqe.startedAtPs
  finish := wqe.finishedAtPs
  label := { visits := [visit], received := [wqe] }
  ordered := wqe.started_le_finished

theorem rnicId_eq_iff : rnicId a = rnicId b ↔ a = b :=
  ⟨rnicId_inj, fun h => h ▸ rfl⟩

theorem bypass_submit_eq_ok {ledger : AtlahsWqeLedger}
    (h : options.bypass.authority.submit ledger submission = .ok (wqe, after)) :
    ∃ ordered, wqe = ledger.record options.profile options.receiverIngress submission ordered ∧
      after = ledger.append wqe := by
  change AtlahsWqeLedger.submit _ _ _ _ = _ at h
  unfold AtlahsWqeLedger.submit at h
  split at h
  next ordered =>
    cases h
    exact ⟨ordered, rfl, rfl⟩
  next => cases h

section

variable (hrnic : wqe.rnicId = rnicId wqe.sourceRank)

include hrnic

theorem cursor_append_source (hnone : wqe.ingress = none) :
    cursor { m with wqe := m.wqe.append wqe } =
      Function.update (cursor m) (.rnic wqe.sourceRank) wqe.finishedAtPs := by
  funext key
  cases key with
  | rnic rank =>
    simp [cursor, AtlahsWqeLedger.append, Function.update_apply, updateKey, hrnic, rnicId_eq_iff]
  | _ => simp [cursor, AtlahsWqeLedger.append, hnone]

theorem coarse_occupied (hnone : wqe.ingress = none) (hnative : wqe.native = none)
    (free : m.wqe.availableAtPs (rnicId wqe.sourceRank) ≤ wqe.startedAtPs) :
    Occupied m [sourceHolding wqe (coarseNicVisit wqe) wqe.startedAtPs wqe.started_le_finished]
      { m with wqe := m.wqe.append wqe } (nativeWqeVisits wqe) [wqe] where
  serves := .single free (cursor_append_source hrnic hnone)
  sound := by
    intro holding hholding
    cases mem_singleton.mp hholding
    exact {
      hosted := by simp [sourceHolding, Server.Hosts, coarseNicVisit, wqeVisitData, hrnic]
      within := by simp [sourceHolding, coarseNicVisit, wqeVisitData]
      alone := by simp [sourceHolding]
      sent := by simp [sourceHolding, Holding.Serving, hrnic]
      received := by simp [sourceHolding]
      sent_alone := by simp [sourceHolding]
      received_alone := by simp [sourceHolding] }
  visits_perm := by simp [sourceHolding, nativeWqeVisits_of_coarse hnone hnative]
  sent_perm := by simp [sourceHolding]
  received_perm := by simp [sourceHolding, hnone]

section

variable (hport : wqe.ingress = some port)
  (hdest : port.destinationRnicId = rnicId wqe.destinationRank)

include hport hdest

theorem cursor_append_both : cursor { m with wqe := m.wqe.append wqe } =
      Function.update (Function.update (cursor m) (.rnic wqe.sourceRank) wqe.finishedAtPs)
        (.ingress wqe.destinationRank) wqe.finishedAtPs := by
  funext key
  cases key with
  | rnic rank =>
    simp [cursor, AtlahsWqeLedger.append, Function.update_apply, updateKey, hrnic, rnicId_eq_iff]
  | ingress rank =>
    simp [cursor, AtlahsWqeLedger.append, Function.update_apply, updateKey, hport, hdest,
      rnicId_eq_iff]
  | _ => simp [cursor]

theorem ingress_occupied (hsq : wqe.sqId = atlahsName wqe.sourceRank ++ ":sq")
    (hrq : wqe.rqId = atlahsName wqe.destinationRank ++ ":rq")
    (free : m.wqe.availableAtPs (rnicId wqe.sourceRank) ≤ port.sourceReadyAtPs)
    (idle : m.wqe.receiverAvailableAtPs (rnicId wqe.destinationRank) ≤ wqe.startedAtPs) :
    ∃ holdings, Occupied m holdings { m with wqe := m.wqe.append wqe } (nativeWqeVisits wqe)
      [wqe] := by
  have hbetween := wqe.ingress_between port (Option.mem_def.mpr hport)
  have hserved := wqe.started_le_finished
  have hready := le_trans hbetween.2.1 hserved
  obtain ⟨send, receive, hvisits, hsend, hreceive⟩ :
      ∃ send receive : QueueVisit, nativeWqeVisits wqe = [send, receive] ∧
        (send.resource = ⟨.nicSendQueue, wqe.sqId⟩ ∧ send.startedAtPs = port.sourceReadyAtPs ∧
          send.finishedAtPs = port.sourceReadyAtPs) ∧
        (receive.resource = ⟨.nicReceiveQueue, wqe.rqId⟩ ∧
          receive.startedAtPs = wqe.startedAtPs ∧ receive.finishedAtPs = wqe.finishedAtPs) :=
    ⟨_, _, nativeWqeVisits_of_ingress hport, ⟨rfl, rfl, rfl⟩, rfl, rfl, rfl⟩
  refine ⟨[sourceHolding wqe send port.sourceReadyAtPs hready, destinationHolding wqe receive],
    ?_, ?_, ?_, ?_, ?_⟩
  · refine .cons free (.single ?_ (cursor_append_both hrnic hport hdest))
    exact idle
  · intro holding hholding
    rcases mem_cons.mp hholding with rfl | hholding
    · exact {
        hosted := by simp [sourceHolding, Server.Hosts, hsend.1, hsq]
        within := by simp [sourceHolding, hsend.2, hready]
        alone := by simp [sourceHolding]
        sent := by simp [sourceHolding, Holding.Serving, hrnic, hbetween.2.1]
        received := by simp [sourceHolding]
        sent_alone := by simp [sourceHolding]
        received_alone := by simp [sourceHolding] }
    · cases mem_singleton.mp hholding
      exact {
        hosted := by simp [destinationHolding, Server.Hosts, hreceive.1, hrq]
        within := by simp [destinationHolding, hreceive.2]
        alone := by simp [destinationHolding]
        sent := by simp [destinationHolding]
        received := by simp [destinationHolding, Holding.Serving, hport, hdest]
        sent_alone := by simp [destinationHolding]
        received_alone := by simp [destinationHolding] }
  · rw [hvisits]
    simp [sourceHolding, destinationHolding]
  · simp [sourceHolding, destinationHolding]
  · simp [sourceHolding, destinationHolding, hport]

end

end

theorem submit_occupied (h : options.bypass.authority.submit m.wqe submission = .ok (wqe, after)) :
    ∃ holdings, Occupied m holdings { m with wqe := after } (nativeWqeVisits wqe) [wqe] := by
  obtain ⟨ordered, hwqe, rfl⟩ := bypass_submit_eq_ok h
  have hready := m.wqe.sourceReady_le_start options.receiverIngress submission
  have hfree : m.wqe.availableAtPs (rnicId submission.sourceRank) ≤ m.wqe.sourceReady submission :=
    le_max_right _ _
  by_cases hactive : ingressActive options.receiverIngress submission
  · have hport : wqe.ingress = some ⟨m.wqe.sourceReady submission,
        rnicId submission.destinationRank⟩ := by
      rw [hwqe]
      simp [AtlahsWqeLedger.record, hactive]
    subst hwqe
    refine ingress_occupied rfl hport rfl rfl rfl hfree ?_
    show _ ≤ m.wqe.start options.receiverIngress submission
    rw [AtlahsWqeLedger.start, if_pos hactive]
    exact le_max_right _ _
  · have hnone : wqe.ingress = none := by
      rw [hwqe]
      simp [AtlahsWqeLedger.record, hactive]
    subst hwqe
    exact ⟨_, coarse_occupied rfl hnone rfl (le_trans hfree hready)⟩

theorem scheduleSemanticSend_occupied {request : SendRequest} {send : SendSchedule}
    (h : scheduleSemanticSend options.bypass graph operation request m = .ok (send, m')) :
    ∃ holdings, Occupied m holdings m' send.visits send.projection.toList := by
  rcases scheduleSemanticSend_cases h with
    ⟨-, visit, hdata, hvisits, hprojection, rfl⟩ | ⟨-, wqe, after, hsubmit, -, hvisits,
      hprojection, rfl⟩
  · rw [hvisits, hprojection]
    refine ⟨_, Occupied.visit (.nvlink request.sourceRank) ?_ ?_ ?_⟩
    · rw [hdata]
      rfl
    · rw [hdata]
      exact le_max_right _ _
    · funext key
      cases key <;> simp [cursor, RuntimeState.reserveNvlink, Function.update_apply, updateKey]
  · rw [hvisits, hprojection]
    exact submit_occupied hsubmit

theorem scheduleHop_occupied {launch : QueueVisit} {request : HopRequest}
    {sender receiver : Frontier} {hop : Hop}
    (h : scheduleHop options.bypass graph operation launch request sender receiver m =
      .ok (hop, m')) :
    ∃ holdings, Occupied m holdings m' hop.visits hop.send.projection.toList := by
  obtain ⟨⟨channel, middle⟩, hchannel, h⟩ := of_bind h
  obtain ⟨⟨send, after⟩, hsend, h⟩ := of_bind h
  cases h
  obtain ⟨first, hfirst⟩ := scheduleNcclChannel_occupied hchannel
  obtain ⟨second, hsecond⟩ := scheduleSemanticSend_occupied hsend
  exact ⟨first ++ second, hfirst.append hsecond⟩

end Transfers

end SimLLM
