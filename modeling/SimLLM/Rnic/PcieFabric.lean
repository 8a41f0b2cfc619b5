import SimLLM.ExceptRules
import SimLLM.Table
import SimLLM.Rnic.NetworkPort

namespace SimLLM.Rnic

inductive PcieServiceClass where
  | uarDoorbell | blueFlame | doorbellRecord | wqeRead | qpcIcm | mttMpt | payloadRead
  | payloadWrite | cqeWrite | command | interrupt | odpIommuFault | count
  deriving DecidableEq, Repr

inductive PcieOperation where
  | hostStore | postedWrite | nonPostedRead
  deriving DecidableEq, Repr

inductive PcieDirection where
  | hostToDevice | deviceToHost
  deriving DecidableEq, Repr

inductive PcieOrdering where
  | visibilityDependency | independent
  deriving DecidableEq, Repr

inductive PcieEndpointKind where
  | mmioBar | hostPinnedMemory | gpuMemory | deviceMemory
  deriving DecidableEq, Repr

inductive PcieDeviceKind where
  | host | rnic | gpu
  deriving DecidableEq, Repr

structure PciePathConfig where
  pathId : Nat
  endpoint : PcieEndpointKind := .hostPinnedMemory
  enabled : Bool := true
  deriving DecidableEq, Repr

structure PcieFabricConfig where
  hostEndpointId : Nat := 0
  paths : List PciePathConfig := []
  deriving DecidableEq, Repr

structure PcieTransactionRequest where
  clientId : Nat
  clientToken : Nat
  serviceClass : PcieServiceClass
  operation : PcieOperation
  requestDirection : PcieDirection
  ordering : PcieOrdering
  pathId : Nat
  orderingDomain : Nat
  usefulBytes : Nat
  transferBytes : Nat
  firstByteOffset : Nat := 0
  submittedAtPs : Nat
  deriving DecidableEq, Repr

structure PcieEndpointAttribution where
  requesterEndpointId : Nat := 0
  completerEndpointId : Nat := 0
  deriving DecidableEq, Repr

structure PcieTransactionResult where
  transactionId : Nat
  firstIssueAtPs : Nat
  completedAtPs : Nat
  deriving DecidableEq, Repr

structure OrderingDomainCursors where
  postedVisibilityPs : Nat := 0
  nonpostedCompletionPs : Nat := 0
  deriving DecidableEq, Repr

/-- The shared fabric. `links` holds its links, credits, latency draws and accounts. -/
structure PcieFabric (φ : Type) where
  config : PcieFabricConfig
  orderingCursors : Table Nat OrderingDomainCursors := []
  links : φ
  nextTransactionId : Nat := 1
  generation : Nat := 0

structure PcieServed where
  firstIssueAtPs : Nat
  fragmentsVisibleAtPs : List Nat

/-- How links, credits and latencies serve a transaction that is eligible at some time: any
answer, or a refusal of the request or of its endpoints. -/
structure PcieService (φ : Type) where
  serve : PcieFabricConfig → φ → PcieTransactionRequest → PcieEndpointAttribution → Nat →
    Except CppError (PcieServed × φ)

variable {φ : Type}

def PcieFabric.cursors (fabric : PcieFabric φ) (domain : Nat) : OrderingDomainCursors :=
  (fabric.orderingCursors.get? domain).getD {}

def PcieFabric.orderingHorizon (fabric : PcieFabric φ) (request : PcieTransactionRequest) : Nat :=
  match request.ordering with
  | .independent => 0
  | .visibilityDependency =>
    let cursors := fabric.cursors request.orderingDomain
    match request.operation with
    | .nonPostedRead => max cursors.postedVisibilityPs cursors.nonpostedCompletionPs
    | _ => cursors.postedVisibilityPs

def OrderingDomainCursors.completed (cursors : OrderingDomainCursors) (operation : PcieOperation)
    (completedAtPs : Nat) : OrderingDomainCursors :=
  match operation with
  | .nonPostedRead => { cursors with nonpostedCompletionPs := completedAtPs }
  | _ => { cursors with postedVisibilityPs := completedAtPs }

def PcieFabric.schedule (service : PcieService φ) (fabric : PcieFabric φ)
    (request : PcieTransactionRequest) (attribution : PcieEndpointAttribution) :
    Except CppError (PcieTransactionResult × PcieFabric φ) := do
  require (fabric.nextTransactionId != maxUint64)
    (overflowError "RNIC PCIe transaction ID overflow")
  let eligible := max request.submittedAtPs (fabric.orderingHorizon request)
  let (served, links) ← service.serve fabric.config fabric.links request attribution eligible
  -- every operation starts from its eligible time and keeps the latest fragment
  let completed := served.fragmentsVisibleAtPs.foldl max eligible
  let cursors := match request.ordering with
    | .independent => fabric.orderingCursors
    | .visibilityDependency => fabric.orderingCursors.set request.orderingDomain
        ((fabric.cursors request.orderingDomain).completed request.operation completed)
  return ({ transactionId := fabric.nextTransactionId
            firstIssueAtPs := served.firstIssueAtPs
            completedAtPs := completed },
    { fabric with
      orderingCursors := cursors
      links := links
      nextTransactionId := fabric.nextTransactionId + 1 })

def PcieFabric.commit (fabric planned : PcieFabric φ) : Except CppError (PcieFabric φ) := do
  require (fabric.generation != maxUint64) (overflowError "RNIC PCIe plan generation overflow")
  return { planned with generation := fabric.generation + 1 }

theorem foldl_max_ge (start : Nat) (times : List Nat) : start ≤ times.foldl max start := by
  rw [List.foldl_max]
  exact Nat.le_max_left _ _

section

variable {service : PcieService φ} {fabric fabric' : PcieFabric φ}
  {request : PcieTransactionRequest} {attribution : PcieEndpointAttribution}
  {result : PcieTransactionResult}
  (h : fabric.schedule service request attribution = .ok (result, fabric'))

include h

theorem PcieFabric.schedule_eq_ok : request.submittedAtPs ≤ result.completedAtPs ∧
      fabric.orderingHorizon request ≤ result.completedAtPs ∧
      (∀ domain, fabric'.cursors domain =
        if request.ordering = .visibilityDependency ∧ request.orderingDomain = domain then
          (fabric.cursors domain).completed request.operation result.completedAtPs
        else fabric.cursors domain) ∧
      result.transactionId = fabric.nextTransactionId ∧
      fabric'.nextTransactionId = fabric.nextTransactionId + 1 := by
  replace h := of_check h
  obtain ⟨⟨served, links⟩, _, h⟩ := of_bind h
  cases h
  have hge := foldl_max_ge (max request.submittedAtPs (fabric.orderingHorizon request))
    served.fragmentsVisibleAtPs
  refine ⟨Nat.le_trans (Nat.le_max_left _ _) hge, Nat.le_trans (Nat.le_max_right _ _) hge, ?_,
    rfl, rfl⟩
  intro domain
  cases hordering : request.ordering with
  | independent => simp [PcieFabric.cursors]
  | visibilityDependency =>
    by_cases hdomain : request.orderingDomain = domain
    · subst hdomain
      simp [PcieFabric.cursors, Table.get?_set]
    · simp [PcieFabric.cursors, Table.get?_set, hdomain]

theorem PcieFabric.schedule_posted_le (domain : Nat) :
    (fabric.cursors domain).postedVisibilityPs ≤ (fabric'.cursors domain).postedVisibilityPs := by
  obtain ⟨_, hhorizon, hcursors, _⟩ := PcieFabric.schedule_eq_ok h
  rw [hcursors domain]
  split
  next hmoved =>
    obtain ⟨hordering, rfl⟩ := hmoved
    unfold PcieFabric.orderingHorizon at hhorizon
    rw [hordering] at hhorizon
    cases hop : request.operation with
    | nonPostedRead => simp [OrderingDomainCursors.completed]
    | hostStore | postedWrite => simpa [OrderingDomainCursors.completed, hop] using hhorizon
  next => exact Nat.le_refl _

end

def promptService : PcieService Unit where
  serve := fun _ links _ _ eligible => .ok (⟨eligible, []⟩, links)

def promptFabric : PcieFabric Unit where
  config := { hostEndpointId := 9, paths := [{ pathId := 1, endpoint := .mmioBar }, { pathId := 2 }] }
  links := ()

end SimLLM.Rnic
