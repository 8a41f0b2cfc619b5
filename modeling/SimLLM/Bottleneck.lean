import SimLLM.Preflight
import SimLLM.Projection
import SimLLM.StepMetrics

namespace SimLLM

inductive BottleneckClass where
  | hbmBound | computeBound | unclassifiedKernel | deviceQueue | intraNodeCollective | fabric
  | coCriticalCollective | hostLaunch | batchingQueue | externalDependency | kv | dma | control
  deriving DecidableEq, Repr

def BottleneckClass.value : BottleneckClass → String
  | .hbmBound => "hbm-bound"
  | .computeBound => "compute-bound"
  | .unclassifiedKernel => "unclassified-kernel"
  | .deviceQueue => "device-queue"
  | .intraNodeCollective => "intra-node-collective"
  | .fabric => "fabric"
  | .coCriticalCollective => "co-critical-collective"
  | .hostLaunch => "host-launch"
  | .batchingQueue => "batching-queue"
  | .externalDependency => "external-dependency"
  | .kv => "kv"
  | .dma => "dma"
  | .control => "control"

def BottleneckClass.communicates : BottleneckClass → Bool
  | .intraNodeCollective | .coCriticalCollective | .fabric => true
  | _ => false

/-- Provider kernel identity with its work and roofs, and an explicitly joined measured cell.
The floats of the source stand as the rational numbers they hold. -/
structure KernelEvidence where
  kernelId : String
  config : List (String × ConfigScalar)
  flops : ℚ
  bytesMoved : ℚ
  peakFlopsS : ℚ
  hbmBytesS : ℚ
  gpuName : String
  ledgerCellId : Option String := none
  measuredTimePs : Option Nat := none
  evidenceClass : String := "absent-by-design"
  sourceState : String := "absent-by-design"
  deriving DecidableEq

def KernelEvidence.identity (kernel : KernelEvidence) :
    String × List (String × ConfigScalar) × String :=
  (kernel.kernelId, kernel.config, kernel.gpuName)

def KernelEvidence.boundClass (kernel : KernelEvidence) : BottleneckClass :=
  if kernel.flops = 0 ∧ kernel.bytesMoved = 0 then .unclassifiedKernel
  else if kernel.flops * kernel.hbmBytesS < kernel.bytesMoved * kernel.peakFlopsS then .hbmBound
  else .computeBound

def KernelEvidence.check (kernel : KernelEvidence) : Except PyError Unit := do
  require (nonblank kernel.kernelId) (fail "kernel_id" "must not be blank")
  require (nonblank kernel.gpuName) (fail "gpu_name" "must not be blank")
  require (kernel.config.all (nonblank ·.1)) (fail "kernel.config.key" "must not be blank")
  require (kernel.config.map Prod.fst).Nodup (valueError "duplicate kernel config key")
  require (0 ≤ kernel.flops) (fail "flops" "must be nonnegative")
  require (0 ≤ kernel.bytesMoved) (fail "bytes_moved" "must be nonnegative")
  require (0 < kernel.peakFlopsS ∧ 0 < kernel.hbmBytesS) (valueError "kernel roofs must be positive")
  match kernel.ledgerCellId with
  | none =>
    require (kernel.measuredTimePs.isNone && kernel.evidenceClass == "absent-by-design" &&
        kernel.sourceState == "absent-by-design")
      (valueError "absent measurement must be absent-by-design")
  | some cell => do
    require (nonblank cell) (fail "ledger_cell_id" "must not be blank")
    require (kernel.measuredTimePs.any (1 ≤ ·)) (fail "measured_time_ps" "must be at least 1")
    require (nonblank kernel.evidenceClass) (fail "evidence_class" "must not be blank")
    require (kernel.evidenceClass != "absent-by-design" &&
        (kernel.sourceState == "void" || kernel.sourceState == "nonvoid"))
      (valueError "measured cell requires evidence and void state")

structure FlowTail where
  executionId : String
  operationId : String
  flowCount : Nat
  minFctPs : Nat
  maxFctPs : Nat
  deriving DecidableEq

def FlowTail.key (tail : FlowTail) : String ×ₗ String :=
  toLex (tail.executionId, tail.operationId)

structure ClassShare where
  className : BottleneckClass
  participantWidth : Option Nat
  spanPs : Nat
  span_pos : 0 < spanPs
  width_pos : ∀ width ∈ participantWidth, 0 < width
  width_iff : participantWidth.isSome = className.communicates

def ClassShare.make (className : BottleneckClass) (participantWidth : Option Nat) (spanPs : Nat) :
    Except PyError ClassShare :=
  if span_pos : 0 < spanPs then
    if width_pos : ∀ width ∈ participantWidth, 0 < width then
      if width_iff : participantWidth.isSome = className.communicates then
        .ok { className, participantWidth, spanPs, span_pos, width_pos, width_iff }
      else if className.communicates then
        .error (valueError "communication class requires participant width")
      else .error (valueError "noncommunication class must omit participant width")
    else .error (fail "participant_width" "must be at least 1")
  else .error (fail "class.span_ps" "must be at least 1")

def ClassShare.order (share : ClassShare) : Int ×ₗ String ×ₗ Nat :=
  toLex (-(share.spanPs : Int), toLex (share.className.value, share.participantWidth.getD 0))

def ClassShare.key (share : ClassShare) : BottleneckClass × Option Nat :=
  (share.className, share.participantWidth)

section Ranking

-- the canonical wire text of a kernel record, by which evidence is ordered
variable (kernelKey : KernelEvidence → String)

structure BottleneckRanking where
  spanPs : Nat
  divisor : Nat
  classes : List ClassShare
  kernels : List KernelEvidence
  flowTails : List FlowTail
  divisor_pos : 0 < divisor
  conserves : (classes.map (·.spanPs)).sum = spanPs
  ranked : classes.Pairwise (·.order ≤ ·.order)
  distinct : (classes.map (·.key)).Nodup
  evidenced : ∀ share ∈ classes, share.className = .hbmBound ∨ share.className = .computeBound →
    ∃ kernel ∈ kernels, kernel.boundClass = share.className
  identified : (kernels.map (·.identity)).Nodup
  canonical : (kernels.map kernelKey).Pairwise (· < ·)
  tails_canonical : (flowTails.map (·.key)).Pairwise (· < ·)

def BottleneckRanking.make (spanPs divisor : Nat) (classes : List ClassShare)
    (kernels : List KernelEvidence) (flowTails : List FlowTail) :
    Except PyError (BottleneckRanking kernelKey) :=
  if divisor_pos : 0 < divisor then
    if conserves : (classes.map (·.spanPs)).sum = spanPs then
      if ranked : classes.Pairwise (·.order ≤ ·.order) then
        if distinct : (classes.map (·.key)).Nodup then
          if evidenced : ∀ share ∈ classes,
              share.className = .hbmBound ∨ share.className = .computeBound →
                ∃ kernel ∈ kernels, kernel.boundClass = share.className then
            if identified : (kernels.map (·.identity)).Nodup then
              if canonical : (kernels.map kernelKey).Pairwise (· < ·) then
                if tails_canonical : (flowTails.map (·.key)).Pairwise (· < ·) then
                  .ok { spanPs, divisor, classes, kernels, flowTails, divisor_pos, conserves, ranked,
                        distinct, evidenced, identified, canonical, tails_canonical }
                else .error (valueError "flow tail identities must be unique and canonical")
              else .error (valueError "kernel evidence must be unique and canonical")
            else .error (valueError "duplicate kernel identity")
          else .error (valueError "bound kernel class lacks work and roof evidence")
        else .error (valueError "duplicate bottleneck class")
      else .error (valueError "bottleneck classes are not ranked")
    else .error (valueError "bottleneck classes do not conserve selected latency")
  else .error (fail "ranking.divisor" "must be at least 1")

def BottleneckRanking.latencyPs {kernelKey : KernelEvidence → String}
    (ranking : BottleneckRanking kernelKey) : ℚ :=
  (ranking.spanPs : ℚ) / ranking.divisor

abbrev RankingPart := BottleneckClass × Option Nat × Int

def addTotal (totals : List ((BottleneckClass × Option Nat) × Nat))
    (key : BottleneckClass × Option Nat) (duration : Nat) :
    List ((BottleneckClass × Option Nat) × Nat) :=
  match totals with
  | [] => [(key, duration)]
  | entry :: rest =>
    if entry.1 = key then (key, entry.2 + duration) :: rest
    else entry :: addTotal rest key duration

def addPart (totals : List ((BottleneckClass × Option Nat) × Nat)) (part : RankingPart) :
    Except PyError (List ((BottleneckClass × Option Nat) × Nat)) := do
  require (0 ≤ part.2.2) (fail "selected duration" "must be nonnegative")
  return addTotal totals (part.1, part.2.1) part.2.2.toNat

def rankedClasses (totals : List ((BottleneckClass × Option Nat) × Nat)) :
    Except PyError (List ClassShare) := do
  let shares ← (totals.filter (·.2 != 0)).mapM fun entry =>
    ClassShare.make entry.1.1 entry.1.2 entry.2
  return shares.insertionSort fun a b => a.order ≤ b.order

def checkKernels (seen : List KernelEvidence) (kernel : KernelEvidence) :
    Except PyError (List KernelEvidence) := do
  require (seen.all fun other => other.identity != kernel.identity || other == kernel)
    (valueError "inconsistent kernel evidence for one calibration identity")
  return seen ++ [kernel]

def checkTails (seen : List FlowTail) (tail : FlowTail) : Except PyError (List FlowTail) := do
  require (seen.all fun other => other.key != tail.key || other == tail)
    (valueError "inconsistent flow tail projection")
  return seen ++ [tail]

def byKey {α κ : Type} [LinearOrder κ] (key : α → κ) (entries : List α) : List α :=
  (sortedSet (entries.map key)).filterMap fun k => lastWith entries (key · == k)

def ranking (parts : List RankingPart) (kernels : List KernelEvidence) (flowTails : List FlowTail)
    (divisor : Nat := 1) : Except PyError (BottleneckRanking kernelKey) := do
  let totals ← parts.foldlM addPart []
  let classes ← rankedClasses totals
  let _ ← kernels.foldlM checkKernels []
  let _ ← flowTails.foldlM checkTails []
  BottleneckRanking.make kernelKey (classes.map (·.spanPs)).sum divisor classes
    (byKey kernelKey kernels) (byKey FlowTail.key flowTails)

def emptyRanking : BottleneckRanking kernelKey where
  spanPs := 0
  divisor := 1
  classes := []
  kernels := []
  flowTails := []
  divisor_pos := Nat.one_pos
  conserves := rfl
  ranked := .nil
  distinct := .nil
  evidenced := by simp
  identified := .nil
  canonical := .nil
  tails_canonical := .nil

def ClassShare.part (share : ClassShare) : RankingPart :=
  (share.className, share.participantWidth, share.spanPs)

def combine (values : List (BottleneckRanking kernelKey)) (divisor : Nat := 1) :
    Except PyError (BottleneckRanking kernelKey) := do
  require (values.all (·.divisor == 1))
    (valueError "combine requires undivided disjoint spans")
  ranking kernelKey (values.flatMap fun value => value.classes.map ClassShare.part)
    (values.flatMap (·.kernels)) (values.flatMap (·.flowTails)) divisor

end Ranking

end SimLLM
