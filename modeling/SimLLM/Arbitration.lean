import SimLLM.PyError
import SimLLM.FirstExtremum
import SimLLM.Execution

namespace SimLLM

open FirstExtremum

structure ArbitrationCandidate where
  operationId : String
  baselineSequence : Nat
  eligibleAtPs : Nat
  classLabel : Int
  deriving DecidableEq, Repr

/-- A policy object: its mutable state, and the answer it gives with the state after it.
The state survives an exception, so the answer does not decide what is kept. -/
structure ArbitrationPolicy (π : Type) where
  select : π → List ArbitrationCandidate → Except PyError ArbitrationCandidate × π

def firstOrError (error : PyError) (best : Option ArbitrationCandidate) :
    Except PyError ArbitrationCandidate :=
  match best with
  | none => .error error
  | some candidate => .ok candidate

def identitySelect (error : PyError) (candidates : List ArbitrationCandidate) :
    Except PyError ArbitrationCandidate :=
  firstOrError error (minBy (·.baselineSequence) candidates)

def identityArbitrationPolicy : ArbitrationPolicy Unit where
  select _ candidates :=
    (identitySelect (valueError "identity arbitration requires at least one candidate") candidates,
      ())

def strictPriorityArbitrationPolicy (classAware : Bool) : ArbitrationPolicy Unit where
  select _ candidates :=
    let error := valueError "strict priority arbitration requires at least one candidate"
    if classAware then
      (firstOrError error
        (minBy (fun c => toLex (c.classLabel, c.baselineSequence)) candidates), ())
    else (identitySelect error candidates, ())

structure RoundRobinWeights where
  weights : List (Nat × Nat) := []
  defaultWeight : Nat := 1
  classAware : Bool := true
  weights_pos : ∀ entry ∈ weights, 0 < entry.2 := by simp
  defaultWeight_pos : 0 < defaultWeight := by decide

def RoundRobinWeights.weight (config : RoundRobinWeights) (classLabel : Int) :
    Except PyError Nat :=
  if classLabel < 0 then .error (valueError "class label must be nonnegative")
  else .ok (((config.weights.find? (·.1 == classLabel.toNat)).map Prod.snd).getD
    config.defaultWeight)

structure RoundRobinCredits where
  remaining : List (Int × Nat) := []
  deriving DecidableEq, Repr

def RoundRobinCredits.get? (credits : RoundRobinCredits) (classLabel : Int) : Option Nat :=
  (credits.remaining.find? (·.1 == classLabel)).map Prod.snd

def RoundRobinCredits.set (credits : RoundRobinCredits) (classLabel : Int) (credit : Nat) :
    RoundRobinCredits :=
  ⟨credits.remaining.filter (·.1 != classLabel) ++ [(classLabel, credit)]⟩

def RoundRobinWeights.credit (config : RoundRobinWeights) (credits : RoundRobinCredits)
    (classLabel : Int) : Except PyError Nat := do
  -- the weight is asked for before the dictionary is consulted
  let weight ← config.weight classLabel
  .ok ((credits.get? classLabel).getD weight)

def RoundRobinWeights.eligible (config : RoundRobinWeights) (credits : RoundRobinCredits)
    (present : List Int) : Except PyError (List Int × RoundRobinCredits) := do
  let withCredit ← present.filterM fun label => do
    let credit ← config.credit credits label
    .ok (decide (0 < credit))
  if withCredit.isEmpty then
    let refilled ← present.foldlM (fun acc label => do
      let weight ← config.weight label
      .ok (RoundRobinCredits.set acc label weight)) credits
    .ok (present, refilled)
  else .ok (withCredit, credits)

def RoundRobinWeights.grantClass (config : RoundRobinWeights) (credits : RoundRobinCredits)
    (candidates : List ArbitrationCandidate) :
    Except PyError (ArbitrationCandidate × RoundRobinCredits) := do
  let (eligible, credits) ← config.eligible credits (sortedSet (candidates.map (·.classLabel)))
  match eligible with
  | [] => .error (indexError "list index out of range")
  | winner :: _ => do
    let credit ← config.credit credits winner
    let granted ← identitySelect (valueError "min() iterable argument is empty")
      (candidates.filter (·.classLabel == winner))
    .ok (granted, credits.set winner (credit - 1))

def weightedRoundRobinArbitrationPolicy (config : RoundRobinWeights) :
    ArbitrationPolicy RoundRobinCredits where
  select credits candidates :=
    if candidates.isEmpty then
      (.error (valueError "weighted round robin requires at least one candidate"), credits)
    else if !config.classAware then
      (identitySelect (valueError "weighted round robin requires at least one candidate")
        candidates, credits)
    else
      -- an error is a refused label, raised before any credit is written
      match config.grantClass credits candidates with
      | .error error => (.error error, credits)
      | .ok (granted, credits) => (.ok granted, credits)

end SimLLM
