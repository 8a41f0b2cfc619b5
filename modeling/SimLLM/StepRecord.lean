import SimLLM.Execution
import SimLLM.ExceptRules
import SimLLM.PyError

namespace SimLLM

inductive RequestPhase where
  | prefill | decode
  deriving DecidableEq, Repr

structure ScheduledRequest where
  requestId : String
  phase : RequestPhase
  numNewTokens : Int
  numCachedTokens : Int := 0
  contextLength : Int := 0
  deriving DecidableEq, Repr

structure StepRecord where
  stepIndex : Int
  virtualTimePs : Int
  scheduled : List ScheduledRequest := []
  preemptedRequestIds : List String := []
  finishedRequestIds : List String := []
  numSampled : Option Nat := none
  sampledRequestIds : Option (List String) := none
  deriving DecidableEq, Repr

def StepRecord.scheduledIds (record : StepRecord) : List String :=
  record.scheduled.map (·.requestId)

def explicitSampledIds (record : StepRecord) (explicit : List String) :
    Except PyError (List String) := do
  require explicit.Nodup (valueError "sampled_request_ids must be unique")
  let unknown := sortedSet (explicit.filter (· ∉ record.scheduledIds))
  require unknown.isEmpty
    (valueError "sampled_request_ids contains unscheduled requests: {}" [toString unknown])
  match record.numSampled with
  | none => pure ()
  | some count =>
    require (explicit.length == count)
      (valueError "sampled_request_ids cardinality must equal num_sampled")
  return explicit

/-- The scheduled requests that emit a token in this step. A count alone is only accepted when
it names everyone, no one, or exactly the decoding requests. -/
def sampledRequestIds (record : StepRecord) : Except PyError (List String) := do
  require record.scheduledIds.Nodup
    (valueError "StepRecord.scheduled contains duplicate request IDs")
  match record.sampledRequestIds with
  | some explicit => explicitSampledIds record explicit
  | none =>
    match record.numSampled with
    | none => return record.scheduledIds
    | some 0 => return []
    | some count =>
      if count = record.scheduledIds.length then return record.scheduledIds
      let decodeIds := (record.scheduled.filter (·.phase = .decode)).map (·.requestId)
      if count < decodeIds.length then
        throw (valueError "num_sampled is smaller than the scheduled decode set")
      if count = decodeIds.length then return decodeIds
      throw (valueError "partial sampled-request identity is ambiguous; provide StepRecord.sampled_request_ids (CORE-17)")

theorem sampledRequestIds_nodup {record : StepRecord} {sampled : List String}
    (h : sampledRequestIds record = .ok sampled) : record.scheduledIds.Nodup := by
  obtain ⟨_, hnodup, _⟩ := of_bind h
  simpa using require_eq_ok.mp hnodup

end SimLLM
