import Mathlib

namespace SimLLM.Rnic

inductive CppErrorKind where
  | invalidArgument | logicError | overflowError | outOfRange
  deriving DecidableEq, Repr

structure CppError where
  kind : CppErrorKind
  message : String
  deriving DecidableEq, Repr

def invalidArgument (message : String) : CppError := ⟨.invalidArgument, message⟩
def logicError (message : String) : CppError := ⟨.logicError, message⟩
def overflowError (message : String) : CppError := ⟨.overflowError, message⟩
def outOfRange (message : String) : CppError := ⟨.outOfRange, message⟩

def require (holds : Bool) (error : CppError) : Except CppError Unit :=
  if holds then .ok () else .error error

variable {error : CppError}

theorem require_eq_ok {holds : Bool} {u : Unit} : require holds error = .ok u ↔ holds = true := by
  cases holds <;> simp [require]

def maxUint64 : Nat := 2 ^ 64 - 1

def checkedAdd (lhs rhs : Nat) (error : CppError) : Except CppError Nat :=
  if maxUint64 - lhs < rhs then .error error else .ok (lhs + rhs)

theorem checkedAdd_eq_ok {lhs rhs sum : Nat} (h : checkedAdd lhs rhs error = .ok sum) :
    sum = lhs + rhs := by
  unfold checkedAdd at h
  split at h
  next => cases h
  next => exact (Except.ok.inj h).symm

/-- The enumerations of the port are open: `invalid` stands for every value outside the
declared ones. -/
inductive NetworkSubmitStatus where
  | accepted | busy | rejected | invalid
  deriving DecidableEq, Repr

inductive NetworkEventKind where
  | delivered | dropped | packetTxStarted | packetTxFinished | packetRxArrived | ecnMarked
  | cnpReceived | eligibilityUpdated | rateUpdated | pfcFrameSubmitted | pfcPaused | pfcResumed
  | linkStateChanged | invalid
  deriving DecidableEq, Repr

inductive NetworkEventScope where
  | flowExtent | packetAttempt | transportControl | invalid
  deriving DecidableEq, Repr

inductive NetworkPacketKind where
  | data | retransmission | ack | nak | cnp | pfc | otherControl | invalid
  deriving DecidableEq, Repr

inductive DropEvidenceProvenance where
  | none | controlled | asserted | observed | inferred | invalid
  deriving DecidableEq, Repr

inductive NetworkLinkState where
  | unknown | up | down | invalid
  deriving DecidableEq, Repr

inductive DropLocation where
  | none | txPort | fabric | rxPort | invalid
  deriving DecidableEq, Repr

inductive DropReason where
  | none | injected | queueOverflow | linkDown | policyRejected | invalid
  deriving DecidableEq, Repr

def validDropLocation (location : DropLocation) : Bool := location != .invalid
def validDropReason (reason : DropReason) : Bool := reason != .invalid
def validNetworkPacketKind (kind : NetworkPacketKind) : Bool := kind != .invalid
def validDropEvidence (evidence : DropEvidenceProvenance) : Bool := evidence != .invalid

structure NetworkTxDescriptor where
  abiVersion : Nat
  wqeId : Nat
  wrId : Nat
  flowId : Nat
  flowTag : Nat
  policyContextToken : Nat
  source : Nat
  destination : Nat
  qpn : Nat
  trafficClass : Nat
  payloadBytes : Nat
  extentIndex : Nat := 0
  extentCount : Nat := 1
  eligibleAtPs : Nat
  deriving DecidableEq, Repr

structure NetworkPortCapabilities where
  abiVersion : Nat := 1
  packetAttemptEvents : Bool := false
  ecnCnpEvents : Bool := false
  policyUpdateEvents : Bool := false
  pfcEvents : Bool := false
  dynamicLinkEvents : Bool := false
  deriving DecidableEq, Repr

structure NetworkSubmitResult where
  status : NetworkSubmitStatus := .rejected
  token : Nat := 0
  hasRetryTime : Bool := false
  retryAtPs : Nat := 0
  rejectionLocation : DropLocation := .txPort
  rejectionReason : DropReason := .policyRejected
  deriving DecidableEq, Repr

structure NetworkEvent where
  abiVersion : Nat := 1
  kind : NetworkEventKind := .delivered
  scope : NetworkEventScope := .flowExtent
  token : Nat := 0
  parentToken : Nat := 0
  wqeId : Nat := 0
  eventTimePs : Nat := 0
  extentIndex : Nat := 0
  packetIndex : Nat := 0
  transmissionAttempt : Nat := 0
  payloadOffsetBytes : Nat := 0
  payloadBytes : Nat := 0
  wireBytes : Nat := 0
  packetKind : NetworkPacketKind := .data
  ecnMarked : Bool := false
  dropLocation : DropLocation := .none
  dropReason : DropReason := .none
  dropResourceId : Nat := 0
  dropEvidence : DropEvidenceProvenance := .none
  policyContextToken : Nat := 0
  source : Nat := 0
  destination : Nat := 0
  linkId : Nat := 0
  pauseQuanta : Nat := 0
  hasPauseDuration : Bool := false
  effectiveAtPs : Nat := 0
  hasEffectiveRate : Bool := false
  effectiveRateBps : Nat := 0
  linkState : NetworkLinkState := .unknown
  deriving DecidableEq, Repr

/-- A port: its answer to the n-th submission of the session. Any behaviour of the port is
one such function. -/
structure NetworkPort where
  trySubmit : Nat → NetworkTxDescriptor → Nat → NetworkSubmitResult

end SimLLM.Rnic
