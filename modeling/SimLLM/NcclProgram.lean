import SimLLM.ExceptRules
import SimLLM.PyError
import SimLLM.Text

namespace SimLLM

inductive NcclProtocol where
  | ll | ll128 | simple
  deriving DecidableEq, Repr

namespace NcclProtocol

def bufferBytes : NcclProtocol → Nat
  | ll => 524288
  | ll128 => 4915200
  | simple => 4194304

def slotBytes (protocol : NcclProtocol) : Nat := protocol.bufferBytes / 8

def quantum : NcclProtocol → Nat
  | ll => 256
  | ll128 => 1920
  | simple => 512

def chunkLimit : NcclProtocol → Nat
  | ll => 32768
  | ll128 => 576000
  | simple => 2097152

def maximumWarps : NcclProtocol → Nat
  | ll => 16
  | ll128 => 20
  | simple => 17

end NcclProtocol

def ncclSourceCommit : String := "7b83616df3ae082a1f32bb74c27458bfe8153a13"

def ceilDiv (value divisor : Nat) : Nat := (value + divisor - 1) / divisor

structure NcclStripe where
  index : Nat
  warp : Nat
  offsetBytes : Nat
  usefulBytes : Nat
  encodedBytes : Nat
  loadMasks : List Nat
  localLoadBytes : Nat
  sharedStagingBytes : Nat
  sharedTailLoadBytes : Nat
  deriving DecidableEq, Repr

def ll128Masks (useful : Nat) : List Nat :=
  (List.range 4).map fun group =>
    (((List.range 32).filter fun lane =>
      (lane % 8 != 7 || group % 2 == 0) &&
        decide ((group * 32 - 4 * (group / 2) + lane - group % 2 * (lane / 8)) * 16 < useful)).map
      fun lane => 2 ^ lane).sum

def bitCount (mask : Nat) : Nat := (List.range 32).countP mask.testBit

def protocolStripe (payload : Nat) (protocol : NcclProtocol) (warps index : Nat) : NcclStripe :=
  let offset := index * protocol.quantum
  let useful := min protocol.quantum (payload - offset)
  match protocol with
  | .ll128 =>
    let masks := ll128Masks useful
    ⟨index, index % warps, offset, useful, 2048, masks, 16 * (masks.map bitCount).sum,
      1920 - useful / 16 * 16, useful % 16⟩
  | .ll =>
    ⟨index, index % warps, offset, useful, ceilDiv useful 8 * 16, [2 ^ ceilDiv useful 8 - 1],
      useful, 0, 0⟩
  | .simple =>
    ⟨index, index % warps, offset, useful, useful, [2 ^ ceilDiv useful 16 - 1], useful, 0, 0⟩

def protocolStripes (payload : Nat) (protocol : NcclProtocol) (warps : Nat) :
    Except PyError (List NcclStripe) := do
  require (payload % 4 == 0) (valueError "stripes require nonnegative float32 bytes")
  require (decide (0 < warps))
    (valueError "stripes require a supported protocol and positive warps")
  .ok ((List.range (ceilDiv payload protocol.quantum)).map (protocolStripe payload protocol warps))

structure NcclPrimitive where
  channel : Nat
  rankIndex : Nat
  ringLoop : Nat
  stage : Nat
  sliceIndex : Nat
  chunkIndex : Nat
  offsetBytes : Nat
  usefulBytes : Nat
  receive : Bool
  send : Bool
  sourceLoad : Bool
  outputStore : Bool
  reduce : Bool
  steps : Nat
  stripes : List NcclStripe
  deriving DecidableEq, Repr

def NcclPrimitive.encodedBytes (primitive : NcclPrimitive) : Nat :=
  (primitive.stripes.map NcclStripe.encodedBytes).sum

structure NcclRingFields where
  payloadBytes : Nat
  ranks : List Nat
  protocol : NcclProtocol
  channelBytes : List Nat
  warps : Nat
  connectionMode : String := "buffered"
  communicator : String := "ring"
  sourceCommit : String := ncclSourceCommit
  channelRankOrders : Option (List (List Nat)) := none
  deriving DecidableEq, Repr

def NcclRingFields.ordersMatch (fields : NcclRingFields) : Bool :=
  match fields.channelRankOrders with
  | none => true
  | some orders => orders.length == fields.channelBytes.length && orders.all fun order =>
      order.length == fields.ranks.length && order.all fields.ranks.contains &&
        fields.ranks.all order.contains

def NcclRingFields.check (fields : NcclRingFields) : Except PyError Unit := do
  require (fields.sourceCommit == ncclSourceCommit)
    (valueError "NCCL program source identity is not supported")
  require (fields.connectionMode == "buffered")
    (valueError "only LL/LL128/Simple buffered peer-write branches are implemented")
  require (decide (0 < fields.payloadBytes) && fields.payloadBytes % 4 == 0 &&
      (fields.ranks.length == 2 || fields.ranks.length == 4) && decide fields.ranks.Nodup)
    (valueError "Ring requires positive float32 bytes and two/four unique ranks")
  require (!fields.channelBytes.isEmpty && decide (fields.channelBytes.length ≤ 64) &&
      fields.channelBytes.all (fun bytes => decide (0 < bytes) && bytes % 4 == 0) &&
      fields.channelBytes.dropLast.all (fun bytes => bytes % 16 == 0) &&
      fields.channelBytes.sum == fields.payloadBytes)
    (valueError "channel partition must conserve bytes with aligned channel starts")
  require fields.ordersMatch
    (valueError "each channel needs one permutation of the communicator ranks")
  require (decide (3 ≤ fields.warps) && decide (fields.warps ≤ fields.protocol.maximumWarps))
    (valueError "invalid primitive warp count")
  require (nonblank fields.communicator) (valueError "communicator identity must be nonblank")

structure NcclRingProgram extends NcclRingFields where
  valid : toNcclRingFields.check = .ok ()

def ringOrder (width ringIndex : Nat) : List Nat :=
  [(ringIndex + width - 1) % width] ++
  (List.range' 2 (width - 2)).map (fun j => (ringIndex + width - j) % width) ++
  [ringIndex] ++
  (List.range' 1 (width - 2)).map (fun j => (ringIndex + width - j) % width) ++
  [(ringIndex + 1) % width]

def chunkParts (protocol : NcclProtocol) (useful : Nat) : List Nat :=
  match protocol with
  | .simple =>
    let size := max (ceilDiv useful 128 * 64) 32768
    [min size useful, useful - size]
  | _ => [useful]

namespace NcclRingProgram

variable (program : NcclRingProgram)

def width : Nat := program.ranks.length

def ranksForChannel (channel : Nat) : List Nat :=
  match program.channelRankOrders with
  | none => program.ranks
  | some orders => orders.getD channel []

def channelCount (channel : Nat) : Nat := program.channelBytes.getD channel 0

def channelBase (channel : Nat) : Nat := (program.channelBytes.take channel).sum

def loopSpan : Nat := program.width * program.protocol.chunkLimit

def loopRemaining (channel loop : Nat) : Nat :=
  program.channelCount channel - loop * program.loopSpan

def chunkBytes (channel loop : Nat) : Nat :=
  min program.protocol.chunkLimit
    (ceilDiv (program.loopRemaining channel loop) (program.width * 16) * 16)

def usefulBytes (channel loop chunkIndex : Nat) : Nat :=
  min (program.chunkBytes channel loop)
    (program.loopRemaining channel loop - chunkIndex * program.chunkBytes channel loop)

def workers : Nat :=
  if program.protocol = .simple then program.warps - 1 else program.warps

def slicePrimitive (channel ringIndex loop stage chunkIndex sliceIndex size : Nat)
    (stripes : List NcclStripe) : NcclPrimitive :=
  let parts := chunkParts program.protocol (program.usefulBytes channel loop chunkIndex)
  { channel
    rankIndex := ringIndex
    ringLoop := loop
    stage
    sliceIndex
    chunkIndex
    offsetBytes := program.channelBase channel + loop * program.loopSpan +
      chunkIndex * program.chunkBytes channel loop + (parts.take sliceIndex).sum
    usefulBytes := size
    receive := decide (0 < stage)
    send := decide (stage < 2 * program.width - 2)
    sourceLoad := decide (stage < program.width)
    outputStore := decide (program.width - 1 ≤ stage)
    reduce := decide (0 < stage) && decide (stage < program.width)
    steps := if program.protocol = .simple then 2 else 1
    stripes }

def stagePrimitives (channel ringIndex loop stage chunkIndex : Nat) :
    Except PyError (List NcclPrimitive) :=
  (chunkParts program.protocol (program.usefulBytes channel loop chunkIndex)).zipIdx.mapM
    fun (size, sliceIndex) => do
      let stripes ← protocolStripes size program.protocol program.workers
      .ok (program.slicePrimitive channel ringIndex loop stage chunkIndex sliceIndex size stripes)

def loopPrimitives (channel ringIndex loop : Nat) : Except PyError (List NcclPrimitive) :=
  List.flatten <$> (ringOrder program.width ringIndex).zipIdx.mapM fun (chunkIndex, stage) =>
    program.stagePrimitives channel ringIndex loop stage chunkIndex

def primitives (channel rankIndex : Nat) : Except PyError (List NcclPrimitive) := do
  require (decide (channel < program.channelBytes.length) && decide (rankIndex < program.width))
    (valueError "primitive rank/channel is outside its work descriptor")
  let ringIndex := (program.ranksForChannel channel).idxOf (program.ranks.getD rankIndex 0)
  let loops := ceilDiv (program.channelCount channel) program.loopSpan
  List.flatten <$> (List.range loops).mapM (program.loopPrimitives channel ringIndex)

def networkBytes (bytes : NcclPrimitive → Nat) : Except PyError Nat :=
  List.sum <$> (List.range program.channelBytes.length).mapM fun channel =>
    List.sum <$> (List.range program.width).mapM fun rank => do
      let primitives ← program.primitives channel rank
      .ok ((primitives.filter NcclPrimitive.send).map bytes).sum

def usefulNetworkBytes : Except PyError Nat := program.networkBytes NcclPrimitive.usefulBytes

def encodedNetworkBytes : Except PyError Nat := program.networkBytes NcclPrimitive.encodedBytes

end NcclRingProgram

end SimLLM
