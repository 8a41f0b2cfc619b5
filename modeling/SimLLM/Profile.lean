import SimLLM.PyError
import SimLLM.Execution
import SimLLM.Names

namespace SimLLM

def psPerSecond : Nat := 1000000000000
def gpusPerNode : Nat := 8
def controlGoalTagOffset : Nat := 1000000
def controlGoalTagStride : Nat := 1024

def serializationPs (byteCount rateBps : Nat) : Nat :=
  (byteCount * 8 * psPerSecond + rateBps - 1) / rateBps

def cyclesToPs (cycles clockHz : Nat) : Nat := (cycles * psPerSecond + clockHz - 1) / clockHz

def escapeId (value : String) : String :=
  String.ofList (value.toList.flatMap fun c =>
    if c = '%' then "%25".toList else if c = ':' then "%3A".toList else [c])

inductive CopyDirection where
  | hostToDevice | deviceToHost | deviceToDevice | peerToPeer
  deriving DecidableEq, Repr

def CopyDirection.value : CopyDirection → String
  | .hostToDevice => "host_to_device"
  | .deviceToHost => "device_to_host"
  | .deviceToDevice => "device_to_device"
  | .peerToPeer => "peer_to_peer"

structure CopyTransfer where
  transferId : String
  direction : CopyDirection
  bytes : Nat
  source : String
  destination : String
  deriving DecidableEq, Repr

structure CopyEngineServiceModel where
  engineId : String
  directions : List CopyDirection
  estimate : CopyTransfer → Except PyError Nat

structure CoarseDeviceProfile where
  rnicRateBps : Nat := 400000000000
  nvlinkRateBps : Nat := 900000000000
  hbmRateBps : Nat := 0
  launchServicePs : Nat := 0
  controlServicePs : Nat := 0
  ncclChannelServicePs : Nat := 0
  completionDeliveryPs : Nat := 0
  goalBaseTag : Nat := 1000
  copyEngines : List CopyEngineServiceModel := []
  rnicRate_pos : 0 < rnicRateBps := by decide
  nvlinkRate_pos : 0 < nvlinkRateBps := by decide
  engineIds_nodup : (copyEngines.map CopyEngineServiceModel.engineId).Nodup := by decide

def nodeOf (rank : Nat) : Nat := rank / gpusPerNode
def gpuOf (rank : Nat) : Nat := rank % gpusPerNode

variable {a b : Nat}

theorem rank_eq_of_node_gpu (hn : nodeOf a = nodeOf b) (hg : gpuOf a = gpuOf b) : a = b := by
  unfold nodeOf at hn
  unfold gpuOf at hg
  have ha := Nat.div_add_mod a gpusPerNode
  have hb := Nat.div_add_mod b gpusPerNode
  rw [← ha, ← hb, hn, hg]

def rnicId (rank : Nat) : String :=
  "node-" ++ toString (nodeOf rank) ++ ":rnic-" ++ toString (gpuOf rank)

def gpuName (rank : Nat) : String :=
  "node-" ++ toString (nodeOf rank) ++ ":gpu-" ++ toString (gpuOf rank)

def launchResource (node : Nat) : ResourceRef :=
  ⟨.hostLaunchQueue, "node-" ++ toString node ++ ":framework-launch"⟩

def workResource (rank : Nat) : ResourceRef := ⟨.gpuWorkQueue, gpuName rank ++ ":" ++ "work"⟩

def hbmResource (rank : Nat) : ResourceRef := ⟨.hbmQueue, gpuName rank ++ ":" ++ "hbm"⟩

def copyResource (rank : Nat) (engineId : String) : ResourceRef :=
  ⟨.copyEngine, gpuName rank ++ ":" ++ ("copy:" ++ engineId)⟩

def controlResource (rank : Nat) : ResourceRef := ⟨.controlQueue, gpuName rank ++ ":" ++ "control"⟩

def ncclResource (rank : Nat) (channel : String) : ResourceRef :=
  ⟨.ncclChannel, gpuName rank ++ ":" ++ ("nccl:" ++ channel)⟩

def nvlinkResource (rank : Nat) : ResourceRef := ⟨.nvlink, gpuName rank ++ ":" ++ "nvlink"⟩

theorem gpuName_separated_inj {s t : String} (h : gpuName a ++ ":" ++ s = gpuName b ++ ":" ++ t) :
    a = b ∧ s = t := by
  have hl := congrArg String.toList h
  simp only [gpuName, String.toList_append, List.append_assoc] at hl
  obtain ⟨hn, hrest⟩ := Names.numbered_inj (w := "node-".toList)
    (s := "gpu-".toList ++ ((toString (gpuOf a)).toList ++ ':' :: s.toList))
    (t := "gpu-".toList ++ ((toString (gpuOf b)).toList ++ ':' :: t.toList))
    (by simpa using hl)
  obtain ⟨hg, hs⟩ := Names.numbered_inj (w := "gpu-".toList) (by simpa using hrest)
  exact ⟨rank_eq_of_node_gpu hn hg, String.toList_inj.mp hs⟩

theorem launchResource_inj {m n : Nat} (h : launchResource m = launchResource n) : m = n := by
  have hl := congrArg (fun r => r.resourceId.toList) h
  simp only [launchResource, String.toList_append, List.append_assoc] at hl
  exact (Names.numbered_inj (w := "node-".toList) (s := "framework-launch".toList)
    (t := "framework-launch".toList) (by simpa using hl)).1

theorem rnicId_inj (h : rnicId a = rnicId b) : a = b := by
  have hl := congrArg String.toList h
  simp only [rnicId, String.toList_append, List.append_assoc] at hl
  obtain ⟨hn, hrest⟩ := Names.numbered_inj (w := "node-".toList)
    (s := "rnic-".toList ++ (toString (gpuOf a)).toList)
    (t := "rnic-".toList ++ (toString (gpuOf b)).toList) (by simpa using hl)
  exact rank_eq_of_node_gpu hn (Names.toString_toList_inj (by simpa using hrest))

end SimLLM
