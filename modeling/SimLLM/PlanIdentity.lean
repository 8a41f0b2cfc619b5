import SimLLM.Execution
import SimLLM.Sha256

namespace SimLLM

inductive Json where
  | str (value : String)
  | num (value : Nat)
  | arr (entries : List Json)
  | obj (fields : List (String × Json))

def hex4 (code : Nat) : List Char := "\\u".toList ++ Sha256.hex 4 code

def escapeJsonChar (c : Char) : List Char :=
  if c = '"' then "\\\"".toList
  else if c = '\\' then "\\\\".toList
  else if c = '\n' then "\\n".toList
  else if c = '\r' then "\\r".toList
  else if c = '\t' then "\\t".toList
  else if c.toNat = 8 then "\\b".toList
  else if c.toNat = 12 then "\\f".toList
  else if 0x20 ≤ c.toNat ∧ c.toNat ≤ 0x7e then [c]
  else if c.toNat < 0x10000 then hex4 c.toNat
  else
    -- outside the basic plane a character is written as a surrogate pair
    let offset := c.toNat - 0x10000
    hex4 (0xd800 + offset / 0x400) ++ hex4 (0xdc00 + offset % 0x400)

def dumpString (value : String) : String :=
  "\"" ++ String.ofList (value.toList.flatMap escapeJsonChar) ++ "\""

def joinComma : List String → String
  | [] => ""
  | [entry] => entry
  | entry :: rest => entry ++ "," ++ joinComma rest

mutual

def Json.dumps : Json → String
  | .str value => dumpString value
  | .num value => toString value
  | .arr entries => "[" ++ joinComma (dumpsAll entries) ++ "]"
  | .obj fields =>
    let sorted := (dumpsFields fields).insertionSort (fun a b => a.1 ≤ b.1)
    "\x7b" ++ joinComma (sorted.map fun field => dumpString field.1 ++ ":" ++ field.2) ++ "\x7d"

def dumpsAll : List Json → List String
  | [] => []
  | entry :: rest => entry.dumps :: dumpsAll rest

def dumpsFields : List (String × Json) → List (String × String)
  | [] => []
  | (name, value) :: rest => (name, value.dumps) :: dumpsFields rest

end

def CollectivePlanActionKind.value : CollectivePlanActionKind → String
  | .send => "send"
  | .receive => "receive"

def pairsToJson (pairs : List PairPayload) : Json :=
  .arr (pairs.map fun p => .arr [.num p.source, .num p.destination, .num p.bytes])

def requestPairsToJson (pairs : List RequestPairPayload) : Json :=
  .arr (pairs.map fun p => .arr [.str p.requestId, .num p.source, .num p.destination, .num p.bytes])

def rankActionsToJson (entries : List (Nat × List String)) : Json :=
  .arr (entries.map fun entry => .arr [.num entry.1, .arr (entry.2.map .str)])

def roundToJson (round : CollectivePlanRound) : Json :=
  .obj [("round_index", .num round.roundIndex), ("tag", .num round.tag),
    ("channel_id", .str round.channelId)]

def actionToJson (action : CollectivePlanAction) : Json :=
  .obj [("action_id", .str action.actionId), ("rank", .num action.rank),
    ("kind", .str action.kind.value), ("extent_id", .str action.extentId),
    ("depends_on", .arr (action.dependsOn.map .str))]

def extentToJson (extent : CollectivePlanExtent) : Json :=
  .obj [("extent_id", .str extent.extentId), ("round_index", .num extent.roundIndex),
    ("source_rank", .num extent.sourceRank), ("destination_rank", .num extent.destinationRank),
    ("payload_bytes", .num extent.payloadBytes), ("send_action_id", .str extent.sendActionId),
    ("receive_action_id", .str extent.receiveActionId),
    ("request_payload_bytes",
      .arr (extent.requestPayloadBytes.map fun entry => .arr [.str entry.1, .num entry.2]))]

def collectivePlanIdentityToJson (plan : CollectivePlan) : Json :=
  .obj [("schema", .str "simllm-collective-plan-v1"), ("operation_id", .str plan.operationId),
    ("collective", .str plan.collective), ("algorithm", .str plan.algorithm),
    ("channel_id", .str plan.channelId), ("rank_order", .arr (plan.rankOrder.map .num)),
    ("payload_bytes", .num plan.payloadBytes),
    ("pair_payload_bytes", pairsToJson plan.pairPayloadBytes),
    ("request_pair_payload_bytes", requestPairsToJson plan.requestPairPayloadBytes),
    ("rounds", .arr (plan.rounds.map roundToJson)),
    ("actions", .arr (plan.actions.map actionToJson)),
    ("extents", .arr (plan.extents.map extentToJson)),
    ("entry_action_ids", rankActionsToJson plan.entryActionIds),
    ("terminal_action_ids", rankActionsToJson plan.terminalActionIds)]

/-- The escaped text is ASCII, so its UTF-8 bytes are its code points. -/
def collectivePlanIntegritySha256 (plan : CollectivePlan) : String :=
  Sha256.hexdigest ((collectivePlanIdentityToJson plan).dumps.toList.map Char.toNat)

def isSha256Digest (text : String) : Bool :=
  text.toList.length = 64 && text.toList.all (Sha256.hexDigits.contains ·)

theorem integrity_isSha256Digest (plan : CollectivePlan) :
    isSha256Digest (collectivePlanIntegritySha256 plan) = true := by
  unfold isSha256Digest collectivePlanIntegritySha256
  rw [Sha256.hexdigest_length]
  simp only [decide_true, Bool.true_and, List.all_eq_true, List.contains_iff_mem]
  exact fun c hc => Sha256.hexdigest_mem hc

theorem integrity_ignores_digest (plan : CollectivePlan) (digest : String) :
    collectivePlanIntegritySha256 { plan with integritySha256 := digest } =
      collectivePlanIntegritySha256 plan :=
  rfl

end SimLLM
