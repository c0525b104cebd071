import SdarRuntime.Library.Json

/-!
The guard in front of the normalizers: a payload is parsed, measured against the limits, and taken
out of its envelope.
-/

namespace SdarRuntime

namespace VehicleIngress

inductive MqttWireMode where
  | auto
  | rosMessageJson
  | directDomainJson
  | rosBridgeJson
  deriving DecidableEq

structure JsonLimits where
  maxPayloadBytes : Nat
  maxDepth : Nat
  maxNodes : Nat
  maxStringBytes : Nat

/-- `JSON.parse` and `Buffer.toString("utf8")`. -/
structure JsonReader where
  parse : String → Option Json
  utf8 : List UInt8 → String

def enterNode (limits : JsonLimits) (depth nodes : Nat) : Except String Nat :=
  if depth > limits.maxDepth then .error "UGV_MQTT_JSON_DEPTH_EXCEEDED"
  else if nodes + 1 > limits.maxNodes then .error "UGV_MQTT_JSON_NODE_LIMIT_EXCEEDED"
  else .ok (nodes + 1)

def checkText (limits : JsonLimits) (text : String) (nodes : Nat) : Except String Nat :=
  if text.utf8ByteSize > limits.maxStringBytes then .error "UGV_MQTT_STRING_LIMIT_EXCEEDED"
  else .ok nodes

mutual
def visitJson (limits : JsonLimits) : Json → Nat → Nat → Except String Nat
  | .str text, depth, nodes => do
    checkText limits text (← enterNode limits depth nodes)
  | .arr items, depth, nodes => do
    visitItems limits items (depth + 1) (← enterNode limits depth nodes)
  | .obj fields, depth, nodes => do
    visitFields limits fields (depth + 1) (← enterNode limits depth nodes)
  | _, depth, nodes => enterNode limits depth nodes

def visitItems (limits : JsonLimits) : List Json → Nat → Nat → Except String Nat
  | [], _, nodes => .ok nodes
  | item :: rest, depth, nodes => do
    visitItems limits rest depth (← visitJson limits item depth nodes)

def visitFields (limits : JsonLimits) : List (String × Json) → Nat → Nat → Except String Nat
  | [], _, nodes => .ok nodes
  | (key, value) :: rest, depth, nodes => do
    let nodes ← checkText limits key nodes
    visitFields limits rest depth (← visitJson limits value depth nodes)
end

def validateJsonShape (limits : JsonLimits) (value : Json) : Except String Unit :=
  (visitJson limits value 1 0).map fun _ => ()

def record : Json → Bool
  | .obj _ => true
  | _ => false

def hasOwn (key : String) (value : Json) : Bool :=
  (value.field? key).isSome

private def envelopeKey (key : String) : Bool :=
  key == "data" || key == "layout" || key == "header"

def pureRosEnvelope (value : Json) : Bool :=
  hasOwn "data" value && value.members.all fun member => envelopeKey member.1

def directDomain (value : Json) : Bool :=
  value.members.any fun member => !envelopeKey member.1

private def whiteSpace (char : Char) : Bool :=
  char.toNat ∈ [9, 10, 11, 12, 13, 32, 0xA0, 0x1680, 0x2028, 0x2029, 0x202F, 0x205F, 0x3000, 0xFEFF]
    || decide (0x2000 ≤ char.toNat ∧ char.toNat ≤ 0x200A)

/-- `String.prototype.trim` -/
def trimText (text : String) : String :=
  String.ofList ((text.toList.dropWhile whiteSpace).reverse.dropWhile whiteSpace).reverse

/-- The message inside an envelope; a text that looks like JSON is parsed once more. -/
def rosEnvelope (reader : JsonReader) (limits : JsonLimits) (value : Json) :
    Except String (Option Json) :=
  match value.field? "data" with
  | none => .ok none
  | some (.str data) =>
    let trimmed := trimText data
    if trimmed.toList.head? = some '\x7b' ∨ trimmed.toList.head? = some '[' then
      match reader.parse trimmed with
      | none => .error "UGV_MQTT_INNER_JSON_INVALID"
      | some parsed => do
        validateJsonShape limits parsed
        return some parsed
    else .ok (some (.str data))
  | some data => .ok (some data)

def decodeMqttPayload (reader : JsonReader) (payload : List UInt8) (mode : MqttWireMode)
    (limits : JsonLimits) : Except String (Option Json) :=
  if payload.length > limits.maxPayloadBytes then .error "UGV_MQTT_PAYLOAD_TOO_LARGE"
  else
    match reader.parse (reader.utf8 payload) with
    | none => .error "UGV_MQTT_MALFORMED_JSON"
    | some outer => do
      validateJsonShape limits outer
      match mode with
      | .rosBridgeJson =>
        if !record outer then .error "UGV_MQTT_WIRE_SHAPE_MISMATCH"
        else if !pureRosEnvelope outer then .ok (some outer)
        else rosEnvelope reader limits outer
      | .rosMessageJson =>
        if !pureRosEnvelope outer then .error "UGV_MQTT_WIRE_SHAPE_MISMATCH"
        else rosEnvelope reader limits outer
      | .directDomainJson =>
        -- a `data` member marks an envelope
        if !directDomain outer || hasOwn "data" outer then
          .error "UGV_MQTT_WIRE_SHAPE_MISMATCH"
        else .ok (some outer)
      | .auto =>
        if hasOwn "data" outer && !pureRosEnvelope outer then
          .error "UGV_MQTT_AMBIGUOUS_WIRE_SHAPE"
        else do
          let ros ← if pureRosEnvelope outer then rosEnvelope reader limits outer else .ok none
          if ros.isSome && directDomain outer then .error "UGV_MQTT_AMBIGUOUS_WIRE_SHAPE"
          else if ros.isSome then .ok ros
          else if directDomain outer then .ok (some outer)
          else .error "UGV_MQTT_WIRE_SHAPE_MISMATCH"

end VehicleIngress

end SdarRuntime
