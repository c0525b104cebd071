import SdarRuntime.BusinessEvents.Calls
import SdarRuntime.BusinessEvents.NanoTimestamps
import SdarRuntime.Library.CanonicalJson

/-!
The events of an adapter on their way into the inbox. An event is decoded, its canonical form is
hashed, and what the database refuses is found by the statements that hand it over: any of these
may throw, and then nothing of the event is kept.
-/

namespace SdarRuntime

namespace BusinessEvents

/-- `google.protobuf.Value`; a number as it is printed, finite or not. -/
inductive ProtoValue where
  | nullValue
  | numberValue (text : String)
  | stringValue (text : String)
  | boolValue (value : Bool)
  | listValue (values : List ProtoValue)
  | structValue (fields : List (String × ProtoValue))
  | unset

mutual
def protoValueToJson : ProtoValue → Json
  | .nullValue => .null
  | .numberValue text => .num text
  | .stringValue text => .str text
  | .boolValue value => .bool value
  | .listValue values => .arr (protoValuesToJson values)
  | .structValue fields => .obj (protoFieldsToJson fields)
  | .unset => .obj []

def protoValuesToJson : List ProtoValue → List Json
  | [] => []
  | value :: rest => protoValueToJson value :: protoValuesToJson rest

def protoFieldsToJson : List (String × ProtoValue) → List (String × Json)
  | [] => []
  | (key, value) :: rest => (key, protoValueToJson value) :: protoFieldsToJson rest
end

/-- `AdapterBusinessEvent`, with any contents its fields may have. -/
structure AdapterEvent where
  sourceEventId : String
  sourceSequence : Nat
  sourceStreamId : String
  scope : String
  occurredAt : Option ProtoTimestamp
  eventType : String
  description : String
  externalExecutionId : Option String
  resourceRef : Option String
  severityHint : String
  reasonCode : String
  rawPayload : Option (List (String × ProtoValue))

def FactScope.ofText (text : String) : FactScope :=
  if text = "task" then .task else if text = "resource" then .resource else .other text

def AdapterEvent.payload (event : AdapterEvent) : Json :=
  .obj (protoFieldsToJson (event.rawPayload.getD []))

def AdapterEvent.fact (event : AdapterEvent) (occurredAt : String) : SourceFact :=
  { sourceEventId := event.sourceEventId
    sourceSequence := event.sourceSequence
    sourceStreamId := event.sourceStreamId
    scope := .ofText event.scope
    occurredAt := occurredAt
    eventType := event.eventType
    description := event.description
    externalExecutionId := event.externalExecutionId.filter fun text => text ≠ ""
    resourceRef := event.resourceRef.filter fun text => text ≠ ""
    severityHint := if event.severityHint = "" then none else some event.severityHint
    reasonCode := if event.reasonCode = "" then none else some event.reasonCode
    rawPayload := some event.payload }

def normalizeAdapterEvent (event : AdapterEvent) : Except String SourceFact := do
  let occurredAt ← timestampToRfc3339Nano event.occurredAt
  return event.fact occurredAt

section

variable (normalize : String → String)

mutual
/-- Texts and keys in one normal form; keys that are then the same are an error. -/
def normalizeUnicode : Json → Except String Json
  | .str text => .ok (.str (normalize text))
  | .arr items => do
    let normalized ← normalizeItems items
    return .arr normalized
  | .obj fields => do
    let result ← normalizeFields [] fields
    return .obj result
  | value => .ok value

def normalizeItems : List Json → Except String (List Json)
  | [] => .ok []
  | item :: rest => do
    let normalized ← normalizeUnicode item
    let others ← normalizeItems rest
    return normalized :: others

/-- A member of the one special name sets the prototype of the result, which adds no member. -/
def normalizeFields (result : List (String × Json)) :
    List (String × Json) → Except String (List (String × Json))
  | [] => .ok result
  | (key, child) :: rest =>
    if result.any (fun member => member.1 == normalize key) then
      .error "BUSINESS_EVENT_UNICODE_KEY_COLLISION"
    else do
      let normalized ← normalizeUnicode child
      normalizeFields (if normalize key = "__proto__" then result
        else result ++ [(normalize key, normalized)]) rest
end

mutual
/-- No two keys of an object have one normal form, the special name apart. -/
def apart : Json → Bool
  | .arr items => apartItems items
  | .obj fields =>
    decide ((fields.map fun field => normalize field.1).filter (· ≠ "__proto__")).Nodup &&
      apartFields fields
  | _ => true

def apartItems : List Json → Bool
  | [] => true
  | item :: rest => apart item && apartItems rest

def apartFields : List (String × Json) → Bool
  | [] => true
  | (_, value) :: rest => apart value && apartFields rest
end

mutual
def composed : Json → Json
  | .str text => .str (normalize text)
  | .arr items => .arr (composedItems items)
  | .obj fields => .obj (composedFields fields)
  | value => value

def composedItems : List Json → List Json
  | [] => []
  | item :: rest => composed item :: composedItems rest

def composedFields : List (String × Json) → List (String × Json)
  | [] => []
  | (key, value) :: rest => (normalize key, composed value) :: composedFields rest
end

end

mutual
def withoutPrototypes : Json → Json
  | .arr items => .arr (withoutPrototypesItems items)
  | .obj fields => .obj (withoutPrototypesFields fields)
  | value => value

def withoutPrototypesItems : List Json → List Json
  | [] => []
  | item :: rest => withoutPrototypes item :: withoutPrototypesItems rest

def withoutPrototypesFields : List (String × Json) → List (String × Json)
  | [] => []
  | (key, value) :: rest =>
    if key = "__proto__" then withoutPrototypesFields rest
    else (key, withoutPrototypes value) :: withoutPrototypesFields rest
end

def serialize (value : Json) : Except String String :=
  if value.finite then .ok (Json.canonicalize value)
  else .error "BUSINESS_EVENT_CANONICAL_NUMBER_INVALID"

def canonicalJson (normalize : String → String) (value : Json) : Except String String := do
  let normalized ← normalizeUnicode normalize value
  serialize normalized

/-- What is outside of the events: the normal form of texts, the hashes, whether the index of the
inbox takes an event id, and whether the recorder of provider operations, if there is one, takes
the audit of an event. -/
structure Platform where
  providerId : String
  normalize : String → String
  sha256 : String → String
  businessEventId : String → String → String → String → String
  parsesTaskBusinessFeedbackBody : Json → Bool
  indexes : String → Bool
  audits : AdapterEvent → Bool

def Platform.canonicalSha256 (platform : Platform) (value : Json) : Except String String := do
  let text ← canonicalJson platform.normalize value
  return "sha256:" ++ platform.sha256 text

def Platform.environment (platform : Platform) : Environment :=
  { providerId := platform.providerId
    canonicalSha256 := platform.canonicalSha256
    businessEventId := platform.businessEventId
    normalizeRfc3339Nano := normalizeRfc3339Nano
    parsesTaskBusinessFeedbackBody := platform.parsesTaskBusinessFeedbackBody }

def storable (text : String) : Bool := text.toList.all fun char => char != '\x00'

mutual
def storableJson : Json → Bool
  | .str text => storable text
  | .arr items => storableItems items
  | .obj fields => storableFields fields
  | _ => true

def storableItems : List Json → Bool
  | [] => true
  | item :: rest => storableJson item && storableItems rest

def storableFields : List (String × Json) → Bool
  | [] => true
  | (key, value) :: rest => storable key && storableJson value && storableFields rest
end

def AdapterEvent.storable (event : AdapterEvent) : Bool :=
  [event.sourceEventId, event.scope, event.eventType, event.description,
    event.externalExecutionId.getD "", event.resourceRef.getD "", event.severityHint,
    event.reasonCode].all BusinessEvents.storable && storableJson event.payload

/-- The statements and the audit of an intake with this answer fail. -/
def Platform.refuses (platform : Platform) (lease : Lease) (event : AdapterEvent) :
    IntakeResult → Bool
  | .duplicate _ => !storable event.sourceEventId
  | .refused _ => !platform.audits event ||
      (event.sourceStreamId == lease.sourceStreamId && !storable event.sourceEventId)
  | _ => !event.storable || !platform.indexes event.sourceEventId || !platform.audits event

/-- An event is processed. What the database refuses is asked for behind the statements, since the
transaction undoes them all. -/
def processEvent (platform : Platform) (readings : Readings) (lease : Lease) (event : AdapterEvent)
    (mappingDeadlineMs : Nat) : Tx IntakeResult := do
  let fact ← ofExcept (normalizeAdapterEvent event)
  let answer ← intakeSourceFact platform.environment readings lease fact mappingDeadlineMs
  Transaction.when (platform.refuses lease event answer = true) (Transaction.abort "22021")
  return answer

end BusinessEvents

end SdarRuntime
