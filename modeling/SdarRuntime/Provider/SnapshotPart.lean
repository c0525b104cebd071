import SdarRuntime.Library.JsonText
import SdarRuntime.Library.Utf8
import SdarRuntime.Provider.Sample

/-!
A stored value in parts. The adapter cuts the bytes of its JSON text at the offsets a reader asks
for; the Runtime checks every part it gets, follows the offsets, and takes the value only from
bytes of the announced length and hash.
-/

namespace SdarRuntime.Business

open JsonText (Value)

open Except DecimalText Sample

/-- `Number.MAX_SAFE_INTEGER` -/
def maxSafeInteger : Nat := 9007199254740991

def maxPartBytes : Nat := 1048576

/-- Numbers and hashes of the engine. A hash is written in 64 hexadecimal digits. -/
structure Engine (ν : Type) where
  format : JsonText.NumberFormat ν
  sha256 : List UInt8 → String
  hex : ∀ bytes, isSha256 (sha256 bytes) = true

namespace Engine

variable {ν : Type} (engine : Engine ν)

/-- `Buffer.from(JSON.stringify(value))` -/
def bytesOf (value : Value ν) : List UInt8 :=
  Utf8.encode (JsonText.stringify engine.format value)

def parseJsonBytes (bytes : List UInt8) : Except String (Value ν) :=
  match JsonText.parse engine.format (Utf8.decode bytes) with
  | some value => .ok value
  | none => .error "BUSINESS_SNAPSHOT_PART_INVALID"

end Engine

/-- The values of stored records: JSON whose text the engine can hold. -/
structure StoredValues {ν : Type} (engine : Engine ν) where
  context : TaskBusinessContext → Value ν
  object : BusinessObjectVersion → Value ν
  plainContext : ∀ record, JsonText.Plain engine.format (context record)
  plainObject : ∀ record, JsonText.Plain engine.format (object record)
  shortContext : ∀ record, (engine.bytesOf (context record)).length ≤ maxSafeInteger
  shortObject : ∀ record, (engine.bytesOf (object record)).length ≤ maxSafeInteger

structure BusinessSnapshotPartSelector where
  contextRevision : Nat
  objectRef : Option BusinessObjectRef
  offset : Nat
  maxBytes : Nat

structure SnapshotPart where
  jsonBytes : List UInt8
  totalBytes : Nat
  sha256 : String
  nextOffset : Option Nat

structure BusinessSnapshotPartResponse where
  jsonBytes : List UInt8
  totalBytes : String
  sha256 : String
  nextOffset : Option String

def SnapshotPart.toResponse (part : SnapshotPart) : BusinessSnapshotPartResponse where
  jsonBytes := part.jsonBytes
  totalBytes := toString part.totalBytes
  sha256 := part.sha256
  nextOffset := part.nextOffset.map toString

section Adapter

variable {ν : Type} {engine : Engine ν} (values : StoredValues engine) (store : SnapshotStore)
  (scope : BoundExecutionScope)

/-- The value a selector is for: the Context, or a version the Context lists. -/
def selectedValue (context : TaskBusinessContext) (objectRef : Option BusinessObjectRef) :
    Except String (Value ν) :=
  match objectRef with
  | none => pure (values.context context)
  | some ref => do
    refuse (ref.valid = false) "BUSINESS_SNAPSHOT_PART_INVALID"
    refuse (ref ∉ contextObjectRefs context) "BUSINESS_SNAPSHOT_REF_NOT_ACTIVE"
    match ← store.getObjectVersion scope ref with
    | none => throw "BUSINESS_SNAPSHOT_REF_NOT_FOUND"
    | some version => pure (values.object version)

def partFrom (engine : Engine ν) (bytes : List UInt8) (offset maxBytes : Nat) : SnapshotPart :=
  let last := min (offset + maxBytes) bytes.length
  { jsonBytes := (bytes.take last).drop offset
    totalBytes := bytes.length
    sha256 := engine.sha256 bytes
    nextOffset := if last < bytes.length then some last else none }

def getBusinessSnapshotPart (selector : BusinessSnapshotPartSelector) :
    Except String SnapshotPart := do
  refuse (maxSafeInteger < selector.contextRevision ∨ maxSafeInteger < selector.offset ∨
    selector.maxBytes < 1 ∨ maxPartBytes < selector.maxBytes) "BUSINESS_SNAPSHOT_PART_INVALID"
  match ← store.getContext scope with
  | none => throw "BUSINESS_SNAPSHOT_REVISION_CHANGED"
  | some context => do
    refuse (context.contextRevision ≠ selector.contextRevision)
      "BUSINESS_SNAPSHOT_REVISION_CHANGED"
    let value ← selectedValue values store scope context selector.objectRef
    let bytes := engine.bytesOf value
    refuse (bytes.length < selector.offset) "BUSINESS_SNAPSHOT_OFFSET_AHEAD"
    let latest ← store.getContext scope
    refuse (latest.map TaskBusinessContext.contextRevision ≠
      some selector.contextRevision) "BUSINESS_SNAPSHOT_REVISION_CHANGED"
    pure (partFrom engine bytes selector.offset selector.maxBytes)

inductive PartRun where
  | complete (parts : List BusinessSnapshotPartResponse)
  | unfinished (parts : List BusinessSnapshotPartResponse)

/-- Request the part at an offset, then the one its `nextOffset` names, for at most the given
number of requests. -/
def followOffsets (contextRevision : Nat) (objectRef : Option BusinessObjectRef)
    (maxBytes : Nat) : Nat → Nat → Except String PartRun
  | 0, _ => pure (.unfinished [])
  | requests + 1, offset => do
    let part ← getBusinessSnapshotPart values store scope {
      contextRevision := contextRevision
      objectRef := objectRef
      offset := offset
      maxBytes := maxBytes }
    let response := part.toResponse
    match response.nextOffset with
    | none => pure (.complete [response])
    | some next =>
      match ← followOffsets contextRevision objectRef maxBytes requests
          (DecimalText.value next.toList) with
      | .complete parts => pure (.complete (response :: parts))
      | .unfinished parts => pure (.unfinished (response :: parts))

end Adapter

/-- `^[1-9][0-9]*$` -/
def positivePattern (text : String) : Bool :=
  match text.toList with
  | [] => false
  | first :: rest => first.isDigit && first != '0' && rest.all Char.isDigit

structure PartExtent where
  totalBytes : Nat
  last : Nat

section Runtime

variable {ν : Type} (engine : Engine ν)

def validateSnapshotPart (response : BusinessSnapshotPartResponse) (offset maxBytes : Nat) :
    Except String PartExtent := do
  refuse (maxBytes < response.jsonBytes.length ∨
    positivePattern response.totalBytes = false ∨ isSha256 response.sha256 = false)
    "BUSINESS_SNAPSHOT_PART_INVALID"
  let totalBytes := DecimalText.value response.totalBytes.toList
  let last := offset + response.jsonBytes.length
  refuse (maxSafeInteger < totalBytes ∨ maxSafeInteger < last ∨ totalBytes < last ∨
    (last < totalBytes ∧
      (response.jsonBytes.length = 0 ∨ response.nextOffset ≠ some (toString last))) ∨
    (last = totalBytes ∧ response.nextOffset ≠ none))
    "BUSINESS_SNAPSHOT_PART_INVALID"
  refuse (offset = 0 ∧ last = totalBytes ∧
    engine.sha256 response.jsonBytes ≠ response.sha256) "BUSINESS_SNAPSHOT_PART_INVALID"
  pure {
    totalBytes := totalBytes
    last := last }

/-- An adapter as the Runtime meets it: its answer to the request for an offset may depend on
how many requests came before. -/
abbrev Adapter := Nat → Nat → Except String BusinessSnapshotPartResponse

def takePart (adapter : Adapter) (sizeBytes asked offset : Nat) (expectedSha : Option String) :
    Except String (BusinessSnapshotPartResponse × PartExtent) := do
  let response ← adapter asked offset
  let part ← validateSnapshotPart engine response offset maxPartBytes
  refuse (part.totalBytes ≠ sizeBytes ∨
    (expectedSha ≠ none ∧ expectedSha ≠ some response.sha256))
    "BUSINESS_SNAPSHOT_DESCRIPTOR_INVALID"
  pure (response, part)

/-- The chunks of a value and the hash announced with them; `none` when the requests allowed
are used up. -/
def readChunks (adapter : Adapter) (sizeBytes : Nat) :
    Nat → Nat → Nat → Option String → List (List UInt8) →
      Option (Except String (List (List UInt8) × String))
  | 0, _, _, _, _ => none
  | requests + 1, asked, offset, expectedSha, chunks =>
    match takePart engine adapter sizeBytes asked offset expectedSha with
    | .error reason => some (.error reason)
    | .ok (response, part) =>
      if part.last = part.totalBytes then
        some (.ok (chunks ++ [response.jsonBytes], response.sha256))
      else
        readChunks adapter sizeBytes requests (asked + 1) part.last (some response.sha256)
          (chunks ++ [response.jsonBytes])

def descriptorSize (descriptor : Json) (revision : Nat) : Except String Nat :=
  match (descriptor.field? "sizeBytes").bind natural? with
  | none => throw "BUSINESS_SNAPSHOT_DESCRIPTOR_INVALID"
  | some sizeBytes => do
    refuse ((descriptor.field? "revision").bind natural? ≠ some revision ∨
      maxSafeInteger < sizeBytes ∨ sizeBytes < 1 ∨
      (descriptor.field? "readMethod").bind Json.text? ≠ some "getContext")
      "BUSINESS_SNAPSHOT_DESCRIPTOR_INVALID"
    pure sizeBytes

def valueOfChunks (chunks : List (List UInt8)) (expectedSha : String) :
    Except String (Value ν) := do
  refuse (engine.sha256 chunks.flatten ≠ expectedSha) "BUSINESS_SNAPSHOT_DESCRIPTOR_INVALID"
  engine.parseJsonBytes chunks.flatten

def readDescriptorContext (adapter : Adapter) (descriptor : Json) (revision requests : Nat) :
    Option (Except String (Value ν)) :=
  match descriptorSize descriptor revision with
  | .error reason => some (.error reason)
  | .ok sizeBytes =>
    (readChunks engine adapter sizeBytes requests 0 0 none []).map fun read =>
      read >>= fun chunks => valueOfChunks engine chunks.1 chunks.2

end Runtime

section Accepted

variable {ν : Type} {engine : Engine ν}

structure PartValid (engine : Engine ν) (response : BusinessSnapshotPartResponse)
    (offset maxBytes : Nat) (extent : PartExtent) : Prop where
  size : response.jsonBytes.length ≤ maxBytes
  digits : positivePattern response.totalBytes = true
  hash : isSha256 response.sha256 = true
  total : extent.totalBytes = DecimalText.value response.totalBytes.toList
  last : extent.last = offset + response.jsonBytes.length
  safe : extent.totalBytes ≤ maxSafeInteger
  inside : extent.last ≤ extent.totalBytes
  goesOn : extent.last < extent.totalBytes →
    response.jsonBytes.length ≠ 0 ∧ response.nextOffset = some (toString extent.last)
  ends : extent.last = extent.totalBytes → response.nextOffset = none
  whole : offset = 0 → extent.last = extent.totalBytes →
    engine.sha256 response.jsonBytes = response.sha256

theorem validateSnapshotPart_eq_ok {response : BusinessSnapshotPartResponse}
    {offset maxBytes : Nat} {extent : PartExtent} :
    validateSnapshotPart engine response offset maxBytes = .ok extent ↔
      PartValid engine response offset maxBytes extent := by
  simp only [validateSnapshotPart, bind_eq_ok, refuse_eq_ok, pure_eq_ok,
    not_or, not_and, not_lt, Bool.not_eq_false, ne_eq, Decidable.not_not]
  constructor
  · intro accepted
    obtain ⟨_, ⟨size, digits, hash⟩, _, ⟨safe, _, inside, goesOn, ends⟩, _, whole, same⟩ := accepted
    rw [← same]
    exact {
      size := size
      digits := digits
      hash := hash
      total := rfl
      last := rfl
      safe := safe
      inside := inside
      goesOn := goesOn
      ends := ends
      whole := whole }
  · intro valid
    have inside := valid.inside
    have safe := valid.safe
    have goesOn := valid.goesOn
    have ends := valid.ends
    have whole := valid.whole
    rw [valid.total, valid.last] at inside goesOn ends whole
    rw [valid.total] at safe
    refine ⟨⟨⟩, ⟨valid.size, valid.digits, valid.hash⟩, ⟨⟩,
      ⟨safe, inside.trans safe, inside, goesOn, ends⟩, ⟨⟩, whole, ?_⟩
    rw [← valid.total, ← valid.last]

end Accepted

theorem positivePattern_toString {number : Nat} (positive : 0 < number) :
    positivePattern (toString number) = true := by
  obtain ⟨first, rest, written, notZero⟩ := head_toDigits positive
  have digits := isDigits_toDigits number
  unfold positivePattern
  rw [Nat.toString_eq_ofList_toDigits, String.toList_ofList, written]
  rw [written] at digits
  simp only [Bool.and_eq_true, bne_iff_ne, List.all_eq_true]
  exact ⟨⟨digits first List.mem_cons_self, notZero⟩,
    fun char member => digits char (List.mem_cons_of_mem first member)⟩

theorem mem_contextObjectRefs_valid {context : TaskBusinessContext} {ref : BusinessObjectRef}
    (isValid : context.valid = true) (listed : ref ∈ contextObjectRefs context) :
    ref.valid = true := by
  simp only [TaskBusinessContext.valid, ActiveRefs.valid, refsOfKind, Bool.and_eq_true,
    List.all_eq_true] at isValid
  obtain ⟨⟨⟨⟨⟨_, active⟩, artifacts⟩, actions⟩, inputs⟩, interventions⟩ := isValid
  rcases mem_contextObjectRefs.mp listed with inLists | isActive
  · simp only [TaskBusinessContext.listedRefs, List.mem_append] at inLists
    rcases inLists with ((isArtifact | isAction) | isInput) | isIntervention
    · exact (artifacts ref isArtifact).1
    · exact (actions ref isAction).1
    · exact (inputs ref isInput).1
    · exact (interventions ref isIntervention).1
  · obtain ⟨entry, member, isRef⟩ := List.mem_map.mp isActive
    rw [← isRef]
    exact (active entry member).2

section Honest

variable {ν : Type} {engine : Engine ν}

variable {value : Value ν}

theorem bytesOf_ne_nil (plain : JsonText.Plain engine.format value) :
    0 < (engine.bytesOf value).length := by
  obtain ⟨first, rest, written, _, _⟩ := JsonText.head_stringify engine.format plain
  have some_ : Utf8.encodeChar first ≠ [] := by
    unfold Utf8.encodeChar
    dsimp only
    split
    · exact List.cons_ne_nil _ _
    split
    · exact List.cons_ne_nil _ _
    split
    · exact List.cons_ne_nil _ _
    · exact List.cons_ne_nil _ _
  unfold Engine.bytesOf Utf8.encode
  rw [written, List.flatMap_cons, List.length_append]
  have positive := List.length_pos_of_ne_nil some_
  omega

theorem parseJsonBytes_bytesOf (plain : JsonText.Plain engine.format value) :
    engine.parseJsonBytes (engine.bytesOf value) = .ok value := by
  unfold Engine.parseJsonBytes Engine.bytesOf
  rw [Utf8.decode_encode, JsonText.parse_stringify engine.format plain]

variable {bytes : List UInt8} {offset maxBytes : Nat}

theorem length_partFrom :
    (partFrom engine bytes offset maxBytes).jsonBytes.length =
      min (offset + maxBytes) bytes.length - offset := by
  change ((bytes.take (min (offset + maxBytes) bytes.length)).drop offset).length = _
  rw [List.length_drop, List.length_take, Nat.min_eq_left (Nat.min_le_right _ _)]

theorem partFrom_valid (positive : 0 < bytes.length) (safe : bytes.length ≤ maxSafeInteger)
    (inside : offset ≤ bytes.length) (asked : 0 < maxBytes) :
    PartValid engine (partFrom engine bytes offset maxBytes).toResponse offset maxBytes {
      totalBytes := bytes.length
      last := min (offset + maxBytes) bytes.length } where
  size := by
    change (partFrom engine bytes offset maxBytes).jsonBytes.length ≤ maxBytes
    rw [length_partFrom]
    omega
  digits := positivePattern_toString positive
  hash := engine.hex bytes
  total := (value_toString bytes.length).symm
  last := by
    change min (offset + maxBytes) bytes.length =
      offset + (partFrom engine bytes offset maxBytes).jsonBytes.length
    rw [length_partFrom]
    omega
  safe := safe
  inside := Nat.min_le_right _ _
  goesOn := by
    intro before
    constructor
    · change (partFrom engine bytes offset maxBytes).jsonBytes.length ≠ 0
      rw [length_partFrom]
      dsimp only at before
      omega
    · change (if min (offset + maxBytes) bytes.length < bytes.length then
        some (min (offset + maxBytes) bytes.length) else none).map toString = _
      rw [if_pos before]
      rfl
  ends := by
    intro last
    change (if min (offset + maxBytes) bytes.length < bytes.length then
      some (min (offset + maxBytes) bytes.length) else none).map toString = _
    rw [if_neg (by dsimp only at last; omega)]
    rfl
  whole := by
    intro start last
    have all : (partFrom engine bytes offset maxBytes).jsonBytes = bytes := by
      change (bytes.take (min (offset + maxBytes) bytes.length)).drop offset = bytes
      dsimp only at last
      rw [last, start, List.take_length, List.drop_zero]
    change engine.sha256 (partFrom engine bytes offset maxBytes).jsonBytes = engine.sha256 bytes
    rw [all]

/-- The parts of a run, each valid at the offset where the ones before it end. -/
def ValidFrom (engine : Engine ν) (maxBytes : Nat) :
    Nat → List BusinessSnapshotPartResponse → Prop
  | _, [] => True
  | offset, part :: rest =>
    (∃ extent, validateSnapshotPart engine part offset maxBytes = .ok extent) ∧
      ValidFrom engine maxBytes (offset + part.jsonBytes.length) rest

variable {values : StoredValues engine} {store : SnapshotStore} {scope : BoundExecutionScope}
  {context : TaskBusinessContext} {objectRef : Option BusinessObjectRef} {value : Value ν}

theorem getBusinessSnapshotPart_found (found : store.getContext scope = .ok (some context))
    (revision : context.contextRevision ≤ maxSafeInteger)
    (selected : selectedValue values store scope context objectRef = .ok value)
    (isBytes : engine.bytesOf value = bytes) (safe : bytes.length ≤ maxSafeInteger)
    (inside : offset ≤ bytes.length) (positive : 1 ≤ maxBytes) (bounded : maxBytes ≤ maxPartBytes) :
    getBusinessSnapshotPart values store scope {
      contextRevision := context.contextRevision
      objectRef := objectRef
      offset := offset
      maxBytes := maxBytes } = .ok (partFrom engine bytes offset maxBytes) := by
  have inRange : ¬ (maxSafeInteger < context.contextRevision ∨ maxSafeInteger < offset ∨
      maxBytes < 1 ∨ maxPartBytes < maxBytes) := by
    omega
  rw [← isBytes] at inside ⊢
  simp only [getBusinessSnapshotPart, bind_eq_ok, refuse_eq_ok]
  refine ⟨⟨⟩, inRange, some context, found, ?_⟩
  simp only [bind_eq_ok, refuse_eq_ok, pure_eq_ok]
  exact ⟨⟨⟩, not_not_intro rfl, value, selected, ⟨⟩, Nat.not_lt.mpr inside, some context, found,
    ⟨⟩, not_not_intro rfl, rfl⟩

variable {last : Nat}

theorem nextOffset_partFrom (engine : Engine ν)
    (isLast : min (offset + maxBytes) bytes.length = last) :
    (partFrom engine bytes offset maxBytes).toResponse.nextOffset =
      if last < bytes.length then some (toString last) else none := by
  change (if min (offset + maxBytes) bytes.length < bytes.length then
    some (min (offset + maxBytes) bytes.length) else none).map toString = _
  rw [isLast]
  split
  · rfl
  · rfl

theorem jsonBytes_partFrom (engine : Engine ν)
    (isLast : min (offset + maxBytes) bytes.length = last) :
    (partFrom engine bytes offset maxBytes).toResponse.jsonBytes = (bytes.take last).drop offset := by
  rw [← isLast]
  rfl

theorem followOffsets_from (found : store.getContext scope = .ok (some context))
    (revision : context.contextRevision ≤ maxSafeInteger)
    (selected : selectedValue values store scope context objectRef = .ok value)
    (isBytes : engine.bytesOf value = bytes) (safe : bytes.length ≤ maxSafeInteger)
    (positive : 1 ≤ maxBytes) (bounded : maxBytes ≤ maxPartBytes) {requests : Nat}
    (inside : offset < bytes.length) (enough : bytes.length ≤ offset + requests) :
    ∃ parts, (∀ more, followOffsets values store scope context.contextRevision objectRef maxBytes
        (requests + more) offset = .ok (.complete parts)) ∧
      ValidFrom engine maxBytes offset parts ∧
      parts.flatMap BusinessSnapshotPartResponse.jsonBytes = bytes.drop offset ∧
      ∀ part ∈ parts, part.totalBytes = toString bytes.length ∧
        part.sha256 = engine.sha256 bytes := by
  induction requests generalizing offset with
  | zero => omega
  | succ requests ih =>
    have answered := getBusinessSnapshotPart_found found revision selected isBytes safe
      (Nat.le_of_lt inside) positive bounded
    have valid : PartValid engine (partFrom engine bytes offset maxBytes).toResponse offset
        maxBytes { totalBytes := bytes.length, last := min (offset + maxBytes) bytes.length } :=
      partFrom_valid (Nat.zero_lt_of_lt inside) safe (Nat.le_of_lt inside) positive
    have accepted := validateSnapshotPart_eq_ok.mpr valid
    generalize isLast : min (offset + maxBytes) bytes.length = last at valid accepted
    have nextOffset := nextOffset_partFrom engine isLast
    have jsonBytes := jsonBytes_partFrom engine isLast
    have ends : offset + (partFrom engine bytes offset maxBytes).toResponse.jsonBytes.length =
      last := valid.last.symm
    by_cases before : last < bytes.length
    · rw [if_pos before] at nextOffset
      have further : bytes.length ≤ last + requests := by omega
      obtain ⟨parts, later, validLater, bytesLater, announced⟩ := ih before further
      refine ⟨(partFrom engine bytes offset maxBytes).toResponse :: parts, ?_, ?_, ?_, ?_⟩
      · intro more
        rw [Nat.add_right_comm, followOffsets, answered]
        simp only [bind_eq_ok]
        refine ⟨_, rfl, ?_⟩
        rw [nextOffset]
        simp only [value_toString, bind_eq_ok]
        exact ⟨_, later more, rfl⟩
      · refine ⟨⟨_, accepted⟩, ?_⟩
        rw [ends]
        exact validLater
      · have long : offset ≤ (bytes.take last).length := by
          rw [List.length_take]
          omega
        rw [List.flatMap_cons, bytesLater, jsonBytes, ← List.drop_append_of_le_length long,
          List.take_append_drop]
      · intro part member
        rcases List.mem_cons.mp member with isPart | inRest
        · rw [isPart]
          exact ⟨rfl, rfl⟩
        · exact announced part inRest
    · rw [if_neg before] at nextOffset
      refine ⟨[(partFrom engine bytes offset maxBytes).toResponse], ?_,
        ⟨⟨_, accepted⟩, trivial⟩, ?_, ?_⟩
      · intro more
        rw [Nat.add_right_comm, followOffsets, answered]
        simp only [bind_eq_ok]
        refine ⟨_, rfl, ?_⟩
        rw [nextOffset]
        rfl
      · rw [List.flatMap_singleton, jsonBytes, List.take_of_length_le (Nat.not_lt.mp before)]
      · intro part member
        rw [List.mem_singleton.mp member]
        exact ⟨rfl, rfl⟩

end Honest

section AnyAdapter

variable {ν : Type} {engine : Engine ν} {adapter : Adapter} {sizeBytes : Nat}

/-- The parts are the adapter's answers, each to the request for the offset where the ones
before it end. -/
def Answered (adapter : Adapter) : Nat → Nat → List BusinessSnapshotPartResponse → Prop
  | _, _, [] => True
  | asked, offset, part :: rest =>
    adapter asked offset = .ok part ∧
      Answered adapter (asked + 1) (offset + part.jsonBytes.length) rest

structure Taken (engine : Engine ν) (adapter : Adapter) (sizeBytes asked offset : Nat)
    (expectedSha : Option String) (response : BusinessSnapshotPartResponse) (part : PartExtent) :
    Prop where
  answer : adapter asked offset = .ok response
  valid : PartValid engine response offset maxPartBytes part
  total : part.totalBytes = sizeBytes
  sameHash : ∀ sha, expectedSha = some sha → response.sha256 = sha

variable {expectedSha : Option String}

theorem takePart_eq_ok {asked offset : Nat} {response : BusinessSnapshotPartResponse}
    {part : PartExtent} :
    takePart engine adapter sizeBytes asked offset expectedSha = .ok (response, part) ↔
      Taken engine adapter sizeBytes asked offset expectedSha response part := by
  simp only [takePart, bind_eq_ok, refuse_eq_ok, pure_eq_ok, Prod.mk.injEq,
    not_or, not_and, ne_eq, Decidable.not_not]
  constructor
  · rintro ⟨_, answer, _, valid, _, ⟨total, sameHash⟩, rfl, rfl⟩
    refine ⟨answer, validateSnapshotPart_eq_ok.mp valid, total, ?_⟩
    intro sha expected
    have same := sameHash (by rw [expected]; exact Option.some_ne_none sha)
    rw [expected] at same
    exact (Option.some.inj same).symm
  · intro taken
    refine ⟨response, taken.answer, part, validateSnapshotPart_eq_ok.mpr taken.valid, ⟨⟩,
      ⟨taken.total, ?_⟩, rfl, rfl⟩
    intro expected
    cases isSha : expectedSha with
    | none => exact absurd isSha expected
    | some sha => rw [taken.sameHash sha isSha]

/-- With enough requests the loop comes to an end, and more of them change nothing. -/
theorem readChunks_ends (engine : Engine ν) (adapter : Adapter) (requests asked : Nat)
    {offset : Nat} (expectedSha : Option String) (chunks : List (List UInt8)) (inside : offset < sizeBytes)
    (enough : sizeBytes ≤ offset + requests) :
    ∃ outcome, ∀ more, readChunks engine adapter sizeBytes (requests + more) asked offset
      expectedSha chunks = some outcome := by
  induction requests generalizing asked offset expectedSha chunks with
  | zero => omega
  | succ requests ih =>
    cases took : takePart engine adapter sizeBytes asked offset expectedSha with
    | error reason =>
      refine ⟨.error reason, ?_⟩
      intro more
      rw [Nat.add_right_comm, readChunks, took]
    | ok step =>
      obtain ⟨response, part⟩ := step
      have taken := takePart_eq_ok.mp took
      by_cases last : part.last = part.totalBytes
      · refine ⟨.ok (chunks ++ [response.jsonBytes], response.sha256), ?_⟩
        intro more
        rw [Nat.add_right_comm, readChunks, took]
        exact if_pos last
      · -- A part that is not the last one has bytes.
        have total := taken.total
        have isLast := taken.valid.last
        have within := taken.valid.inside
        have notEmpty := (taken.valid.goesOn (Nat.lt_of_le_of_ne within last)).1
        have notDone : part.last < sizeBytes := by omega
        have further : sizeBytes ≤ part.last + requests := by omega
        obtain ⟨outcome, ends⟩ := ih (asked + 1) (some response.sha256)
          (chunks ++ [response.jsonBytes]) notDone further
        refine ⟨outcome, ?_⟩
        intro more
        rw [Nat.add_right_comm, readChunks, took]
        exact (if_neg last).trans (ends more)

/-- What the loop returns are the adapter's answers, of the announced size and one hash. -/
theorem readChunks_sound {requests asked offset : Nat} {chunks : List (List UInt8)}
    {read : List (List UInt8)} {sha : String}
    (returned : readChunks engine adapter sizeBytes requests asked offset expectedSha chunks =
      some (.ok (read, sha))) :
    ∃ parts, Answered adapter asked offset parts ∧ parts ≠ [] ∧
      read = chunks ++ parts.map BusinessSnapshotPartResponse.jsonBytes ∧
      offset + (parts.flatMap BusinessSnapshotPartResponse.jsonBytes).length = sizeBytes ∧
      (∀ part ∈ parts, part.sha256 = sha) ∧ ∀ other, expectedSha = some other → sha = other := by
  induction requests generalizing asked offset expectedSha chunks with
  | zero => cases returned
  | succ requests ih =>
    cases took : takePart engine adapter sizeBytes asked offset expectedSha with
    | error reason =>
      rw [readChunks, took] at returned
      cases returned
    | ok step =>
      obtain ⟨response, part⟩ := step
      have taken := takePart_eq_ok.mp took
      have total := taken.total
      have isLast := taken.valid.last
      rw [readChunks, took] at returned
      by_cases last : part.last = part.totalBytes
      · have isRead : (chunks ++ [response.jsonBytes], response.sha256) = (read, sha) :=
          Except.ok.inj (Option.some.inj ((if_pos last).symm.trans returned))
        obtain ⟨rfl, rfl⟩ := Prod.mk.inj isRead
        refine ⟨[response], ⟨taken.answer, trivial⟩, List.cons_ne_nil _ _, rfl, ?_, ?_,
          taken.sameHash⟩
        · rw [List.flatMap_singleton]
          omega
        · intro other member
          rw [List.mem_singleton.mp member]
      · obtain ⟨parts, answered, _, isRead, size, hashes, sameHash⟩ :=
          ih ((if_neg last).symm.trans returned)
        have isSha := sameHash response.sha256 rfl
        refine ⟨response :: parts, ⟨taken.answer, ?_⟩, List.cons_ne_nil _ _, ?_, ?_, ?_, ?_⟩
        · rw [← isLast]
          exact answered
        · rw [isRead, List.append_assoc]
          rfl
        · rw [List.flatMap_cons, List.length_append]
          omega
        · intro other member
          rcases List.mem_cons.mp member with isResponse | inRest
          · rw [isResponse, isSha]
          · exact hashes other inRest
        · intro other expected
          rw [isSha]
          exact taken.sameHash other expected

theorem descriptorSize_positive {descriptor : Json} {revision : Nat}
    (announced : descriptorSize descriptor revision = .ok sizeBytes) : 0 < sizeBytes := by
  unfold descriptorSize at announced
  split at announced
  · cases announced
  · simp only [bind_eq_ok, refuse_eq_ok, pure_eq_ok, not_or] at announced
    obtain ⟨_, ⟨_, _, positive, _⟩, same⟩ := announced
    omega

/-- The whole reading ends for every adapter, and gives only values of the announced bytes. -/
theorem readDescriptorContext_total (engine : Engine ν) (adapter : Adapter) (descriptor : Json)
    (revision : Nat) :
    ∃ outcome : Except String (Value ν),
      (∃ requests, ∀ more, readDescriptorContext engine adapter descriptor revision
        (requests + more) = some outcome) ∧
      ∀ value, outcome = .ok value →
        ∃ sizeBytes parts, descriptorSize descriptor revision = .ok sizeBytes ∧
          Answered adapter 0 0 parts ∧ parts ≠ [] ∧
          (parts.flatMap BusinessSnapshotPartResponse.jsonBytes).length = sizeBytes ∧
          (∀ part ∈ parts, part.sha256 =
            engine.sha256 (parts.flatMap BusinessSnapshotPartResponse.jsonBytes)) ∧
          engine.parseJsonBytes (parts.flatMap BusinessSnapshotPartResponse.jsonBytes) =
            .ok value := by
  unfold readDescriptorContext
  cases announced : descriptorSize descriptor revision with
  | error reason =>
    refine ⟨.error reason, ⟨0, fun _ => rfl⟩, ?_⟩
    intro value impossible
    cases impossible
  | ok sizeBytes =>
    have positive := descriptorSize_positive announced
    obtain ⟨read, ends⟩ := readChunks_ends engine adapter sizeBytes 0 none [] positive
      (Nat.le_add_left _ _)
    refine ⟨read >>= fun chunks => valueOfChunks engine chunks.1 chunks.2,
      ⟨sizeBytes, fun more => ?_⟩, ?_⟩
    · dsimp only
      rw [ends more]
      rfl
    · intro value isValue
      obtain ⟨⟨chunks, sha⟩, isRead, ofChunks⟩ := bind_eq_ok.mp isValue
      have returned := ends 0
      rw [isRead] at returned
      obtain ⟨parts, answered, notEmpty, isChunks, size, hashes, _⟩ := readChunks_sound returned
      have bytes : chunks.flatten = parts.flatMap BusinessSnapshotPartResponse.jsonBytes := by
        rw [isChunks, List.nil_append]
        rfl
      simp only [valueOfChunks, bind_eq_ok, refuse_eq_ok, ne_eq,
        Decidable.not_not] at ofChunks
      obtain ⟨_, isSha, parsed⟩ := ofChunks
      rw [bytes] at isSha parsed
      refine ⟨sizeBytes, parts, rfl, answered, notEmpty, by omega, ?_, parsed⟩
      intro part member
      rw [hashes part member, isSha]

end AnyAdapter

section Both

variable {ν : Type}

/-- A stored value: the Context, or the stored version of a reference it lists. -/
inductive IsStored {engine : Engine ν} (values : StoredValues engine) (store : SnapshotStore)
    (scope : BoundExecutionScope) (context : TaskBusinessContext) :
    Option BusinessObjectRef → Value ν → Prop where
  | context : IsStored values store scope context none (values.context context)
  | object {ref : BusinessObjectRef} {version : BusinessObjectVersion}
      (listed : ref ∈ contextObjectRefs context)
      (found : store.getObjectVersion scope ref = .ok (some version)) :
      IsStored values store scope context (some ref) (values.object version)

theorem IsStored.selected {engine : Engine ν} {values : StoredValues engine}
    {store : SnapshotStore} {scope : BoundExecutionScope} {context : TaskBusinessContext}
    {objectRef : Option BusinessObjectRef} {value : Value ν} (isValid : context.valid = true)
    (stored : IsStored values store scope context objectRef value) :
    selectedValue values store scope context objectRef = .ok value ∧
      JsonText.Plain engine.format value ∧ (engine.bytesOf value).length ≤ maxSafeInteger := by
  cases stored with
  | context => exact ⟨rfl, values.plainContext context, values.shortContext context⟩
  | @object ref version listed found =>
    refine ⟨?_, values.plainObject version, values.shortObject version⟩
    simp only [selectedValue, bind_eq_ok, refuse_eq_ok, Bool.not_eq_false]
    exact ⟨⟨⟩, mem_contextObjectRefs_valid isValid listed, ⟨⟩, not_not_intro listed,
      some version, found, rfl⟩

/-- The offsets of a stored value lead through parts the Runtime accepts to its whole text. And
whatever an adapter answers, the Runtime comes to an end, and takes a value only from bytes of
the size and the hash that were announced. -/
theorem snapshot_parts (engine : Engine ν) :
    (∀ (values : StoredValues engine) (store : SnapshotStore) (scope : BoundExecutionScope)
      (context : TaskBusinessContext) (objectRef : Option BusinessObjectRef) (value : Value ν)
      (maxBytes : Nat), store.getContext scope = .ok (some context) → context.valid = true →
      context.contextRevision ≤ maxSafeInteger →
      IsStored values store scope context objectRef value →
      1 ≤ maxBytes → maxBytes ≤ maxPartBytes →
      ∃ parts, (∃ requests, ∀ more, followOffsets values store scope context.contextRevision
          objectRef maxBytes (requests + more) 0 = .ok (.complete parts)) ∧
        ValidFrom engine maxBytes 0 parts ∧
        (∀ part ∈ parts, DecimalText.value part.totalBytes.toList =
            (parts.flatMap BusinessSnapshotPartResponse.jsonBytes).length ∧
          part.sha256 =
            engine.sha256 (parts.flatMap BusinessSnapshotPartResponse.jsonBytes)) ∧
        engine.parseJsonBytes (parts.flatMap BusinessSnapshotPartResponse.jsonBytes) =
          .ok value) ∧
    ∀ (adapter : Adapter) (descriptor : Json) (revision : Nat),
      ∃ outcome : Except String (Value ν),
        (∃ requests, ∀ more, readDescriptorContext engine adapter descriptor revision
          (requests + more) = some outcome) ∧
        ∀ value, outcome = .ok value →
          ∃ sizeBytes parts, descriptorSize descriptor revision = .ok sizeBytes ∧
            Answered adapter 0 0 parts ∧ parts ≠ [] ∧
            (parts.flatMap BusinessSnapshotPartResponse.jsonBytes).length = sizeBytes ∧
            (∀ part ∈ parts, part.sha256 =
              engine.sha256 (parts.flatMap BusinessSnapshotPartResponse.jsonBytes)) ∧
            engine.parseJsonBytes (parts.flatMap BusinessSnapshotPartResponse.jsonBytes) =
              .ok value := by
  constructor
  · intro values store scope context objectRef value maxBytes found isValid revision stored
      positive bounded
    obtain ⟨selected, plain, safe⟩ := stored.selected isValid
    have notEmpty := bytesOf_ne_nil plain
    obtain ⟨parts, followed, valid, bytes, announced⟩ :=
      followOffsets_from found revision selected rfl safe positive bounded notEmpty
        (Nat.le_add_left _ 0)
    rw [List.drop_zero] at bytes
    refine ⟨parts, ⟨_, followed⟩, valid, ?_, ?_⟩
    · intro part member
      rw [bytes, (announced part member).1, value_toString]
      exact ⟨rfl, (announced part member).2⟩
    · rw [bytes]
      exact parseJsonBytes_bytesOf plain
  · intro adapter descriptor revision
    exact readDescriptorContext_total engine adapter descriptor revision

end Both

namespace Sample

def naturals : JsonText.NumberFormat Nat where
  isFinite := fun _ => true
  write := Nat.toDigits 10
  read := DecimalText.value
  literal := fun number _ => JsonText.isLiteral_toDigits number
  read_write := fun _ _ => Nat.ofDigitChars_ten_toDigits

def noteHash : String := "140929cfa72c163b1a5ac891017d2d7854cf55aea63fb5acd9d570d7e515f3cc"

def engine : Engine Nat where
  format := naturals
  sha256 := fun _ => noteHash
  hex := fun _ => by decide +kernel

/-- An object whose text has characters of three and of four bytes. -/
def note : Value Nat :=
  .obj [("note".toList.map fun char => .ofNat char.toNat, .str [0x20AC, 0xD83D, 0xDE00])]

theorem note_plain : JsonText.Plain engine.format note :=
  ⟨by decide, trivial, trivial⟩

theorem note_length : (engine.bytesOf note).length = 18 := by
  decide +kernel

def values : StoredValues engine where
  context := fun _ => note
  object := fun _ => note
  plainContext := fun _ => note_plain
  plainObject := fun _ => note_plain
  shortContext := fun _ => by
    rw [note_length]
    decide
  shortObject := fun _ => by
    rw [note_length]
    decide

end Sample

theorem snapshot_parts_sample :
    ∃ parts, (∃ requests, ∀ more, followOffsets Sample.values store scope 1 none 10
        (requests + more) 0 = .ok (.complete parts)) ∧
      ValidFrom engine 10 0 parts ∧
      engine.parseJsonBytes (parts.flatMap BusinessSnapshotPartResponse.jsonBytes) =
        .ok note := by
  obtain ⟨parts, followed, valid, _, parsed⟩ := (snapshot_parts engine).1 Sample.values
    store scope context none note 10 rfl (by decide +kernel) (by decide)
    .context (by decide) (by decide)
  exact ⟨parts, followed, valid, parsed⟩

end SdarRuntime.Business
