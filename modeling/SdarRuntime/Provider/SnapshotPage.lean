import SdarRuntime.Library.Base64Url
import SdarRuntime.Provider.BusinessObjects

/-!
A snapshot of a Context in pages. Each page holds the versions of consecutive references as far
as they fit, and a cursor to the first reference that is not on it.
-/

namespace SdarRuntime.Business

/-- What stands in a page for a Context that takes more than half of it. -/
structure ContextDescriptor where
  revision : Nat
  sizeBytes : Nat

structure ObjectDescriptor where
  ref : BusinessObjectRef
  sizeBytes : Nat

structure TaskBusinessSnapshotPage where
  contextRevision : Nat
  context : Option TaskBusinessContext
  contextDescriptor : Option ContextDescriptor
  objects : List BusinessObjectVersion
  objectDescriptors : List ObjectDescriptor
  nextCursor : Option String

namespace TaskBusinessSnapshotPage

/-- The references of a page by their index: an object that does not fit can only be the first
on its page. -/
def refs (page : TaskBusinessSnapshotPage) : List BusinessObjectRef :=
  page.objectDescriptors.map ObjectDescriptor.ref ++
    page.objects.map BusinessObjectVersion.businessObjectRef

def push (page : TaskBusinessSnapshotPage) (object : BusinessObjectVersion) :
    TaskBusinessSnapshotPage :=
  { page with objects := page.objects ++ [object] }

def describe (page : TaskBusinessSnapshotPage) (ref : BusinessObjectRef) (sizeBytes : Nat) :
    TaskBusinessSnapshotPage :=
  { page with
    objectDescriptors := page.objectDescriptors ++ [{ ref := ref, sizeBytes := sizeBytes }] }

def isBlank (page : TaskBusinessSnapshotPage) : Bool :=
  page.objects.isEmpty && page.objectDescriptors.isEmpty

end TaskBusinessSnapshotPage

/-- Every reference of the Context once, in the order of the lists and of the active names. -/
def contextObjectRefs (context : TaskBusinessContext) : List BusinessObjectRef :=
  let values := context.listedRefs ++ context.activeRefs.values
  (OrderedMap.ofList (values.map fun ref => (ref, ref))).values

/-- The part of a store that a snapshot reads. A version it returns is the one asked for. -/
structure SnapshotStore where
  getContext : BoundExecutionScope → Except String (Option TaskBusinessContext)
  getObjectVersion :
    BoundExecutionScope → BusinessObjectRef → Except String (Option BusinessObjectVersion)
  exact : ∀ {scope ref version}, getObjectVersion scope ref = .ok (some version) →
    version.businessObjectRef = ref

/-- The bytes that `JSON.stringify` takes. -/
structure SerializedSizes where
  context : TaskBusinessContext → Nat
  object : BusinessObjectVersion → Nat
  page : TaskBusinessSnapshotPage → Nat

def utf8 (text : String) : List UInt8 :=
  text.toUTF8.data.toList

def cursorFields (scopeHash : String) (contextRevision index : Nat) : Json :=
  .obj [
    ("scopeHash", .str scopeHash),
    ("contextRevision", .num contextRevision.repr),
    ("index", .num index.repr)]

def cursorFor (scopeHash : String) (contextRevision index : Nat) : String :=
  Base64Url.encode (utf8 (Json.stringify (cursorFields scopeHash contextRevision index)))

def natural? : Json → Option Nat
  | .num text =>
    if text.toList.all Char.isDigit && !text.toList.isEmpty then
      some (Nat.ofDigitChars 10 text.toList 0)
    else none
  | _ => none

/-- The index a cursor names. Without a cursor, and with an empty one, a snapshot starts at the
first reference. -/
def cursorIndex (libraries : Libraries) (scopeHash : String) (contextRevision length : Nat)
    (cursor : Option String) : Except String Nat :=
  match cursor.filter (· ≠ "") with
  | none => .ok 0
  | some cursor =>
    match libraries.parseJson (Base64Url.decode cursor) with
    | some (.obj fields) =>
      match (Json.lookup "index" fields).bind natural? with
      | some index =>
        if (Json.lookup "scopeHash" fields).bind Json.text? = some scopeHash ∧
            (Json.lookup "contextRevision" fields).bind natural? = some contextRevision ∧
            index ≤ length then .ok index
        else .error "BUSINESS_SNAPSHOT_REVISION_CHANGED"
      | none => .error "BUSINESS_SNAPSHOT_REVISION_CHANGED"
    | some (.arr _) => .error "BUSINESS_SNAPSHOT_REVISION_CHANGED"
    | _ => .error "BUSINESS_SNAPSHOT_CURSOR_INVALID"

section

variable (libraries : Libraries) (sizes : SerializedSizes) (store : SnapshotStore)
  (scope : BoundExecutionScope) (maxBytes : Nat)

/-- The page with the cursor it has when the snapshot goes on at `offset`. -/
def pageUpTo (context : TaskBusinessContext) (offset : Nat) (page : TaskBusinessSnapshotPage) :
    TaskBusinessSnapshotPage :=
  { page with
    nextCursor :=
      if offset < (contextObjectRefs context).length then
        some (cursorFor (libraries.sha256 scope.key) context.contextRevision offset)
      else none }

def fits (context : TaskBusinessContext) (offset : Nat) (page : TaskBusinessSnapshotPage) : Bool :=
  sizes.page (pageUpTo libraries scope context offset page) ≤ maxBytes

def emptyPage (context : TaskBusinessContext) : TaskBusinessSnapshotPage :=
  let contextSize := sizes.context context
  let whole := 2 * contextSize ≤ maxBytes
  { contextRevision := context.contextRevision
    context := if whole then some context else none
    contextDescriptor :=
      if whole then none
      else some { revision := context.contextRevision, sizeBytes := contextSize }
    objects := []
    objectDescriptors := []
    nextCursor := none }

/-- Put the remaining references on the page, from `index` on, until one does not fit. The
result is the page with the index of the first reference that is not on it. -/
def fillPage (context : TaskBusinessContext) :
    List BusinessObjectRef → Nat → TaskBusinessSnapshotPage →
      Except String (TaskBusinessSnapshotPage × Nat)
  | [], index, page => .ok (page, index)
  | ref :: rest, index, page => do
    let some object ← store.getObjectVersion scope ref
      | .error "BUSINESS_CONTEXT_REF_NOT_FOUND"
    let objectSize := sizes.object object
    if objectSize ≤ maxBytes ∧
        fits libraries sizes scope maxBytes context (index + 1) (page.push object) then
      fillPage context rest (index + 1) (page.push object)
    else if !page.isBlank then .ok (page, index)
    else if fits libraries sizes scope maxBytes context (index + 1)
        (page.describe ref objectSize) then
      fillPage context rest (index + 1) (page.describe ref objectSize)
    else .error "BUSINESS_SNAPSHOT_PAGE_LIMIT_TOO_SMALL"

def loadTaskBusinessSnapshotPage (cursor : Option String) :
    Except String (Option TaskBusinessSnapshotPage) := do
  require (1024 ≤ maxBytes && maxBytes ≤ 1048576) "BUSINESS_SNAPSHOT_PAGE_LIMIT_INVALID"
  match ← store.getContext scope with
  | none => pure none
  | some context => do
    let refs := contextObjectRefs context
    let index ← cursorIndex libraries (libraries.sha256 scope.key) context.contextRevision
      refs.length cursor
    let page := emptyPage sizes maxBytes context
    require (fits libraries sizes scope maxBytes context index page)
      "BUSINESS_SNAPSHOT_PAGE_LIMIT_TOO_SMALL"
    let (page, index) ← fillPage libraries sizes store scope maxBytes context
      (refs.drop index) index page
    let latest ← store.getContext scope
    require (latest.map TaskBusinessContext.contextRevision == some context.contextRevision)
      "BUSINESS_SNAPSHOT_REVISION_CHANGED"
    pure (some (pageUpTo libraries scope context index page))

inductive Snapshot where
  | complete (pages : List TaskBusinessSnapshotPage)
  | unfinished (pages : List TaskBusinessSnapshotPage)

def Snapshot.pages : Snapshot → List TaskBusinessSnapshotPage
  | .complete pages => pages
  | .unfinished pages => pages

/-- Request a page, then the one its cursor names, for at most the given number of requests. -/
def followCursors : Nat → Option String → Except String Snapshot
  | 0, _ => .ok (.unfinished [])
  | requests + 1, cursor => do
    match ← loadTaskBusinessSnapshotPage libraries sizes store scope maxBytes cursor with
    | none => pure (.complete [])
    | some page =>
      match page.nextCursor with
      | none => pure (.complete [page])
      | some next =>
        match ← followCursors requests (some next) with
        | .complete pages => pure (.complete (page :: pages))
        | .unfinished pages => pure (.unfinished (page :: pages))

end

private theorem contextObjectRefs_eq_keys (context : TaskBusinessContext) :
    contextObjectRefs context =
      (OrderedMap.ofList ((context.listedRefs ++ context.activeRefs.values).map
        fun ref => (ref, ref))).keys := by
  apply List.map_congr_left
  intro entry member
  have inList := OrderedMap.mem_of_get?_ofList (OrderedMap.mem_entries.mp member)
  obtain ⟨ref, -, isEntry⟩ := List.mem_map.mp inList
  have parts := Prod.mk.inj isEntry
  rw [← parts.1, ← parts.2]

theorem contextObjectRefs_nodup (context : TaskBusinessContext) :
    (contextObjectRefs context).Nodup := by
  rw [contextObjectRefs_eq_keys]
  exact OrderedMap.distinct _

theorem mem_contextObjectRefs {context : TaskBusinessContext} {ref : BusinessObjectRef} :
    ref ∈ contextObjectRefs context ↔
      ref ∈ context.listedRefs ∨ ref ∈ context.activeRefs.values := by
  rw [contextObjectRefs_eq_keys, OrderedMap.mem_keys_ofList]
  simp

/-- `JSON.parse` reads the text of a cursor back. -/
def Libraries.ReadsCursors (libraries : Libraries) (scope : BoundExecutionScope)
    (context : TaskBusinessContext) : Prop :=
  ∀ index, index ≤ (contextObjectRefs context).length →
    let fields := cursorFields (libraries.sha256 scope.key) context.contextRevision index
    libraries.parseJson (utf8 (Json.stringify fields)) = some fields

theorem utf8_eq_nil {text : String} (empty : utf8 text = []) : text = "" := by
  have noBytes : text.toUTF8.data.toList.length = 0 := by
    rw [show text.toUTF8.data.toList = [] from empty]
    rfl
  have size : text.utf8ByteSize = 0 := by
    simpa using noBytes
  exact String.utf8ByteSize_eq_zero_iff.mp size

theorem cursorFor_ne_empty (scopeHash : String) (contextRevision index : Nat) :
    cursorFor scopeHash contextRevision index ≠ "" := by
  intro empty
  have text := utf8_eq_nil (Base64Url.encode_eq_empty empty)
  have chars := congrArg String.toList text
  simp [cursorFields, Json.stringify] at chars

theorem natural?_repr (number : Nat) : natural? (.num number.repr) = some number := by
  have digits : ∀ char, char ∈ Nat.toDigits 10 number → char.isDigit = true :=
    fun char => Nat.isDigit_of_mem_toDigits (by decide) (by decide)
  have some_ : (Nat.toDigits 10 number).isEmpty = false := by
    rw [List.isEmpty_eq_false_iff]
    exact Nat.toDigits_ne_nil
  simp only [natural?, Nat.toList_repr, some_, List.all_eq_true.mpr digits, Bool.not_false,
    Bool.and_self, if_true, Nat.ofDigitChars_ten_toDigits]

theorem cursorIndex_cursorFor {libraries : Libraries} {scope : BoundExecutionScope}
    {context : TaskBusinessContext} (reads : libraries.ReadsCursors scope context) {index : Nat}
    (bound : index ≤ (contextObjectRefs context).length) :
    cursorIndex libraries (libraries.sha256 scope.key) context.contextRevision
      (contextObjectRefs context).length
      (some (cursorFor (libraries.sha256 scope.key) context.contextRevision index)) =
        .ok index := by
  have parsed := reads index bound
  have nonempty := cursorFor_ne_empty (libraries.sha256 scope.key) context.contextRevision index
  simp only [cursorIndex, Option.filter, decide_eq_true nonempty, if_true]
  rw [cursorFor, Base64Url.decode_encode, parsed]
  simp [cursorFields, Json.lookup, natural?_repr, Json.text?, bound]

end SdarRuntime.Business
