import SdarRuntime.Library.JsonMerge
import SdarRuntime.Library.OrderedMap

/-!
The configuration center: drafts at the levels of an inheritance order, their validation, and the
effective content that a draft and the drafts of its ancestors give over a definition's defaults.
What a schema finds wrong with a content is for the schema validator and stays a parameter.
-/

namespace SdarRuntime

namespace Configuration

inductive ConfigurationApplyMode where
  | hotReload
  | reconnectRequired
  | restartRequired
  | immutable
  deriving DecidableEq

inductive ConfigurationTargetType where
  | environment
  | providerType
  | provider
  | runtimeDeployment
  | runtimeInstance
  | collector
  deriving DecidableEq

inductive ConfigurationInheritanceLevel where
  | target (targetType : ConfigurationTargetType)
  | systemDefault
  deriving DecidableEq

inductive ConfigurationOverrideMode where
  | inheritable
  | targetOnly
  | forbidden
  deriving DecidableEq

structure ConfigurationOverridePolicy where
  mode : ConfigurationOverrideMode
  allowedTargetTypes : Option (List ConfigurationTargetType)

structure ConfigurationFieldMetadata where
  path : String
  applyMode : ConfigurationApplyMode
  overridePolicy : ConfigurationOverridePolicy

structure ConfigurationContent where
  fields : List (String × Json)
  proper : (Json.obj fields).proper = true

structure ConfigurationDefinition where
  definitionId : String
  definitionVersion : Nat
  configGroup : String
  targetTypes : List ConfigurationTargetType
  inheritanceEnabled : Bool
  inheritanceOrder : List ConfigurationInheritanceLevel
  schema : Json
  defaults : List (String × Json)
  secretPaths : List String
  fields : List ConfigurationFieldMetadata

structure ConfigurationBusinessKey where
  environment : String
  targetType : ConfigurationTargetType
  targetId : String
  configGroup : String
  dataId : String
  deriving DecidableEq

inductive ConfigurationDraftStatus where
  | draft
  | validated
  | invalid
  deriving DecidableEq

structure ConfigurationValidationIssue where
  code : String
  path : String
  message : String
  deriving DecidableEq

structure ConfigurationDraft where
  draftId : String
  definitionId : String
  definitionVersion : Nat
  key : ConfigurationBusinessKey
  ancestorTargetIds : List (ConfigurationTargetType × String)
  content : ConfigurationContent
  version : Nat
  status : ConfigurationDraftStatus
  applyMode : Option ConfigurationApplyMode
  validationIssues : List ConfigurationValidationIssue

structure ConfigurationCenterError where
  code : String
  message : String
  field : Option String := none
  deriving DecidableEq

/-- What an ajv validator compiled from a schema reports: instance path and keyword. -/
abbrev Validator := Json → List (String × Json) → List (String × String)

structure ConfigurationCenter where
  definitions : List ConfigurationDefinition
  drafts : OrderedMap String ConfigurationDraft
  businessKeys : OrderedMap ConfigurationBusinessKey String

private def splitSlash : List Char → List (List Char)
  | [] => [[]]
  | '/' :: rest => [] :: splitSlash rest
  | char :: rest =>
    match splitSlash rest with
    | [] => [[char]]
    | segment :: segments => (char :: segment) :: segments

/-- `replaceAll("~" + mark, char)` -/
private def unescape (mark char : Char) : List Char → List Char
  | '~' :: next :: rest =>
    if next = mark then char :: unescape mark char rest
    else '~' :: unescape mark char (next :: rest)
  | other :: rest => other :: unescape mark char rest
  | [] => []

def pointerSegments (pointer : String) : List String :=
  (splitSlash (pointer.toList.drop 1)).map fun segment =>
    String.ofList (unescape '0' '~' (unescape '1' '/' segment))

private def alphanumeric (char : Char) : Bool :=
  ('A' ≤ char && char ≤ 'Z') || ('a' ≤ char && char ≤ 'z') || ('0' ≤ char && char ≤ '9')

/-- `/^[A-Za-z0-9][A-Za-z0-9<extra>]{0,most}$/` -/
private def identifier (extra : List Char) (most : Nat) (text : String) : Bool :=
  match text.toList with
  | [] => false
  | first :: rest =>
    alphanumeric first && decide (rest.length ≤ most) &&
      rest.all fun char => alphanumeric char || extra.contains char

/-- An object with a `secretRef` alone. -/
def isSecretRef : List (String × Json) → Bool
  | [("secretRef", .str text)] => identifier ['.', '_', ':', '/', '-'] 511 text
  | _ => false

def isSecretRefValue : Json → Bool
  | .obj fields => isSecretRef fields
  | _ => false

def valueAt (content : List (String × Json)) (pointer : String) : Option Json :=
  Json.valueAt (pointerSegments pointer) (.obj content)

private def setAtSegments (value : Json) : List String → List (String × Json) → List (String × Json)
  | [], fields => fields
  | [last], fields => Json.assign last value fields
  | segment :: rest, fields =>
    match Json.lookup segment fields with
    | some (.obj inner) => Json.assign segment (.obj (setAtSegments value rest inner)) fields
    | _ => fields

def setAt (content : List (String × Json)) (pointer : String) (value : Json) :
    List (String × Json) :=
  setAtSegments value (pointerSegments pointer) content

namespace ConfigurationFieldMetadata

def sealed (field : ConfigurationFieldMetadata) : Bool :=
  field.applyMode == .immutable || field.overridePolicy.mode == .forbidden

end ConfigurationFieldMetadata

def overrideIssue (definition : ConfigurationDefinition) (targetType : ConfigurationTargetType)
    (content : List (String × Json)) (field : ConfigurationFieldMetadata) :
    Option ConfigurationValidationIssue :=
  if valueAt content field.path = none then none
  else if field.sealed then
    some {
      code := "IMMUTABLE_OVERRIDE"
      path := field.path
      message := "Immutable configuration fields cannot be overridden"
    }
  else if (field.overridePolicy.allowedTargetTypes.any fun allowed =>
      !allowed.contains targetType) then
    some {
      code := "OVERRIDE_NOT_ALLOWED"
      path := field.path
      message := "This field cannot be overridden at the selected target"
    }
  else if field.overridePolicy.mode = .targetOnly ∧
      definition.inheritanceOrder.head? ≠ some (.target targetType) then
    some {
      code := "OVERRIDE_NOT_ALLOWED"
      path := field.path
      message := "This field can only be set at the most specific target"
    }
  else none

def overrideIssues (definition : ConfigurationDefinition) (targetType : ConfigurationTargetType)
    (content : List (String × Json)) : List ConfigurationValidationIssue :=
  definition.fields.filterMap (overrideIssue definition targetType content)

def secretIssues (definition : ConfigurationDefinition) (effective : List (String × Json)) :
    List ConfigurationValidationIssue :=
  definition.secretPaths.filterMap fun path =>
    match valueAt effective path with
    | none => none
    | some value =>
      if isSecretRefValue value then none
      else some {
        code := "PLAINTEXT_SECRET_REJECTED"
        path := path
        message := "Secret configuration fields accept SecretRef values only"
      }

def assertSecretRefs (definition : ConfigurationDefinition) (content : List (String × Json)) :
    Except ConfigurationCenterError Unit :=
  match definition.secretPaths.find? fun path =>
      (valueAt content path).any fun value => !isSecretRefValue value with
  | none => .ok ()
  | some path => .error {
      code := "CONFIGURATION_INPUT_INVALID"
      message := "Secret configuration fields accept SecretRef values only"
      field := some path
    }

/-- The schema of the property a path leads to, as far as `properties` lead. -/
private def propertySchema : List String → Json → Json
  | [], property => property
  | segment :: rest, property =>
    match property.field? "properties" with
    | some (.obj properties) =>
      match Json.lookup segment properties with
      | some inner => propertySchema rest inner
      | none => .null
    | _ => property

/-- A text a schema for a secret's path may accept; `padded` is the padding to a minimal length. -/
def schemaPlaceholder (padded : Json → String) (schema : Json) (path : String) : String :=
  match (propertySchema (pointerSegments path) schema).field? "minLength" with
  | some (.num least) => padded (.num least)
  | _ => "secret-ref-placeholder"

/-- The rules of a schema a content breaks, with its secrets replaced by texts. -/
def schemaIssues (validator : Validator) (padded : Json → String)
    (definition : ConfigurationDefinition) (effective : List (String × Json)) :
    List ConfigurationValidationIssue :=
  let candidate := definition.secretPaths.foldl (fun content path =>
    if (valueAt content path).any isSecretRefValue then
      setAt content path (.str (schemaPlaceholder padded definition.schema path))
    else content) effective
  (validator definition.schema candidate).map fun error => {
    code := "SCHEMA_VALIDATION_FAILED"
    path := if error.1 = "" then "/" else error.1
    message := "Configuration does not satisfy schema rule " ++ error.2
  }

def applyModeRank : ConfigurationApplyMode → Nat
  | .hotReload => 0
  | .reconnectRequired => 1
  | .restartRequired => 2
  | .immutable => 0

/-- The strictest mode among the fields a content sets; a content that sets none of them asks for
a restart. -/
def applyMode (fields : List ConfigurationFieldMetadata) (content : List (String × Json)) :
    ConfigurationApplyMode :=
  (fields.foldl (fun (selected : Option ConfigurationApplyMode) field =>
    if valueAt content field.path = none ∨ field.applyMode = .immutable then selected
    else match selected with
      | none => some field.applyMode
      | some mode =>
        if applyModeRank mode < applyModeRank field.applyMode then some field.applyMode
        else some mode) none).getD .restartRequired

structure Layer where
  targetType : ConfigurationTargetType
  content : ConfigurationContent

def mergeLayers (base : List (String × Json)) (layers : List Layer) : List (String × Json) :=
  layers.foldl (fun effective layer => Json.deepMerge isSecretRef effective layer.content.fields)
    base

namespace ConfigurationCenter

def definition (center : ConfigurationCenter) (definitionId : String) :
    Except ConfigurationCenterError ConfigurationDefinition :=
  match center.definitions.find? fun definition => definition.definitionId == definitionId with
  | some definition => .ok definition
  | none => .error {
      code := "CONFIGURATION_DEFINITION_NOT_FOUND"
      message := "The configuration definition does not exist"
    }

def draft (center : ConfigurationCenter) (draftId : String) :
    Except ConfigurationCenterError ConfigurationDraft :=
  match center.drafts.get? draftId with
  | some draft => .ok draft
  | none => .error {
      code := "CONFIGURATION_DRAFT_NOT_FOUND"
      message := "The configuration draft does not exist"
    }

def ancestorDraft (center : ConfigurationCenter) (draft : ConfigurationDraft)
    (targetType : ConfigurationTargetType) : Option ConfigurationDraft :=
  match draft.ancestorTargetIds.lookup targetType with
  | none => none
  | some targetId =>
    match center.businessKeys.get?
        { draft.key with targetType := targetType, targetId := targetId } with
    | none => none
    | some draftId => center.drafts.get? draftId

/-- The levels a draft's content is merged from: the most general one first, its own one last. -/
def applicable (definition : ConfigurationDefinition) (draft : ConfigurationDraft) :
    List ConfigurationTargetType :=
  let order :=
    if definition.inheritanceEnabled then definition.inheritanceOrder
    else [.target draft.key.targetType]
  let current := order.idxOf (.target draft.key.targetType)
  let current := if current = order.length then 0 else current
  ((order.drop current).filterMap fun level =>
    match level with
    | .target targetType => some targetType
    | .systemDefault => none).reverse

/-- The drafts merged into a draft's effective content, its own one among them. -/
def layers (center : ConfigurationCenter) (definition : ConfigurationDefinition)
    (draft : ConfigurationDraft) : List Layer :=
  (applicable definition draft).filterMap fun targetType =>
    (if targetType = draft.key.targetType then some draft
      else center.ancestorDraft draft targetType).map fun layer => {
        targetType := targetType
        content := layer.content
      }

structure Resolved where
  effective : List (String × Json)
  sources : List (String × ConfigurationInheritanceLevel)
  applyMode : ConfigurationApplyMode
  issues : List ConfigurationValidationIssue

/-- Where each field's value comes from: the last layer that sets it. -/
def sources (definition : ConfigurationDefinition) (layers : List Layer) :
    List (String × ConfigurationInheritanceLevel) :=
  definition.fields.filterMap fun field =>
    match layers.reverse.find? fun layer => (valueAt layer.content.fields field.path).isSome with
    | some layer => some (field.path, .target layer.targetType)
    | none =>
      if (valueAt definition.defaults field.path).isSome then some (field.path, .systemDefault)
      else none

variable (validator : Validator) (padded : Json → String)

def resolve (center : ConfigurationCenter) (draft : ConfigurationDraft)
    (definition : ConfigurationDefinition) : Resolved :=
  let layers := center.layers definition draft
  let effective := mergeLayers definition.defaults layers
  {
    effective := effective
    sources := sources definition layers
    applyMode := Configuration.applyMode definition.fields draft.content.fields
    issues := overrideIssues definition draft.key.targetType draft.content.fields ++
      secretIssues definition effective ++ schemaIssues validator padded definition effective
  }

structure CreateConfigurationDraft where
  draftId : String
  definitionId : String
  key : ConfigurationBusinessKey
  ancestorTargetIds : List (ConfigurationTargetType × String)
  content : ConfigurationContent

structure UpdateConfigurationDraft where
  expectedVersion : Nat
  content : ConfigurationContent
  ancestorTargetIds : Option (List (ConfigurationTargetType × String))

def invalid (name : String) : ConfigurationCenterError := {
  code := "CONFIGURATION_INPUT_INVALID"
  message := "A configuration input is invalid"
  field := some name
}

def versionConflict : ConfigurationCenterError := {
  code := "CONFIGURATION_DRAFT_VERSION_CONFLICT"
  message := "The configuration draft changed; reload and retry"
}

def check (condition : Bool) (failure : ConfigurationCenterError) :
    Except ConfigurationCenterError Unit :=
  if condition then .ok () else .error failure

private def nonEmpty (text name : String) : Except ConfigurationCenterError Unit :=
  check (decide (1 ≤ (Json.utf16 text).length) && decide ((Json.utf16 text).length ≤ 256))
    (invalid name)

def normalizedKey (key : ConfigurationBusinessKey) :
    Except ConfigurationCenterError ConfigurationBusinessKey := do
  nonEmpty key.environment "environment"
  nonEmpty key.targetId "targetId"
  nonEmpty key.configGroup "configGroup"
  nonEmpty key.dataId "dataId"
  return key

def normalizedAncestors (input : List (ConfigurationTargetType × String))
    (definition : ConfigurationDefinition) (currentTarget : ConfigurationTargetType) :
    Except ConfigurationCenterError (List (ConfigurationTargetType × String)) := do
  input.forM fun ancestor => do
    check (ancestor.1 != currentTarget && definition.inheritanceOrder.contains (.target ancestor.1)) {
      code := "CONFIGURATION_INPUT_INVALID"
      message := "Ancestor targets must be allowed, distinct inheritance levels"
    }
    nonEmpty ancestor.2 "ancestorTargetId"
  return input

def createDraft (center : ConfigurationCenter) (input : CreateConfigurationDraft) :
    Except ConfigurationCenterError ConfigurationCenter := do
  check (identifier ['.', '_', ':', '-'] 127 input.draftId) (invalid "draftId")
  let definition ← center.definition input.definitionId
  let key ← normalizedKey input.key
  check (key.configGroup == definition.configGroup &&
      definition.targetTypes.contains key.targetType) {
    code := "CONFIGURATION_TARGET_NOT_ALLOWED"
    message := "The configuration definition does not allow this target"
  }
  assertSecretRefs definition input.content.fields
  check ((center.drafts.get? input.draftId).isNone && (center.businessKeys.get? key).isNone) {
    code := "CONFIGURATION_BUSINESS_KEY_CONFLICT"
    message := "A configuration draft already exists for this business key"
  }
  let ancestorTargetIds ← normalizedAncestors input.ancestorTargetIds definition key.targetType
  let draft : ConfigurationDraft := {
    draftId := input.draftId
    definitionId := definition.definitionId
    definitionVersion := definition.definitionVersion
    key := key
    ancestorTargetIds := ancestorTargetIds
    content := input.content
    version := 1
    status := .draft
    applyMode := none
    validationIssues := []
  }
  return { center with
    drafts := center.drafts.set draft.draftId draft
    businessKeys := center.businessKeys.set key draft.draftId }

def updateDraft (center : ConfigurationCenter) (draftId : String)
    (input : UpdateConfigurationDraft) : Except ConfigurationCenterError ConfigurationCenter := do
  let current ← center.draft draftId
  check (current.version == input.expectedVersion) versionConflict
  let definition ← center.definition current.definitionId
  assertSecretRefs definition input.content.fields
  let ancestorTargetIds ←
    match input.ancestorTargetIds with
    | none => pure current.ancestorTargetIds
    | some ancestors => normalizedAncestors ancestors definition current.key.targetType
  return { center with
    drafts := center.drafts.set draftId { current with
      ancestorTargetIds := ancestorTargetIds
      content := input.content
      version := current.version + 1
      status := .draft
      applyMode := none
      validationIssues := [] } }

def validateDraft (center : ConfigurationCenter) (draftId : String) :
    Except ConfigurationCenterError ConfigurationCenter := do
  let current ← center.draft draftId
  let definition ← center.definition current.definitionId
  let resolved := center.resolve validator padded current definition
  return { center with
    drafts := center.drafts.set draftId { current with
      status := if resolved.issues.isEmpty then .validated else .invalid
      applyMode := some resolved.applyMode
      validationIssues := resolved.issues
      version := current.version + 1 } }

structure ConfigurationPublicationSnapshot where
  draft : ConfigurationDraft
  definition : ConfigurationDefinition
  effectiveContent : List (String × Json)
  applyMode : ConfigurationApplyMode

def publicationSnapshot (center : ConfigurationCenter) (draftId : String)
    (expectedDraftVersion : Nat) :
    Except ConfigurationCenterError ConfigurationPublicationSnapshot := do
  let draft ← center.draft draftId
  check (draft.version == expectedDraftVersion) versionConflict
  check (draft.status == .validated) {
    code := "CONFIGURATION_DRAFT_NOT_VALIDATED"
    message := "Only a validated configuration draft can be published"
  }
  let definition ← center.definition draft.definitionId
  let resolved := center.resolve validator padded draft definition
  check resolved.issues.isEmpty {
    code := "CONFIGURATION_DRAFT_NOT_VALIDATED"
    message := "The effective configuration no longer passes validation"
  }
  return {
    draft := draft
    definition := definition
    effectiveContent := resolved.effective
    applyMode := resolved.applyMode
  }

/-- What a snapshot is taken from: a draft without override issues of its own, its definition, and
the drafts merged over the defaults. -/
structure TakenFrom (center : ConfigurationCenter) (draftId : String)
    (snapshot : ConfigurationPublicationSnapshot) : Prop where
  draft : center.draft draftId = .ok snapshot.draft
  definition : center.definition snapshot.draft.definitionId = .ok snapshot.definition
  effective : snapshot.effectiveContent =
    mergeLayers snapshot.definition.defaults (center.layers snapshot.definition snapshot.draft)
  passes : overrideIssues snapshot.definition snapshot.draft.key.targetType
    snapshot.draft.content.fields = []
  applyMode : snapshot.applyMode =
    Configuration.applyMode snapshot.definition.fields snapshot.draft.content.fields

theorem publicationSnapshot_ok {center : ConfigurationCenter} {draftId : String}
    {version : Nat} {snapshot : ConfigurationPublicationSnapshot}
    (published : center.publicationSnapshot validator padded draftId version = .ok snapshot) :
    TakenFrom center draftId snapshot := by
  unfold publicationSnapshot at published
  cases found : center.draft draftId with
  | error failure =>
    rw [found] at published
    cases published
  | ok draft =>
    rw [found] at published
    simp only [bind, Except.bind, check] at published
    split at published
    · cases published
    split at published
    · cases published
    cases defined : center.definition draft.definitionId with
    | error failure =>
      rw [defined] at published
      cases published
    | ok definition =>
      rw [defined] at published
      simp only at published
      split at published
      · cases published
      · rename_i passed
        cases published
        split at passed
        · rename_i empty
          rw [List.isEmpty_iff, resolve] at empty
          simp only [List.append_eq_nil_iff] at empty
          exact {
            draft := found
            definition := defined
            effective := rfl
            passes := empty.1.1
            applyMode := rfl
          }
        · cases passed

/-- One call of the center; a call that throws leaves it as it was. -/
inductive Operation where
  | createDraft (input : CreateConfigurationDraft)
  | updateDraft (draftId : String) (input : UpdateConfigurationDraft)
  | validateDraft (draftId : String)
  | publicationSnapshot (draftId : String) (expectedDraftVersion : Nat)

def keepOnError (center : ConfigurationCenter)
    (result : Except ConfigurationCenterError ConfigurationCenter) : ConfigurationCenter :=
  match result with
  | .ok changed => changed
  | .error _ => center

def step (center : ConfigurationCenter) : Operation → ConfigurationCenter
  | .createDraft input => center.keepOnError (center.createDraft input)
  | .updateDraft draftId input => center.keepOnError (center.updateDraft draftId input)
  | .validateDraft draftId => center.keepOnError (center.validateDraft validator padded draftId)
  | .publicationSnapshot _ _ => center

def create (definitions : List ConfigurationDefinition) : ConfigurationCenter := {
  definitions := definitions
  drafts := OrderedMap.empty
  businessKeys := OrderedMap.empty
}

end ConfigurationCenter

end Configuration

end SdarRuntime
