import SdarRuntime.Configuration.Center
import SdarRuntime.Library.Histories

/-!
The override policy of a field over whole histories of a configuration center. The center checks
the draft it publishes; the drafts of the ancestors are merged in as they stand. A publication
keeps the policy when the ancestors keep it too, and when no object above an unset field's value
is replaced by something else.
-/

namespace SdarRuntime

namespace Configuration

def ConfigurationFieldMetadata.overridableAt (field : ConfigurationFieldMetadata)
    (definition : ConfigurationDefinition) (targetType : ConfigurationTargetType) : Bool :=
  !field.sealed &&
    field.overridePolicy.allowedTargetTypes.all (fun allowed => allowed.contains targetType) &&
    (field.overridePolicy.mode != .targetOnly ||
      definition.inheritanceOrder.head? == some (.target targetType))

def Layer.sets (layer : Layer) (field : ConfigurationFieldMetadata) : Bool :=
  (valueAt layer.content.fields field.path).isSome

/-- Merging the layers in order never replaces an object above the value a path leads to. -/
def leavesInPlace (path : List String) : List (String × Json) → List Layer → Bool
  | _, [] => true
  | base, layer :: later =>
    !Json.cuts isSecretRef path base layer.content.fields &&
      leavesInPlace path (Json.deepMerge isSecretRef base layer.content.fields) later

variable {definition : ConfigurationDefinition}

theorem overrideIssue_eq_none {targetType : ConfigurationTargetType}
    {content : List (String × Json)} {field : ConfigurationFieldMetadata}
    (passes : overrideIssue definition targetType content field = none)
    (isSet : (valueAt content field.path).isSome) :
    field.overridableAt definition targetType = true := by
  unfold overrideIssue at passes
  rw [if_neg (Option.isSome_iff_ne_none.mp isSet)] at passes
  by_cases isSealed : field.sealed = true
  · rw [if_pos isSealed] at passes
    cases passes
  rw [if_neg isSealed] at passes
  split at passes
  · cases passes
  · rename_i allowed
    split at passes
    · cases passes
    · rename_i specific
      have unsealed : field.sealed = false := Bool.not_eq_true _ ▸ isSealed
      unfold ConfigurationFieldMetadata.overridableAt
      rw [unsealed]
      have isAllowed : field.overridePolicy.allowedTargetTypes.all
          (fun allowed => allowed.contains targetType) = true := by
        cases types : field.overridePolicy.allowedTargetTypes with
        | none => rfl
        | some allowedTypes =>
          rw [types] at allowed
          simpa using allowed
      rw [isAllowed]
      by_cases mode : field.overridePolicy.mode = .targetOnly
      · have first : definition.inheritanceOrder.head? = some (.target targetType) := by
          by_contra other
          exact specific ⟨mode, other⟩
        simp [first]
      · simp [mode]

variable {layers : List Layer}

/-- Layers that neither set a field nor replace what is above it leave its value. -/
theorem valueAt_mergeLayers {path : String} {base : List (String × Json)}
    (unset : ∀ layer ∈ layers, valueAt layer.content.fields path = none)
    (uncut : leavesInPlace (pointerSegments path) base layers = true) :
    valueAt (mergeLayers base layers) path = valueAt base path := by
  induction layers generalizing base with
  | nil => rfl
  | cons layer later ih =>
    rw [leavesInPlace, Bool.and_eq_true, Bool.not_eq_true'] at uncut
    have first : valueAt (Json.deepMerge isSecretRef base layer.content.fields) path =
        valueAt base path :=
      Json.valueAt_deepMerge layer.content.proper
        (unset layer List.mem_cons_self) uncut.1
    have rest := ih (fun other among => unset other (List.mem_cons_of_mem layer among)) uncut.2
    exact rest.trans first

/-- What the override policy of each field says about merged layers and what they give. -/
structure KeepsOverridePolicy (definition : ConfigurationDefinition) (layers : List Layer)
    (effective : List (String × Json)) : Prop where
  sealed : ∀ field ∈ definition.fields, field.sealed = true →
    valueAt effective field.path = valueAt definition.defaults field.path
  setByLayer : ∀ field ∈ definition.fields,
    valueAt effective field.path ≠ valueAt definition.defaults field.path →
      ∃ layer ∈ layers, layer.sets field = true
  allowed : ∀ field ∈ definition.fields, field.sealed = false →
    ∀ layer ∈ layers, layer.sets field = true →
      field.overridableAt definition layer.targetType = true

theorem keepsOverridePolicy_of_allowed
    (allowed : ∀ field ∈ definition.fields, ∀ layer ∈ layers, layer.sets field = true →
      field.overridableAt definition layer.targetType = true)
    (inPlace : ∀ field ∈ definition.fields, (∀ layer ∈ layers, layer.sets field = false) →
      leavesInPlace (pointerSegments field.path) definition.defaults layers = true) :
    KeepsOverridePolicy definition layers (mergeLayers definition.defaults layers) := by
  have unsetKeeps : ∀ field ∈ definition.fields, (∀ layer ∈ layers, layer.sets field = false) →
      valueAt (mergeLayers definition.defaults layers) field.path =
        valueAt definition.defaults field.path := by
    intro field among unset
    apply valueAt_mergeLayers _ (inPlace field among unset)
    intro layer merged
    exact Option.not_isSome_iff_eq_none.mp (by rw [← Layer.sets, unset layer merged]; simp)
  constructor
  · intro field among isSealed
    apply unsetKeeps field among
    intro layer merged
    by_contra isSet
    have overridable := allowed field among layer merged (Bool.not_eq_false _ ▸ isSet)
    rw [ConfigurationFieldMetadata.overridableAt, isSealed] at overridable
    cases overridable
  · intro field among differs
    by_contra none
    apply differs
    apply unsetKeeps field among
    intro layer merged
    by_contra isSet
    exact none ⟨layer, merged, Bool.not_eq_false _ ▸ isSet⟩
  · intro field among _
    exact allowed field among

namespace ConfigurationCenter

variable (validator : Validator) (padded : Json → String)

variable {center : ConfigurationCenter}

theorem layers_own {draft : ConfigurationDraft} {layer : Layer}
    (merged : layer ∈ center.layers definition draft)
    (own : layer.targetType = draft.key.targetType) : layer.content = draft.content := by
  obtain ⟨targetType, _, found⟩ := List.mem_filterMap.mp merged
  split at found
  · cases found
    rfl
  · rename_i other
    rw [Option.map_eq_some_iff] at found
    obtain ⟨ancestor, _, same⟩ := found
    subst same
    exact absurd own other

def PublishesWithinPolicy (center : ConfigurationCenter) : Operation → Prop
  | .publicationSnapshot draftId version => ∀ snapshot,
      center.publicationSnapshot validator padded draftId version = .ok snapshot →
        KeepsOverridePolicy snapshot.definition
          (center.layers snapshot.definition snapshot.draft) snapshot.effectiveContent
  | _ => True

/-- The ancestors a published draft is merged over set only what may be set at their targets, and
a field that no merged draft sets keeps the objects above its default value. -/
def AncestorsWithinPolicy (center : ConfigurationCenter) : Operation → Prop
  | .publicationSnapshot draftId _ => ∀ draft definition, center.draft draftId = .ok draft →
      center.definition draft.definitionId = .ok definition →
      ∀ field ∈ definition.fields,
        (∀ layer ∈ center.layers definition draft, layer.targetType ≠ draft.key.targetType →
          layer.sets field = true → field.overridableAt definition layer.targetType = true) ∧
        ((∀ layer ∈ center.layers definition draft, layer.sets field = false) →
          leavesInPlace (pointerSegments field.path) definition.defaults
            (center.layers definition draft) = true)
  | _ => True

theorem publishes_of_ancestors {operation : Operation}
    (ancestors : AncestorsWithinPolicy center operation) :
    PublishesWithinPolicy validator padded center operation := by
  cases operation with
  | publicationSnapshot draftId version =>
    intro snapshot published
    have taken := publicationSnapshot_ok validator padded published
    have clean := ancestors snapshot.draft snapshot.definition taken.draft taken.definition
    rw [taken.effective]
    apply keepsOverridePolicy_of_allowed
    · intro field among layer merged isSet
      by_cases own : layer.targetType = snapshot.draft.key.targetType
      · have noIssue := List.filterMap_eq_nil_iff.mp taken.passes field among
        rw [own]
        apply overrideIssue_eq_none noIssue
        rw [← layers_own merged own]
        exact isSet
      · exact (clean field among).1 layer merged own isSet
    · intro field among unset
      exact (clean field among).2 unset
  | _ => trivial

/-- A definition with one field, inherited from the type of a provider. -/
def nameDefinition : ConfigurationDefinition := {
  definitionId := "provider"
  definitionVersion := 1
  configGroup := "group"
  targetTypes := [.provider, .providerType]
  inheritanceEnabled := true
  inheritanceOrder := [.target .provider, .target .providerType, .systemDefault]
  schema := .null
  defaults := [("id", .str "default")]
  secretPaths := []
  fields := [{
    path := "/id"
    applyMode := .hotReload
    overridePolicy := { mode := .inheritable, allowedTargetTypes := none }
  }]
}

def identityDefinition : ConfigurationDefinition := {
  nameDefinition with
  fields := [{
    path := "/id"
    applyMode := .immutable
    overridePolicy := { mode := .forbidden, allowedTargetTypes := none }
  }]
}

def typeKey : ConfigurationBusinessKey := {
  environment := "e"
  targetType := .providerType
  targetId := "t"
  configGroup := "group"
  dataId := "d"
}

def providerKey : ConfigurationBusinessKey := {
  typeKey with
  targetType := .provider
  targetId := "p"
}

/-- The draft of the type sets the field and is never validated; the draft of the provider sets
nothing, is validated and published. -/
def inheritedOverride : List Operation := [
  .createDraft {
    draftId := "type"
    definitionId := "provider"
    key := typeKey
    ancestorTargetIds := []
    content := { fields := [("id", .str "other")], proper := by decide }
  },
  .createDraft {
    draftId := "own"
    definitionId := "provider"
    key := providerKey
    ancestorTargetIds := [(.providerType, "t")]
    content := { fields := [], proper := by decide }
  },
  .validateDraft "own",
  .publicationSnapshot "own" 2
]

/-- In every history in which the merged ancestors keep the override policy, every publication
keeps it. -/
theorem publications_keep_overridePolicy (definitions : List ConfigurationDefinition)
    (steps : List Operation)
    (ancestors : Histories.EveryStep (step validator padded) AncestorsWithinPolicy
      (create definitions) steps) :
    Histories.EveryStep (step validator padded) (PublishesWithinPolicy validator padded)
      (create definitions) steps := by
  generalize create definitions = center at ancestors ⊢
  induction steps generalizing center with
  | nil => trivial
  | cons operation later ih =>
    constructor
    · exact publishes_of_ancestors validator padded ancestors.1
    · exact ih _ ancestors.2

theorem publications_keep_overridePolicy_inherited :
    Histories.EveryStep (step (fun _ _ => []) fun _ => "") (PublishesWithinPolicy (fun _ _ => [])
      fun _ => "") (create [nameDefinition]) inheritedOverride := by
  apply publications_keep_overridePolicy
  constructor
  · trivial
  constructor
  · trivial
  constructor
  · trivial
  constructor
  · intro draft definition found defined field among
    have drafts := Except.ok.inj found
    subst drafts
    have definitions := Except.ok.inj defined
    subst definitions
    have fields := List.mem_singleton.mp among
    subst fields
    constructor
    · intro layer _ _ _
      rfl
    · intro unset
      have typeSets : true = false := unset _ List.mem_cons_self
      cases typeSets
  · trivial

theorem inheritedOverride_publishes :
    ¬ ∀ (definition : ConfigurationDefinition) (steps : List Operation),
      Histories.EveryStep (step (fun _ _ => []) fun _ => "") (PublishesWithinPolicy (fun _ _ => [])
        fun _ => "") (create [definition]) steps := by
  intro always
  have published := always identityDefinition inheritedOverride
  have last := published.2.2.2.1 _ rfl
  have kept : some (Json.str "other") = some (.str "default") :=
    last.sealed _ List.mem_cons_self rfl
  simp at kept

end ConfigurationCenter

end Configuration

end SdarRuntime
