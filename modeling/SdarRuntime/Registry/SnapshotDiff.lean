import SdarRuntime.Library.KeyedDiff
import SdarRuntime.Library.OrderedMap
import SdarRuntime.Registry.Snapshot

/-!
The difference of two registry snapshots. A reader who removes, replaces and adds what it names
gets from the earlier providers to the later ones, and it names nothing exactly when the two
documents have one canonical text.
-/

namespace SdarRuntime

namespace Registry

open RegistryProviderProjection KeyedDiff Json

structure RegistrySnapshot where
  environment : String
  revision : Int
  checksum : String
  document : RegistrySnapshotDocument

structure RegistryProviderChange where
  providerId : String
  before : RegistryProviderProjection
  after : RegistryProviderProjection

structure RegistrySnapshotDiff where
  environment : String
  fromRevision : Int
  toRevision : Int
  added : List RegistryProviderProjection
  removed : List RegistryProviderProjection
  changed : List RegistryProviderChange

section Diff

variable (platform : Platform)

/-- `new Map(providers.map((provider) => [provider.providerId, provider]))` -/
def providerMap (document : RegistrySnapshotDocument) :
    OrderedMap String RegistryProviderProjection :=
  .ofList (document.providers.map fun provider => (provider.providerId, provider))

def diffRegistrySnapshots (earlier later : RegistrySnapshot) :
    Except String RegistrySnapshotDiff := do
  Except.refuse (earlier.environment ≠ later.environment) "REGISTRY_DIFF_ENVIRONMENT_MISMATCH"
  let before := providerMap earlier.document
  let after := providerMap later.document
  let added := after.entries.filterMap fun entry =>
    match before.get? entry.1 with
    | none => some entry.2
    | some _ => none
  let changed := after.entries.filterMap fun entry =>
    match before.get? entry.1 with
    | none => none
    | some previous =>
      if canonicalize previous.toJson ≠ canonicalize entry.2.toJson then
        some {
          providerId := entry.1
          before := previous
          after := entry.2 : RegistryProviderChange }
      else none
  let removed := before.entries.filterMap fun entry =>
    if (after.get? entry.1).isSome then none else some entry.2
  pure {
    environment := earlier.environment
    fromRevision := earlier.revision
    toRevision := later.revision
    added := added.mergeSort (inOrder platform providerId)
    removed := removed.mergeSort (inOrder platform providerId)
    changed := changed.mergeSort (inOrder platform RegistryProviderChange.providerId) }

def RegistrySnapshotDiff.changes (diff : RegistrySnapshotDiff) :
    KeyedDiff.Changes RegistryProviderProjection where
  added := diff.added
  removed := diff.removed
  changed := diff.changed.map fun change => (change.before, change.after)

/-- The providers without the removed ones, with the changed ones replaced and the new ones
added, in the order of their names. -/
def RegistrySnapshotDiff.apply (diff : RegistrySnapshotDiff)
    (providers : List RegistryProviderProjection) : List RegistryProviderProjection :=
  (diff.changes.apply providerId providers).mergeSort
    (inOrder platform providerId)

def RegistrySnapshotDiff.IsEmpty (diff : RegistrySnapshotDiff) : Prop :=
  diff.added = [] ∧ diff.removed = [] ∧ diff.changed = []

/-- The same providers as values: the order of an object's members does not count. -/
def SameProviders (left right : List RegistryProviderProjection) : Prop :=
  List.Forall₂ (fun provider other => Json.Equal provider.toJson other.toJson) left right

structure RegistrySnapshotDocument.Ordered (document : RegistrySnapshotDocument) : Prop where
  plain : ∀ provider ∈ document.providers, isPlain provider.providerId = true
  distinct : (document.providers.map providerId).Nodup
  sorted : document.providers.Pairwise fun provider other =>
    platform.localeCompare provider.providerId other.providerId ≤ 0

/-- A snapshot as the repository stores it: a built document under its environment, whose numbers
went through the database and are finite. -/
structure RegistrySnapshot.Stored (snapshot : RegistrySnapshot) : Prop where
  environment : snapshot.document.environment = snapshot.environment
  ordered : snapshot.document.Ordered platform
  finite : snapshot.document.toJson.finite = true

end Diff

theorem sameProviders_iff {left right : List RegistryProviderProjection} :
    SameProviders left right ↔
      left.map (fun provider => provider.toJson.normal) =
        right.map (fun provider => provider.toJson.normal) := by
  unfold SameProviders Json.Equal
  rw [← List.forall₂_eq_eq_eq, List.forall₂_map_left_iff, List.forall₂_map_right_iff]

theorem equal_document_iff {left right : RegistrySnapshotDocument} :
    Json.Equal left.toJson right.toJson ↔
      left.environment = right.environment ∧ SameProviders left.providers right.providers := by
  have distinct (environment : String) (providers : Json) :
      Json.Distinct [("environment", .str environment), ("providers", providers)] := by
    simp [Json.Distinct]
  rw [sameProviders_iff]
  constructor
  · intro same
    have members := lookup_of_equal (distinct _ _) (distinct _ _) same
    have environments := members "environment"
    have providers := members "providers"
    simp [Json.lookup, Json.normal, normalItems_eq_map] at environments providers
    exact ⟨environments, providers⟩
  · intro same
    apply normal_obj_eq (distinct _ _) (distinct _ _)
    intro key
    by_cases isEnvironment : "environment" = key
    · simp [Json.lookup, isEnvironment, same.1]
    · by_cases isProviders : "providers" = key
      · simpa [Json.lookup, ← isProviders, Json.normal, normalItems_eq_map,
          Function.comp_def] using same.2
      · simp [Json.lookup, isEnvironment, isProviders]

theorem providerId_of_equal {left right : RegistryProviderProjection}
    (same : Json.Equal left.toJson right.toJson) : left.providerId = right.providerId := by
  have distinct (provider : RegistryProviderProjection) :
      Json.Distinct provider.toJson.members := by
    simp [Json.Distinct, toJson, Json.members]
  have members := lookup_of_equal (distinct left) (distinct right) same "providerId"
  simpa [toJson, Json.members, Json.lookup, Json.normal] using members

/-- The text by which two projections of one provider are compared. -/
def canonicalText (provider : RegistryProviderProjection) : String :=
  canonicalize provider.toJson

section Laws

variable {platform : Platform} {earlier later : RegistrySnapshot} {diff : RegistrySnapshotDiff}

theorem entries_providerMap {document : RegistrySnapshotDocument}
    (distinct : (document.providers.map providerId).Nodup) :
    (providerMap document).entries =
      document.providers.map fun provider => (provider.providerId, provider) := by
  apply OrderedMap.entries_ofList
  rw [List.map_map]
  exact distinct

theorem get?_providerMap {document : RegistrySnapshotDocument}
    (distinct : (document.providers.map providerId).Nodup)
    (name : String) :
    (providerMap document).get? name =
      at? providerId document.providers name := by
  apply Option.ext
  intro provider
  rw [at?_eq_some distinct, ← OrderedMap.mem_entries, entries_providerMap distinct,
    List.mem_map]
  constructor
  · rintro ⟨other, member, same⟩
    cases same
    exact ⟨member, rfl⟩
  · rintro ⟨member, named⟩
    exact ⟨provider, member, by rw [named]⟩

/-- What the builder's maps and loops compute is the difference by names and texts. -/
theorem same_changes (before : (earlier.document.providers.map
      providerId).Nodup)
    (after : (later.document.providers.map providerId).Nodup)
    (made : diffRegistrySnapshots platform earlier later = .ok diff) :
    diff.changes.Same (changes providerId canonicalText
      earlier.document.providers later.document.providers) := by
  simp only [diffRegistrySnapshots, Except.bind_eq_ok, Except.pure_eq_ok] at made
  obtain ⟨_, _, made⟩ := made
  rw [← made]
  refine ⟨?_, ?_, ?_⟩
  · apply (List.mergeSort_perm _ _).trans
    apply List.Perm.of_eq
    simp only [changes, entries_providerMap after, List.filterMap_map,
      ← List.filterMap_eq_filter]
    apply List.filterMap_congr
    intro provider _
    simp only [Function.comp_apply, get?_providerMap before]
    cases found : at? providerId earlier.document.providers
        provider.providerId with
    | none => simp [Option.guard, found]
    | some previous => simp [Option.guard, found]
  · apply (List.mergeSort_perm _ _).trans
    apply List.Perm.of_eq
    simp only [changes, entries_providerMap before, List.filterMap_map,
      ← List.filterMap_eq_filter]
    apply List.filterMap_congr
    intro provider _
    simp only [Function.comp_apply, get?_providerMap after]
    cases found : at? providerId later.document.providers
        provider.providerId with
    | none => simp [Option.guard, found]
    | some other => simp [Option.guard, found]
  · apply ((List.mergeSort_perm _ _).map _).trans
    apply List.Perm.of_eq
    rw [entries_providerMap after, List.filterMap_map, List.map_filterMap, changes]
    apply List.filterMap_congr
    intro provider _
    simp only [Function.comp_apply, get?_providerMap before]
    cases at? providerId earlier.document.providers
        provider.providerId with
    | none => rfl
    | some previous =>
      by_cases same : canonicalize previous.toJson = canonicalize provider.toJson
      · simp only [canonicalText, same, ne_eq, not_true_eq_false, if_false, if_true,
          Option.map_none, Option.bind_some]
      · simp only [canonicalText, same, ne_eq, not_false_eq_true, if_false, if_true,
          Option.map_some, Option.bind_some]

theorem inOrder_of_pairwise {providers : List RegistryProviderProjection}
    (sorted : providers.Pairwise fun provider other =>
      platform.localeCompare provider.providerId other.providerId ≤ 0) :
    providers.mergeSort (inOrder platform providerId) = providers :=
  List.mergeSort_of_pairwise (sorted.imp fun below => decide_eq_true below)

theorem finite_provider {document : RegistrySnapshotDocument}
    (finite : document.toJson.finite = true) :
    ∀ provider ∈ document.providers, provider.toJson.finite = true := by
  simp only [RegistrySnapshotDocument.toJson, Json.finite, finiteFields, Bool.true_and,
    Bool.and_true, finiteItems_eq_all, List.all_map, List.all_eq_true] at finite
  exact finite

theorem applied_eq (collates : platform.Collates) (storedEarlier : earlier.Stored platform)
    (storedLater : later.Stored platform)
    (made : diffRegistrySnapshots platform earlier later = .ok diff) :
    diff.apply platform earlier.document.providers =
      later.document.providers.map (merged providerId
        canonicalText earlier.document.providers) := by
  have before := storedEarlier.ordered
  have after := storedLater.ordered
  have same := same_changes before.distinct after.distinct made
  have applied := apply_perm before.distinct after.distinct same
  have name : ∀ provider, (merged providerId canonicalText
      earlier.document.providers provider).providerId = provider.providerId :=
    key_merged before.distinct
  have plain : ∀ provider ∈ later.document.providers.map (merged
      providerId canonicalText earlier.document.providers),
      isPlain provider.providerId = true := by
    intro provider member
    obtain ⟨other, isLater, isProvider⟩ := List.mem_map.mp member
    rw [← isProvider, name other]
    exact after.plain other isLater
  have distinct : ((later.document.providers.map (merged
      providerId canonicalText earlier.document.providers)).map
        providerId).Nodup := by
    rw [List.map_map]
    rw [show providerId ∘ merged
      providerId canonicalText earlier.document.providers =
        providerId from funext name]
    exact after.distinct
  have sorted := mergeSort_eq_of_perm collates plain distinct applied.symm
  unfold RegistrySnapshotDiff.apply
  rw [← sorted]
  apply inOrder_of_pairwise
  rw [List.pairwise_map]
  apply after.sorted.imp
  intro provider other below
  rw [name, name]
  exact below

theorem apply_same (collates : platform.Collates) (storedEarlier : earlier.Stored platform)
    (storedLater : later.Stored platform)
    (made : diffRegistrySnapshots platform earlier later = .ok diff) :
    SameProviders (diff.apply platform earlier.document.providers) later.document.providers := by
  rw [applied_eq collates storedEarlier storedLater made, sameProviders_iff, List.map_map]
  apply List.map_congr_left
  intro provider member
  have finite := finite_provider storedLater.finite provider member
  have text : canonicalText (merged providerId canonicalText
      earlier.document.providers provider) = canonicalText provider :=
    text_merged provider
  apply (canonicalize_eq_iff _ finite).mp text
  -- The provider that stands for it is of one of the two documents.
  unfold merged
  cases found : at? providerId earlier.document.providers
      provider.providerId with
  | none => exact finite
  | some previous =>
    have there := (of_at? found).1
    change (if canonicalText previous = canonicalText provider then previous
      else provider).toJson.finite = true
    split
    · exact finite_provider storedEarlier.finite previous there
    · exact finite

theorem isEmpty_iff (collates : platform.Collates) (storedEarlier : earlier.Stored platform)
    (storedLater : later.Stored platform) (ofOne : earlier.environment = later.environment)
    (made : diffRegistrySnapshots platform earlier later = .ok diff) :
    diff.IsEmpty ↔ canonicalize earlier.document.toJson =
      canonicalize later.document.toJson := by
  have before := storedEarlier.ordered
  have after := storedLater.ordered
  have same := same_changes before.distinct after.distinct made
  have sameEnvironment : earlier.document.environment = later.document.environment := by
    rw [storedEarlier.environment, storedLater.environment, ofOne]
  have texts : canonicalize earlier.document.toJson =
      canonicalize later.document.toJson ↔
        SameProviders earlier.document.providers later.document.providers := by
    rw [canonicalize_eq_iff storedEarlier.finite storedLater.finite]
    exact equal_document_iff.trans (and_iff_right sameEnvironment)
  rw [texts]
  constructor
  · -- What an empty difference makes of the earlier providers is these providers.
    intro empty
    have applied := apply_same collates storedEarlier storedLater made
    have noChange : diff.changes.apply providerId
        earlier.document.providers = earlier.document.providers := by
      simp [KeyedDiff.Changes.apply, RegistrySnapshotDiff.changes, at?, empty.1,
        empty.2.1, empty.2.2]
    unfold RegistrySnapshotDiff.apply at applied
    rw [noChange, inOrder_of_pairwise before.sorted] at applied
    exact applied
  · intro sameProviders
    rw [sameProviders_iff] at sameProviders
    have nothing : diff.changes.added = [] ∧ diff.changes.removed = [] ∧
        diff.changes.changed = [] := by
      rw [changes_empty_iff before.distinct same]
      constructor
      · intro provider member
        have value := List.mem_map_of_mem (f := fun provider => provider.toJson.normal) member
        rw [sameProviders, List.mem_map] at value
        obtain ⟨other, there, isOther⟩ := value
        exact ⟨other, there, providerId_of_equal isOther⟩
      · intro other member
        have value := List.mem_map_of_mem (f := fun provider => provider.toJson.normal) member
        rw [← sameProviders, List.mem_map] at value
        obtain ⟨provider, there, isOther⟩ := value
        exact ⟨provider, there, providerId_of_equal isOther, canonicalize_of_equal isOther⟩
    exact ⟨nothing.1, nothing.2.1, List.map_eq_nil_iff.mp nothing.2.2⟩

theorem built_ordered (collates : platform.Collates) {environment : String}
    {inputs : List RegistryProviderInput} {options : RegistryEndpointPolicy}
    {built : RegistrySnapshotCandidate}
    (wasBuilt : buildRegistrySnapshot platform environment inputs options = .ok built) :
    built.document.environment = environment ∧ built.document.Ordered platform := by
  obtain ⟨_, providers, projected, _, same⟩ := buildRegistrySnapshot_eq_ok.mp wasBuilt
  obtain ⟨distinct, plain⟩ := built_identities projected
  have sorted := List.mergeSort_perm providers
    (inOrder platform providerId)
  rw [← same]
  constructor
  · rfl
  · constructor
    · intro provider member
      exact plain provider (sorted.mem_iff.mp member)
    · exact (sorted.map _).nodup_iff.mpr distinct
    · exact pairwise_sorted collates providerId providers

/-- The builder gives one document and checksum for every order of the providers and of their
tools, ordered by names that are used once. Between two stored snapshots of an environment the
difference leads from the providers of the first to those of the second, and it is empty exactly
when the documents have one canonical text. -/
theorem registry_snapshot_laws (platform : Platform) (collates : platform.Collates) :
    (∀ environment options inputs others, Rearranged inputs others → ∀ built,
      buildRegistrySnapshot platform environment inputs options = .ok built ↔
        buildRegistrySnapshot platform environment others options = .ok built) ∧
    (∀ environment options inputs built,
      buildRegistrySnapshot platform environment inputs options = .ok built →
        built.document.environment = environment ∧ built.document.Ordered platform) ∧
    ∀ earlier later : RegistrySnapshot, earlier.Stored platform → later.Stored platform →
      earlier.environment = later.environment →
        ∃ diff, diffRegistrySnapshots platform earlier later = .ok diff ∧
          SameProviders (diff.apply platform earlier.document.providers)
            later.document.providers ∧
          (diff.IsEmpty ↔ canonicalize earlier.document.toJson =
            canonicalize later.document.toJson) := by
  refine ⟨?_, ?_, ?_⟩
  · intro environment options inputs others rearranged built
    exact built_of_rearranged collates rearranged built
  · intro environment options inputs built wasBuilt
    exact built_ordered collates wasBuilt
  · intro earlier later storedEarlier storedLater ofOne
    have passes : Except.refuse (earlier.environment ≠ later.environment)
        "REGISTRY_DIFF_ENVIRONMENT_MISMATCH" = .ok () :=
      Except.refuse_eq_ok.mpr (not_not_intro ofOne)
    have made : ∃ diff, diffRegistrySnapshots platform earlier later = .ok diff := by
      unfold diffRegistrySnapshots
      rw [passes]
      exact ⟨_, rfl⟩
    obtain ⟨diff, made⟩ := made
    exact ⟨diff, made, apply_same collates storedEarlier storedLater made,
      isEmpty_iff collates storedEarlier storedLater ofOne made⟩

end Laws

namespace Sample

def ofLink (link : String) : Option Url :=
  if link = "https://alpha.example.test" ∨ link = "https://zeta.example.test" then
    some {
      protocol := "https:"
      username := ""
      password := ""
      hostname := String.ofList (link.toList.drop 8)
      port := ""
      pathname := "/"
      search := ""
      hash := "" }
  else none

def platform : Platform where
  localeCompare := fun left right => if left = right then 0 else if left ≤ right then -1 else 1
  toLowerCase := fun text => text
  test := fun _ _ => false
  matchAll := fun _ text => [text].filter fun text => "https://".toList.isPrefixOf text.toList
  parseUrl := ofLink
  href := fun url => url.protocol ++ "//" ++ url.hostname ++ url.pathname
  searchKeys := fun _ => []
  sha256 := fun text => text

theorem platform_collates : platform.Collates := by
  have below (left right : String) : platform.localeCompare left right ≤ 0 ↔ left ≤ right := by
    change (if left = right then (0 : Int) else if left ≤ right then -1 else 1) ≤ 0 ↔ _
    by_cases same : left = right
    · rw [if_pos same, same]
      exact iff_of_true (by decide) (String.le_refl right)
    · by_cases less : left ≤ right
      · rw [if_neg same, if_pos less]
        exact iff_of_true (by decide) less
      · rw [if_neg same, if_neg less]
        exact iff_of_false (by decide) less
  constructor
  · intro left right
    rw [below, below]
    exact String.le_total left right
  · intro first second third
    rw [below, below, below]
    exact String.le_trans
  · intro left right _ _
    rw [below, below]
    exact String.le_antisymm

def tool (name : String) : CatalogTool where
  name := name
  description := "Operate the device."
  inputSchema := .obj [("type", .str "object")]
  outputSchema := .obj [("type", .str "object")]
  taskExecution := .obj [("profileVersion", .str "1.0")]
  resourceBinding := none

def alpha : RegistryProviderInput where
  providerId := "alpha"
  serverId := "server-alpha"
  effectiveEndpoint := "https://alpha.example.test"
  catalog := {
    providerId := "alpha"
    revision := 1
    tools := [tool "bravo"]
    named := by decide
    distinct := by decide }

def zeta : RegistryProviderInput where
  providerId := "zeta"
  serverId := "server-zeta"
  effectiveEndpoint := "https://zeta.example.test"
  catalog := {
    providerId := "zeta"
    revision := 2
    tools := [tool "alpha", tool "zeta"]
    named := by decide
    distinct := by decide }

def zetaTurned : RegistryProviderInput where
  providerId := "zeta"
  serverId := "server-zeta"
  effectiveEndpoint := "https://zeta.example.test"
  catalog := {
    providerId := "zeta"
    revision := 2
    tools := [tool "zeta", tool "alpha"]
    named := by decide
    distinct := by decide }

def policy : RegistryEndpointPolicy where
  allowInsecureInternalTransport := false

def alphaProvider : RegistryProviderProjection where
  providerId := "alpha"
  serverId := "server-alpha"
  effectiveEndpoint := "https://alpha.example.test/mcp"
  catalogRevision := 1
  tools := [tool "bravo"]

def zetaProvider : RegistryProviderProjection where
  providerId := "zeta"
  serverId := "server-zeta"
  effectiveEndpoint := "https://zeta.example.test/mcp"
  catalogRevision := 2
  tools := [tool "alpha", tool "zeta"]

def document : RegistrySnapshotDocument where
  environment := "production"
  providers := [alphaProvider, zetaProvider]

def first : RegistrySnapshot where
  environment := "production"
  revision := 1
  checksum := ""
  document := {
    environment := "production"
    providers := [alphaProvider] }

def second : RegistrySnapshot where
  environment := "production"
  revision := 2
  checksum := (candidate platform document).checksum
  document := document

theorem alpha_projected : projectProvider platform policy [] [] alpha = .ok alphaProvider := by
  have sorted : alpha.catalog.tools.mergeSort (inOrder platform CatalogTool.name) =
      [tool "bravo"] :=
    List.mergeSort_of_pairwise (by decide)
  unfold projectProvider
  rw [sorted]
  rfl

theorem zeta_projected : projectProvider platform policy [] [] zeta = .ok zetaProvider := by
  have sorted : zeta.catalog.tools.mergeSort (inOrder platform CatalogTool.name) =
      [tool "alpha", tool "zeta"] :=
    List.mergeSort_of_pairwise (by decide)
  unfold projectProvider
  rw [sorted]
  rfl

theorem document_built : buildRegistrySnapshot platform "production" [alpha, zeta] policy =
    .ok (candidate platform document) := by
  have projected : projectProviders platform policy [] [] [alpha, zeta] =
      .ok [alphaProvider, zetaProvider] := by
    apply projectProviders_eq_ok.mpr
    exact ⟨⟨by decide, by decide, by simp⟩, .cons alpha_projected (.cons zeta_projected .nil)⟩
  have sorted : [alphaProvider, zetaProvider].mergeSort
      (inOrder platform providerId) = [alphaProvider, zetaProvider] :=
    List.mergeSort_of_pairwise (by decide)
  apply buildRegistrySnapshot_eq_ok.mpr
  refine ⟨by decide, _, projected, ?_⟩
  rw [sorted]
  exact ⟨rfl, rfl⟩

theorem first_stored : first.Stored platform where
  environment := rfl
  ordered := {
    plain := by decide
    distinct := by decide
    sorted := by decide }
  finite := by decide

theorem second_stored : second.Stored platform where
  environment := rfl
  ordered := {
    plain := by decide
    distinct := by decide
    sorted := by decide }
  finite := by decide

theorem turned : Rearranged [alpha, zeta] [zetaTurned, alpha] := by
  refine ⟨[alpha, zetaTurned], .cons ?_ (.cons ?_ .nil), .swap _ _ _⟩
  · exact ⟨rfl, rfl, rfl, rfl, rfl, .refl _⟩
  · exact ⟨rfl, rfl, rfl, rfl, rfl, .swap _ _ _⟩

theorem registry_snapshot_laws_sample :
    buildRegistrySnapshot platform "production" [zetaTurned, alpha] policy =
        .ok (candidate platform document) ∧
      ∃ diff, diffRegistrySnapshots platform first second = .ok diff ∧
        SameProviders (diff.apply platform first.document.providers) second.document.providers := by
  obtain ⟨oneBuild, _, differences⟩ := registry_snapshot_laws platform platform_collates
  constructor
  · exact (oneBuild _ _ _ _ turned _).mp document_built
  · obtain ⟨diff, made, applied, _⟩ := differences first second first_stored second_stored rfl
    exact ⟨diff, made, applied⟩

end Sample

end Registry

end SdarRuntime
