import SdarRuntime.Library.CanonicalJson
import SdarRuntime.Library.Checks
import Mathlib.Data.List.DropRight
import Mathlib.Data.List.Forall2

/-!
The public registry snapshot: the projection of the published providers with their tools, in the
order of their names, and its checksum. What the language's engine does with texts (collation,
regular expressions, URLs, hashes) is a parameter.
-/

namespace SdarRuntime

namespace Registry

open Except

structure RegExp where
  source : String
  flags : String

structure Url where
  protocol : String
  username : String
  password : String
  hostname : String
  port : String
  pathname : String
  search : String
  hash : String

structure Platform where
  localeCompare : String → String → Int
  toLowerCase : String → String
  test : RegExp → String → Bool
  matchAll : RegExp → String → List String
  parseUrl : String → Option Url
  href : Url → String
  searchKeys : Url → List String
  sha256 : String → String

/-- A text of letters, digits and the punctuation of identifiers and tool names. -/
def isPlain (text : String) : Bool :=
  text.toList.all fun char => char.isAlphanum || "._:-/".toList.contains char

/-- The documented order of texts. Among plain texts only equal ones compare as equal. -/
structure Platform.Collates (platform : Platform) : Prop where
  total : ∀ left right,
    platform.localeCompare left right ≤ 0 ∨ platform.localeCompare right left ≤ 0
  trans : ∀ first second third, platform.localeCompare first second ≤ 0 →
    platform.localeCompare second third ≤ 0 → platform.localeCompare first third ≤ 0
  exact : ∀ left right, isPlain left = true → isPlain right = true →
    platform.localeCompare left right ≤ 0 → platform.localeCompare right left ≤ 0 → left = right

/-- A letter or digit, and then at most `longest` of them or of the marks. -/
def isWord (marks : String) (longest : Nat) (text : String) : Bool :=
  match text.toList with
  | [] => false
  | first :: rest =>
    first.isAlphanum && decide (rest.length ≤ longest) &&
      rest.all fun char => char.isAlphanum || marks.toList.contains char

def toolName (name : String) : Bool := isWord "_.-/" 63 name

structure CatalogTool where
  name : String
  description : String
  inputSchema : Json
  outputSchema : Json
  taskExecution : Json
  resourceBinding : Option Json

/-- A published catalog. Discovery takes no tool without a proper name, and no name twice. -/
structure CatalogSnapshot where
  providerId : String
  revision : Int
  tools : List CatalogTool
  named : ∀ tool ∈ tools, toolName tool.name = true
  distinct : (tools.map CatalogTool.name).Nodup

structure RegistryProviderInput where
  providerId : String
  serverId : String
  effectiveEndpoint : String
  catalog : CatalogSnapshot

structure RegistryProviderProjection where
  providerId : String
  serverId : String
  effectiveEndpoint : String
  catalogRevision : Int
  tools : List CatalogTool

structure RegistrySnapshotDocument where
  environment : String
  providers : List RegistryProviderProjection

structure RegistrySnapshotCandidate where
  document : RegistrySnapshotDocument
  checksum : String
  canonicalJson : String

def CatalogTool.toJson (tool : CatalogTool) : Json :=
  .obj ([("name", .str tool.name), ("description", .str tool.description),
    ("inputSchema", tool.inputSchema), ("outputSchema", tool.outputSchema),
    ("taskExecution", tool.taskExecution)] ++
      (tool.resourceBinding.map fun binding => ("resourceBinding", binding)).toList)

def RegistryProviderProjection.toJson (provider : RegistryProviderProjection) : Json :=
  .obj [("providerId", .str provider.providerId), ("serverId", .str provider.serverId),
    ("protocolMode", .str "frozen_v1"), ("effectiveEndpoint", .str provider.effectiveEndpoint),
    ("catalogRevision", .num (toString provider.catalogRevision)),
    ("tools", .arr (provider.tools.map CatalogTool.toJson))]

def RegistrySnapshotDocument.toJson (document : RegistrySnapshotDocument) : Json :=
  .obj [("environment", .str document.environment),
    ("providers", .arr (document.providers.map RegistryProviderProjection.toJson))]

def sensitiveKeys : List String :=
  ["accesstoken", "apikey", "authorization", "clientsecret", "cookie", "credential",
    "credentialref", "entityid", "password", "privatekey", "proxyauthorization", "refreshtoken",
    "secret", "secretref", "setcookie", "token"]

def homeAssistantEntityId : RegExp where
  source := "(?:^|[^A-Za-z0-9_])(?:climate|light)\\.[a-z0-9_]+"
  flags := "i"

def authorizationValue : RegExp where
  source := "\\b(?:authorization\\s*:\\s*)?(?:bearer|basic)\\s+\\S+"
  flags := "i"

def secretAssignment : RegExp where
  source := "\\b(?:api[_-]?key|password|secret|token)\\s*[=:]\\s*\\S+"
  flags := "i"

def secretReference : RegExp where
  source := "\\bsecret:\\/\\/\\S+"
  flags := "i"

def jwtValue : RegExp where
  source := "\\beyJ[A-Za-z0-9_-]\x7b8,\x7d\\.[A-Za-z0-9_-]\x7b8,\x7d\\.[A-Za-z0-9_-]\x7b8,\x7d\\b"
  flags := ""

def urlValue : RegExp where
  source := "https?:\\/\\/[^\\s\"'<>]+"
  flags := "gi"

def endsWith (ending text : String) : Bool := ending.toList.isSuffixOf text.toList

section Building

variable (platform : Platform)

def isSensitiveKey (key : String) : Bool :=
  let normalized := String.ofList ((platform.toLowerCase key).toList.filter fun char =>
    char.isLower || char.isDigit)
  sensitiveKeys.contains normalized || endsWith "password" normalized ||
    endsWith "secret" normalized || endsWith "token" normalized ||
    endsWith "credential" normalized || endsWith "entityid" normalized

/-- A link with credentials, or with a sensitive key in its query. What is no link passes. -/
def isSensitiveLink (link : String) : Bool :=
  let trimmed := String.ofList (link.toList.rdropWhile fun char => "),.;".toList.contains char)
  match platform.parseUrl trimmed with
  | none => false
  | some url =>
    url.username != "" || url.password != "" ||
      (platform.searchKeys url).any (isSensitiveKey platform)

def assertPublicString (value : String) : Except String Unit := do
  let patterns := [homeAssistantEntityId, authorizationValue, secretAssignment, secretReference,
    jwtValue]
  refuse (patterns.any fun pattern => platform.test pattern value)
    "CATALOG_SENSITIVE_DATA_REJECTED"
  refuse ((platform.matchAll urlValue value).any (isSensitiveLink platform))
    "CATALOG_SENSITIVE_DATA_REJECTED"

mutual
def visit : Json → Except String Unit
  | .str value => assertPublicString platform value
  | .arr items => visitItems items
  | .obj fields => visitFields fields
  | _ => pure ()

def visitItems : List Json → Except String Unit
  | [] => pure ()
  | item :: rest => do
    visit item
    visitItems rest

def visitFields : List (String × Json) → Except String Unit
  | [] => pure ()
  | (key, item) :: rest => do
    refuse (isSensitiveKey platform key) "CATALOG_SENSITIVE_DATA_REJECTED"
    visit item
    visitFields rest
end

def assertCatalogPublicData (value : Json) : Except String Unit := visit platform value

/-- `^[a-z][a-z0-9-]{0,62}$` -/
def environmentPattern (environment : String) : Bool :=
  match environment.toList with
  | [] => false
  | first :: rest =>
    first.isLower && decide (rest.length ≤ 62) &&
      rest.all fun char => char.isLower || char.isDigit || char == '-'

/-- `^[A-Za-z0-9][A-Za-z0-9._:-]{0,127}$` -/
def identifierPattern (identifier : String) : Bool := isWord "._:-" 127 identifier

def validateRegistryEnvironment (environment : String) : Except String Unit :=
  refuse (environmentPattern environment = false) "REGISTRY_ENVIRONMENT_INVALID"

def validateRegistryProviderIdentity (input : RegistryProviderInput) : Except String Unit := do
  refuse (identifierPattern input.providerId = false ∨
    identifierPattern input.serverId = false) "REGISTRY_PROVIDER_IDENTITY_INVALID"
  refuse (input.catalog.providerId ≠ input.providerId) "REGISTRY_CATALOG_PROVIDER_MISMATCH"

structure RegistryEndpointPolicy where
  allowInsecureInternalTransport : Bool

def withMcpPath (pathname : String) : String :=
  let path := String.ofList (pathname.toList.rdropWhile fun char => char == '/') ++ "/mcp"
  if endsWith "/mcp/mcp" path then String.ofList (path.toList.take (path.length - 4)) else path

def effectiveEndpoint (value : String) (options : RegistryEndpointPolicy) :
    Except String String :=
  match platform.parseUrl value with
  | none => throw "REGISTRY_EFFECTIVE_ENDPOINT_INVALID"
  | some url =>
    let loopback := url.hostname == "127.0.0.1" || url.hostname == "::1" ||
      url.hostname == "localhost"
    if (url.protocol != "https:" && !(url.protocol == "http:" &&
          (loopback || options.allowInsecureInternalTransport))) ||
        url.username != "" || url.password != "" || url.search != "" || url.hash != "" then
      throw "REGISTRY_EFFECTIVE_ENDPOINT_INVALID"
    else pure (platform.href { url with pathname := withMcpPath url.pathname })

def inOrder {α : Type} (key : α → String) (left right : α) : Bool :=
  decide (platform.localeCompare (key left) (key right) ≤ 0)

/-- `Number.MAX_SAFE_INTEGER` -/
def maxSafeInteger : Int := 9007199254740991

def projectProvider (options : RegistryEndpointPolicy) (providerIds serverIds : List String)
    (input : RegistryProviderInput) : Except String RegistryProviderProjection := do
  validateRegistryProviderIdentity input
  refuse (input.catalog.revision < 1 ∨ maxSafeInteger < input.catalog.revision)
    "REGISTRY_CATALOG_REVISION_INVALID"
  refuse (input.providerId ∈ providerIds) "REGISTRY_PROVIDER_DUPLICATE"
  refuse (input.serverId ∈ serverIds) "REGISTRY_SERVER_DUPLICATE"
  let endpoint ← effectiveEndpoint platform input.effectiveEndpoint options
  pure {
    providerId := input.providerId
    serverId := input.serverId
    effectiveEndpoint := endpoint
    catalogRevision := input.catalog.revision
    tools := input.catalog.tools.mergeSort (inOrder platform CatalogTool.name) }

def projectProviders (options : RegistryEndpointPolicy) :
    List String → List String → List RegistryProviderInput →
      Except String (List RegistryProviderProjection)
  | _, _, [] => pure []
  | providerIds, serverIds, input :: rest => do
    let provider ← projectProvider platform options providerIds serverIds input
    let others ← projectProviders options (input.providerId :: providerIds)
      (input.serverId :: serverIds) rest
    pure (provider :: others)

def candidate (document : RegistrySnapshotDocument) : RegistrySnapshotCandidate where
  document := document
  checksum := platform.sha256 (Json.canonicalize document.toJson)
  canonicalJson := Json.canonicalize document.toJson

def buildRegistrySnapshot (environment : String) (inputs : List RegistryProviderInput)
    (options : RegistryEndpointPolicy) : Except String RegistrySnapshotCandidate := do
  validateRegistryEnvironment environment
  let providers ← projectProviders platform options [] [] inputs
  let document : RegistrySnapshotDocument := {
    environment := environment
    providers := providers.mergeSort (inOrder platform RegistryProviderProjection.providerId) }
  assertCatalogPublicData platform document.toJson
  pure (candidate platform document)

end Building

theorem plain_of_isWord {marks text : String} {longest : Nat}
    (known : ∀ char ∈ marks.toList, "._:-/".toList.contains char = true)
    (matched : isWord marks longest text = true) : isPlain text = true := by
  unfold isWord at matched
  unfold isPlain
  cases chars : text.toList with
  | nil => rfl
  | cons first rest =>
    rw [chars] at matched
    simp only [Bool.and_eq_true, List.all_eq_true, Bool.or_eq_true] at matched
    rw [List.all_cons, Bool.and_eq_true, List.all_eq_true, matched.1.1]
    constructor
    · rfl
    · intro char member
      rcases matched.2 char member with letter | mark
      · rw [letter]
        rfl
      · rw [known char (List.contains_iff_mem.mp mark), Bool.or_true]

theorem plain_of_identifier {identifier : String} (matched : identifierPattern identifier = true) :
    isPlain identifier = true :=
  plain_of_isWord (List.all_eq_true.mp (by decide)) matched

theorem plain_of_toolName {name : String} (matched : toolName name = true) :
    isPlain name = true :=
  plain_of_isWord (List.all_eq_true.mp (by decide)) matched

section Order

variable {platform : Platform} {α : Type} {key : α → String} {items others : List α}

theorem pairwise_sorted (collates : platform.Collates) (key : α → String) (items : List α) :
    (items.mergeSort (inOrder platform key)).Pairwise fun left right =>
      platform.localeCompare (key left) (key right) ≤ 0 := by
  have trans : ∀ first second third : α, inOrder platform key first second = true →
      inOrder platform key second third = true → inOrder platform key first third = true := by
    intro first second third below above
    rw [inOrder, decide_eq_true_eq] at below above ⊢
    exact collates.trans _ _ _ below above
  have total : ∀ left right : α,
      (inOrder platform key left right || inOrder platform key right left) = true := by
    intro left right
    rw [inOrder, inOrder, Bool.or_eq_true, decide_eq_true_eq, decide_eq_true_eq]
    exact collates.total _ _
  have sorted := List.pairwise_mergeSort trans total items
  exact sorted.imp fun below => of_decide_eq_true below

/-- Sorted lists of the same items are equal where the names tell the items apart. -/
theorem eq_of_sorted (collates : platform.Collates)
    (plain : ∀ item ∈ items, isPlain (key item) = true) (distinct : (items.map key).Nodup)
    (same : items.Perm others)
    (sorted : items.Pairwise fun left right =>
      platform.localeCompare (key left) (key right) ≤ 0)
    (sorted' : others.Pairwise fun left right =>
      platform.localeCompare (key left) (key right) ≤ 0) : items = others := by
  apply same.eq_of_pairwise _ sorted sorted'
  intro left right inItems inOthers below above
  have member := same.mem_iff.mpr inOthers
  have sameKey := collates.exact _ _ (plain left inItems) (plain right member) below above
  exact List.inj_on_of_nodup_map distinct inItems member sameKey

theorem mergeSort_eq_of_perm (collates : platform.Collates)
    (plain : ∀ item ∈ items, isPlain (key item) = true) (distinct : (items.map key).Nodup)
    (same : items.Perm others) :
    items.mergeSort (inOrder platform key) = others.mergeSort (inOrder platform key) := by
  have sortedItems := List.mergeSort_perm items (inOrder platform key)
  have sortedOthers := List.mergeSort_perm others (inOrder platform key)
  have sortedPlain : ∀ item ∈ items.mergeSort (inOrder platform key),
      isPlain (key item) = true := by
    intro item member
    exact plain item (sortedItems.mem_iff.mp member)
  have sortedDistinct : ((items.mergeSort (inOrder platform key)).map key).Nodup :=
    (sortedItems.map key).nodup_iff.mpr distinct
  exact eq_of_sorted collates sortedPlain sortedDistinct
    ((sortedItems.trans same).trans sortedOthers.symm)
    (pairwise_sorted collates key items) (pairwise_sorted collates key others)

end Order

section Built

variable {platform : Platform} {options : RegistryEndpointPolicy}

variable {providerIds serverIds : List String} {input : RegistryProviderInput}
variable {provider : RegistryProviderProjection}

/-- The identity sets only decide whether a provider is taken, not what is taken. -/
theorem projectProvider_eq_ok :
    projectProvider platform options providerIds serverIds input = .ok provider ↔
      (input.providerId ∉ providerIds ∧ input.serverId ∉ serverIds) ∧
        projectProvider platform options [] [] input = .ok provider := by
  simp only [projectProvider, bind_eq_ok, refuse_eq_ok, List.not_mem_nil,
    not_false_iff, true_and, exists_const]
  constructor
  · intro projected
    obtain ⟨valid, validated, revision, newProvider, newServer, endpoint⟩ := projected
    exact ⟨⟨newProvider, newServer⟩, valid, validated, revision, endpoint⟩
  · intro projected
    obtain ⟨⟨newProvider, newServer⟩, valid, validated, revision, endpoint⟩ := projected
    exact ⟨valid, validated, revision, newProvider, newServer, endpoint⟩

theorem projectProvider_fields
    (projected : projectProvider platform options [] [] input = .ok provider) :
    identifierPattern input.providerId = true ∧ provider.providerId = input.providerId := by
  simp only [projectProvider, validateRegistryProviderIdentity, bind_eq_ok,
    refuse_eq_ok, pure_eq_ok] at projected
  obtain ⟨_, ⟨_, identified, _⟩, _, _, _, _, _, _, _, _, same⟩ := projected
  rw [not_or, Bool.not_eq_false] at identified
  rw [← same]
  exact ⟨identified.1, rfl⟩

variable {inputs : List RegistryProviderInput} {providers : List RegistryProviderProjection}

theorem projectProviders_eq_ok :
    projectProviders platform options providerIds serverIds inputs = .ok providers ↔
      ((inputs.map RegistryProviderInput.providerId).Nodup ∧
        (inputs.map RegistryProviderInput.serverId).Nodup ∧
        ∀ input ∈ inputs, input.providerId ∉ providerIds ∧ input.serverId ∉ serverIds) ∧
      List.Forall₂ (fun input provider =>
        projectProvider platform options [] [] input = .ok provider) inputs providers := by
  induction inputs generalizing providerIds serverIds providers with
  | nil =>
    rw [projectProviders, pure_eq_ok]
    constructor
    · intro same
      rw [← same]
      exact ⟨⟨List.nodup_nil, List.nodup_nil, by simp⟩, .nil⟩
    · intro there
      cases there.2
      rfl
  | cons input rest ih =>
    simp only [projectProviders, bind_eq_ok, pure_eq_ok]
    constructor
    · intro built
      obtain ⟨provider, projected, others, continued, same⟩ := built
      obtain ⟨fresh, alone⟩ := projectProvider_eq_ok.mp projected
      obtain ⟨⟨distinct, distinct', apart⟩, each⟩ := ih.mp continued
      rw [← same]
      refine ⟨⟨?_, ?_, ?_⟩, .cons alone each⟩
      · rw [List.map_cons, List.nodup_cons]
        constructor
        · intro again
          obtain ⟨other, member, sameId⟩ := List.mem_map.mp again
          exact (apart other member).1 (sameId ▸ List.mem_cons_self)
        · exact distinct
      · rw [List.map_cons, List.nodup_cons]
        constructor
        · intro again
          obtain ⟨other, member, sameId⟩ := List.mem_map.mp again
          exact (apart other member).2 (sameId ▸ List.mem_cons_self)
        · exact distinct'
      · intro other member
        rcases List.mem_cons.mp member with isInput | inRest
        · rw [isInput]
          exact fresh
        · have both := apart other inRest
          exact ⟨fun there => both.1 (List.mem_cons_of_mem _ there),
            fun there => both.2 (List.mem_cons_of_mem _ there)⟩
    · intro there
      obtain ⟨⟨distinct, distinct', apart⟩, each⟩ := there
      rw [List.map_cons, List.nodup_cons] at distinct distinct'
      cases each with
      | @cons _ provider _ others projected each =>
        refine ⟨provider, ?_, others, ?_, rfl⟩
        · exact projectProvider_eq_ok.mpr ⟨apart input List.mem_cons_self, projected⟩
        · refine ih.mpr ⟨⟨distinct.2, distinct'.2, ?_⟩, each⟩
          intro other member
          have both := apart other (List.mem_cons_of_mem input member)
          rw [List.mem_cons, List.mem_cons, not_or, not_or]
          refine ⟨⟨?_, both.1⟩, ?_, both.2⟩
          · intro sameId
            exact distinct.1 (sameId ▸ List.mem_map_of_mem member)
          · intro sameId
            exact distinct'.1 (sameId ▸ List.mem_map_of_mem member)

variable {environment : String} {built : RegistrySnapshotCandidate}

theorem buildRegistrySnapshot_eq_ok :
    buildRegistrySnapshot platform environment inputs options = .ok built ↔
      environmentPattern environment = true ∧
      ∃ providers, projectProviders platform options [] [] inputs = .ok providers ∧
        let document : RegistrySnapshotDocument := {
          environment := environment
          providers := providers.mergeSort
            (inOrder platform RegistryProviderProjection.providerId) }
        assertCatalogPublicData platform document.toJson = .ok () ∧
          candidate platform document = built := by
  simp only [buildRegistrySnapshot, validateRegistryEnvironment, bind_eq_ok,
    refuse_eq_ok, pure_eq_ok, Bool.not_eq_false]
  constructor
  · intro there
    obtain ⟨_, matched, providers, projected, _, passed, same⟩ := there
    exact ⟨matched, providers, projected, passed, same⟩
  · intro there
    obtain ⟨matched, providers, projected, passed, same⟩ := there
    exact ⟨⟨⟩, matched, providers, projected, ⟨⟩, passed, same⟩

private theorem projected_identities (each : List.Forall₂ (fun input provider =>
      projectProvider platform options [] [] input = .ok provider) inputs providers) :
    providers.map RegistryProviderProjection.providerId =
        inputs.map RegistryProviderInput.providerId ∧
      ∀ provider ∈ providers, isPlain provider.providerId = true := by
  induction each with
  | nil => exact ⟨rfl, by simp⟩
  | cons projected _ ih =>
    obtain ⟨identified, sameId⟩ := projectProvider_fields projected
    constructor
    · rw [List.map_cons, List.map_cons, sameId, ih.1]
    · intro provider member
      rcases List.mem_cons.mp member with isHead | inRest
      · rw [isHead, sameId]
        exact plain_of_identifier identified
      · exact ih.2 provider inRest

theorem built_identities
    (projected : projectProviders platform options [] [] inputs = .ok providers) :
    (providers.map RegistryProviderProjection.providerId).Nodup ∧
      ∀ provider ∈ providers, isPlain provider.providerId = true := by
  obtain ⟨⟨distinct, _, _⟩, each⟩ := projectProviders_eq_ok.mp projected
  obtain ⟨sameIds, plain⟩ := projected_identities each
  rw [sameIds]
  exact ⟨distinct, plain⟩

/-- The same provider, with the tools of its catalog in another order. -/
structure SameProvider (left right : RegistryProviderInput) : Prop where
  providerId : left.providerId = right.providerId
  serverId : left.serverId = right.serverId
  effectiveEndpoint : left.effectiveEndpoint = right.effectiveEndpoint
  catalogProvider : left.catalog.providerId = right.catalog.providerId
  revision : left.catalog.revision = right.catalog.revision
  tools : left.catalog.tools.Perm right.catalog.tools

/-- The same providers in another order, each with its tools in another order. -/
def Rearranged (inputs others : List RegistryProviderInput) : Prop :=
  ∃ middle, List.Forall₂ SameProvider inputs middle ∧ middle.Perm others

theorem projectProvider_of_same (collates : platform.Collates) {left right : RegistryProviderInput}
    (same : SameProvider left right) (providerIds serverIds : List String) :
    projectProvider platform options providerIds serverIds left =
      projectProvider platform options providerIds serverIds right := by
  have plain : ∀ tool ∈ left.catalog.tools, isPlain tool.name = true :=
    fun tool member => plain_of_toolName (left.catalog.named tool member)
  have tools := mergeSort_eq_of_perm collates plain left.catalog.distinct same.tools
  unfold projectProvider validateRegistryProviderIdentity
  rw [same.providerId, same.serverId, same.effectiveEndpoint, same.catalogProvider,
    same.revision, tools]

variable {inputs others : List RegistryProviderInput}

theorem projectProviders_of_same (collates : platform.Collates)
    (same : List.Forall₂ SameProvider inputs others) (providerIds serverIds : List String) :
    projectProviders platform options providerIds serverIds inputs =
      projectProviders platform options providerIds serverIds others := by
  induction same generalizing providerIds serverIds with
  | nil => rfl
  | cons head _ ih =>
    rw [projectProviders, projectProviders, projectProvider_of_same collates head,
      head.providerId, head.serverId, ih]

theorem projectProviders_of_perm (same : inputs.Perm others)
    (projected : projectProviders platform options [] [] inputs = .ok providers) :
    ∃ providers', projectProviders platform options [] [] others = .ok providers' ∧
      providers.Perm providers' := by
  obtain ⟨⟨distinct, distinct', _⟩, each⟩ := projectProviders_eq_ok.mp projected
  obtain ⟨providers', each', same'⟩ := List.perm_comp_forall₂ same.symm each
  refine ⟨providers', projectProviders_eq_ok.mpr ⟨⟨?_, ?_, ?_⟩, each'⟩, same'.symm⟩
  · exact (same.map _).nodup_iff.mp distinct
  · exact (same.map _).nodup_iff.mp distinct'
  · intro input _
    exact ⟨List.not_mem_nil, List.not_mem_nil⟩

theorem built_of_perm (collates : platform.Collates) (same : inputs.Perm others)
    (wasBuilt : buildRegistrySnapshot platform environment inputs options = .ok built) :
    buildRegistrySnapshot platform environment others options = .ok built := by
  obtain ⟨matched, providers, projected, rest⟩ := buildRegistrySnapshot_eq_ok.mp wasBuilt
  obtain ⟨providers', projected', rearranged⟩ := projectProviders_of_perm same projected
  obtain ⟨distinct, plain⟩ := built_identities projected
  have sorted := mergeSort_eq_of_perm collates plain distinct rearranged
  rw [sorted] at rest
  exact buildRegistrySnapshot_eq_ok.mpr ⟨matched, providers', projected', rest⟩

/-- The builder gives one candidate for every order of the providers and of their tools. -/
theorem built_of_rearranged (collates : platform.Collates) (rearranged : Rearranged inputs others)
    (built : RegistrySnapshotCandidate) :
    buildRegistrySnapshot platform environment inputs options = .ok built ↔
      buildRegistrySnapshot platform environment others options = .ok built := by
  obtain ⟨middle, same, perm⟩ := rearranged
  have sameBuild : buildRegistrySnapshot platform environment inputs options =
      buildRegistrySnapshot platform environment middle options := by
    unfold buildRegistrySnapshot
    rw [projectProviders_of_same collates same]
  rw [sameBuild]
  constructor
  · exact built_of_perm collates perm
  · exact built_of_perm collates perm.symm

end Built

end Registry

end SdarRuntime
