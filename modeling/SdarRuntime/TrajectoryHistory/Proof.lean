import SdarRuntime.TrajectoryHistory.Contract
import SdarRuntime.Library.Base64Url

/-!
Hashes, signatures and the verifier of a retained range. Hashing, keys and signatures are those
of the platform and stay parameters.
-/

namespace SdarRuntime

namespace TrajectoryHistory

structure Platform (PublicKey SigningKey : Type) where
  formats : Formats
  sha256 : String → String
  ed25519 : PublicKey → Bool
  /-- The hash of the public key's encoding. -/
  keyDigest : PublicKey → String
  publicKey : SigningKey → PublicKey
  sign : String → SigningKey → List UInt8
  verify : String → PublicKey → List UInt8 → Bool

variable {PublicKey SigningKey : Type} (platform : Platform PublicKey SigningKey)

/-- `parse` of a schema: what it does not accept it throws. -/
def parsed {α : Type} : Option α → Except String α
  | some value => .ok value
  | none => .error "ZodError"

theorem parsed_ok {α : Type} {result : Option α} {value : α}
    (accepted : parsed result = .ok value) : result = some value := by
  cases result with
  | none => cases accepted
  | some found =>
    cases accepted
    rfl

/-- `if (condition) throw Error(code)` -/
def throwIf (condition : Prop) [Decidable condition] (code : String) : Except String Unit :=
  if condition then .error code else .ok ()

theorem throwIf_ok {condition : Prop} [Decidable condition] {code : String}
    {value : Unit} (passed : throwIf condition code = .ok value) : ¬ condition := by
  intro holds
  rw [throwIf, if_pos holds] at passed
  cases passed

theorem throwIf_of_not {condition : Prop} [Decidable condition] {code : String}
    (fails : ¬ condition) : throwIf condition code = .ok () := if_neg fails

theorem bind_ok {α β : Type} {first : Except String α} {next : α → Except String β}
    {value : β} (finished : (first >>= next) = .ok value) :
    ∃ middle, first = .ok middle ∧ next middle = .ok value := by
  cases first with
  | error failure => cases finished
  | ok middle => exact ⟨middle, rfl, finished⟩

def historyCanonicalJson (value : Json) : Except String String :=
  if value.finite then .ok value.canonicalize
  else .error "HISTORY_CANONICAL_JSON_VALUE_INVALID"

theorem historyCanonicalJson_ok {value : Json} {text : String}
    (written : historyCanonicalJson value = .ok text) :
    value.finite = true ∧ value.canonicalize = text := by
  unfold historyCanonicalJson at written
  split at written
  next isFinite =>
    cases written
    exact ⟨isFinite, rfl⟩
  next => cases written

def historySha256 (text : String) : String := platform.sha256 text

def historyScopeHash (scope : ReceptionScope) : Except String String := do
  let accepted ← parsed (ReceptionScope.parse platform.formats scope.toJson)
  return historySha256 platform (← historyCanonicalJson accepted.toJson)

def receptionHash (scope : ReceptionScope) (sequence previousHash : String) (receipt : Json)
    (recordedAt : String) : Except String String := do
  let scopeHash ← historyScopeHash platform scope
  return historySha256 platform (← historyCanonicalJson (.obj [
    ("algorithm", .str chainAlgorithm), ("scopeHash", .str scopeHash),
    ("sequence", .str sequence), ("previousHash", .str previousHash), ("receipt", receipt),
    ("recordedAt", .str recordedAt)]))

def historyKeyId (key : PublicKey) : Except String String :=
  if platform.ed25519 key then .ok (platform.keyDigest key)
  else .error "HISTORY_ED25519_KEY_REQUIRED"

def signHistoryManifest (manifest : HistoryManifest) (key : SigningKey) :
    Except String SignedHistoryManifest := do
  let body ← parsed (HistoryManifest.parse platform.formats manifest.toJson)
  let keyId ← historyKeyId platform (platform.publicKey key)
  let value := Base64Url.encode (platform.sign (← historyCanonicalJson body.toJson) key)
  parsed (SignedHistoryManifest.parse platform.formats
    (SignedHistoryManifest.toJson { manifest := body, signature := { keyId, value } }))

def verifyHistoryManifest (input : Json) (trustedPublicKey : PublicKey)
    (expectedScope : ReceptionScope) : Except String HistoryManifest := do
  let signed ← parsed (SignedHistoryManifest.parse platform.formats input)
  let signature := Base64Url.decode signed.signature.value
  throwIf (Base64Url.encode signature ≠ signed.signature.value ∨ signature.length ≠ 64)
    "HISTORY_PROOF_SIGNATURE_ENCODING_INVALID"
  throwIf ((← historyScopeHash platform signed.manifest.scope) ≠
      (← historyScopeHash platform expectedScope))
    "HISTORY_PROOF_SCOPE_MISMATCH"
  throwIf (signed.signature.keyId ≠ (← historyKeyId platform trustedPublicKey))
    "HISTORY_PROOF_SIGNATURE_INVALID"
  throwIf (platform.verify (← historyCanonicalJson signed.manifest.toJson) trustedPublicKey
      signature = false)
    "HISTORY_PROOF_SIGNATURE_INVALID"
  return signed.manifest

structure RetainedHistoryVerifier where
  manifest : HistoryManifest
  nextSequence : Nat
  previousHash : String
  count : Nat
  finished : Bool

namespace RetainedHistoryVerifier

def create (signed : Json) (key : PublicKey) (expectedScope : ReceptionScope) :
    Except String RetainedHistoryVerifier := do
  let manifest ← verifyHistoryManifest platform signed key expectedScope
  match manifest.retainedHistory.status, manifest.previousHash, manifest.terminalHash with
  | .complete, some previousHash, some _ =>
    return {
      manifest
      nextSequence := bigInt manifest.fromSequence
      previousHash
      count := 0
      finished := false }
  | _, _, _ => throw "HISTORY_RETAINED_SET_NOT_COMPLETE"

def accept (verifier : RetainedHistoryVerifier) (entryInput : Json) :
    Except String (ReceptionEntry × RetainedHistoryVerifier) := do
  throwIf verifier.finished "HISTORY_VERIFIER_ALREADY_FINISHED"
  let entry ← parsed (ReceptionEntry.parse platform.formats entryInput)
  throwIf (bigInt entry.sequence ≠ verifier.nextSequence ∨
      bigInt verifier.manifest.throughSequence < bigInt entry.sequence ∨
      entry.previousHash ≠ verifier.previousHash)
    "HISTORY_ENTRY_CHAIN_INVALID"
  throwIf ((← receptionHash platform verifier.manifest.scope entry.sequence entry.previousHash
      entry.receipt entry.recordedAt) ≠ entry.hash)
    "HISTORY_ENTRY_CHAIN_INVALID"
  return (entry, { verifier with
    nextSequence := verifier.nextSequence + 1
    count := verifier.count + 1
    previousHash := entry.hash })

/-- The verifier after a list of entries, each of which it accepts. -/
def acceptEach (verifier : RetainedHistoryVerifier) :
    List Json → Except String RetainedHistoryVerifier
  | [] => .ok verifier
  | entryInput :: rest => do
    let (_, next) ← verifier.accept platform entryInput
    next.acceptEach rest

def finish (verifier : RetainedHistoryVerifier) (rangeReadFinished : Bool) :
    Except String RetainedHistoryVerifier := do
  throwIf (verifier.finished ∨ rangeReadFinished = false ∨
      verifier.count ≠ bigInt verifier.manifest.retainedEntryCount ∨
      some verifier.previousHash ≠ verifier.manifest.terminalHash)
    "HISTORY_RANGE_NOT_FULLY_VERIFIED"
  return { verifier with finished := true }

end RetainedHistoryVerifier
end TrajectoryHistory

end SdarRuntime
