import SdarRuntime.TrajectoryHistory.Proof

/-!
A manifest names one retained history: two lists of entries that the verifier accepts and
finishes over the same signed manifest are the same list. An entry's hash covers everything in
it, so equal terminal hashes are followed back along the chain, one entry at a time.
-/

namespace SdarRuntime

namespace TrajectoryHistory

open Json RetainedHistoryVerifier ReceptionEntry

section Theory

variable {PublicKey SigningKey : Type} {platform : Platform PublicKey SigningKey}

private def hashed (scopeHash sequence previousHash : String) (receipt : Json)
    (recordedAt : String) : List (String × Json) :=
  [("algorithm", .str chainAlgorithm), ("scopeHash", .str scopeHash),
    ("sequence", .str sequence), ("previousHash", .str previousHash), ("receipt", receipt),
    ("recordedAt", .str recordedAt)]

variable {scope : ReceptionScope}

private theorem receptionHash_of {sequence previousHash scopeHash : String} {receipt : Json}
    {recordedAt : String} (isScope : historyScopeHash platform scope = .ok scopeHash)
    (isFinite : (Json.obj
      (hashed scopeHash sequence previousHash receipt recordedAt)).finite = true) :
    receptionHash platform scope sequence previousHash receipt recordedAt =
      .ok (platform.sha256
        (Json.obj (hashed scopeHash sequence previousHash receipt recordedAt)).canonicalize) := by
  have canonical : historyCanonicalJson
      (.obj (hashed scopeHash sequence previousHash receipt recordedAt)) = .ok (Json.obj
        (hashed scopeHash sequence previousHash receipt recordedAt)).canonicalize :=
    if_pos isFinite
  simp only [hashed] at canonical ⊢
  simp only [receptionHash, isScope, bind, Except.bind, canonical]
  rfl

private theorem receptionHash_ok {sequence previousHash : String} {receipt : Json}
    {recordedAt hash : String}
    (computed : receptionHash platform scope sequence previousHash receipt recordedAt = .ok hash) :
    ∃ scopeHash,
      (Json.obj (hashed scopeHash sequence previousHash receipt recordedAt)).finite = true ∧
      platform.sha256
        (Json.obj (hashed scopeHash sequence previousHash receipt recordedAt)).canonicalize =
        hash := by
  unfold receptionHash at computed
  obtain ⟨scopeHash, _, rest⟩ := bind_ok computed
  obtain ⟨text, written, answered⟩ := bind_ok rest
  have canonical := historyCanonicalJson_ok written
  refine ⟨scopeHash, canonical.1, ?_⟩
  cases answered
  exact congrArg platform.sha256 canonical.2

/-- Without collisions a reception hash is the hash of one sequence, predecessor, receipt and
recording time only. -/
theorem receptionHash_injective (collisionFree : Function.Injective platform.sha256)
    {scope scope' : ReceptionScope} {sequence sequence' previousHash previousHash' : String}
    {receipt receipt' : Json} {recordedAt recordedAt' hash : String}
    (computed : receptionHash platform scope sequence previousHash receipt recordedAt = .ok hash)
    (computed' :
      receptionHash platform scope' sequence' previousHash' receipt' recordedAt' = .ok hash) :
    sequence = sequence' ∧ previousHash = previousHash' ∧ Equal receipt receipt' ∧
      recordedAt = recordedAt' := by
  obtain ⟨scopeHash, isFinite, hashedTo⟩ := receptionHash_ok computed
  obtain ⟨scopeHash', isFinite', hashedTo'⟩ := receptionHash_ok computed'
  have texts := collisionFree (hashedTo.trans hashedTo'.symm)
  have values : Equal (.obj (hashed scopeHash sequence previousHash receipt recordedAt))
      (.obj (hashed scopeHash' sequence' previousHash' receipt' recordedAt')) :=
    (canonicalize_eq_iff isFinite isFinite').mp texts
  have members := lookup_of_equal (by simp [Distinct, hashed])
    (by simp [Distinct, hashed]) values
  have sequences := members "sequence"
  have previous := members "previousHash"
  have receipts := members "receipt"
  have times := members "recordedAt"
  simp [hashed, lookup, normal] at sequences previous receipts times
  exact ⟨sequences, previous, receipts, times⟩

private theorem textMember_eq {fields : List (String × Json)} {key text : String}
    (found : textMember key (.obj fields) = some text) :
    lookup key fields = some (.str text) := by
  change (lookup key fields).bind text? = some text at found
  cases value : lookup key fields with
  | none =>
    rw [value] at found
    cases found
  | some inner =>
    rw [value] at found
    cases inner with
    | str other =>
      cases found
      rfl
    | _ => cases found

variable {value : Json} {entry : ReceptionEntry}

theorem ReceptionEntry.parse_equal {formats : Formats}
    (accepted : ReceptionEntry.parse formats value = some entry) : Equal value entry.toJson := by
  unfold ReceptionEntry.parse at accepted
  split at accepted
  next shape =>
    obtain ⟨fields, rfl, distinct, named, members⟩ := Schema.accepts_object shape
    simp only [read, bind, Option.bind_eq_some_iff, pure, Option.some.injEq]
      at accepted
    obtain ⟨sequence, atSequence, previousHash, atPrevious, hash, atHash, receipt, atReceipt,
      recordedAt, atRecorded, same⟩ := accepted
    have owner : lookup "recordingClockOwner" fields =
        some (.str "POSTGRESQL_RECORD_INSERTION_CLOCK") := by
      have member : ∃ inner, lookup "recordingClockOwner" fields = some inner ∧
          (Schema.literal "POSTGRESQL_RECORD_INSERTION_CLOCK").accepts inner = true :=
        Schema.accepts_member members (by simp [required])
      obtain ⟨inner, found, holds⟩ := member
      rw [found, Schema.accepts_literal holds]
    have resolution : lookup "recordingResolution" fields = some (.str "MICROSECOND") := by
      have member : ∃ inner, lookup "recordingResolution" fields = some inner ∧
          (Schema.literal "MICROSECOND").accepts inner = true :=
        Schema.accepts_member members (by simp [required])
      obtain ⟨inner, found, holds⟩ := member
      rw [found, Schema.accepts_literal holds]
    have committed : lookup "exactTransactionCommittedAt" fields = some .null := by
      have member : ∃ inner, lookup "exactTransactionCommittedAt" fields = some inner ∧
          Schema.null.accepts inner = true :=
        Schema.accepts_member members (by simp [required])
      obtain ⟨inner, found, holds⟩ := member
      rw [found, Schema.accepts_null holds]
    subst same
    refine normal_obj_eq distinct (by simp [Distinct]) ?_
    intro key
    by_cases isSequence : key = "sequence"
    · rw [isSequence, textMember_eq atSequence]
      rfl
    by_cases isPrevious : key = "previousHash"
    · rw [isPrevious, textMember_eq atPrevious]
      rfl
    by_cases isHash : key = "hash"
    · rw [isHash, textMember_eq atHash]
      rfl
    by_cases isReceipt : key = "receipt"
    · have found : lookup "receipt" fields = some receipt := atReceipt
      rw [isReceipt, found]
      rfl
    by_cases isRecorded : key = "recordedAt"
    · rw [isRecorded, textMember_eq atRecorded]
      rfl
    by_cases isOwner : key = "recordingClockOwner"
    · rw [isOwner, owner]
      rfl
    by_cases isResolution : key = "recordingResolution"
    · rw [isResolution, resolution]
      rfl
    by_cases isCommitted : key = "exactTransactionCommittedAt"
    · rw [isCommitted, committed]
      rfl
    -- No other key is there: the schema is strict.
    have absent : lookup key fields = none := by
      apply lookup_eq_none
      intro field inFields sameKey
      obtain ⟨member, inShape, atKey⟩ := named field inFields
      rw [sameKey] at atKey
      simp only [required, List.mem_cons, List.not_mem_nil, or_false] at inShape
      rcases inShape with rfl | rfl | rfl | rfl | rfl | rfl | rfl | rfl
      · exact isSequence atKey.symm
      · exact isPrevious atKey.symm
      · exact isHash atKey.symm
      · exact isReceipt atKey.symm
      · exact isRecorded atKey.symm
      · exact isOwner atKey.symm
      · exact isResolution atKey.symm
      · exact isCommitted atKey.symm
    rw [absent]
    simp [lookup, Ne.symm isSequence, Ne.symm isPrevious, Ne.symm isHash, Ne.symm isReceipt,
      Ne.symm isRecorded, Ne.symm isOwner, Ne.symm isResolution, Ne.symm isCommitted]
  next => cases accepted

namespace RetainedHistoryVerifier

theorem accept_ok {verifier next : RetainedHistoryVerifier}
    (accepted : verifier.accept platform value = .ok (entry, next)) :
    ReceptionEntry.parse platform.formats value = some entry ∧
      bigInt entry.sequence = verifier.nextSequence ∧
      bigInt entry.sequence ≤ bigInt verifier.manifest.throughSequence ∧
      entry.previousHash = verifier.previousHash ∧
      receptionHash platform verifier.manifest.scope entry.sequence entry.previousHash
        entry.receipt entry.recordedAt = .ok entry.hash ∧
      next = { verifier with
        nextSequence := verifier.nextSequence + 1
        count := verifier.count + 1
        previousHash := entry.hash } := by
  unfold accept at accepted
  obtain ⟨_, _, parsing⟩ := bind_ok accepted
  obtain ⟨found, isParsed, checking⟩ := bind_ok parsing
  obtain ⟨_, inPlace, hashing⟩ := bind_ok checking
  obtain ⟨hash, computed, comparing⟩ := bind_ok hashing
  obtain ⟨_, sameHash, answered⟩ := bind_ok comparing
  cases answered
  have placed := throwIf_ok inPlace
  have hashes : hash = entry.hash := not_not.mp (throwIf_ok sameHash)
  rw [not_or, not_or, not_not, not_not, not_lt] at placed
  rw [hashes] at computed
  exact ⟨parsed_ok isParsed, placed.1, placed.2.1, placed.2.2, computed, rfl⟩

theorem acceptEach_count {verifier last : RetainedHistoryVerifier} {values : List Json}
    (accepted : verifier.acceptEach platform values = .ok last) :
    last.count = verifier.count + values.length ∧ last.manifest = verifier.manifest := by
  induction values generalizing verifier with
  | nil =>
    cases accepted
    exact ⟨rfl, rfl⟩
  | cons value rest ih =>
    obtain ⟨⟨entry, next⟩, first, others⟩ := bind_ok accepted
    have counted := ih others
    have after := (accept_ok first).2.2.2.2.2
    rw [after] at counted
    refine ⟨?_, counted.2⟩
    rw [counted.1, List.length_cons]
    dsimp only
    omega

/-- Lists of one length that lead to one hash are equal, entry by entry from the last one back,
and so are the hashes they start from. -/
theorem acceptEach_unique (collisionFree : Function.Injective platform.sha256)
    {verifier verifier' last last' : RetainedHistoryVerifier} {values values' : List Json}
    (accepted : verifier.acceptEach platform values = .ok last)
    (accepted' : verifier'.acceptEach platform values' = .ok last')
    (lengths : values.length = values'.length) (hashes : last.previousHash = last'.previousHash) :
    List.Forall₂ Equal values values' ∧ verifier.previousHash = verifier'.previousHash := by
  induction values generalizing verifier verifier' values' with
  | nil =>
    cases values' with
    | nil =>
      cases accepted
      cases accepted'
      exact ⟨.nil, hashes⟩
    | cons value' rest' => cases lengths
  | cons value rest ih =>
    cases values' with
    | nil => cases lengths
    | cons value' rest' =>
      obtain ⟨⟨entry, next⟩, first, others⟩ := bind_ok accepted
      obtain ⟨⟨entry', next'⟩, first', others'⟩ := bind_ok accepted'
      obtain ⟨isParsed, _, _, previous, computed, after⟩ := accept_ok first
      obtain ⟨isParsed', _, _, previous', computed', after'⟩ := accept_ok first'
      have tails := ih others others' (Nat.succ.inj lengths)
      have sameHash : entry.hash = entry'.hash := by
        have joined := tails.2
        rw [after, after'] at joined
        exact joined
      rw [← sameHash] at computed'
      obtain ⟨sequences, predecessors, receipts, times⟩ :=
        receptionHash_injective collisionFree computed computed'
      have entries : Equal entry.toJson entry'.toJson := by
        have receiptsNormal : entry.receipt.normal = entry'.receipt.normal := receipts
        unfold toJson Equal
        rw [sequences, predecessors, sameHash, times, normal, normal]
        simp only [normalFields, receiptsNormal]
      have heads : Equal value value' :=
        (parse_equal isParsed).trans
          (entries.trans (parse_equal isParsed').symm)
      refine ⟨.cons heads tails.1, ?_⟩
      rw [← previous, ← previous', predecessors]

end RetainedHistoryVerifier

/-- A verifier for the signed manifest accepts the entries one by one and finishes. -/
def VerifiesHistory (platform : Platform PublicKey SigningKey) (signed : Json) (key : PublicKey)
    (scope : ReceptionScope) (entries : List Json) : Prop :=
  ∃ verifier last done, ∃ rangeReadFinished,
    create platform signed key scope = .ok verifier ∧
    verifier.acceptEach platform entries = .ok last ∧
    last.finish rangeReadFinished = .ok done

variable {input : Json} {key : PublicKey} {manifest : HistoryManifest}

private theorem verify_manifest
    (verified : verifyHistoryManifest platform input key scope = .ok manifest) :
    (SignedHistoryManifest.parse platform.formats input).map SignedHistoryManifest.manifest =
      some manifest := by
  unfold verifyHistoryManifest at verified
  obtain ⟨signed, isParsed, checks⟩ := bind_ok verified
  obtain ⟨_, _, scopes⟩ := bind_ok checks
  obtain ⟨_, _, expected⟩ := bind_ok scopes
  obtain ⟨_, _, compared⟩ := bind_ok expected
  obtain ⟨_, _, keys⟩ := bind_ok compared
  obtain ⟨_, _, identified⟩ := bind_ok keys
  obtain ⟨_, _, texts⟩ := bind_ok identified
  obtain ⟨_, _, signatures⟩ := bind_ok texts
  obtain ⟨_, _, answered⟩ := bind_ok signatures
  cases answered
  rw [parsed_ok isParsed]
  rfl

variable {signed : Json} {verifier : RetainedHistoryVerifier}

private theorem create_ok
    (created : create platform signed key scope = .ok verifier) :
    (SignedHistoryManifest.parse platform.formats signed).map SignedHistoryManifest.manifest =
        some verifier.manifest ∧
      verifier.count = 0 := by
  obtain ⟨manifest, verified, started⟩ := bind_ok created
  split at started
  next =>
    cases started
    exact ⟨verify_manifest verified, rfl⟩
  next => cases started

private theorem finish_ok {verifier done : RetainedHistoryVerifier} {rangeReadFinished : Bool}
    (finished : verifier.finish rangeReadFinished = .ok done) :
    verifier.count = bigInt verifier.manifest.retainedEntryCount ∧
      some verifier.previousHash = verifier.manifest.terminalHash := by
  obtain ⟨_, passed, _⟩ := bind_ok finished
  have checks := throwIf_ok passed
  rw [not_or, not_or, not_or, not_not, not_not] at checks
  exact checks.2.2

/-- Two lists of entries verified over one signed manifest are equal: no entry can be altered,
dropped, inserted or moved. -/
theorem retainedHistory_unique (collisionFree : Function.Injective platform.sha256)
    {signed : Json} {key key' : PublicKey} {scope scope' : ReceptionScope}
    {entries entries' : List Json}
    (verified : VerifiesHistory platform signed key scope entries)
    (verified' : VerifiesHistory platform signed key' scope' entries') :
    List.Forall₂ Equal entries entries' := by
  obtain ⟨verifier, last, done, readFinished, created, accepted, finished⟩ := verified
  obtain ⟨verifier', last', done', readFinished', created', accepted', finished'⟩ := verified'
  obtain ⟨isManifest, fromZero⟩ := create_ok created
  obtain ⟨isManifest', fromZero'⟩ := create_ok created'
  have manifests : verifier.manifest = verifier'.manifest :=
    Option.some.inj (isManifest.symm.trans isManifest')
  obtain ⟨counted, kept⟩ := acceptEach_count accepted
  obtain ⟨counted', kept'⟩ := acceptEach_count accepted'
  obtain ⟨complete, terminal⟩ := finish_ok finished
  obtain ⟨complete', terminal'⟩ := finish_ok finished'
  rw [kept, manifests, ← kept'] at complete terminal
  have lengths : entries.length = entries'.length := by omega
  have hashes : last.previousHash = last'.previousHash :=
    Option.some.inj (terminal.trans terminal'.symm)
  exact (acceptEach_unique collisionFree accepted accepted' lengths
    hashes).1

private theorem throwIf_ne_self {α : Type} [DecidableEq α] (value : α) (code : String) :
    throwIf (value ≠ value) code = .ok () :=
  throwIf_of_not fun different => different rfl

variable {expected : ReceptionScope}

theorem verifyHistoryManifest_of {signed : SignedHistoryManifest} {bytes : List UInt8}
    {scopeHash text : String}
    (isParsed : SignedHistoryManifest.parse platform.formats input = some signed)
    (encoded : signed.signature.value = Base64Url.encode bytes) (length : bytes.length = 64)
    (ownScope : historyScopeHash platform signed.manifest.scope = .ok scopeHash)
    (expectedScope : historyScopeHash platform expected = .ok scopeHash)
    (keyId : historyKeyId platform key = .ok signed.signature.keyId)
    (canonical : historyCanonicalJson signed.manifest.toJson = .ok text)
    (signature : platform.verify text key bytes = true) :
    verifyHistoryManifest platform input key expected = .ok signed.manifest := by
  have decoded : Base64Url.decode signed.signature.value = bytes := by
    rw [encoded, Base64Url.decode_encode]
  have encoding : ¬ (Base64Url.encode bytes ≠ signed.signature.value ∨ bytes.length ≠ 64) := by
    rw [encoded, length]
    simp
  have verifies : ¬ platform.verify text key bytes = false := by
    rw [signature]
    intro refused
    cases refused
  simp only [verifyHistoryManifest, isParsed, parsed, bind, Except.bind, decoded,
    throwIf_of_not encoding, ownScope, expectedScope, keyId, canonical, throwIf_ne_self,
    throwIf_of_not verifies]
  rfl

theorem RetainedHistoryVerifier.create_of {previousHash terminalHash : String}
    (verified : verifyHistoryManifest platform signed key expected = .ok manifest)
    (complete : manifest.retainedHistory.status = .complete)
    (previous : manifest.previousHash = some previousHash)
    (terminal : manifest.terminalHash = some terminalHash) :
    create platform signed key expected = .ok {
      manifest := manifest
      nextSequence := bigInt manifest.fromSequence
      previousHash := previousHash
      count := 0
      finished := false } := by
  simp only [create, verified, bind, Except.bind, complete, previous,
    terminal]
  rfl

theorem RetainedHistoryVerifier.accept_of
    (isParsed : ReceptionEntry.parse platform.formats value = some entry)
    (running : verifier.finished = false) (next : bigInt entry.sequence = verifier.nextSequence)
    (within : bigInt entry.sequence ≤ bigInt verifier.manifest.throughSequence)
    (previous : entry.previousHash = verifier.previousHash)
    (hashed : receptionHash platform verifier.manifest.scope entry.sequence entry.previousHash
      entry.receipt entry.recordedAt = .ok entry.hash) :
    verifier.accept platform value = .ok (entry, { verifier with
      nextSequence := verifier.nextSequence + 1
      count := verifier.count + 1
      previousHash := entry.hash }) := by
  have inPlace : ¬ (bigInt entry.sequence ≠ verifier.nextSequence ∨
      bigInt verifier.manifest.throughSequence < bigInt entry.sequence ∨
      entry.previousHash ≠ verifier.previousHash) := by
    rw [not_or, not_or, not_not, not_not, not_lt]
    exact ⟨next, within, previous⟩
  have notFinished : ¬ verifier.finished = true := by
    rw [running]
    exact Bool.false_ne_true
  have sameHash : ¬ entry.hash ≠ entry.hash := fun different => different rfl
  simp only [accept, isParsed, parsed, bind, Except.bind, hashed,
    throwIf_of_not inPlace, throwIf_of_not notFinished, throwIf_of_not sameHash]
  rfl

theorem RetainedHistoryVerifier.finish_of (running : verifier.finished = false)
    (counted : verifier.count = bigInt verifier.manifest.retainedEntryCount)
    (terminal : some verifier.previousHash = verifier.manifest.terminalHash) :
    verifier.finish true = .ok { verifier with finished := true } := by
  have complete : ¬ (verifier.finished ∨ true = false ∨
      verifier.count ≠ bigInt verifier.manifest.retainedEntryCount ∨
      some verifier.previousHash ≠ verifier.manifest.terminalHash) := by
    rw [running]
    simp [counted, terminal]
  simp only [finish, throwIf_of_not complete, bind, Except.bind]
  rfl

theorem entry_toJson_equal {sequence previousHash hash recordedAt : String} {receipt other : Json}
    (same : Equal receipt other) :
    Equal (ReceptionEntry.toJson { sequence, previousHash, hash, receipt, recordedAt })
      (ReceptionEntry.toJson { sequence, previousHash, hash, receipt := other, recordedAt }) := by
  have receipts : receipt.normal = other.normal := same
  unfold ReceptionEntry.toJson Equal
  rw [normal, normal]
  simp only [normalFields, receipts]

theorem sha256Pattern_ofList (characters : List Char) :
    sha256Pattern (String.ofList characters) =
      (decide (characters.length = 64) && characters.all hexDigit) := by
  rw [sha256Pattern, String.toList_ofList]

theorem signaturePattern_encode {bytes : List UInt8} (length : bytes.length = 64) :
    signaturePattern (Base64Url.encode bytes) = true := by
  have characters : ∀ char ∈ Base64Url.alphabet,
      (char.isAlphanum || char == '_' || char == '-') = true := by
    rw [Base64Url.alphabet_eq]
    exact List.all_eq_true.mp (by decide)
  unfold signaturePattern
  rw [Bool.and_eq_true, decide_eq_true_eq, List.all_eq_true]
  constructor
  · rw [Base64Url.length_encode, length]
  · intro char written
    exact characters char (Base64Url.mem_encode written)

theorem accepts_entry {formats : Formats} {entry : ReceptionEntry} :
    (ReceptionEntrySchema formats).accepts entry.toJson =
      (PositiveSequenceSchema.accepts (.str entry.sequence) &&
        (Sha256Schema.accepts (.str entry.previousHash) &&
          (Sha256Schema.accepts (.str entry.hash) &&
            ((ReceptionReceiptSchema formats).accepts entry.receipt &&
              (utc formats).accepts (.str entry.recordedAt))))) := by
  have members := Schema.accepts_required [
    ("sequence", PositiveSequenceSchema, .str entry.sequence),
    ("previousHash", Sha256Schema, .str entry.previousHash),
    ("hash", Sha256Schema, .str entry.hash),
    ("receipt", ReceptionReceiptSchema formats, entry.receipt),
    ("recordedAt", utc formats, .str entry.recordedAt),
    ("recordingClockOwner", .literal "POSTGRESQL_RECORD_INSERTION_CLOCK",
      .str "POSTGRESQL_RECORD_INSERTION_CLOCK"),
    ("recordingResolution", .literal "MICROSECOND", .str "MICROSECOND"),
    ("exactTransactionCommittedAt", .null, .null)] (by simp)
  refine Eq.trans members ?_
  simp [Schema.accepts]

end Theory

namespace Sample

def scope : ReceptionScope := {
  providerId := "provider"
  resourceId := "vehicle:ugv1"
  deviceId := "ugv1"
  deviceIdentityAuthority := .providerResourceConfiguration
  streamId := "stream"
  sourceSessionKey := "standalone:vehicle:ugv1"
  smppServiceKey := none
  bindingId := none }

def receiptMembers : List (String × Json) :=
  [("schemaVersion", .str "ugv.trajectory-reception/1.0"), ("receptionId", .str "reception"),
    ("sessionId", .str "session"), ("sourceTopic", .str "/ugv/gnss"),
    ("originalMessageSha256", .str (String.ofList (List.replicate 64 'c'))),
    ("originalMessageBytes", .num "64"), ("originalMessageReference", .str "mqtt-wire"),
    ("providerReceivedAt", .obj [("utc", .str "2026-10-12T00:00:00.001Z"),
      ("owner", .str "PROVIDER_MQTT_MESSAGE_CALLBACK"), ("clockId", .str "clock"),
      ("resolution", .str "MILLISECOND"), ("synchronization", .str "UNVERIFIED"),
      ("accuracyBoundMilliseconds", .null), ("processMonotonicNanoseconds", .str "1")]),
    ("reportedTime", .null), ("deviceAcquisitionTime", .null),
    ("deviceClockAttribution", .str "NOT_ATTESTED_BY_PRODUCER_CONTRACT"),
    ("sourceReportedSequence", .null), ("sourceProducerEpoch", .null),
    ("transport", .obj [("qos", .num "1"), ("packetId", .null),
      ("duplicateDeliveryHint", .bool false), ("retainedDelivery", .bool false)]),
    ("disposition", .str "NO_POSITION"), ("reasonCode", .str "NO_POSITION_IN_ORIGINAL_MESSAGE"),
    ("position", .null), ("reportedMission", .null), ("evidenceClass", .str "SIMULATED"),
    ("diagnostics", .arr [])]

def genesis : String := String.ofList (List.replicate 64 '0')

def terminal : String := String.ofList (List.replicate 64 'a')

def entry (receipt : List (String × Json)) : ReceptionEntry := {
  sequence := "1"
  previousHash := genesis
  hash := terminal
  receipt := .obj receipt
  recordedAt := "2026-10-12T00:00:00.000001Z" }

/-- The text the entry's hash is taken of, where the scope's hash is the scope's text. -/
def hashedText : String :=
  (Json.obj (hashed scope.toJson.canonicalize "1" genesis (.obj receiptMembers)
    "2026-10-12T00:00:00.000001Z")).canonicalize

/-- A hash without collisions: the entry's text and its hash change places, any other text is
its own hash. -/
def platform : Platform Unit Unit := {
  formats := {
    uuid := fun _ => true
    datetime := fun _ => true
    int := fun _ => true
    atLeast := fun _ _ => true
    atMost := fun _ _ => true }
  sha256 := Equiv.swap hashedText terminal
  ed25519 := fun _ => true
  keyDigest := fun _ => genesis
  publicKey := id
  sign := fun _ _ => List.replicate 64 0
  verify := fun _ _ _ => true }

def manifest : HistoryManifest := {
  scope := scope
  snapshotId := "snapshot"
  capturedFromSequence := "1"
  capturedFromRecordingTime := "2026-10-12T00:00:00.000000Z"
  fromSequence := "1"
  throughSequence := "1"
  highWatermark := "1"
  retainedEntryCount := "1"
  expectedOrdinalCount := "1"
  previousHash := some genesis
  terminalHash := some terminal
  retainedHistory := { status := .complete, reasons := [] }
  providerCaptureCoverage := { status := .unknown, reasons := [] }
  deviceGenerationHistory := { status := .unknown, reasons := ["PRODUCER_EPOCH_NOT_ATTESTED"] }
  prunedThroughSequence := "0"
  recovery := { uncleanSessionCount := 0, disconnectCount := 0, captureFailureCount := 0 }
  evidenceClass := .simulated }

def signed : Json :=
  SignedHistoryManifest.toJson {
    manifest := manifest
    signature := { keyId := genesis, value := Base64Url.encode (List.replicate 64 0) } }

private theorem text_ne_terminal (fields : List (String × Json)) :
    (Json.obj fields).canonicalize ≠ terminal := by
  intro same
  have chars := congrArg (fun text => text.toList.head?) same
  have characters : terminal.toList = List.replicate 64 'a' := String.toList_ofList
  have first : terminal.toList.head? = some 'a' := by
    rw [characters]
    rfl
  have brace : (write (.obj ((normalFields fields).insertionSort KeyOrder))).head? =
      some '\x7b' := by
    cases (normalFields fields).insertionSort KeyOrder with
    | nil => rfl
    | cons field rest => rfl
  rw [canonicalize_toList, normal, brace, first] at chars
  cases chars

private theorem sha256_hashedText : platform.sha256 hashedText = terminal :=
  Equiv.swap_apply_left hashedText terminal

private theorem scope_ne_hashed : scope.toJson.canonicalize ≠ hashedText := by
  intro same
  have values := (canonicalize_eq_iff (by rfl) (by rfl)).mp same
  have members := lookup_of_equal (by simp [Distinct, optionalMember, scope])
    (by simp [Distinct, hashed]) values "providerId"
  simp [lookup, hashed] at members

theorem hash_accepted {digit : Char} (isHex : hexDigit digit = true) :
    Sha256Schema.accepts (.str (String.ofList (List.replicate 64 digit))) = true := by
  simp [Sha256Schema, Schema.accepts, sha256Pattern, isHex]

theorem genesis_accepted : Sha256Schema.accepts (.str genesis) = true :=
  hash_accepted rfl

theorem terminal_accepted : Sha256Schema.accepts (.str terminal) = true :=
  hash_accepted rfl

theorem scope_accepted : (ReceptionScopeSchema platform.formats).accepts scope.toJson = true := by
  decide

theorem scope_parsed : ReceptionScope.parse platform.formats scope.toJson = some scope := by
  rw [ReceptionScope.parse, if_pos scope_accepted]
  rfl

theorem receipt_accepted :
    (ReceptionReceiptSchema platform.formats).accepts (.obj receiptMembers) = true := by
  decide

theorem receipts_accepted {sequence previousHash : String}
    (isSequence : PositiveSequenceSchema.accepts (.str sequence) = true)
    (isHash : Sha256Schema.accepts (.str previousHash) = true) :
    (ReceptionEntrySchema platform.formats).accepts (ReceptionEntry.toJson {
      sequence
      previousHash
      hash := terminal
      receipt := .obj receiptMembers
      recordedAt := "2026-10-12T00:00:00.000001Z" }) = true := by
  have isTime : (utc platform.formats).accepts (.str "2026-10-12T00:00:00.000001Z") = true := by
    decide
  rw [accepts_entry, isSequence, isHash, terminal_accepted, receipt_accepted, isTime]
  rfl

theorem scopeHash_eq : historyScopeHash platform scope = .ok scope.toJson.canonicalize := by
  have kept : platform.sha256 scope.toJson.canonicalize = scope.toJson.canonicalize :=
    Equiv.swap_apply_of_ne_of_ne scope_ne_hashed (text_ne_terminal _)
  unfold historyScopeHash historyCanonicalJson historySha256
  rw [scope_parsed]
  change Except.ok (platform.sha256 scope.toJson.canonicalize) = _
  rw [kept]

private theorem hashed_text {members : List (String × Json)}
    (same : Equal (.obj members) (.obj receiptMembers)) (scopeText : String) :
    (Json.obj (hashed scopeText "1" genesis (.obj members)
      "2026-10-12T00:00:00.000001Z")).canonicalize =
    (Json.obj (hashed scopeText "1" genesis (.obj receiptMembers)
      "2026-10-12T00:00:00.000001Z")).canonicalize := by
  have receipts : normal (.obj members) = normal (.obj receiptMembers) := same
  apply String.toList_inj.mp
  rw [canonicalize_toList, canonicalize_toList, normal, normal]
  simp only [hashed, normalFields, receipts]

private theorem hashed_finite {members : List (String × Json)}
    (isFinite : (Json.obj members).finite = true) (scopeText : String) :
    (Json.obj (hashed scopeText "1" genesis (.obj members)
      "2026-10-12T00:00:00.000001Z")).finite = true := by
  simp only [hashed, finite, Json.finiteFields, Bool.true_and, Bool.and_true] at isFinite ⊢
  exact isFinite

theorem receptionHash_eq {members : List (String × Json)}
    (same : Equal (.obj members) (.obj receiptMembers))
    (isFinite : (Json.obj members).finite = true) :
    receptionHash platform scope "1" genesis (.obj members) "2026-10-12T00:00:00.000001Z" =
      .ok terminal := by
  rw [receptionHash_of scopeHash_eq (hashed_finite isFinite _), hashed_text same]
  exact congrArg Except.ok sha256_hashedText

theorem manifest_accepted : (ManifestShape platform.formats).accepts manifest.toJson = true := by
  have members := Schema.accepts_required [
    ("schemaVersion", .literal "ugv.trajectory-history-manifest/1.0",
      .str "ugv.trajectory-history-manifest/1.0"),
    ("scope", ReceptionScopeSchema platform.formats, scope.toJson),
    ("snapshotId", uuid platform.formats, .str "snapshot"),
    ("capturedFromSequence", PositiveSequenceSchema, .str "1"),
    ("capturedFromRecordingTime", utc platform.formats, .str "2026-10-12T00:00:00.000000Z"),
    ("activationClockOwner", .literal "POSTGRESQL_STREAM_CREATION_CLOCK",
      .str "POSTGRESQL_STREAM_CREATION_CLOCK"),
    ("guaranteedSinceHistoryVersion", .literal "1.0", .str "1.0"),
    ("fromSequence", PositiveSequenceSchema, .str "1"),
    ("throughSequence", DecimalSequenceSchema, .str "1"),
    ("highWatermark", DecimalSequenceSchema, .str "1"),
    ("retainedEntryCount", DecimalSequenceSchema, .str "1"),
    ("expectedOrdinalCount", DecimalSequenceSchema, .str "1"),
    ("previousHash", .nullable Sha256Schema, .str genesis),
    ("terminalHash", .nullable Sha256Schema, .str terminal),
    ("chainAlgorithm", .literal chainAlgorithm, .str chainAlgorithm),
    ("ordering", .literal "DURABLE_PROVIDER_RECEIPT_SEQUENCE",
      .str "DURABLE_PROVIDER_RECEIPT_SEQUENCE"),
    ("deduplication", .literal "RECEPTIONS_NOT_COLLAPSED_INTO_DEVICE_SAMPLES",
      .str "RECEPTIONS_NOT_COLLAPSED_INTO_DEVICE_SAMPLES"),
    ("retainedHistory", completeness, manifest.retainedHistory.toJson),
    ("providerCaptureCoverage", completeness, manifest.providerCaptureCoverage.toJson),
    ("deviceGenerationHistory", .object [
      required "status" (.oneOf ["incomplete", "unknown"]),
      required "reasons" (.array 1 32 (boundedText 1 128))],
      manifest.deviceGenerationHistory.toJson),
    ("legacyHistory", .literal "NO_RETROACTIVE_RECEPTION_TIME_OR_DEVICE_COMPLETENESS_CLAIM",
      .str "NO_RETROACTIVE_RECEPTION_TIME_OR_DEVICE_COMPLETENESS_CLAIM"),
    ("prunedThroughSequence", DecimalSequenceSchema, .str "0"),
    ("recovery", .object [
      required "uncleanSessionCount" (nonnegativeInt platform.formats),
      required "disconnectCount" (nonnegativeInt platform.formats),
      required "captureFailureCount" (nonnegativeInt platform.formats)],
      manifest.recovery.toJson),
    ("evidenceClass", .oneOf ["SIMULATED", "UNQUALIFIED_SOURCE"], .str "SIMULATED")] (by simp)
  have previousHash : (Schema.nullable Sha256Schema).accepts (.str genesis) = true := by
    rw [Schema.accepts, genesis_accepted]
    exact fun impossible => by cases impossible
  have literal (text : String) : (Schema.literal text).accepts (.str text) = true := by
    simp [Schema.accepts]
  refine Eq.trans members ?_
  simp only [List.all_cons, List.all_nil, scope_accepted, previousHash, literal, Bool.true_and]
  decide

theorem verify_eq : verifyHistoryManifest platform signed () scope = .ok manifest := by
  have accepted : SignedHistoryManifest.parse platform.formats signed = some
      { manifest := manifest
        signature := { keyId := genesis, value := Base64Url.encode (List.replicate 64 0) } } := by
    have isShape : (SignedShape platform.formats).accepts signed = true := by
      have pattern : signaturePattern (Base64Url.encode (List.replicate 64 0)) = true :=
        signaturePattern_encode List.length_replicate
      have signature := Schema.accepts_required [("algorithm", .literal "Ed25519", .str "Ed25519"),
        ("keyId", Sha256Schema, .str genesis),
        ("value", .string [signaturePattern],
          .str (Base64Url.encode (List.replicate 64 0)))] (by simp)
      simp only [List.all_cons, List.all_nil, genesis_accepted, Schema.accepts, pattern,
        beq_self_eq_true, Bool.and_true] at signature
      have members := Schema.accepts_required [
        ("manifest", ManifestShape platform.formats, manifest.toJson),
        ("signature", .object [required "algorithm" (.literal "Ed25519"),
          required "keyId" Sha256Schema, required "value" (.string [signaturePattern])],
          .obj [("algorithm", .str "Ed25519"), ("keyId", .str genesis),
            ("value", .str (Base64Url.encode (List.replicate 64 0)))])] (by simp)
      refine Eq.trans members ?_
      simp only [List.all_cons, List.all_nil, manifest_accepted, Bool.true_and, Bool.and_true]
      exact signature
    have isRead : SignedHistoryManifest.read signed = some
        { manifest := manifest
          signature := { keyId := genesis, value := Base64Url.encode (List.replicate 64 0) } } := rfl
    have consistent : manifest.consistent = true := by
      decide
    rw [SignedHistoryManifest.parse, if_pos isShape, isRead, Option.filter_some, if_pos consistent]
  have isFinite : manifest.toJson.finite = true := rfl
  exact @verifyHistoryManifest_of _ _ platform signed () scope _ (List.replicate 64 0) _ _ accepted rfl
    List.length_replicate scopeHash_eq scopeHash_eq rfl (if_pos isFinite) rfl

def start : RetainedHistoryVerifier := {
  manifest := manifest
  nextSequence := bigInt manifest.fromSequence
  previousHash := genesis
  count := 0
  finished := false }

def last : RetainedHistoryVerifier := {
  start with
  nextSequence := start.nextSequence + 1
  count := start.count + 1
  previousHash := terminal }

theorem entry_accepted {members : List (String × Json)}
    (same : Equal (.obj members) (.obj receiptMembers))
    (isFinite : (Json.obj members).finite = true)
    (accepted : (ReceptionEntrySchema platform.formats).accepts (entry members).toJson = true) :
    start.accept platform (entry members).toJson = .ok (entry members, last) := by
  have isParsed : ReceptionEntry.parse platform.formats (entry members).toJson =
      some (entry members) := by
    rw [ReceptionEntry.parse, if_pos accepted, read_toJson]
  have within : bigInt "1" ≤ bigInt "1" := Nat.le_refl _
  exact accept_of isParsed rfl rfl within rfl
    (receptionHash_eq same isFinite)

theorem oneEntry_verified {members : List (String × Json)}
    (same : Equal (.obj members) (.obj receiptMembers))
    (isFinite : (Json.obj members).finite = true)
    (accepted : (ReceptionEntrySchema platform.formats).accepts (entry members).toJson = true) :
    VerifiesHistory platform signed () scope [(entry members).toJson] := by
  have created : create platform signed () scope = .ok start :=
    create_of verify_eq rfl rfl rfl
  have each : start.acceptEach platform [(entry members).toJson] = .ok last := by
    rw [RetainedHistoryVerifier.acceptEach, entry_accepted same isFinite accepted]
    rfl
  have counted : last.count = bigInt last.manifest.retainedEntryCount := by decide
  exact ⟨start, last, _, true, created, each, finish_of rfl counted rfl⟩

end Sample

theorem retainedHistory_unique_reordered :
    List.Forall₂ Equal [(Sample.entry Sample.receiptMembers).toJson]
      [(Sample.entry Sample.receiptMembers.reverse).toJson] := by
  have distinct : Distinct Sample.receiptMembers := by simp [Distinct, Sample.receiptMembers]
  have reordered : Equal (.obj Sample.receiptMembers.reverse) (.obj Sample.receiptMembers) :=
    (equal_of_perm distinct Sample.receiptMembers.reverse_perm.symm).symm
  have accepted : (ReceptionEntrySchema Sample.platform.formats).accepts
      (Sample.entry Sample.receiptMembers).toJson = true :=
    Sample.receipts_accepted (by decide) Sample.genesis_accepted
  have isProper : (Sample.entry Sample.receiptMembers.reverse).toJson.proper = true := by
    decide
  have acceptedReordered :=
    Schema.accepts_of_equal _ (entry_toJson_equal reordered.symm) isProper accepted
  exact @retainedHistory_unique _ _ Sample.platform (Equiv.injective _) _ _ _ _ _ _ _
    (Sample.oneEntry_verified (Equal.refl _) rfl accepted)
    (Sample.oneEntry_verified reordered rfl acceptedReordered)

end TrajectoryHistory

end SdarRuntime
