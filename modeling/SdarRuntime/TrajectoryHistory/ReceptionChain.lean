import SdarRuntime.TrajectoryHistory.ReceptionStore
import SdarRuntime.TrajectoryHistory.RetainedHistory
import SdarRuntime.Library.Histories
import SdarRuntime.Library.Linked
import SdarRuntime.Library.NumberedFrom

/-!
The chain a stream keeps: the rows that are stored are numbered without a gap up to the high
watermark, each begins at the hash the one before it ended with, and each hash is that of its
row's own fields. Admission extends the chain at its head, retention shortens it from below and
keeps the hash it is cut at, and nothing else touches it.
-/

namespace SdarRuntime

namespace TrajectoryHistory

open Transaction Json Sample Histories ReceptionEntry Tables

section Theory

variable {PublicKey SigningKey : Type} {platform : Platform PublicKey SigningKey}
  {database : Database} {scope : ReceptionScope}

variable {tables : Tables}

theorem streamState_ok {state : ReceptionStreamState}
    (answered : streamState platform tables = .ok state) :
    state.highWatermark = toString tables.stream.highWatermark ∧
      state.headHash = tables.stream.headHash ∧
      state.genesisHash = tables.stream.genesisHash ∧
      state.prunedThrough = toString tables.stream.prunedThrough ∧
      state.prunedHeadHash = tables.stream.prunedHeadHash := by
  obtain ⟨_, _, rest⟩ := bind_ok answered
  cases rest
  exact ⟨rfl, rfl, rfl, rfl, rfl⟩

variable {sequence previousHash hash recordedAt : String} {entry : ReceptionEntry}

theorem entryOf_ok {receipt : Json}
    (answered : entryOf platform sequence previousHash hash receipt recordedAt = .ok entry) :
    entry = { sequence, previousHash, hash, receipt, recordedAt } := by
  have accepted := parsed_ok answered
  unfold ReceptionEntry.parse at accepted
  split at accepted
  next =>
    rw [read_toJson] at accepted
    exact (Option.some.inj accepted).symm
  next => cases accepted

/-- A receipt already stored is answered with its row, and nothing changes. -/
structure Repeated (platform : Platform PublicKey SigningKey) (database : Database)
    (tables : Tables) (input : Json) (entry : ReceptionEntry) (tables' : Tables) : Prop where
  unchanged : tables' = tables
  stored : ∃ receptionId prior, textMember "receptionId" input = some receptionId ∧
    tables.receptions.find? (fun row => row.receptionId == database.uuid receptionId) =
      some prior ∧
    historyCanonicalJson prior.receipt = historyCanonicalJson input ∧
    prior.entry platform = .ok entry

structure Admitted (platform : Platform PublicKey SigningKey) (database : Database)
    (scope : ReceptionScope) (tables : Tables) (recordedAt : String) (input : Json)
    (entry : ReceptionEntry) (tables' : Tables) (row : ReceptionRow) : Prop where
  fresh : ∀ stored ∈ tables.receptions, stored.receptionId ≠ row.receptionId
  receptionId : ∃ id, textMember "receptionId" input = some id ∧
    row.receptionId = database.uuid id
  numbered : row.sequence = tables.stream.highWatermark + 1
  previous : row.previousHash = tables.stream.headHash
  hashed : receptionHash platform scope (toString row.sequence) row.previousHash input
    row.recordedAt = .ok row.hash
  receipt : database.jsonb input = some row.receipt
  clock : row.recordedAt = recordedAt
  answered : entryOf platform (toString row.sequence) row.previousHash row.hash input
    row.recordedAt = .ok entry
  moved : tables' = { tables with
    stream := { tables.stream with highWatermark := row.sequence, headHash := row.hash }
    receptions := tables.receptions ++ [row] }

variable {tables tables' : Tables} {answer : Unit}

private theorem insertReception_ok {row : ReceptionRow}
    (inserted : insertReception row tables = .ok (answer, tables')) :
    (∀ stored ∈ tables.receptions, stored.receptionId ≠ row.receptionId) ∧
      tables' = { tables with receptions := tables.receptions ++ [row] } := by
  unfold insertReception at inserted
  rw [read_bind] at inserted
  split at inserted
  next => cases inserted
  next absent =>
    split at inserted
    next => cases inserted
    next =>
      split at inserted
      next => cases inserted
      next =>
        cases inserted
        refine ⟨?_, rfl⟩
        intro stored member same
        apply absent
        rw [List.any_eq_true]
        exact ⟨stored, member, by simp [same]⟩

private theorem repeated_ok {prior : ReceptionRow} {input : Json}
    (answered : repeated platform prior input tables = .ok (entry, tables')) :
    historyCanonicalJson prior.receipt = historyCanonicalJson input ∧
      prior.entry platform = .ok entry ∧ tables' = tables := by
  obtain ⟨stored, _, isStored, rest⟩ := bind_eq_ok.mp answered
  obtain ⟨storedText, rfl⟩ := lift_eq_ok.mp isStored
  obtain ⟨offered, _, isOffered, compared⟩ := bind_eq_ok.mp rest
  obtain ⟨offeredText, rfl⟩ := lift_eq_ok.mp isOffered
  split at compared
  next => cases compared
  next same =>
    obtain ⟨isEntry, unchanged⟩ := lift_eq_ok.mp compared
    exact ⟨by rw [storedText, offeredText, not_not.mp same], isEntry, unchanged.symm⟩

variable {receptionId sessionId : String}

private theorem appendReception_ok {recordedAt : String} {input : Json}
    (isReception : textMember "receptionId" input = some receptionId)
    (answered : appendReception platform database scope recordedAt input receptionId sessionId tables
      tables =
      .ok (entry, tables')) :
    ∃ row, Admitted platform database scope tables recordedAt input entry tables' row := by
  unfold appendReception at answered
  split at answered
  next => cases answered
  next =>
    obtain ⟨state, _, isState, rest⟩ := bind_eq_ok.mp answered
    obtain ⟨stateRead, rfl⟩ := lift_eq_ok.mp isState
    obtain ⟨highWatermark, headHash, _⟩ := streamState_ok stateRead
    obtain ⟨hash, _, isHash, stored⟩ := bind_eq_ok.mp rest
    obtain ⟨computed, rfl⟩ := lift_eq_ok.mp isHash
    cases column : database.jsonb input with
    | none =>
      rw [column] at stored
      cases stored
    | some receipt =>
      rw [column] at stored
      dsimp only at stored
      obtain ⟨_, _, isInserted, updated⟩ := bind_eq_ok.mp stored
      obtain ⟨fresh, rfl⟩ := insertReception_ok isInserted
      rw [update_bind] at updated
      obtain ⟨isEntry, moved⟩ := lift_eq_ok.mp updated
      rw [highWatermark, bigInt_toString, headHash] at computed isEntry
      refine ⟨{
        sequence := tables.stream.highWatermark + 1
        receptionId := database.uuid receptionId
        sessionId := database.uuid sessionId
        receipt := receipt
        recordedAt := recordedAt
        previousHash := tables.stream.headHash
        hash := hash }, fresh, ⟨receptionId, isReception, rfl⟩, rfl, rfl, computed, column, rfl,
        isEntry, ?_⟩
      rw [← moved, highWatermark, bigInt_toString, headHash]

private theorem append_accepted {recordedAt : String} {input : Json}
    (accepted : (ReceptionReceiptSchema platform.formats).accepts input = true)
    (isReception : textMember "receptionId" input = some receptionId)
    (isSession : textMember "sessionId" input = some sessionId) :
    append platform database scope recordedAt input tables =
      (match tables.receptions.find?
          (fun row : ReceptionRow => row.receptionId == database.uuid receptionId) with
        | some prior => repeated platform prior input
        | none => appendReception platform database scope recordedAt input receptionId sessionId
            tables)
        tables := by
  unfold append
  rw [if_pos accepted, isReception, isSession]
  rfl

theorem append_ok {recordedAt : String} {input : Json}
    (answered : append platform database scope recordedAt input tables = .ok (entry, tables')) :
    (ReceptionReceiptSchema platform.formats).accepts input = true ∧
      (Repeated platform database tables input entry tables' ∨
        ∃ row, Admitted platform database scope tables recordedAt input entry tables' row) := by
  by_cases accepted : (ReceptionReceiptSchema platform.formats).accepts input = true
  · refine ⟨accepted, ?_⟩
    cases isReception : textMember "receptionId" input with
    | none =>
      rw [append, if_pos accepted, isReception] at answered
      cases answered
    | some receptionId =>
      cases isSession : textMember "sessionId" input with
      | none =>
        rw [append, if_pos accepted, isReception, isSession] at answered
        cases answered
      | some sessionId =>
        rw [append_accepted accepted isReception isSession] at answered
        cases found : tables.receptions.find?
            (fun row => row.receptionId == database.uuid receptionId) with
        | some prior =>
          rw [found] at answered
          obtain ⟨same, isEntry, unchanged⟩ := repeated_ok answered
          exact .inl ⟨unchanged, receptionId, prior, isReception, found, same, isEntry⟩
        | none =>
          rw [found] at answered
          exact .inr (appendReception_ok isReception answered)
  · rw [append, if_neg accepted] at answered
    cases answered

structure Untouched (tables tables' : Tables) : Prop where
  receptions : tables'.receptions = tables.receptions
  highWatermark : tables'.stream.highWatermark = tables.stream.highWatermark
  headHash : tables'.stream.headHash = tables.stream.headHash
  prunedThrough : tables'.stream.prunedThrough = tables.stream.prunedThrough
  prunedHeadHash : tables'.stream.prunedHeadHash = tables.stream.prunedHeadHash
  genesisHash : tables'.stream.genesisHash = tables.stream.genesisHash

structure Pruned (tables tables' : Tables) (anchor : ReceptionRow) : Prop where
  stored : anchor ∈ tables.receptions
  forward : tables.stream.prunedThrough < anchor.sequence
  receptions : tables'.receptions =
    tables.receptions.filter fun row => decide (anchor.sequence < row.sequence)
  stream : tables'.stream = { tables.stream with
    prunedThrough := anchor.sequence
    prunedHeadHash := anchor.hash }

inductive Change (platform : Platform PublicKey SigningKey) (database : Database)
    (scope : ReceptionScope) (tables tables' : Tables) : Prop where
  | untouched (same : Untouched tables tables')
  | admitted (recordedAt : String) (input : Json) (entry : ReceptionEntry) (row : ReceptionRow)
      (accepted : (ReceptionReceiptSchema platform.formats).accepts input = true)
      (admitted : Admitted platform database scope tables recordedAt input entry tables' row)
  | pruned (anchor : ReceptionRow) (pruned : Pruned tables tables' anchor)

theorem Untouched.refl (tables : Tables) : Untouched tables tables :=
  ⟨rfl, rfl, rfl, rfl, rfl, rfl⟩

private theorem untouched_commit {α : Type} {tx : Transaction Tables String α}
    (keeps : ∀ answer tables', tx tables = .ok (answer, tables') → Untouched tables tables') :
    Untouched tables (tx.commit tables).2 :=
  commit_keeps (Untouched.refl tables) keeps

private theorem beginSession_untouched {sessionId : String}
    (answered : beginSession sessionId tables = .ok (answer, tables')) :
    Untouched tables tables' := by
  unfold beginSession at answered
  rw [update_bind, read_bind] at answered
  split at answered
  next => cases answered
  next =>
    cases answered
    exact ⟨rfl, rfl, rfl, rfl, rfl, rfl⟩

private theorem saveSnapshot_untouched {row : SnapshotRow}
    (answered : saveSnapshot row tables = .ok (answer, tables')) :
    Untouched tables tables' := by
  unfold saveSnapshot at answered
  rw [read_bind] at answered
  split at answered
  next => cases answered
  next =>
    cases answered
    exact ⟨rfl, rfl, rfl, rfl, rfl, rfl⟩

private theorem prune_ok {owner : Bool} {through : Nat} {now : Instant} {removed : Nat}
    (answered : prune owner through now tables = .ok (removed, tables')) :
    tables' = tables ∨ ∃ anchor, Pruned tables tables' anchor := by
  unfold prune at answered
  rw [read_bind] at answered
  split at answered
  next => cases answered
  next =>
    split at answered
    next => cases answered
    next within =>
      split at answered
      next =>
        cases answered
        exact .inl rfl
      next moves =>
        cases found : tables.receptions.find? (fun row => row.sequence == through) with
        | none =>
          rw [found] at answered
          cases answered
        | some anchor =>
          rw [found] at answered
          cases answered
          have atThrough : anchor.sequence = through := by
            simpa using List.find?_some found
          rw [not_or, not_lt, not_lt] at within
          have forward : tables.stream.prunedThrough < anchor.sequence := by omega
          refine .inr ⟨anchor, List.mem_of_find?_eq_some found, forward, ?_, ?_⟩
          · rw [atThrough]
          · rw [atThrough]

/-- Every step leaves the chain, extends it by one row or cuts it behind a row. -/
theorem step_change (tables : Tables) (event : Event) :
    Change platform database scope tables (step platform database scope tables event) := by
  cases event with
  | append recordedAt input =>
    have untouched : Change platform database scope tables tables :=
      .untouched (Untouched.refl tables)
    refine commit_keeps untouched ?_
    intro entry tables' answered
    obtain ⟨accepted, repeated | ⟨row, admitted⟩⟩ := append_ok answered
    · rw [repeated.unchanged]
      exact .untouched (Untouched.refl tables)
    · exact .admitted recordedAt input entry row accepted admitted
  | crashBeforeCommit => exact .untouched (Untouched.refl tables)
  | beginSession sessionId =>
    exact .untouched (untouched_commit fun _ _ answered => beginSession_untouched answered)
  | closeSession sessionId => exact .untouched ⟨rfl, rfl, rfl, rfl, rfl, rfl⟩
  | recordDisconnect sessionId => exact .untouched ⟨rfl, rfl, rfl, rfl, rfl, rfl⟩
  | recordCaptureFailure => exact .untouched ⟨rfl, rfl, rfl, rfl, rfl, rfl⟩
  | saveSnapshot row =>
    exact .untouched (untouched_commit fun _ _ answered => saveSnapshot_untouched answered)
  | prune owner through now =>
    have untouched : Change platform database scope tables tables :=
      .untouched (Untouched.refl tables)
    refine commit_keeps untouched ?_
    intro removed tables' answered
    rcases prune_ok answered with same | ⟨anchor, pruned⟩
    · rw [same]
      exact .untouched (Untouched.refl tables)
    · exact .pruned anchor pruned

/-- The rows are numbered from the cut to the high watermark, linked from the hash at the cut to
the head, and hashed over their own fields. -/
structure Chained (platform : Platform PublicKey SigningKey) (scope : ReceptionScope)
    (tables : Tables) : Prop where
  numbered : NumberedFrom ReceptionRow.sequence (tables.stream.prunedThrough + 1) tables.receptions
  complete : tables.stream.prunedThrough + tables.receptions.length = tables.stream.highWatermark
  linked : Linked ReceptionRow.previousHash ReceptionRow.hash tables.stream.prunedHeadHash
    tables.receptions tables.stream.headHash
  hashed : ∀ row ∈ tables.receptions, receptionHash platform scope (toString row.sequence)
    row.previousHash row.receipt row.recordedAt = .ok row.hash
  genesis : tables.stream.genesisHash = genesisHash platform scope
  anchored : tables.stream.prunedThrough = 0 →
    tables.stream.prunedHeadHash = tables.stream.genesisHash

theorem Chained.created (capturedAt : String) :
    Chained platform scope (created platform scope capturedAt) where
  numbered := NumberedFrom.nil
  complete := rfl
  linked := rfl
  hashed := by
    intro row member
    cases member
  genesis := rfl
  anchored := fun _ => rfl

def Database.Keeps (database : Database) : Prop :=
  ∀ value stored, database.jsonb value = some stored →
    Equal value stored ∧ stored.proper = true

variable {receipt other : Json}

theorem receptionHash_of_equal {sequence previousHash recordedAt : String}
    (same : Equal receipt other) :
    receptionHash platform scope sequence previousHash receipt recordedAt =
      receptionHash platform scope sequence previousHash other recordedAt := by
  have values : ∀ scopeHash : String, Equal
      (.obj [("algorithm", .str chainAlgorithm), ("scopeHash", .str scopeHash),
        ("sequence", .str sequence), ("previousHash", .str previousHash), ("receipt", receipt),
        ("recordedAt", .str recordedAt)])
      (.obj [("algorithm", .str chainAlgorithm), ("scopeHash", .str scopeHash),
        ("sequence", .str sequence), ("previousHash", .str previousHash), ("receipt", other),
        ("recordedAt", .str recordedAt)]) := by
    intro scopeHash
    have receipts : receipt.normal = other.normal := same
    unfold Equal
    rw [normal, normal]
    simp only [normalFields, receipts]
  unfold receptionHash historyCanonicalJson
  simp only [finite_of_equal (values _), canonicalize_of_equal (values _)]

private theorem Chained.admitted (keeps : database.Keeps) {recordedAt : String} {input : Json}
    {row : ReceptionRow} (chained : Chained platform scope tables)
    (admitted : Admitted platform database scope tables recordedAt input entry tables' row) :
    Chained platform scope tables' := by
  have column := (keeps input row.receipt admitted.receipt).1
  rw [admitted.moved]
  refine ⟨?_, ?_, ?_, ?_, chained.genesis, chained.anchored⟩
  · have place : row.sequence = tables.stream.prunedThrough + 1 + tables.receptions.length := by
      have complete := chained.complete
      have numbered := admitted.numbered
      omega
    exact NumberedFrom.append_iff.mpr ⟨chained.numbered,
      NumberedFrom.cons_iff.mpr ⟨place, NumberedFrom.nil⟩⟩
  · have complete := chained.complete
    have numbered := admitted.numbered
    simp only [List.length_append, List.length_singleton]
    omega
  · exact chained.linked.concat admitted.previous
  · intro stored member
    rcases List.mem_append.mp member with earlier | isNew
    · exact chained.hashed stored earlier
    · rw [List.mem_singleton.mp isNew, ← receptionHash_of_equal column]
      exact admitted.hashed

private theorem Chained.pruned {anchor : ReceptionRow} (chained : Chained platform scope tables)
    (pruned : Pruned tables tables' anchor) :
    Chained platform scope tables' := by
  obtain ⟨earlier, later, split⟩ := List.append_of_mem pruned.stored
  have numbered := chained.numbered
  rw [split, NumberedFrom.append_iff, NumberedFrom.cons_iff] at numbered
  obtain ⟨below, place, above⟩ := numbered
  have kept : tables'.receptions = later := by
    rw [pruned.receptions, split, List.filter_append, List.filter_cons_of_neg (by simp)]
    have none : earlier.filter (fun row => decide (anchor.sequence < row.sequence)) = [] := by
      rw [List.filter_eq_nil_iff]
      intro row member
      have bound := (below.le_of_mem member).2
      simp only [decide_eq_true_eq, not_lt]
      omega
    have all : later.filter (fun row => decide (anchor.sequence < row.sequence)) = later := by
      rw [List.filter_eq_self]
      intro row member
      have bound := (above.le_of_mem member).1
      simp only [decide_eq_true_eq]
      omega
    rw [none, all, List.nil_append]
  have complete := chained.complete
  rw [split, List.length_append, List.length_cons] at complete
  have linked := chained.linked
  rw [split] at linked
  refine ⟨?_, ?_, ?_, ?_, ?_, ?_⟩
  · rw [pruned.stream, kept, place]
    exact above
  · rw [pruned.stream, kept]
    dsimp only
    omega
  · rw [pruned.stream, kept]
    exact linked.after_element
  · rw [kept]
    intro row member
    apply chained.hashed
    rw [split]
    exact List.mem_append_right _ (List.mem_cons_of_mem _ member)
  · rw [pruned.stream]
    exact chained.genesis
  · rw [pruned.stream]
    intro atZero
    have forward := pruned.forward
    have zero : anchor.sequence = 0 := atZero
    omega

theorem Chained.change (keeps : database.Keeps) (chained : Chained platform scope tables)
    (change : Change platform database scope tables tables') : Chained platform scope tables' := by
  cases change with
  | untouched same =>
    refine ⟨?_, ?_, ?_, ?_, ?_, ?_⟩
    · rw [same.receptions, same.prunedThrough]
      exact chained.numbered
    · rw [same.receptions, same.prunedThrough, same.highWatermark]
      exact chained.complete
    · rw [same.receptions, same.prunedHeadHash, same.headHash]
      exact chained.linked
    · rw [same.receptions]
      exact chained.hashed
    · rw [same.genesisHash]
      exact chained.genesis
    · rw [same.prunedThrough, same.prunedHeadHash, same.genesisHash]
      exact chained.anchored
  | admitted recordedAt input entry row accepted admitted => exact chained.admitted keeps admitted
  | pruned anchor pruned => exact chained.pruned pruned

/-- A row holds a receipt that was accepted and answered with an entry. -/
def Stored (platform : Platform PublicKey SigningKey) (database : Database) (row : ReceptionRow) :
    Prop :=
  ∃ input id entry, (ReceptionReceiptSchema platform.formats).accepts input = true ∧
    textMember "receptionId" input = some id ∧ row.receptionId = database.uuid id ∧
    database.jsonb input = some row.receipt ∧
    entryOf platform (toString row.sequence) row.previousHash row.hash input row.recordedAt =
      .ok entry

structure Identified (platform : Platform PublicKey SigningKey) (database : Database)
    (tables : Tables) : Prop where
  distinct : (tables.receptions.map ReceptionRow.receptionId).Nodup
  stored : ∀ row ∈ tables.receptions, Stored platform database row

theorem Identified.change (identified : Identified platform database tables)
    (change : Change platform database scope tables tables') :
    Identified platform database tables' := by
  cases change with
  | untouched same =>
    refine ⟨?_, ?_⟩
    · rw [same.receptions]
      exact identified.distinct
    · rw [same.receptions]
      exact identified.stored
  | admitted recordedAt input entry row accepted admitted =>
    obtain ⟨id, isReception, column⟩ := admitted.receptionId
    have isStored : Stored platform database row :=
      ⟨input, id, entry, accepted, isReception, column, admitted.receipt, admitted.answered⟩
    rw [admitted.moved]
    refine ⟨?_, ?_⟩
    · rw [List.map_append, List.nodup_append]
      refine ⟨identified.distinct, by simp, ?_⟩
      intro earlier inEarlier new isNew same
      obtain ⟨stored, member, rfl⟩ := List.mem_map.mp inEarlier
      rw [List.map_singleton, List.mem_singleton] at isNew
      exact admitted.fresh stored member (same.trans isNew)
    · intro stored member
      rcases List.mem_append.mp member with earlier | isNew
      · exact identified.stored stored earlier
      · rw [List.mem_singleton.mp isNew]
        exact isStored
  | pruned anchor pruned =>
    refine ⟨?_, ?_⟩
    · rw [pruned.receptions]
      exact identified.distinct.sublist (List.filter_sublist.map _)
    · intro row member
      rw [pruned.receptions] at member
      exact identified.stored row (List.mem_filter.mp member).1

theorem Change.keeps_row (change : Change platform database scope tables tables') :
    tables.stream.prunedThrough ≤ tables'.stream.prunedThrough ∧
      ∀ row ∈ tables.receptions, tables'.stream.prunedThrough < row.sequence →
        row ∈ tables'.receptions := by
  cases change with
  | untouched same =>
    rw [same.receptions, same.prunedThrough]
    exact ⟨Nat.le_refl _, fun row member _ => member⟩
  | admitted recordedAt input entry row accepted admitted =>
    rw [admitted.moved]
    exact ⟨Nat.le_refl _, fun stored member _ => List.mem_append_left _ member⟩
  | pruned anchor pruned =>
    rw [pruned.stream, pruned.receptions]
    refine ⟨Nat.le_of_lt pruned.forward, ?_⟩
    intro row member above
    exact List.mem_filter.mpr ⟨member, decide_eq_true above⟩

theorem run_forward (tables : Tables) (events : List Event) :
    tables.stream.prunedThrough ≤
      (after (step platform database scope) tables events).stream.prunedThrough := by
  refine always
    (I := fun later : Tables => tables.stream.prunedThrough ≤ later.stream.prunedThrough) ?_
    (Nat.le_refl _) events
  intro middle event forward
  exact Nat.le_trans forward (step_change middle event).keeps_row.1

theorem run_keeps_row (events : List Event) {row : ReceptionRow} (member : row ∈ tables.receptions)
    (above : (after (step platform database scope) tables
      events).stream.prunedThrough < row.sequence) :
    row ∈ (after (step platform database scope) tables events).receptions := by
  induction events generalizing tables with
  | nil => exact member
  | cons event later ih =>
    have kept := (@step_change _ _ platform database scope tables event).keeps_row.2 row member
    have forward := @run_forward _ _ platform database scope
      (step platform database scope tables event) later
    exact ih (kept (Nat.lt_of_le_of_lt forward above)) above

theorem run_invariants (keeps : database.Keeps) (capturedAt : String) (events : List Event) :
    Chained platform scope (after (step platform database scope)
      (created platform scope capturedAt) events) ∧
    Identified platform database (after (step platform database scope)
      (created platform scope capturedAt) events) := by
  refine always
    (I := fun tables => Chained platform scope tables ∧ Identified platform database tables)
    ?_ ⟨Chained.created capturedAt, List.nodup_nil, fun _ member => by cases member⟩ events
  intro tables event holds
  have change := @step_change _ _ platform database scope tables event
  exact ⟨holds.1.change keeps change, holds.2.change change⟩

def ReceptionRow.toEntry (row : ReceptionRow) : ReceptionEntry := {
  sequence := toString row.sequence
  previousHash := row.previousHash
  hash := row.hash
  receipt := row.receipt
  recordedAt := row.recordedAt }

/-- A stored row still parses: a schema does not see the order of the column's members. -/
theorem Stored.entry_ok (keeps : database.Keeps) {row : ReceptionRow}
    (stored : Stored platform database row) : row.entry platform = .ok row.toEntry := by
  obtain ⟨input, id, entry, _, _, _, column, answered⟩ := stored
  obtain ⟨sameReceipt, isProper⟩ := keeps input row.receipt column
  have accepted : (ReceptionEntrySchema platform.formats).accepts (toJson {
      sequence := toString row.sequence, previousHash := row.previousHash, hash := row.hash,
      receipt := input, recordedAt := row.recordedAt }) = true := by
    have found := parsed_ok answered
    unfold ReceptionEntry.parse at found
    split at found
    next holds => exact holds
    next => cases found
  have properEntry : row.toEntry.toJson.proper = true := by
    simp [ReceptionRow.toEntry, toJson, proper, properFields, isProper, Distinct]
  have acceptedRow := Schema.accepts_of_equal _ (entry_toJson_equal sameReceipt) properEntry accepted
  unfold ReceptionRow.entry entryOf ReceptionEntry.parse
  rw [if_pos acceptedRow, read_toJson]
  rfl

private theorem find_row (identified : Identified platform database tables) {row : ReceptionRow}
    (member : row ∈ tables.receptions) :
    tables.receptions.find? (fun stored => stored.receptionId == row.receptionId) = some row := by
  cases found : tables.receptions.find? (fun stored => stored.receptionId == row.receptionId) with
  | none =>
    have refused := List.find?_eq_none.mp found row member
    simp at refused
  | some prior =>
    have sameId : prior.receptionId = row.receptionId := by
      simpa using List.find?_some found
    rw [List.inj_on_of_nodup_map identified.distinct (List.mem_of_find?_eq_some found) member
      sameId]

private theorem accepted_members {input : Json}
    (accepted : (ReceptionReceiptSchema platform.formats).accepts input = true) :
    ∃ sessionId, textMember "sessionId" input = some sessionId := by
  obtain ⟨fields, rfl, _, _, members⟩ := Schema.accepts_object accepted
  have member : ∃ inner, lookup "sessionId" fields = some inner ∧
      (uuid platform.formats).accepts inner = true :=
    Schema.accepts_member members (by simp [required])
  obtain ⟨inner, found, holds⟩ := member
  obtain ⟨text, rfl, _⟩ := Schema.accepts_string holds
  refine ⟨text, ?_⟩
  change (lookup "sessionId" fields).bind text? = some text
  rw [found]
  rfl

private theorem append_at_row (identified : Identified platform database tables)
    {row : ReceptionRow} (member : row ∈ tables.receptions) {recordedAt : String} {input : Json}
    {id : String} (accepted : (ReceptionReceiptSchema platform.formats).accepts input = true)
    (isReception : textMember "receptionId" input = some id)
    (sameId : database.uuid id = row.receptionId) :
    append platform database scope recordedAt input tables = repeated platform row input tables := by
  obtain ⟨sessionId, isSession⟩ := accepted_members accepted
  rw [append_accepted accepted isReception isSession, sameId, find_row identified member]

theorem append_repeated (keeps : database.Keeps) (identified : Identified platform database tables)
    {row : ReceptionRow} (member : row ∈ tables.receptions) {recordedAt : String} {input : Json}
    {id : String} (accepted : (ReceptionReceiptSchema platform.formats).accepts input = true)
    (isReception : textMember "receptionId" input = some id)
    (sameId : database.uuid id = row.receptionId) (same : Equal input row.receipt) :
    (append platform database scope recordedAt input).commit tables = (.ok row.toEntry, tables) := by
  have isFinite : input.finite = true := Schema.accepts_finite _ _ accepted
  have storedFinite : row.receipt.finite = true := (finite_of_equal same).symm.trans isFinite
  apply commit_of_ok
  rw [append_at_row identified member accepted isReception sameId]
  unfold repeated historyCanonicalJson
  rw [if_pos isFinite, if_pos storedFinite, canonicalize_of_equal same,
    (identified.stored row member).entry_ok keeps]
  change (if row.receipt.canonicalize ≠ row.receipt.canonicalize then
    (abort "HISTORY_RECEPTION_ID_CONFLICT" : Transaction Tables String ReceptionEntry)
    else pure row.toEntry) tables = _
  rw [if_neg (fun different => different rfl)]
  rfl

theorem append_conflict (identified : Identified platform database tables) {row : ReceptionRow}
    (member : row ∈ tables.receptions) {recordedAt : String} {input : Json} {id : String}
    (isReception : textMember "receptionId" input = some id)
    (sameId : database.uuid id = row.receptionId) (different : ¬ Equal input row.receipt) :
    ∃ failure,
      (append platform database scope recordedAt input).commit tables = (.error failure, tables) := by
  by_cases accepted : (ReceptionReceiptSchema platform.formats).accepts input = true
  · have isFinite : input.finite = true := Schema.accepts_finite _ _ accepted
    have run := @append_at_row _ _ platform database scope _ identified _ member recordedAt _ _ accepted
      isReception sameId
    by_cases storedFinite : row.receipt.finite = true
    · refine ⟨"HISTORY_RECEPTION_ID_CONFLICT", commit_of_error ?_⟩
      have texts : row.receipt.canonicalize ≠ input.canonicalize := by
        intro same
        exact different ((canonicalize_eq_iff isFinite storedFinite).mp same.symm)
      rw [run]
      unfold repeated historyCanonicalJson
      rw [if_pos isFinite, if_pos storedFinite]
      change (if row.receipt.canonicalize ≠ input.canonicalize then
        (abort "HISTORY_RECEPTION_ID_CONFLICT" : Transaction Tables String ReceptionEntry)
        else lift (row.entry platform)) tables = _
      rw [if_pos texts]
      rfl
    · refine ⟨"HISTORY_CANONICAL_JSON_VALUE_INVALID", commit_of_error ?_⟩
      rw [run]
      unfold repeated historyCanonicalJson
      rw [if_neg storedFinite]
      rfl
  · refine ⟨"ZodError", commit_of_error ?_⟩
    unfold append
    rw [if_neg accepted]
    rfl

private theorem append_row (keeps : database.Keeps)
    (identified : Identified platform database tables) {recordedAt : String} {input : Json}
    (answered : append platform database scope recordedAt input tables = .ok (entry, tables')) :
    ∃ row ∈ tables'.receptions, ∃ id, textMember "receptionId" input = some id ∧
      database.uuid id = row.receptionId ∧ Equal input row.receipt ∧
      entry.sequence = toString row.sequence ∧ Equal row.toEntry.toJson entry.toJson := by
  obtain ⟨accepted, repeated | ⟨row, admitted⟩⟩ := append_ok answered
  · obtain ⟨id, prior, isReception, found, sameText, isEntry⟩ := repeated.stored
    have member := List.mem_of_find?_eq_some found
    have sameId : prior.receptionId = database.uuid id := by simpa using List.find?_some found
    have isFinite : input.finite = true := Schema.accepts_finite _ _ accepted
    rw [(identified.stored prior member).entry_ok keeps] at isEntry
    cases isEntry
    refine ⟨prior, ?_, id, isReception, sameId.symm, ?_, rfl, Equal.refl _⟩
    · rw [repeated.unchanged]
      exact member
    · unfold historyCanonicalJson at sameText
      rw [if_pos isFinite] at sameText
      split at sameText
      next storedFinite =>
        exact (canonicalize_eq_iff isFinite storedFinite).mp (Except.ok.inj sameText).symm
      next => cases sameText
  · obtain ⟨id, isReception, column⟩ := admitted.receptionId
    have sameReceipt := (keeps input row.receipt admitted.receipt).1
    refine ⟨row, ?_, id, isReception, column.symm, sameReceipt, ?_, ?_⟩
    · rw [admitted.moved]
      exact List.mem_append_right _ List.mem_cons_self
    · rw [entryOf_ok admitted.answered]
    · rw [entryOf_ok admitted.answered]
      exact entry_toJson_equal sameReceipt.symm

/-- In every run of appends, crashes, sessions and retention the stored rows are the chain from
the cut to the high watermark. A receipt that was answered is answered with the same entry again,
and another one under its identity is refused, as long as retention has not removed its row. -/
theorem reception_chain (keeps : database.Keeps) (capturedAt : String) (events : List Event) :
    Chained platform scope (after (step platform database scope)
      (created platform scope capturedAt) events) ∧
    ∀ recordedAt input entry answered later,
      append platform database scope recordedAt input (after
        (step platform database scope) (created platform scope capturedAt) events) =
        .ok (entry, answered) →
      ∀ now, now = after (step platform database scope) answered later →
      now.stream.prunedThrough < bigInt entry.sequence →
      ∀ recordedAt' input' id id', textMember "receptionId" input = some id →
        textMember "receptionId" input' = some id' → database.uuid id' = database.uuid id →
        ((ReceptionReceiptSchema platform.formats).accepts input' = true → Equal input' input →
          ∃ entry', (append platform database scope recordedAt' input').commit now =
            (.ok entry', now) ∧ Equal entry'.toJson entry.toJson) ∧
        (¬ Equal input' input → ∃ failure,
          (append platform database scope recordedAt' input').commit now =
            (.error failure, now)) := by
  have invariants := @run_invariants _ _ platform database scope keeps capturedAt events
  refine ⟨invariants.1, ?_⟩
  intro recordedAt input entry answered later append_answered now isNow above recordedAt' input' id
    id' isReception isReception' sameId
  obtain ⟨row, member, id'', isReception'', column, sameReceipt, sequence, sameEntry⟩ :=
    append_row keeps invariants.2 append_answered
  rw [isReception] at isReception''
  cases isReception''
  have isStep : answered = step platform database scope (after
      (step platform database scope) (created platform scope capturedAt) events)
      (.append recordedAt input) := by
    change answered = (commit _ _).2
    rw [commit_of_ok append_answered]
  have reached : now = after (step platform database scope)
      (created platform scope capturedAt) (events ++ .append recordedAt input :: later) := by
    rw [isNow, isStep, after_append]
    rfl
  have identified : Identified platform database now := by
    rw [reached]
    exact (run_invariants keeps capturedAt _).2
  rw [sequence, bigInt_toString] at above
  have present : row ∈ now.receptions := by
    rw [isNow] at above ⊢
    exact run_keeps_row later member above
  refine ⟨?_, ?_⟩
  · intro accepted same
    exact ⟨row.toEntry, append_repeated keeps identified present accepted isReception'
      (sameId.trans column) (same.trans sameReceipt), sameEntry⟩
  · intro different
    refine append_conflict identified present isReception' (sameId.trans column) ?_
    intro same
    exact different (same.trans sameReceipt.symm)

end Theory

namespace Sample

/-- A hash that is always the same, and columns that keep what they are given. -/
def storage : Platform Unit Unit := { platform with sha256 := fun _ => terminal }

def database : Database := {
  uuid := id
  jsonb := fun value => if value.proper then some value else none }

theorem database_keeps : database.Keeps := by
  intro value stored column
  change (if value.proper then some value else none) = some stored at column
  split at column
  next isProper =>
    cases column
    exact ⟨Equal.refl _, isProper⟩
  next => cases column

def time : String := "2026-10-12T00:00:00.000001Z"

def receipt : Json := .obj receiptMembers

def session : List Event := [.beginSession "session"]

/-- The stream after the receipt has been admitted and retention has removed it. -/
def removed : Tables :=
  after (step storage database scope) (created storage scope time)
    (session ++ [.append time receipt, .prune true 1 0])

def answers (tables : Tables) : Option String × Nat :=
  match append storage database scope time receipt tables with
  | .ok (entry, tables') => (some entry.sequence, tables'.receptions.length)
  | .error _ => (none, tables.receptions.length)

end Sample

theorem Sample.append_first {tables : Tables} {number : Nat} (noRows : tables.receptions = [])
    (opened : tables.sessions.countP (fun row =>
      row.sessionId == "session" && row.state == .opened) = 1)
    (inScope : tables.stream.scope = scope) (head : tables.stream.headHash = terminal)
    (isNumber : tables.stream.highWatermark = number) (small : number < 9223372036854775807)
    (accepted : PositiveSequenceSchema.accepts (.str (toString (number + 1))) = true) :
    append storage database scope time receipt tables = .ok (
      { sequence := toString (number + 1)
        previousHash := terminal
        hash := terminal
        receipt := receipt
        recordedAt := time },
      { tables with
        stream := { tables.stream with
          highWatermark := number + 1
          headHash := terminal }
        receptions := [{
          sequence := number + 1
          receptionId := "reception"
          sessionId := "session"
          receipt := receipt
          recordedAt := time
          previousHash := terminal
          hash := terminal }] }) := by
  have isSession : ¬ tables.sessions.countP (fun row =>
      row.sessionId == database.uuid "session" && row.state == .opened) ≠ 1 := by
    rw [not_not]
    exact opened
  have isState : ∃ state, streamState storage tables = .ok state ∧
      bigInt state.highWatermark = number ∧ state.headHash = terminal := by
    have isScope : ReceptionScope.parse storage.formats tables.stream.scope.toJson = some scope := by
      rw [inScope]
      exact scope_parsed
    unfold streamState
    rw [isScope]
    refine ⟨_, rfl, ?_, head⟩
    change bigInt (toString tables.stream.highWatermark) = number
    rw [isNumber, bigInt_toString]
  obtain ⟨state, isState, watermark, headHash⟩ := isState
  have hashed : receptionHash storage scope (toString (number + 1)) terminal receipt time =
      .ok terminal := by
    unfold receptionHash historyScopeHash
    rw [show storage.formats = Sample.platform.formats from rfl, scope_parsed]
    rfl
  have isProper : receipt.proper = true := by
    decide
  have column : database.jsonb receipt = some receipt := by
    change (if receipt.proper then some receipt else none) = some receipt
    rw [if_pos isProper]
  have isEntry : entryOf storage (toString (number + 1)) terminal terminal receipt time = .ok {
      sequence := toString (number + 1)
      previousHash := terminal
      hash := terminal
      receipt := receipt
      recordedAt := time } := by
    have isAccepted : (ReceptionEntrySchema storage.formats).accepts (ReceptionEntry.toJson {
        sequence := toString (number + 1)
        previousHash := terminal
        hash := terminal
        receipt := receipt
        recordedAt := time }) = true := receipts_accepted accepted terminal_accepted
    unfold entryOf ReceptionEntry.parse
    rw [if_pos isAccepted, read_toJson]
    rfl
  have isHash : sha256Pattern terminal = true := by
    have tests := terminal_accepted
    simpa [Sha256Schema, Schema.accepts] using tests
  have isAccepted : (ReceptionReceiptSchema storage.formats).accepts receipt = true :=
    receipt_accepted
  have fits : ¬ 9223372036854775807 < number + 1 := by
    omega
  have inserted : insertReception {
      sequence := number + 1
      receptionId := "reception"
      sessionId := "session"
      receipt := receipt
      recordedAt := time
      previousHash := terminal
      hash := terminal } tables = .ok ((), { tables with
        receptions := [{
          sequence := number + 1
          receptionId := "reception"
          sessionId := "session"
          receipt := receipt
          recordedAt := time
          previousHash := terminal
          hash := terminal }] }) := by
    unfold insertReception
    rw [read_bind, noRows]
    simp only [List.any_nil, if_neg fits, isHash, Bool.not_true, Bool.or_self, Bool.false_eq_true,
      if_false]
    change Except.ok ((), { tables with receptions := tables.receptions ++ _ }) = _
    rw [noRows]
    rfl
  rw [append_accepted isAccepted rfl rfl, noRows]
  change appendReception storage database scope time receipt "reception" "session" tables tables = _
  unfold appendReception
  rw [if_neg isSession]
  refine (bind_of_ok (show lift (streamState storage tables) tables = .ok (state, tables) by
    rw [isState]
    rfl)).trans ?_
  simp only [watermark, headHash, column]
  refine (bind_of_ok (show lift (receptionHash storage scope (toString (number + 1)) terminal
      receipt time) tables = .ok (terminal, tables) by
    rw [hashed]
    rfl)).trans ?_
  refine (bind_of_ok inserted).trans ?_
  rw [update_bind, isEntry]
  rfl

/-- The stream in its first session. -/
def Sample.opened : Tables :=
  after (step storage database scope) (created storage scope time) session

theorem Sample.first_admitted :
    ∃ answered, append storage database scope time receipt opened = .ok (
        { sequence := "1"
          previousHash := terminal
          hash := terminal
          receipt := receipt
          recordedAt := time }, answered) ∧
      answered.stream.prunedThrough = 0 ∧ answered.receptions.length = 1 ∧
      removed = ((prune true 1 0).commit answered).2 ∧
      (prune true 1 0).commit answered = (.ok 1, { answered with
        stream := { answered.stream with
          prunedThrough := 1
          prunedHeadHash := terminal }
        receptions := [] }) ∧
      answered.stream.highWatermark = 1 ∧ answered.stream.headHash = terminal ∧
      answered.stream.scope = scope ∧ answered.sessions = opened.sessions := by
  have ran := @append_first opened 0 rfl rfl rfl rfl rfl (by decide)
    (by decide)
  refine ⟨_, ran, rfl, rfl, ?_, rfl, rfl, rfl, rfl, rfl⟩
  rw [removed, after_append, ← opened, after, List.foldl_cons, List.foldl_cons, List.foldl_nil, step,
    step, commit_of_ok ran]

theorem reception_chain_twice :
    ∃ entry answered entry', append storage database scope time
        receipt (after (step storage database scope)
          (created storage scope time) session) =
        .ok (entry, answered) ∧
      (append storage database scope "2026-10-12T00:00:00.000002Z"
        receipt).commit answered = (.ok entry', answered) ∧
      Json.Equal entry'.toJson entry.toJson := by
  obtain ⟨answered, ran, notPruned, -⟩ := first_admitted
  have accepted : (ReceptionReceiptSchema storage.formats).accepts receipt = true :=
    receipt_accepted
  have above : answered.stream.prunedThrough < bigInt "1" := by
    rw [notPruned]
    decide
  obtain ⟨entry', repeated, same⟩ :=
    ((reception_chain database_keeps time session).2 time receipt
      _ answered [] ran answered rfl above "2026-10-12T00:00:00.000002Z" receipt
      "reception" "reception" rfl rfl rfl).1 accepted (Json.Equal.refl _)
  exact ⟨_, answered, entry', ran, repeated, same⟩

theorem Sample.answers_of {tables tables' : Tables} {entry : ReceptionEntry}
    (ran : append storage database scope time receipt tables = .ok (entry, tables')) :
    answers tables = (some entry.sequence, tables'.receptions.length) := by
  delta answers
  generalize append storage database scope time receipt tables = result at ran
  subst ran
  rfl

/-- A receipt that is sent again after retention has removed its entry is admitted again, as a new
entry, when its session is still open. -/
theorem reception_chain_forgets :
    answers (after (step storage database scope)
      (created storage scope time) session) = (some "1", 1) ∧
    removed.receptions.length = 0 ∧ answers removed = (some "2", 1) := by
  obtain ⟨answered, ran, -, one, isRemoved, pruned, watermark, head, isScope, sessions⟩ :=
    first_admitted
  rw [isRemoved, pruned]
  refine ⟨?_, rfl, ?_⟩
  · change answers opened = _
    rw [answers_of ran, one]
  · have again := @append_first { answered with
        stream := { answered.stream with
          prunedThrough := 1
          prunedHeadHash := terminal }
        receptions := [] } 1 rfl (by rw [sessions]; rfl) isScope head watermark (by decide)
      (by decide)
    rw [answers_of again]
    rfl

end TrajectoryHistory

end SdarRuntime
