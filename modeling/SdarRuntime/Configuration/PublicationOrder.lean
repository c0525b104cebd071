import SdarRuntime.Configuration.Publication
import Mathlib.Data.List.Range

/-!
The revisions of a target are published one after the other. A call inserts its revision while no
other call has one inserted, so that between the insert and the end of its transaction the
committed rows stand still, and the revision it found published is the one it replaces.
-/

namespace SdarRuntime

namespace Configuration

open TargetTables OrderedMap

/-! ### Committed rows -/

/-- The committed revisions are numbered from one on; the last one is published and the earlier
ones are superseded. -/
structure TargetTables.Ordered (tables : TargetTables) : Prop where
  numbered : tables.revisions.map (fun row => row.revision) =
    List.range' 1 tables.revisions.length
  distinct : (tables.revisions.map fun row => row.revisionId).Nodup
  last : ∀ older row, tables.revisions = older ++ [row] →
    row.status = .published ∧ ∀ other ∈ older, other.status = .superseded

namespace TargetTables.Ordered

variable {tables : TargetTables}

theorem empty (definition : Option String) :
    TargetTables.Ordered { definition := definition, revisions := [] } := by
  constructor
  · rfl
  · exact List.nodup_nil
  · intro older row same
    simp at same

theorem mem_numbered (ordered : tables.Ordered) {number : Nat} :
    (∃ row ∈ tables.revisions, row.revision = number) ↔
      1 ≤ number ∧ number ≤ tables.revisions.length := by
  have members : number ∈ tables.revisions.map (fun row => row.revision) ↔
      number ∈ List.range' 1 tables.revisions.length := by
    rw [ordered.numbered]
  rw [List.mem_map, List.mem_range'_1] at members
  constructor
  · intro known
    have bounds := members.mp known
    omega
  · intro bounds
    exact members.mpr (by omega)

theorem highest_eq (ordered : tables.Ordered) : tables.highest = tables.revisions.length := by
  unfold highest
  rw [ordered.numbered]
  generalize tables.revisions.length = length
  induction length with
  | zero => rfl
  | succ length ih =>
    have bound : ∀ (numbers : List Nat) (top : Nat),
        (numbers ++ [top]).foldr max 0 = max (numbers.foldr max 0) top := by
      intro numbers top
      induction numbers with
      | nil => simp
      | cons number rest rests => rw [List.cons_append, List.foldr, rests, List.foldr, max_assoc]
    rw [List.range'_1_concat, bound, ih]
    omega

theorem published_cases (ordered : tables.Ordered) :
    tables.revisions = [] ∧ tables.published = none ∨
      ∃ older row, tables.revisions = older ++ [row] ∧ tables.published = some row := by
  rcases List.eq_nil_or_concat' tables.revisions with nil | ⟨older, row, concat⟩
  · apply Or.inl
    exact ⟨nil, by rw [published, nil]; rfl⟩
  · apply Or.inr
    have status := ordered.last older row concat
    have none : older.find? (fun other => other.status == .published) = Option.none := by
      rw [List.find?_eq_none]
      intro other among isPublished
      rw [status.2 other among] at isPublished
      cases isPublished
    refine ⟨older, row, concat, ?_⟩
    rw [published, concat, List.find?_append, none, Option.none_or,
      List.find?_singleton, status.1]
    rfl

variable {row : ConfigRevision}

theorem published_revision (ordered : tables.Ordered) (isPublished : tables.published = some row) :
    row ∈ tables.revisions ∧ row.status = .published ∧ row.revision = tables.revisions.length := by
  rcases ordered.published_cases with ⟨_, none⟩ | ⟨older, last, concat, found⟩
  · rw [none] at isPublished
    cases isPublished
  · rw [found] at isPublished
    cases isPublished
    have member : row ∈ tables.revisions := by
      rw [concat]
      exact List.mem_append_right older (List.mem_singleton.mpr rfl)
    refine ⟨member, (ordered.last older row concat).1, ?_⟩
    have numbered := ordered.numbered
    rw [concat, List.map_append, List.length_append, List.length_singleton,
      List.range'_1_concat] at numbered
    have lasts := List.append_inj_right' numbered rfl
    have number : row.revision = 1 + older.length := by simpa using lasts
    rw [concat, List.length_append, List.length_singleton]
    omega

theorem eq_of_revision (ordered : tables.Ordered) {row other : ConfigRevision}
    (member : row ∈ tables.revisions) (otherMember : other ∈ tables.revisions)
    (same : row.revision = other.revision) : row = other := by
  have distinct : (tables.revisions.map fun known => known.revision).Nodup := by
    rw [ordered.numbered]
    exact List.nodup_range'
  exact List.inj_on_of_nodup_map distinct member otherMember same

theorem eq_published (ordered : tables.Ordered) (member : row ∈ tables.revisions)
    (isPublished : row.status = .published) :
    tables.published = some row := by
  rcases ordered.published_cases with ⟨nil, _⟩ | ⟨older, last, concat, found⟩
  · rw [nil] at member
    cases member
  · rw [concat, List.mem_append, List.mem_singleton] at member
    rcases member with earlier | same
    · rw [(ordered.last older last concat).2 row earlier] at isPublished
      cases isPublished
    · rw [found, same]

end TargetTables.Ordered

def replacedRow (row : ConfigRevision) : ConfigRevision :=
  if row.status = .published then { row with status := .superseded } else row

/-- A commit publishes a revision: it has a larger number than every revision before it, the
published one is superseded, and nothing else changes. -/
structure Replaces (before after : TargetTables) (row : ConfigRevision) : Prop where
  published : row.status = .published
  larger : ∀ earlier ∈ before.revisions, earlier.revision < row.revision
  revisions : after.revisions = before.revisions.map replacedRow ++ [row]

variable {tables : TargetTables}

theorem supersedeRow_published (ordered : tables.Ordered) {current : ConfigRevision}
    (isPublished : tables.published = some current) :
    tables.revisions.map (supersedeRow current.revisionId) = tables.revisions.map replacedRow := by
  apply List.map_congr_left
  intro row member
  have facts := ordered.published_revision isPublished
  unfold supersedeRow replacedRow
  by_cases same : row.revisionId = current.revisionId
  · have equal : row = current :=
      List.inj_on_of_nodup_map ordered.distinct member facts.1 same
    rw [if_pos same, if_pos (equal ▸ facts.2.1)]
  · have other : ¬row.status = .published := by
      intro status
      have found := ordered.eq_published member status
      rw [isPublished] at found
      cases found
      exact same rfl
    rw [if_neg same, if_neg other]

theorem replacedRow_none (nil : tables.revisions = []) :
    tables.revisions = tables.revisions.map replacedRow := by
  rw [nil]
  rfl

variable {before after : TargetTables} {row : ConfigRevision}

theorem Replaces.ordered (replaces : Replaces before after row) (ordered : before.Ordered)
    (number : row.revision = before.revisions.length + 1)
    (fresh : ∀ known ∈ before.revisions, known.revisionId ≠ row.revisionId) : after.Ordered := by
  have sameNumber : ∀ known : ConfigRevision, (replacedRow known).revision = known.revision := by
    intro known
    unfold replacedRow
    split <;> rfl
  have sameId : ∀ known : ConfigRevision, (replacedRow known).revisionId = known.revisionId := by
    intro known
    unfold replacedRow
    split <;> rfl
  constructor
  · rw [replaces.revisions, List.map_append, List.map_map, List.length_append, List.length_map,
      List.length_singleton, List.range'_1_concat, ← ordered.numbered, List.map_singleton, number]
    rw [Nat.add_comm]
    congr 1
    apply List.map_congr_left
    intro known _
    exact sameNumber known
  · rw [replaces.revisions, List.map_append, List.map_map, List.map_singleton]
    have ids : before.revisions.map ((fun known => known.revisionId) ∘ replacedRow) =
        before.revisions.map fun known => known.revisionId := by
      apply List.map_congr_left
      intro known _
      exact sameId known
    rw [ids, List.nodup_append]
    refine ⟨ordered.distinct, List.nodup_singleton _, ?_⟩
    intro id known other single
    obtain ⟨earlier, member, same⟩ := List.mem_map.mp known
    rw [List.mem_singleton] at single
    rw [single, ← same]
    exact fresh earlier member
  · intro older last concat
    rw [replaces.revisions] at concat
    have parts := List.append_inj' concat rfl
    have same := List.singleton_inj.mp parts.2
    rw [← same, ← parts.1]
    constructor
    · exact replaces.published
    · intro other among
      obtain ⟨known, member, replaced⟩ := List.mem_map.mp among
      rw [← replaced]
      unfold replacedRow
      rcases ordered.published_cases with ⟨nil, _⟩ | ⟨earlier, final, split, _⟩
      · rw [nil] at member
        cases member
      · have status := ordered.last earlier final split
        rw [split, List.mem_append, List.mem_singleton] at member
        rcases member with early | isFinal
        · have superseded := status.2 known early
          rw [if_neg (by rw [superseded]; decide)]
          exact superseded
        · rw [isFinal, if_pos status.1]

/-! ### Calls -/

structure Uncommitted.Idle (uncommitted : Uncommitted) : Prop where
  revision : uncommitted.revision = Option.none
  superseded : uncommitted.superseded = Option.none

/-- The revision a call found published has the expected number and is a committed row. -/
def Replaceable (tables : TargetTables) (expected : Option Nat) : Option ConfigRevision → Prop
  | none => expected = none
  | some current => expected = some current.revision ∧
      ∃ known ∈ tables.revisions, known.revisionId = current.revisionId ∧
        known.revision = current.revision

/-- The transaction has inserted the revision after the committed ones. -/
structure Inserted (tables : TargetTables) (uncommitted : Uncommitted)
    (status : ConfigRevisionStatus) (row : ConfigRevision) : Prop where
  revision : uncommitted.revision = some row
  status : row.status = status
  number : row.revision = tables.revisions.length + 1
  fresh : ∀ known ∈ tables.revisions, known.revisionId ≠ row.revisionId

namespace Inserted

variable {tables : TargetTables} {uncommitted : Uncommitted} {row : ConfigRevision}
variable {status : ConfigRevisionStatus}

theorem congr {same : TargetTables} (inserted : Inserted tables uncommitted status row)
    (revisions : same.revisions = tables.revisions) : Inserted same uncommitted status row := {
  revision := inserted.revision
  status := inserted.status
  number := revisions ▸ inserted.number
  fresh := revisions ▸ inserted.fresh
}

theorem found (inserted : Inserted tables uncommitted status row) :
    uncommitted.revision.filter (fun known => known.status == status) = some row := by
  rw [inserted.revision, Option.filter_some, inserted.status]
  simp

theorem changed {other : ConfigRevisionStatus}
    (inserted : Inserted tables uncommitted status row) (superseded : Option String) :
    Inserted tables {
      uncommitted with
      revision := some { row with status := other }
      superseded := superseded
    } other { row with status := other } := {
  revision := rfl
  status := rfl
  number := inserted.number
  fresh := inserted.fresh
}

end Inserted

/-- The revision the transaction supersedes is the published one, and the expected one. -/
def Supersedes (tables : TargetTables) (expected : Option Nat) (superseded : Option String) :
    Prop :=
  match superseded with
  | none => expected = none
  | some revisionId => ∃ current, tables.published = some current ∧
      current.revisionId = revisionId ∧ expected = some current.revision

variable {tables same : TargetTables}

theorem TargetTables.published_congr (revisions : same.revisions = tables.revisions) :
    same.published = tables.published := by
  rw [published, revisions]
  rfl

variable {expected : Option Nat}

theorem Supersedes.congr {superseded : Option String}
    (supersedes : Supersedes tables expected superseded)
    (revisions : same.revisions = tables.revisions) : Supersedes same expected superseded := by
  unfold Supersedes
  rw [published_congr revisions]
  exact supersedes

structure Publishing (tables : TargetTables) (expected : Option Nat) (uncommitted : Uncommitted)
    (row : ConfigRevision) : Prop where
  inserted : Inserted tables uncommitted .published row
  supersedes : Supersedes tables expected uncommitted.superseded
  alone : uncommitted.superseded = none → tables.published = none

variable {uncommitted : Uncommitted}

theorem Publishing.congr (publishing : Publishing tables expected uncommitted row)
    (revisions : same.revisions = tables.revisions) : Publishing same expected uncommitted row := {
  inserted := publishing.inserted.congr revisions
  supersedes := publishing.supersedes.congr revisions
  alone := published_congr revisions ▸ publishing.alone
}

def Finishing (tables : TargetTables) (expected : Option Nat) (uncommitted : Uncommitted)
    (result : ConfigurationPublicationResult) : Prop :=
  match result.outcome with
  | .noChange => uncommitted.Idle
  | .published => Publishing tables expected uncommitted result.revision

def PublicationCall.Proper (tables : TargetTables) (call : PublicationCall) : Prop :=
  match call.stage with
  | .begin => call.uncommitted.Idle
  | .getRevision => call.uncommitted.Idle
  | .getPublishedRevision _ => call.uncommitted.Idle
  | .getDefinition work => call.uncommitted.Idle ∧
      (call.definitionEnsured work = .listRevisions work →
        Replaceable tables call.expectedPublishedRevision work.current)
  | .saveDefinition work => call.uncommitted.Idle ∧
      (call.definitionEnsured work = .listRevisions work →
        Replaceable tables call.expectedPublishedRevision work.current)
  | .listRevisions work => call.uncommitted.Idle ∧
      Replaceable tables call.expectedPublishedRevision work.current
  | .createRevision work _ => call.uncommitted.Idle ∧
      Replaceable tables call.expectedPublishedRevision work.current
  | .insertRevision work number => call.uncommitted.Idle ∧
      Replaceable tables call.expectedPublishedRevision work.current ∧
      1 ≤ number ∧ number ≤ tables.revisions.length + 1
  | .validate work => call.uncommitted.superseded = none ∧
      Replaceable tables call.expectedPublishedRevision work.current ∧
      ∃ row, Inserted tables call.uncommitted .draft row
  | .supersede work => call.uncommitted.superseded = none ∧
      Replaceable tables call.expectedPublishedRevision work.current ∧
      ∃ row, Inserted tables call.uncommitted .validated row
  | .publish _ => Supersedes tables call.expectedPublishedRevision call.uncommitted.superseded ∧
      ∃ row, Inserted tables call.uncommitted .validated row
  | .appendAudit result => Finishing tables call.expectedPublishedRevision call.uncommitted result
  | .commit result => Finishing tables call.expectedPublishedRevision call.uncommitted result
  | .returned _ => call.uncommitted.Idle

theorem Uncommitted.none_idle : Uncommitted.none.Idle := {
  revision := rfl
  superseded := rfl
}

structure TargetTables.Extends (tables earlier : TargetTables) : Prop where
  length : earlier.revisions.length ≤ tables.revisions.length
  rows : ∀ known ∈ earlier.revisions, ∃ row ∈ tables.revisions,
    row.revisionId = known.revisionId ∧ row.revision = known.revision

variable {tables earlier : TargetTables}

theorem Replaceable.extends (extension : tables.Extends earlier) {current : Option ConfigRevision}
    (replaceable : Replaceable earlier expected current) :
    Replaceable tables expected current := by
  cases current with
  | none => exact replaceable
  | some current =>
    obtain ⟨isExpected, known, member, sameId, sameNumber⟩ := replaceable
    obtain ⟨row, still, rowId, rowNumber⟩ := extension.rows known member
    exact ⟨isExpected, row, still, rowId.trans sameId, rowNumber.trans sameNumber⟩

namespace PublicationCall

variable {call : PublicationCall}

/-- What holds of a call is kept by the commits of others, and these leave the revisions when the
call has one inserted. -/
theorem Proper.extends (extension : tables.Extends earlier) (proper : call.Proper earlier)
    (still : call.uncommitted.revision.isSome → tables.revisions = earlier.revisions) :
    call.Proper tables := by
  have same : ∀ {status row}, Inserted earlier call.uncommitted status row →
      tables.revisions = earlier.revisions := by
    intro status row inserted
    apply still
    rw [inserted.revision]
    rfl
  have finishing : ∀ {expected result}, Finishing earlier expected call.uncommitted result →
      Finishing tables expected call.uncommitted result := by
    intro expected result
    unfold Finishing
    cases result.outcome with
    | noChange => exact id
    | published =>
      intro publishing
      exact publishing.congr (same publishing.inserted)
  unfold Proper at proper ⊢
  cases stage : call.stage <;> rw [stage] at proper <;> dsimp only at proper ⊢
  case getDefinition => exact ⟨proper.1, fun first => (proper.2 first).extends extension⟩
  case saveDefinition => exact ⟨proper.1, fun first => (proper.2 first).extends extension⟩
  case listRevisions => exact ⟨proper.1, proper.2.extends extension⟩
  case createRevision => exact ⟨proper.1, proper.2.extends extension⟩
  case insertRevision =>
      obtain ⟨isIdle, replaceable, positive, most⟩ := proper
      exact ⟨isIdle, replaceable.extends extension, positive,
        most.trans (Nat.succ_le_succ extension.length)⟩
  case validate =>
      obtain ⟨noneSuperseded, replaceable, row, inserted⟩ := proper
      exact ⟨noneSuperseded, replaceable.extends extension, row, inserted.congr (same inserted)⟩
  case supersede =>
      obtain ⟨noneSuperseded, replaceable, row, inserted⟩ := proper
      exact ⟨noneSuperseded, replaceable.extends extension, row, inserted.congr (same inserted)⟩
  case publish =>
      obtain ⟨supersedes, row, inserted⟩ := proper
      exact ⟨supersedes.congr (same inserted), row, inserted.congr (same inserted)⟩
  case appendAudit => exact finishing proper
  case commit => exact finishing proper
  all_goals exact proper

variable {result : ConfigurationPublicationResult}

theorem Proper.finishing (proper : call.Proper tables) (stage : call.stage = .commit result) :
    Finishing tables call.expectedPublishedRevision call.uncommitted result := by
  rw [Proper, stage] at proper
  exact proper

theorem Proper.inserted_number (proper : call.Proper tables)
    (isInserted : call.uncommitted.revision = some row) :
    row.revision = tables.revisions.length + 1 := by
  have ofInserted : ∀ {status known}, Inserted tables call.uncommitted status known →
      row.revision = tables.revisions.length + 1 := by
    intro status known inserted
    have same := isInserted.symm.trans inserted.revision
    cases same
    exact inserted.number
  have ofIdle : call.uncommitted.Idle → row.revision = tables.revisions.length + 1 := by
    intro idle
    rw [idle.revision] at isInserted
    cases isInserted
  have ofFinishing : ∀ {result}, Finishing tables call.expectedPublishedRevision call.uncommitted
      result → row.revision = tables.revisions.length + 1 := by
    intro result finishing
    unfold Finishing at finishing
    cases outcome : result.outcome with
    | noChange =>
      rw [outcome] at finishing
      exact ofIdle finishing
    | published =>
      rw [outcome] at finishing
      exact ofInserted finishing.inserted
  unfold Proper at proper
  cases stage : call.stage <;> rw [stage] at proper <;> dsimp only at proper
  case begin => exact ofIdle proper
  case getRevision => exact ofIdle proper
  case getPublishedRevision => exact ofIdle proper
  case returned => exact ofIdle proper
  case validate =>
      obtain ⟨_, _, known, inserted⟩ := proper
      exact ofInserted inserted
  case supersede =>
      obtain ⟨_, _, known, inserted⟩ := proper
      exact ofInserted inserted
  case publish =>
      obtain ⟨_, known, inserted⟩ := proper
      exact ofInserted inserted
  case appendAudit => exact ofFinishing proper
  case commit => exact ofFinishing proper
  all_goals exact ofIdle proper.1

theorem failed_uncommitted (call : PublicationCall) (failure : PublicationFailure) :
    (call.failed failure).uncommitted = .none := by
  unfold failed
  split <;> rfl

theorem failed_proper (call : PublicationCall) (failure : PublicationFailure)
    (tables : TargetTables) : (call.failed failure).Proper tables := by
  unfold failed
  split <;> exact Uncommitted.none_idle

/-! ### Statements -/

/-- What a statement leaves, when it goes on: what holds at the next one, and a revision inserted
only while no other transaction has one. -/
structure Continues (tables : TargetTables) (others : List Uncommitted) (call : PublicationCall)
    (stage : PublicationStage) (uncommitted : Uncommitted) : Prop where
  proper : PublicationCall.Proper tables {
    call with
    stage := stage
    uncommitted := uncommitted
  }
  alone : uncommitted.revision.isSome → call.uncommitted.revision.isSome ∨
    ∀ other ∈ others, other.revision = none

variable {tables : TargetTables} {others : List Uncommitted} {call : PublicationCall}
variable {stage : PublicationStage} {uncommitted : Uncommitted}

theorem Continues.reads (proper : PublicationCall.Proper tables { call with stage := stage }) :
    Continues tables others call stage call.uncommitted := {
  proper := proper
  alone := Or.inl
}

variable {reading : PublicationReading}

theorem getRevision_continues {sourceRevisionId : String} (idle : call.uncommitted.Idle)
    (goesOn : call.getRevision tables reading sourceRevisionId = .next stage uncommitted) :
    Continues tables others call stage uncommitted := by
  unfold getRevision at goesOn
  split at goesOn
  · split at goesOn
    · cases goesOn
      exact Continues.reads idle
    · cases goesOn
  · cases goesOn

variable {work : NewRevision}

theorem getPublishedRevision_continues (idle : call.uncommitted.Idle)
    (goesOn : call.getPublishedRevision tables work = .next stage uncommitted) :
    Continues tables others call stage uncommitted := by
  unfold getPublishedRevision at goesOn
  dsimp only at goesOn
  split at goesOn
  · cases goesOn
    exact Continues.reads idle
  · split at goesOn
    · cases goesOn
    · rename_i isExpected
      have expected := Decidable.not_not.mp isExpected
      have replaceable : Replaceable tables call.expectedPublishedRevision tables.published := by
        cases found : tables.published with
        | none =>
          rw [found] at expected
          exact expected.symm
        | some current =>
          rw [found] at expected
          exact ⟨expected.symm, current, List.mem_of_find?_eq_some found, rfl, rfl⟩
      split at goesOn
      · cases goesOn
        exact Continues.reads ⟨idle, replaceable⟩
      · cases goesOn
        exact Continues.reads ⟨idle, fun _ => replaceable⟩

theorem definitionEnsured_continues {written : Uncommitted} (idle : written.Idle)
    (replaceable : call.definitionEnsured work = .listRevisions work →
      Replaceable tables call.expectedPublishedRevision work.current) :
    Continues tables others call (call.definitionEnsured work) written := by
  constructor
  · cases request : call.request with
    | publish snapshot =>
      have first : call.definitionEnsured work = .getPublishedRevision work := by
        rw [definitionEnsured, request]
      rw [first]
      exact idle
    | rollback draft source =>
      have first : call.definitionEnsured work = .listRevisions work := by
        rw [definitionEnsured, request]
      rw [first]
      exact ⟨idle, replaceable first⟩
  · intro isSome
    rw [idle.revision] at isSome
    cases isSome

variable {center : ConfigurationCenter}

theorem getDefinition_continues (idle : call.uncommitted.Idle)
    (replaceable : call.definitionEnsured work = .listRevisions work →
      Replaceable tables call.expectedPublishedRevision work.current)
    (goesOn : call.getDefinition center tables work = .next stage uncommitted) :
    Continues tables others call stage uncommitted := by
  unfold getDefinition at goesOn
  split at goesOn
  · cases goesOn
  · split at goesOn
    · split at goesOn
      · cases goesOn
        exact definitionEnsured_continues idle replaceable
      · cases goesOn
    · cases goesOn
      exact Continues.reads ⟨idle, replaceable⟩

theorem saveDefinition_continues (idle : call.uncommitted.Idle)
    (replaceable : call.definitionEnsured work = .listRevisions work →
      Replaceable tables call.expectedPublishedRevision work.current)
    (goesOn : call.saveDefinition center tables others work = .next stage uncommitted) :
    Continues tables others call stage uncommitted := by
  unfold saveDefinition at goesOn
  split at goesOn
  · cases goesOn
  · split at goesOn
    · cases goesOn
    · split at goesOn
      · cases goesOn
      · cases goesOn
        apply definitionEnsured_continues _ replaceable
        exact { revision := idle.revision, superseded := idle.superseded }

theorem createRevision_continues (ordered : tables.Ordered) {latest : Option Nat}
    (idle : call.uncommitted.Idle)
    (replaceable : Replaceable tables call.expectedPublishedRevision work.current)
    (goesOn : call.createRevision tables work latest = .next stage uncommitted) :
    Continues tables others call stage uncommitted := by
  unfold createRevision conflict at goesOn
  split at goesOn
  · cases goesOn
  · split at goesOn
    · cases goesOn
      apply Continues.reads
      have highest := ordered.highest_eq
      exact ⟨idle, replaceable, by omega, by omega⟩
    · cases goesOn

theorem insertRevision_continues (ordered : tables.Ordered)
    (next : ∀ other ∈ others, ∀ row, other.revision = some row →
      row.revision = tables.revisions.length + 1) {number : Nat} (idle : call.uncommitted.Idle)
    (replaceable : Replaceable tables call.expectedPublishedRevision work.current)
    (positive : 1 ≤ number) (most : number ≤ tables.revisions.length + 1)
    (goesOn : call.insertRevision tables others reading work number = .next stage uncommitted) :
    Continues tables others call stage uncommitted := by
  unfold insertRevision conflict at goesOn
  dsimp only at goesOn
  split at goesOn
  · cases goesOn
  · rename_i free
    have unused : ∀ known ∈ tables.revisions,
        known.revision ≠ number ∧ known.revisionId ≠ reading.newId := by
      simpa using free
    have isNext : number = tables.revisions.length + 1 := by
      by_contra smaller
      obtain ⟨known, member, same⟩ :=
        ordered.mem_numbered.mpr ⟨positive, show number ≤ _ by omega⟩
      exact (unused known member).1 same
    split at goesOn
    · cases goesOn
    · rename_i open_
      cases goesOn
      constructor
      · exact ⟨idle.superseded, replaceable, _, {
          revision := rfl
          status := rfl
          number := isNext
          fresh := fun known member => (unused known member).2
        }⟩
      · intro _
        apply Or.inr
        intro other among
        cases inserted : other.revision with
        | none => rfl
        | some row =>
          exfalso
          apply open_
          rw [List.any_eq_true]
          refine ⟨other, among, ?_⟩
          rw [inserted, isNext]
          simp [next other among row inserted]

theorem validate_continues (noneSuperseded : call.uncommitted.superseded = none)
    (replaceable : Replaceable tables call.expectedPublishedRevision work.current)
    (inserted : Inserted tables call.uncommitted .draft row)
    (goesOn : call.validate work = .next stage uncommitted) :
    Continues tables others call stage uncommitted := by
  unfold validate at goesOn
  rw [inserted.found] at goesOn
  dsimp only at goesOn
  cases goesOn
  constructor
  · by_cases present : work.current.isSome
    · rw [if_pos present]
      exact ⟨noneSuperseded, replaceable, _, inserted.changed call.uncommitted.superseded⟩
    · rw [if_neg present]
      refine ⟨?_, _, inserted.changed call.uncommitted.superseded⟩
      rw [Option.not_isSome_iff_eq_none.mp present] at replaceable
      rw [noneSuperseded]
      exact replaceable
  · intro _
    apply Or.inl
    rw [inserted.revision]
    rfl

theorem supersede_continues (ordered : tables.Ordered)
    (noneSuperseded : call.uncommitted.superseded = none)
    (replaceable : Replaceable tables call.expectedPublishedRevision work.current)
    (inserted : Inserted tables call.uncommitted .validated row)
    (goesOn : call.supersede tables others work = .next stage uncommitted) :
    Continues tables others call stage uncommitted := by
  have stillInserted : call.uncommitted.revision.isSome := by
    rw [inserted.revision]
    rfl
  unfold supersede conflict at goesOn
  split at goesOn
  · rename_i isNone
    cases goesOn
    rw [isNone] at replaceable
    apply Continues.reads
    refine ⟨?_, row, inserted⟩
    rw [noneSuperseded]
    exact replaceable
  · rename_i current isSome
    rw [isSome] at replaceable
    obtain ⟨isExpected, known, member, sameId, sameNumber⟩ := replaceable
    split at goesOn
    · cases goesOn
    · rename_i found foundRow
      have foundMember := List.mem_of_find?_eq_some foundRow
      have foundId : found.revisionId = current.revisionId := by
        simpa using List.find?_some foundRow
      have isKnown : found = known :=
        List.inj_on_of_nodup_map ordered.distinct foundMember member
          (foundId.trans sameId.symm)
      split at goesOn
      · cases goesOn
      · rename_i isPublished
        split at goesOn
        · cases goesOn
        · cases goesOn
          constructor
          · refine ⟨⟨found, ?_, rfl, ?_⟩, row, {
              revision := inserted.revision
              status := inserted.status
              number := inserted.number
              fresh := inserted.fresh
            }⟩
            · exact ordered.eq_published foundMember (Decidable.not_not.mp isPublished)
            · rw [isExpected, isKnown, sameNumber]
          · intro _
            exact Or.inl stillInserted

theorem publish_continues (ordered : tables.Ordered)
    (supersedes : Supersedes tables call.expectedPublishedRevision call.uncommitted.superseded)
    (inserted : Inserted tables call.uncommitted .validated row)
    (goesOn : call.publish tables others = .next stage uncommitted) :
    Continues tables others call stage uncommitted := by
  unfold publish conflict at goesOn
  rw [inserted.found] at goesOn
  dsimp only at goesOn
  split at goesOn
  · cases goesOn
  · split at goesOn
    · cases goesOn
    · rename_i index
      cases goesOn
      constructor
      · refine {
          inserted := inserted.changed call.uncommitted.superseded
          supersedes := supersedes
          alone := ?_
        }
        intro noneSuperseded
        rcases ordered.published_cases with ⟨_, none⟩ | ⟨older, last, concat, isLast⟩
        · exact none
        · exfalso
          apply index
          rw [List.any_eq_true]
          have facts := ordered.published_revision isLast
          refine ⟨last, facts.1, ?_⟩
          dsimp only at noneSuperseded
          rw [facts.2.1, noneSuperseded]
          rfl
      · intro _
        apply Or.inl
        rw [inserted.revision]
        rfl

variable {checksum : List (String × Json) → String}

theorem statement_continues (ordered : tables.Ordered)
    (next : ∀ other ∈ others, ∀ row, other.revision = some row →
      row.revision = tables.revisions.length + 1) (proper : call.Proper tables)
    (goesOn : call.statement checksum center tables others reading = .next stage uncommitted) :
    Continues tables others call stage uncommitted := by
  unfold statement at goesOn
  unfold Proper at proper
  cases current : call.stage <;> rw [current] at proper goesOn <;> dsimp only at proper goesOn
  case begin =>
      split at goesOn
      · rename_i request
        cases goesOn
        apply Continues.reads
        refine ⟨proper, ?_⟩
        intro first
        rw [definitionEnsured] at first
        dsimp only at first
        rw [request] at first
        cases first
      · cases goesOn
        exact Continues.reads proper
  case getRevision =>
      split at goesOn
      · cases goesOn
      · exact getRevision_continues proper goesOn
  case getPublishedRevision => exact getPublishedRevision_continues proper goesOn
  case getDefinition => exact getDefinition_continues proper.1 proper.2 goesOn
  case saveDefinition => exact saveDefinition_continues proper.1 proper.2 goesOn
  case listRevisions =>
      cases goesOn
      exact Continues.reads proper
  case createRevision => exact createRevision_continues ordered proper.1 proper.2 goesOn
  case insertRevision =>
      obtain ⟨idle, replaceable, positive, most⟩ := proper
      exact insertRevision_continues ordered next idle replaceable positive most goesOn
  case validate =>
      obtain ⟨noneSuperseded, replaceable, row, inserted⟩ := proper
      exact validate_continues noneSuperseded replaceable inserted goesOn
  case supersede =>
      obtain ⟨noneSuperseded, replaceable, row, inserted⟩ := proper
      exact supersede_continues ordered noneSuperseded replaceable inserted goesOn
  case publish =>
      obtain ⟨supersedes, row, inserted⟩ := proper
      exact publish_continues ordered supersedes inserted goesOn
  case appendAudit =>
      cases goesOn
      constructor
      · exact proper
      · exact Or.inl
  case commit => cases goesOn
  case returned => cases goesOn

theorem statement_commits
    (ends : call.statement checksum center tables others reading = .commits result) :
    call.stage = .commit result := by
  unfold statement getRevision getPublishedRevision getDefinition saveDefinition createRevision
    insertRevision validate supersede publish conflict at ends
  dsimp only at ends
  split at ends
  case h_13 =>
      rename_i stage
      cases ends
      exact stage
  all_goals repeat (first | cases ends | split at ends)

theorem statement_open {result : Except PublicationFailure ConfigurationPublicationResult}
    (goesOn : call.statement checksum center tables others reading =
      .next (.returned result) uncommitted) : False := by
  unfold statement getRevision getPublishedRevision getDefinition saveDefinition createRevision
    insertRevision validate supersede publish conflict definitionEnsured at goesOn
  dsimp only at goesOn
  repeat (first | cases goesOn | split at goesOn)

end PublicationCall

/-! ### Commits -/

theorem Publishing.replaces (ordered : tables.Ordered)
    (publishing : Publishing tables expected uncommitted row) :
    Replaces tables (tables.commit uncommitted) row ∧
      tables.published.map (fun current => current.revision) = expected := by
  have larger : ∀ earlier ∈ tables.revisions, earlier.revision < row.revision := by
    intro earlier member
    have bounds := ordered.mem_numbered.mp ⟨earlier, member, rfl⟩
    have number := publishing.inserted.number
    omega
  have supersedes := publishing.supersedes
  cases superseded : uncommitted.superseded with
  | none =>
    rw [superseded] at supersedes
    have nonePublished := publishing.alone superseded
    have nil : tables.revisions = [] := by
      rcases ordered.published_cases with ⟨nil, _⟩ | ⟨_, _, _, isPublished⟩
      · exact nil
      · rw [nonePublished] at isPublished
        cases isPublished
    constructor
    · refine {
        published := publishing.inserted.status
        larger := larger
        revisions := ?_
      }
      rw [commit, superseded, publishing.inserted.revision]
      rw [← replacedRow_none nil]
      rfl
    · rw [nonePublished]
      exact supersedes.symm
  | some revisionId =>
    rw [superseded] at supersedes
    obtain ⟨current, isPublished, sameId, isExpected⟩ := supersedes
    constructor
    · refine {
        published := publishing.inserted.status
        larger := larger
        revisions := ?_
      }
      rw [commit, superseded, publishing.inserted.revision, ← sameId]
      dsimp only
      rw [supersedeRow_published ordered isPublished]
      rfl
    · rw [isPublished]
      exact isExpected.symm

theorem Uncommitted.Idle.revisions (idle : uncommitted.Idle) (tables : TargetTables) :
    (tables.commit uncommitted).revisions = tables.revisions := by
  rw [commit, idle.superseded, idle.revision]
  exact List.append_nil tables.revisions

variable {result : ConfigurationPublicationResult}

theorem commit_cases (ordered : tables.Ordered)
    (finishing : Finishing tables expected uncommitted result) :
    result.outcome = .noChange ∧ uncommitted.revision = none ∧
        (tables.commit uncommitted).revisions = tables.revisions ∨
      result.outcome = .published ∧ uncommitted.revision.isSome ∧
        Replaces tables (tables.commit uncommitted) result.revision ∧
        tables.published.map (fun current => current.revision) = expected := by
  unfold Finishing at finishing
  cases outcome : result.outcome with
  | noChange =>
    rw [outcome] at finishing
    exact Or.inl ⟨rfl, finishing.revision, finishing.revisions tables⟩
  | published =>
    rw [outcome] at finishing
    have isSome : uncommitted.revision.isSome := by
      rw [finishing.inserted.revision]
      rfl
    exact Or.inr ⟨rfl, isSome, finishing.replaces ordered⟩

theorem TargetTables.Ordered.congr (ordered : tables.Ordered)
    (revisions : same.revisions = tables.revisions) : same.Ordered := {
  numbered := revisions ▸ ordered.numbered
  distinct := revisions ▸ ordered.distinct
  last := revisions ▸ ordered.last
}

theorem TargetTables.Extends.congr (revisions : same.revisions = tables.revisions) :
    same.Extends tables := by
  constructor
  · rw [revisions]
  · intro known member
    exact ⟨known, revisions ▸ member, rfl, rfl⟩

theorem Replaces.extends (replaces : Replaces before after row) : after.Extends before := by
  constructor
  · rw [replaces.revisions, List.length_append, List.length_map]
    omega
  · intro known member
    refine ⟨replacedRow known, ?_, ?_⟩
    · rw [replaces.revisions]
      exact List.mem_append_left _ (List.mem_map_of_mem member)
    · unfold replacedRow
      split <;> exact ⟨rfl, rfl⟩

theorem commit_ordered (ordered : tables.Ordered)
    (finishing : Finishing tables expected uncommitted result) :
    (tables.commit uncommitted).Ordered ∧ (tables.commit uncommitted).Extends tables := by
  rcases commit_cases ordered finishing with ⟨_, _, same⟩ | ⟨outcome, _, replaces, _⟩
  · exact ⟨ordered.congr same, TargetTables.Extends.congr same⟩
  · unfold Finishing at finishing
    rw [outcome] at finishing
    exact ⟨replaces.ordered ordered finishing.inserted.number finishing.inserted.fresh,
      replaces.extends⟩

/-! ### The system -/

namespace PublicationSystem

/-- The rows are in order, every call is where it may be, and one call at most has a revision
inserted. -/
structure Proper (system : PublicationSystem) : Prop where
  ordered : system.tables.Ordered
  calls : ∀ id call, system.calls.get? id = some call → call.Proper system.tables
  alone : system.calls.AtMostOne fun call => call.uncommitted.revision.isSome

variable {system : PublicationSystem} {id : Nat}

theorem mem_others {other : Uncommitted} :
    other ∈ system.others id ↔
      ∃ otherId call, otherId ≠ id ∧ system.calls.get? otherId = some call ∧
        call.uncommitted = other := by
  unfold others
  rw [List.mem_map]
  constructor
  · rintro ⟨call, member, same⟩
    obtain ⟨otherId, found⟩ := mem_values.mp member
    rw [get?_erase] at found
    split at found
    · cases found
    · rename_i different
      exact ⟨otherId, call, different, found, same⟩
  · rintro ⟨otherId, call, different, found, same⟩
    refine ⟨call, mem_values.mpr ⟨otherId, ?_⟩, same⟩
    rw [get?_erase, if_neg different]
    exact found

theorem Proper.next_number (proper : system.Proper) :
    ∀ other ∈ system.others id, ∀ row, other.revision = some row →
      row.revision = system.tables.revisions.length + 1 := by
  intro other among row inserted
  obtain ⟨otherId, call, _, found, same⟩ := mem_others.mp among
  exact (proper.calls otherId call found).inserted_number (same ▸ inserted)

variable {call : PublicationCall}

theorem setCall_proper (proper : system.Proper) (callProper : call.Proper system.tables)
    (alone : call.uncommitted.revision.isSome →
      (∃ known, system.calls.get? id = some known ∧ known.uncommitted.revision.isSome) ∨
        ∀ other ∈ system.others id, other.revision = none) :
    (system.setCall id call).Proper := by
  constructor
  · exact proper.ordered
  · intro other known found
    rw [setCall, get?_set] at found
    split at found
    · cases found
      exact callProper
    · exact proper.calls other known found
  · apply proper.alone.set
    intro isSome other known found otherSome
    rcases alone isSome with ⟨old, oldFound, oldSome⟩ | noOther
    · exact proper.alone other id known old found oldFound otherSome oldSome
    · by_contra different
      have none := noOther known.uncommitted
        (mem_others.mpr ⟨other, known, different, found, rfl⟩)
      rw [none] at otherSome
      cases otherSome

theorem failed_call_proper (proper : system.Proper) (id : Nat) (call : PublicationCall)
    (failure : PublicationFailure) :
    (system.setCall id (call.failed failure)).Proper := by
  apply setCall_proper proper (call.failed_proper failure system.tables)
  intro isSome
  rw [call.failed_uncommitted failure] at isSome
  cases isSome

variable {ending : ConfigurationPublicationResult}

theorem committed_proper (proper : system.Proper) (found : system.calls.get? id = some call)
    (stage : call.stage = .commit ending)
    (result : Except PublicationFailure ConfigurationPublicationResult) :
    (system.committed id call result).Proper := by
  have finishing := (proper.calls id call found).finishing stage
  obtain ⟨ordered, extension⟩ := commit_ordered proper.ordered finishing
  constructor
  · exact ordered
  · intro other known otherFound
    rw [committed, get?_set] at otherFound
    split at otherFound
    · cases otherFound
      exact Uncommitted.none_idle
    · rename_i different
      apply (proper.calls other known otherFound).extends extension
      intro knownSome
      rcases commit_cases proper.ordered finishing with ⟨_, _, same⟩ | ⟨_, isSome, _, _⟩
      · exact same
      · exact absurd (proper.alone other id known call otherFound found knownSome isSome) different
  · apply proper.alone.set
    intro isSome
    cases isSome

variable (validator : Validator) (padded : Json → String)
variable (checksum : List (String × Json) → String) (key : ConfigurationBusinessKey)

theorem start_proper (proper : system.Proper) (id : Nat)
    (request : Except ConfigurationCenterError PublicationRequest) (expected : Option Nat) :
    (system.start key id request expected).Proper := by
  unfold start
  split
  · split
    · rename_i called _ _
      have begunProper : (begun called expected).Proper system.tables := Uncommitted.none_idle
      apply setCall_proper proper begunProper
      intro isSome
      cases isSome
    · exact proper
  · exact proper

theorem advance_proper (proper : system.Proper) (id : Nat) (reading : PublicationReading) :
    (system.advance checksum id reading).Proper := by
  unfold advance
  split
  · exact proper
  · rename_i call found
    split
    · exact proper
    · rename_i stage uncommitted goesOn
      have continues := PublicationCall.statement_continues proper.ordered proper.next_number
        (proper.calls id call found) goesOn
      apply setCall_proper proper continues.proper
      intro isSome
      rcases continues.alone isSome with already | noOther
      · exact Or.inl ⟨call, found, already⟩
      · exact Or.inr noOther
    · exact failed_call_proper proper id call _
    · rename_i result ends
      exact committed_proper proper found (PublicationCall.statement_commits ends) _

theorem next_proper (system : PublicationSystem) (event : Event) (proper : system.Proper) :
    (system.next validator padded checksum key event).Proper := by
  cases event with
  | edit operation => exact ⟨proper.ordered, proper.calls, proper.alone⟩
  | publish => exact start_proper key proper _ _ _
  | rollback => exact start_proper key proper _ _ _
  | advance id reading => exact advance_proper checksum proper id reading
  | fault id failure =>
    unfold next
    dsimp only
    split
    · exact proper
    · split
      · exact proper
      · exact failed_call_proper proper id _ _
  | commitLost id =>
    unfold next
    dsimp only
    split
    · exact proper
    · rename_i call found
      split
      · rename_i result stage
        exact committed_proper proper found stage _
      · exact proper

theorem initial_proper (definitions : List ConfigurationDefinition) :
    (initial definitions).Proper := by
  constructor
  · exact TargetTables.Ordered.empty none
  · intro id call found
    cases found
  · exact OrderedMap.AtMostOne.empty _

/-! ### What a step publishes -/

/-- A step leaves the revisions, or replaces the published one; and a call that returns
`published` at the step replaces the revision it expects. -/
structure Publishes (before after : PublicationSystem) : Prop where
  rows : after.tables.revisions = before.tables.revisions ∨
    ∃ row, Replaces before.tables after.tables row
  returns : ∀ id call row, after.calls.get? id = some call →
    call.stage = .returned (.ok { outcome := .published, revision := row }) →
      before.calls.get? id = some call ∨
        Replaces before.tables after.tables row ∧
          before.tables.published.map (fun current => current.revision) =
            call.expectedPublishedRevision

theorem publishes_same (system : PublicationSystem) (center : ConfigurationCenter) :
    Publishes system { system with center := center } := {
  rows := Or.inl rfl
  returns := fun _ _ _ found _ => Or.inl found
}

theorem publishes_setCall (system : PublicationSystem) (id : Nat) (call : PublicationCall)
    (open_ : ∀ result, call.stage ≠ .returned (.ok result)) :
    Publishes system (system.setCall id call) := by
  constructor
  · exact Or.inl rfl
  · intro other known row found returned
    rw [setCall, get?_set] at found
    split at found
    · cases found
      exact absurd returned (open_ _)
    · exact Or.inl found

theorem failed_open (call : PublicationCall) (failure : PublicationFailure)
    (result : ConfigurationPublicationResult) :
    (call.failed failure).stage ≠ .returned (.ok result) := by
  unfold PublicationCall.failed
  split
  · intro same
    cases same
  · intro same
    cases same

theorem publishes_committed (proper : system.Proper) (found : system.calls.get? id = some call)
    (stage : call.stage = .commit ending)
    {result : Except PublicationFailure ConfigurationPublicationResult}
    (answer : ∀ returned, result = .ok returned → returned = ending) :
    Publishes system (system.committed id call result) := by
  have finishing := (proper.calls id call found).finishing stage
  have cases_ := commit_cases proper.ordered finishing
  constructor
  · rcases cases_ with ⟨_, _, same⟩ | ⟨_, _, replaces, _⟩
    · exact Or.inl same
    · exact Or.inr ⟨ending.revision, replaces⟩
  · intro other known row otherFound returned
    rw [committed, get?_set] at otherFound
    split at otherFound
    · cases otherFound
      apply Or.inr
      have isResult : result = .ok { outcome := .published, revision := row } := by
        have stages : PublicationStage.returned result =
            .returned (.ok { outcome := .published, revision := row }) := returned
        injection stages
      have isEnding := answer _ isResult
      rcases cases_ with ⟨noChange, _, _⟩ | ⟨_, _, replaces, expected⟩
      · rw [← isEnding] at noChange
        cases noChange
      · rw [← isEnding] at replaces
        exact ⟨replaces, expected⟩
    · exact Or.inl otherFound

theorem publishes_start (system : PublicationSystem) (id : Nat)
    (request : Except ConfigurationCenterError PublicationRequest) (expected : Option Nat) :
    Publishes system (system.start key id request expected) := by
  unfold start
  split
  · split
    · apply publishes_setCall
      intro result same
      cases same
    · exact publishes_same system system.center
  · exact publishes_same system system.center

theorem publishes_advance (proper : system.Proper) (id : Nat) (reading : PublicationReading) :
    Publishes system (system.advance checksum id reading) := by
  unfold advance
  split
  · exact publishes_same system system.center
  · rename_i call found
    split
    · exact publishes_same system system.center
    · rename_i stage uncommitted goesOn
      apply publishes_setCall
      intro result same
      have isReturned : stage = .returned (.ok result) := same
      rw [isReturned] at goesOn
      exact PublicationCall.statement_open goesOn
    · exact publishes_setCall system id _ (failed_open call _)
    · rename_i result ends
      apply publishes_committed proper found (PublicationCall.statement_commits ends)
      intro returned same
      cases same
      rfl

theorem publishes_next (proper : system.Proper) (event : Event) :
    Publishes system (system.next validator padded checksum key event) := by
  cases event with
  | edit operation => exact publishes_same system _
  | publish => exact publishes_start key system _ _ _
  | rollback => exact publishes_start key system _ _ _
  | advance id reading => exact publishes_advance checksum proper id reading
  | fault id failure =>
    unfold next
    dsimp only
    split
    · exact publishes_same system system.center
    · rename_i call _
      split
      · exact publishes_same system system.center
      · exact publishes_setCall system id _ (failed_open call _)
  | commitLost id =>
    unfold next
    dsimp only
    split
    · exact publishes_same system system.center
    · rename_i call found
      split
      · rename_i result stage
        apply publishes_committed proper found stage
        intro returned same
        cases same
      · exact publishes_same system system.center

/-- One revision at most is published, and every other one was published before it, with a smaller
number. -/
structure OnePublished (tables : TargetTables) : Prop where
  one : (tables.revisions.filter fun row => row.status == .published).length ≤ 1
  others : ∀ row ∈ tables.revisions, row.status = .published ∨ row.status = .superseded
  largest : ∀ row ∈ tables.revisions, row.status = .published →
    ∀ other ∈ tables.revisions, other.status = .superseded → other.revision < row.revision

theorem Proper.onePublished (proper : system.Proper) :
    OnePublished system.tables := by
  rcases proper.ordered.published_cases with ⟨nil, _⟩ | ⟨older, last, concat, isLast⟩
  · constructor
    · rw [nil]
      exact Nat.zero_le 1
    · intro row member
      rw [nil] at member
      cases member
    · intro row member
      rw [nil] at member
      cases member
  · have status := proper.ordered.last older last concat
    constructor
    · have noneOlder : older.filter (fun row => row.status == .published) = [] := by
        rw [List.filter_eq_nil_iff]
        intro row among isPublished
        rw [status.2 row among] at isPublished
        cases isPublished
      rw [concat, List.filter_append, noneOlder, List.nil_append]
      exact List.length_filter_le _ _
    · intro row member
      rw [concat, List.mem_append, List.mem_singleton] at member
      rcases member with early | same
      · exact Or.inr (status.2 row early)
      · exact Or.inl (same ▸ status.1)
    · intro row member isPublished other otherMember superseded
      have found := proper.ordered.eq_published member isPublished
      have number := (proper.ordered.published_revision found).2.2
      have bounds := proper.ordered.mem_numbered.mp ⟨other, otherMember, rfl⟩
      have different : other.revision ≠ row.revision := by
        intro same
        have index := proper.ordered.eq_of_revision otherMember member same
        rw [index, isPublished] at superseded
        cases superseded
      omega

/-- Over every interleaving of calls for a target: each step leaves the revisions or replaces the
published one by a revision with a larger number, a call that returns `published` replaced the
revision it expected, and one revision at most is published after every step. -/
theorem publications_replace_the_expected_revision (definitions : List ConfigurationDefinition)
    (events : List Event) :
    Histories.EveryStep (next validator padded checksum key)
      (fun before event =>
        Publishes before (next validator padded checksum key before event) ∧
          OnePublished (next validator padded checksum key before event).tables)
      (initial definitions) events := by
  rw [Histories.everyStep_congr (next_proper validator padded checksum key)
    (fun system event proper => ?_) (initial_proper definitions)]
  · exact Histories.everyStep_true _ (initial definitions) events
  · constructor
    · intro _
      trivial
    · intro _
      exact ⟨publishes_next validator padded checksum key proper event,
        (next_proper validator padded checksum key system event proper).onePublished⟩

end PublicationSystem

end Configuration

end SdarRuntime
