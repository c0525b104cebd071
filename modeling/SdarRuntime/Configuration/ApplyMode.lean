import SdarRuntime.Configuration.PublicationOrder

/-!
The apply mode of a published revision against the one before it. The mode is the strictest one
of the fields the publishing draft sets. It covers a field that changed otherwise, by an override
that was removed or by an ancestor, only when the draft sets a field that is as strict.
-/

namespace SdarRuntime

namespace Configuration

def setsField (content : List (String × Json)) (field : ConfigurationFieldMetadata) : Bool :=
  (valueAt content field.path).isSome && field.applyMode != .immutable

private def strictest (selected : Option ConfigurationApplyMode)
    (field : ConfigurationFieldMetadata) : Option ConfigurationApplyMode :=
  match selected with
  | none => some field.applyMode
  | some mode =>
    if applyModeRank mode < applyModeRank field.applyMode then some field.applyMode
    else some mode

private theorem applyMode_eq (fields : List ConfigurationFieldMetadata)
    (content : List (String × Json)) :
    applyMode fields content =
      ((fields.filter (setsField content)).foldl strictest none).getD .restartRequired := by
  unfold applyMode
  congr 1
  generalize (none : Option ConfigurationApplyMode) = selected
  induction fields generalizing selected with
  | nil => rfl
  | cons field rest ih =>
    rw [List.foldl_cons, ih]
    by_cases unset : valueAt content field.path = none ∨ field.applyMode = .immutable
    · have skipped : setsField content field = false := by
        unfold setsField
        rcases unset with none | immutable
        · rw [none]
          rfl
        · rw [immutable]
          simp
      rw [if_pos unset, List.filter_cons_of_neg (by rw [skipped]; decide)]
    · have taken : setsField content field = true := by
        unfold setsField
        rw [not_or] at unset
        rw [Option.isSome_iff_ne_none.mpr unset.1]
        simpa using unset.2
      rw [if_neg unset, List.filter_cons_of_pos taken]
      rfl

private theorem foldl_strictest (fields : List ConfigurationFieldMetadata)
    (mode : ConfigurationApplyMode) :
    ∃ last, fields.foldl strictest (some mode) = some last ∧
      applyModeRank mode ≤ applyModeRank last ∧
      (∀ field ∈ fields, applyModeRank field.applyMode ≤ applyModeRank last) ∧
      (last = mode ∨ ∃ field ∈ fields, field.applyMode = last) := by
  induction fields generalizing mode with
  | nil => exact ⟨mode, rfl, Nat.le_refl _, by simp, Or.inl rfl⟩
  | cons field rest ih =>
    by_cases stricter : applyModeRank mode < applyModeRank field.applyMode
    · obtain ⟨last, folded, least, most, source⟩ := ih field.applyMode
      refine ⟨last, ?_, by omega, ?_, Or.inr ?_⟩
      · rw [List.foldl_cons, strictest, if_pos stricter]
        exact folded
      · intro other among
        rcases List.mem_cons.mp among with same | later
        · exact same ▸ least
        · exact most other later
      · rcases source with same | ⟨other, later, same⟩
        · exact ⟨field, List.mem_cons_self, same.symm⟩
        · exact ⟨other, List.mem_cons_of_mem field later, same⟩
    · obtain ⟨last, folded, least, most, source⟩ := ih mode
      refine ⟨last, ?_, least, ?_, ?_⟩
      · rw [List.foldl_cons, strictest, if_neg stricter]
        exact folded
      · intro other among
        rcases List.mem_cons.mp among with same | later
        · rw [same]
          omega
        · exact most other later
      · rcases source with same | ⟨other, later, same⟩
        · exact Or.inl same
        · exact Or.inr ⟨other, List.mem_cons_of_mem field later, same⟩

/-- A draft's mode is as strict as another exactly when the draft sets none of the fields, or one
that is as strict. -/
theorem rank_le_applyMode {fields : List ConfigurationFieldMetadata}
    {content : List (String × Json)} {mode : ConfigurationApplyMode} :
    applyModeRank mode ≤ applyModeRank (applyMode fields content) ↔
      (∀ field ∈ fields, setsField content field = false) ∨
        ∃ field ∈ fields, setsField content field = true ∧
          applyModeRank mode ≤ applyModeRank field.applyMode := by
  rw [applyMode_eq]
  cases taken : fields.filter (setsField content) with
  | nil =>
    rw [List.filter_eq_nil_iff] at taken
    constructor
    · intro _
      apply Or.inl
      intro field among
      exact Bool.not_eq_true _ ▸ taken field among
    · intro _
      cases mode <;> decide
  | cons first rest =>
    have members : ∀ field, field ∈ first :: rest ↔
        field ∈ fields ∧ setsField content field = true := by
      intro field
      rw [← taken, List.mem_filter]
    obtain ⟨last, folded, least, most, source⟩ := foldl_strictest rest first.applyMode
    have isLast : (first :: rest).foldl strictest none = some last := folded
    rw [isLast, Option.getD_some]
    constructor
    · intro atMost
      apply Or.inr
      rcases source with same | ⟨field, later, same⟩
      · have member := (members first).mp List.mem_cons_self
        exact ⟨first, member.1, member.2, same ▸ atMost⟩
      · have member := (members field).mp (List.mem_cons_of_mem first later)
        exact ⟨field, member.1, member.2, same ▸ atMost⟩
    · rintro (noneSet | ⟨field, among, isSet, atMost⟩)
      · have member := (members first).mp List.mem_cons_self
        rw [noneSet first member.1] at member
        cases member.2
      · rcases List.mem_cons.mp ((members field).mpr ⟨among, isSet⟩) with same | later
        · rw [same] at atMost
          omega
        · exact atMost.trans (most field later)

def PublicationRequest.Carries (request : PublicationRequest) (content : List (String × Json))
    (mode : ConfigurationApplyMode) : Prop :=
  match request with
  | .publish snapshot => content = snapshot.effectiveContent ∧
      mode = applyMode snapshot.definition.fields snapshot.draft.content.fields
  | .rollback _ _ => mode = .restartRequired

def PublicationStage.work? : PublicationStage → Option NewRevision
  | .getPublishedRevision work => some work
  | .getDefinition work => some work
  | .saveDefinition work => some work
  | .listRevisions work => some work
  | .createRevision work _ => some work
  | .insertRevision work _ => some work
  | .validate work => some work
  | .supersede work => some work
  | .publish work => some work
  | _ => none

def PublicationRequest.Proper : PublicationRequest → Prop
  | .publish snapshot =>
    snapshot.applyMode = applyMode snapshot.definition.fields snapshot.draft.content.fields
  | .rollback _ _ => True

/-- Whatever a call is about to write is what it was asked to publish. -/
structure PublicationCall.Carrying (call : PublicationCall) : Prop where
  request : call.request.Proper
  work : ∀ work, call.stage.work? = some work → call.request.Carries work.content work.applyMode
  revision : ∀ row, call.uncommitted.revision = some row →
    call.request.Carries row.content row.applyMode

namespace PublicationCall

variable {tables : TargetTables} {others : List Uncommitted} {call : PublicationCall}
variable {stage : PublicationStage} {uncommitted : Uncommitted}

theorem Carrying.rolledBack {call : PublicationCall} (carrying : call.Carrying) (attempt : Nat)
    {stage : PublicationStage} (noWork : stage.work? = none) :
    Carrying {
      call with
      attempt := attempt
      stage := stage
      uncommitted := .none
    } := by
  constructor
  · exact carrying.request
  · intro work isWork
    rw [noWork] at isWork
    cases isWork
  · intro row isRow
    cases isRow

/-- A step to other work with the same content and mode that inserts nothing. -/
theorem Carrying.keeps (carrying : call.Carrying)
    (work : ∀ new, stage.work? = some new → ∃ old, call.stage.work? = some old ∧
      new.content = old.content ∧ new.applyMode = old.applyMode)
    (revision : uncommitted.revision = call.uncommitted.revision) :
    Carrying {
      call with
      stage := stage
      uncommitted := uncommitted
    } := by
  constructor
  · exact carrying.request
  · intro new isNew
    obtain ⟨old, isOld, content, mode⟩ := work new isNew
    rw [content, mode]
    exact carrying.work old isOld
  · intro row isRow
    exact carrying.revision row (revision ▸ isRow)

theorem definitionEnsured_work {work new : NewRevision}
    (isNew : (call.definitionEnsured work).work? = some new) : new = work := by
  unfold definitionEnsured at isNew
  split at isNew <;> exact (Option.some.inj isNew).symm

theorem Carrying.ends (carrying : call.Carrying) (noWork : stage.work? = none)
    (revision : uncommitted.revision = call.uncommitted.revision) :
    Carrying {
      call with
      stage := stage
      uncommitted := uncommitted
    } := by
  apply carrying.keeps _ revision
  intro new isNew
  rw [noWork] at isNew
  cases isNew

theorem filter_revision {status : ConfigRevisionStatus} {row : ConfigRevision}
    (found : call.uncommitted.revision.filter (fun known => known.status == status) = some row) :
    call.uncommitted.revision = some row :=
  (Option.filter_eq_some_iff.mp found).1

theorem statement_carrying {checksum : List (String × Json) → String}
    {center : ConfigurationCenter} {reading : PublicationReading} (carrying : call.Carrying)
    (goesOn : call.statement checksum center tables others reading = .next stage uncommitted) :
    Carrying {
      call with
      stage := stage
      uncommitted := uncommitted
    } := by
  unfold statement at goesOn
  cases current : call.stage <;> rw [current] at goesOn <;> dsimp only at goesOn
  case begin =>
      split at goesOn
      · rename_i snapshot request
        cases goesOn
        constructor
        · exact carrying.request
        · intro new isNew
          cases isNew
          have proper := carrying.request
          rw [request] at proper ⊢
          exact ⟨rfl, proper⟩
        · exact carrying.revision
      · cases goesOn
        exact carrying.ends rfl rfl
  case getRevision =>
      split at goesOn
      · cases goesOn
      · rename_i draft source request
        unfold getRevision at goesOn
        split at goesOn
        · split at goesOn
          · cases goesOn
            constructor
            · exact carrying.request
            · intro new isNew
              cases isNew
              rw [request]
              rfl
            · exact carrying.revision
          · cases goesOn
        · cases goesOn
  case getPublishedRevision work =>
      unfold getPublishedRevision at goesOn
      dsimp only at goesOn
      split at goesOn
      · cases goesOn
        exact carrying.ends rfl rfl
      · split at goesOn
        · cases goesOn
        · split at goesOn <;> cases goesOn <;> apply carrying.keeps _ rfl <;> intro new isNew <;>
            cases isNew <;> exact ⟨work, by rw [current]; rfl, rfl, rfl⟩
  case getDefinition work =>
      unfold getDefinition at goesOn
      split at goesOn
      · cases goesOn
      · split at goesOn
        · split at goesOn
          · cases goesOn
            apply carrying.keeps _ rfl
            intro new isNew
            exact ⟨work, by rw [current]; rfl, by rw [definitionEnsured_work isNew],
              by rw [definitionEnsured_work isNew]⟩
          · cases goesOn
        · cases goesOn
          apply carrying.keeps _ rfl
          intro new isNew
          cases isNew
          exact ⟨work, by rw [current]; rfl, rfl, rfl⟩
  case saveDefinition work =>
      unfold saveDefinition at goesOn
      split at goesOn
      · cases goesOn
      · split at goesOn
        · cases goesOn
        · split at goesOn
          · cases goesOn
          · cases goesOn
            apply carrying.keeps
            · intro new isNew
              exact ⟨work, by rw [current]; rfl, by rw [definitionEnsured_work isNew],
                by rw [definitionEnsured_work isNew]⟩
            · rfl
  case listRevisions work =>
      cases goesOn
      apply carrying.keeps _ rfl
      intro new isNew
      cases isNew
      exact ⟨work, by rw [current]; rfl, rfl, rfl⟩
  case createRevision work latest =>
      unfold createRevision conflict at goesOn
      split at goesOn
      · cases goesOn
      · split at goesOn
        · cases goesOn
          apply carrying.keeps _ rfl
          intro new isNew
          cases isNew
          exact ⟨work, by rw [current]; rfl, rfl, rfl⟩
        · cases goesOn
  case insertRevision work number =>
      have carries := carrying.work work (by rw [current]; rfl)
      unfold insertRevision conflict at goesOn
      dsimp only at goesOn
      split at goesOn
      · cases goesOn
      · split at goesOn
        · cases goesOn
        · cases goesOn
          constructor
          · exact carrying.request
          · intro new isNew
            cases isNew
            exact carries
          · intro known isKnown
            cases isKnown
            exact carries
  case validate work =>
      have carries := carrying.work work (by rw [current]; rfl)
      unfold validate conflict at goesOn
      split at goesOn
      · cases goesOn
      · rename_i row found
        cases goesOn
        constructor
        · exact carrying.request
        · intro new isNew
          split at isNew <;> cases isNew <;> exact carries
        · intro known isKnown
          cases isKnown
          exact carrying.revision row (filter_revision found)
  case supersede work =>
      unfold supersede conflict at goesOn
      split at goesOn
      · cases goesOn
        apply carrying.keeps _ rfl
        intro new isNew
        cases isNew
        exact ⟨work, by rw [current]; rfl, rfl, rfl⟩
      · split at goesOn
        · cases goesOn
        · split at goesOn
          · cases goesOn
          · split at goesOn
            · cases goesOn
            · cases goesOn
              apply carrying.keeps
              · intro new isNew
                cases isNew
                exact ⟨work, by rw [current]; rfl, rfl, rfl⟩
              · rfl
  case publish work =>
      unfold publish conflict at goesOn
      split at goesOn
      · cases goesOn
      · rename_i row found
        split at goesOn
        · cases goesOn
        · split at goesOn
          · cases goesOn
          · cases goesOn
            constructor
            · exact carrying.request
            · intro new isNew
              cases isNew
            · intro known isKnown
              cases isKnown
              exact carrying.revision row (filter_revision found)
  case appendAudit =>
      cases goesOn
      exact carrying.ends rfl rfl
  case commit => cases goesOn
  case returned => cases goesOn

theorem failed_carrying (carrying : call.Carrying) (failure : PublicationFailure) :
    (call.failed failure).Carrying := by
  unfold failed
  split
  · exact carrying.rolledBack 1 rfl
  · exact carrying.rolledBack call.attempt rfl

end PublicationCall

namespace PublicationSystem

variable (validator : Validator) (padded : Json → String)
variable (checksum : List (String × Json) → String) (key : ConfigurationBusinessKey)

structure Carrying (system : PublicationSystem) : Prop where
  proper : system.Proper
  calls : ∀ id call, system.calls.get? id = some call → call.Carrying

theorem setCall_calls {system : PublicationSystem} {id : Nat} {call : PublicationCall}
    (calls : ∀ id call, system.calls.get? id = some call → call.Carrying)
    (carrying : call.Carrying) :
    ∀ other known, (system.setCall id call).calls.get? other = some known → known.Carrying := by
  intro other known found
  rw [setCall, OrderedMap.get?_set] at found
  split at found
  · cases found
    exact carrying
  · exact calls other known found

theorem committed_calls {system : PublicationSystem} {id : Nat} {call : PublicationCall}
    (calls : ∀ id call, system.calls.get? id = some call → call.Carrying)
    (carrying : call.Carrying)
    (result : Except PublicationFailure ConfigurationPublicationResult) :
    ∀ other known, (system.committed id call result).calls.get? other = some known →
      known.Carrying := by
  intro other known found
  rw [committed, OrderedMap.get?_set] at found
  split at found
  · cases found
    exact carrying.rolledBack call.attempt rfl
  · exact calls other known found

theorem start_calls {system : PublicationSystem}
    (calls : ∀ id call, system.calls.get? id = some call → call.Carrying) (id : Nat)
    {request : Except ConfigurationCenterError PublicationRequest}
    (proper : ∀ asked, request = .ok asked → asked.Proper) (expected : Option Nat) :
    ∀ other known, (system.start key id request expected).calls.get? other = some known →
      known.Carrying := by
  unfold start
  split
  · rename_i asked _
    split
    · apply setCall_calls calls
      constructor
      · exact proper asked rfl
      · intro work isWork
        cases isWork
      · intro row isRow
        cases isRow
    · exact calls
  · exact calls

variable {center : ConfigurationCenter} {version : Nat} {expected : Option Nat}

theorem publicationRequest_proper {draftId : String} (asked : PublicationRequest)
    (isAsked : publicationRequest validator padded center draftId version expected = .ok asked) :
    asked.Proper := by
  unfold publicationRequest at isAsked
  cases valid : validExpectedRevision expected with
  | error failure =>
    rw [valid] at isAsked
    cases isAsked
  | ok _ =>
    rw [valid] at isAsked
    cases taken : center.publicationSnapshot validator padded draftId version with
    | error failure =>
      rw [taken] at isAsked
      cases isAsked
    | ok snapshot =>
      rw [taken] at isAsked
      cases isAsked
      exact (ConfigurationCenter.publicationSnapshot_ok validator padded taken).applyMode

theorem rollbackRequest_proper {draftId source : String} (asked : PublicationRequest)
    (isAsked : rollbackRequest center draftId version source expected = .ok asked) :
    asked.Proper := by
  cases asked with
  | rollback draft source => trivial
  | publish snapshot =>
    unfold rollbackRequest at isAsked
    simp only [bind, Except.bind, pure, Except.pure] at isAsked
    repeat (first | cases isAsked | split at isAsked)

theorem next_carrying (system : PublicationSystem) (event : Event) (carrying : system.Carrying) :
    (system.next validator padded checksum key event).Carrying := by
  constructor
  · exact next_proper validator padded checksum key system event carrying.proper
  · have calls := carrying.calls
    cases event with
    | edit operation => exact calls
    | publish id =>
      exact start_calls key calls id (publicationRequest_proper validator padded) _
    | rollback id => exact start_calls key calls id rollbackRequest_proper _
    | advance id reading =>
      unfold next advance
      dsimp only
      split
      · exact calls
      · rename_i call found
        split
        · exact calls
        · rename_i goesOn
          exact setCall_calls calls
            (PublicationCall.statement_carrying (calls id call found) goesOn)
        · exact setCall_calls calls (PublicationCall.failed_carrying (calls id call found) _)
        · exact committed_calls calls (calls id call found) _
    | fault id failure =>
      unfold next
      dsimp only
      split
      · exact calls
      · rename_i call found
        split
        · exact calls
        · exact setCall_calls calls (PublicationCall.failed_carrying (calls id call found) _)
    | commitLost id =>
      unfold next
      dsimp only
      split
      · exact calls
      · rename_i call found
        split
        · exact committed_calls calls (calls id call found) _
        · exact calls

theorem initial_carrying (definitions : List ConfigurationDefinition) :
    (initial definitions).Carrying := by
  constructor
  · exact initial_proper definitions
  · intro id call found
    cases found

/-- The call whose statement an event runs, when that statement may commit. -/
def committing (system : PublicationSystem) : Event → Option PublicationCall
  | .advance id _ => system.calls.get? id
  | .commitLost id => system.calls.get? id
  | _ => none

def declared (system : PublicationSystem) : PublicationRequest → List ConfigurationFieldMetadata
  | .publish snapshot => snapshot.definition.fields
  | .rollback draft _ =>
    match system.center.definition draft.definitionId with
    | .ok definition => definition.fields
    | .error _ => []

/-- The mode of a revision is as strict as the mode of each field whose value it changes. -/
def AppliesChanges (fields : List ConfigurationFieldMetadata) (old new : ConfigRevision) : Prop :=
  ∀ field ∈ fields, field.applyMode ≠ .immutable →
    valueAt old.content field.path ≠ valueAt new.content field.path →
      applyModeRank field.applyMode ≤ applyModeRank new.applyMode

/-- A revision that replaces the published one at a step applies the changes. -/
def PublishesChanges (system : PublicationSystem) (event : Event) : Prop :=
  ∀ call old new, system.committing event = some call → system.tables.published = some old →
    Replaces system.tables (system.next validator padded checksum key event).tables new →
      AppliesChanges (system.declared call.request) old new

/-- The publishing draft itself sets a field as strict as each one whose value changes, or none of
the fields; a rollback asks for a restart. -/
def CoversChanges (old : ConfigRevision) : PublicationRequest → Prop
  | .rollback _ _ => True
  | .publish snapshot =>
    (∀ field ∈ snapshot.definition.fields,
      setsField snapshot.draft.content.fields field = false) ∨
    ∀ field ∈ snapshot.definition.fields, field.applyMode ≠ .immutable →
      valueAt old.content field.path ≠ valueAt snapshot.effectiveContent field.path →
        ∃ other ∈ snapshot.definition.fields,
          setsField snapshot.draft.content.fields other = true ∧
            applyModeRank field.applyMode ≤ applyModeRank other.applyMode

/-- Whenever a publication is committed, its draft covers the changes. -/
def DraftsCoverChanges (system : PublicationSystem) (event : Event) : Prop :=
  ∀ call result old, system.committing event = some call → call.stage = .commit result →
    result.outcome = .published → system.tables.published = some old →
      CoversChanges old call.request

theorem appliesChanges_iff {system : PublicationSystem} {request : PublicationRequest}
    {old new : ConfigRevision} (carries : request.Carries new.content new.applyMode) :
    AppliesChanges (system.declared request) old new ↔ CoversChanges old request := by
  cases request with
  | rollback draft source =>
    have restart : new.applyMode = .restartRequired := carries
    constructor
    · intro _
      trivial
    · intro _ field _ _ _
      rw [restart]
      cases field.applyMode <;> decide
  | publish snapshot =>
    obtain ⟨content, mode⟩ := carries
    unfold AppliesChanges CoversChanges declared
    dsimp only
    rw [content, mode]
    constructor
    · intro applies
      by_cases noneSet : ∀ field ∈ snapshot.definition.fields,
          setsField snapshot.draft.content.fields field = false
      · exact Or.inl noneSet
      · apply Or.inr
        intro field among mutable_ changes
        exact (rank_le_applyMode.mp (applies field among mutable_ changes)).resolve_left noneSet
    · rintro (noneSet | covered) field among mutable_ changes
      · exact rank_le_applyMode.mpr (Or.inl noneSet)
      · exact rank_le_applyMode.mpr (Or.inr (covered field among mutable_ changes))

variable {event : Event}

theorem committed_of_replaces {system : PublicationSystem} (carrying : system.Carrying)
    {call : PublicationCall} {new : ConfigRevision}
    (isCommitting : system.committing event = some call) (replaces : Replaces system.tables
      (system.next validator padded checksum key event).tables new) :
    ∃ result, call.stage = .commit result ∧ result.outcome = .published ∧
      call.request.Carries new.content new.applyMode := by
  have notSame : ∀ {tables : TargetTables},
      tables.revisions = system.tables.revisions → ¬Replaces system.tables tables new := by
    intro tables same replaced
    have lengths := congrArg List.length (same.symm.trans replaced.revisions)
    rw [List.length_append, List.length_map, List.length_singleton] at lengths
    omega
  have ofCommit : ∀ {id : Nat} {result : ConfigurationPublicationResult},
      system.calls.get? id = some call → call.stage = .commit result →
      Replaces system.tables (system.tables.commit call.uncommitted) new →
      ∃ result, call.stage = .commit result ∧ result.outcome = .published ∧
        call.request.Carries new.content new.applyMode := by
    intro id result found stage replaced
    have callProper := (carrying.proper.calls id call found).finishing stage
    rcases commit_cases carrying.proper.ordered callProper with ⟨_, _, same⟩ | committed
    · exact absurd replaced (notSame same)
    · obtain ⟨outcome, _, replaced', _⟩ := committed
      have sameRow : new = result.revision := by
        have lists := replaced.revisions.symm.trans replaced'.revisions
        exact List.singleton_inj.mp (List.append_inj_right' lists rfl)
      unfold Finishing at callProper
      rw [outcome] at callProper
      refine ⟨result, stage, outcome, ?_⟩
      rw [sameRow]
      exact (carrying.calls id call found).revision _ callProper.inserted.revision
  cases event with
  | edit => cases isCommitting
  | publish => cases isCommitting
  | rollback => cases isCommitting
  | fault => cases isCommitting
  | advance id reading =>
    have found : system.calls.get? id = some call := isCommitting
    unfold next advance at replaces
    dsimp only at replaces
    rw [found] at replaces
    dsimp only at replaces
    split at replaces
    · exact absurd replaces (notSame rfl)
    · exact absurd replaces (notSame rfl)
    · exact absurd replaces (notSame rfl)
    · rename_i result ends
      exact ofCommit found (PublicationCall.statement_commits ends) replaces
  | commitLost id =>
    have found : system.calls.get? id = some call := isCommitting
    unfold next at replaces
    dsimp only at replaces
    rw [found] at replaces
    dsimp only at replaces
    split at replaces
    · rename_i result stage
      exact ofCommit found stage replaces
    · exact absurd replaces (notSame rfl)

theorem replaces_of_commit {system : PublicationSystem} (carrying : system.Carrying)
    {call : PublicationCall} {result : ConfigurationPublicationResult}
    (isCommitting : system.committing event = some call) (stage : call.stage = .commit result)
    (outcome : result.outcome = .published) :
    Replaces system.tables (system.next validator padded checksum key event).tables
      result.revision := by
  have ofCommit : ∀ {id : Nat}, system.calls.get? id = some call →
      Replaces system.tables (system.tables.commit call.uncommitted) result.revision := by
    intro id found
    have callProper := (carrying.proper.calls id call found).finishing stage
    rcases commit_cases carrying.proper.ordered callProper with ⟨noChange, _, _⟩ | committed
    · rw [outcome] at noChange
      cases noChange
    · exact committed.2.2.1
  cases event with
  | edit => cases isCommitting
  | publish => cases isCommitting
  | rollback => cases isCommitting
  | fault => cases isCommitting
  | advance id reading =>
    have found : system.calls.get? id = some call := isCommitting
    unfold next advance
    dsimp only
    rw [found]
    unfold PublicationCall.statement
    dsimp only
    rw [stage]
    exact ofCommit found
  | commitLost id =>
    have found : system.calls.get? id = some call := isCommitting
    unfold next
    dsimp only
    rw [found]
    dsimp only
    rw [stage]
    exact ofCommit found

theorem publishesChanges_iff {system : PublicationSystem} (carrying : system.Carrying)
    (event : Event) :
    PublishesChanges validator padded checksum key system event ↔
      DraftsCoverChanges system event := by
  constructor
  · intro publishes call result old isCommitting stage outcome isPublished
    have replaces := replaces_of_commit validator padded checksum key carrying isCommitting stage
      outcome
    obtain ⟨_, _, _, carries⟩ := committed_of_replaces validator padded checksum key carrying
      isCommitting replaces
    exact (appliesChanges_iff carries).mp
      (publishes call old result.revision isCommitting isPublished replaces)
  · intro covers call old new isCommitting isPublished replaces
    obtain ⟨result, stage, outcome, carries⟩ := committed_of_replaces validator padded checksum key
      carrying isCommitting replaces
    exact (appliesChanges_iff carries).mpr
      (covers call result old isCommitting stage outcome isPublished)

/-- Over every interleaving of edits and calls: the revisions published one after the other apply
every change between them exactly when each publishing draft covers the changes. -/
theorem revisions_apply_changes_iff (definitions : List ConfigurationDefinition)
    (events : List Event) :
    Histories.EveryStep (next validator padded checksum key)
        (PublishesChanges validator padded checksum key) (initial definitions) events ↔
      Histories.EveryStep (next validator padded checksum key) DraftsCoverChanges
        (initial definitions) events :=
  Histories.everyStep_congr (next_carrying validator padded checksum key)
    (fun _ event carrying => publishesChanges_iff validator padded checksum key carrying event)
    (initial_carrying definitions) events


/-- A definition with a field that can be applied at once and one that asks for a restart. -/
def timeoutDefinition : ConfigurationDefinition := {
  definitionId := "provider"
  definitionVersion := 1
  configGroup := "group"
  targetTypes := [.provider]
  inheritanceEnabled := false
  inheritanceOrder := [.target .provider, .systemDefault]
  schema := .null
  defaults := [("timeout", .num "1")]
  secretPaths := []
  fields := [
    {
      path := "/log"
      applyMode := .hotReload
      overridePolicy := { mode := .inheritable, allowedTargetTypes := none }
    },
    {
      path := "/timeout"
      applyMode := .restartRequired
      overridePolicy := { mode := .inheritable, allowedTargetTypes := none }
    }
  ]
}

def timeoutKey : ConfigurationBusinessKey := {
  environment := "e"
  targetType := .provider
  targetId := "p"
  configGroup := "group"
  dataId := "d"
}

def timeoutChecksum (content : List (String × Json)) : String :=
  match Json.lookup "timeout" content with
  | some (.num text) => text
  | _ => ""

def runCall (id : Nat) (newId : String) (statements : Nat) : List Event :=
  List.replicate statements (.advance id { newId := newId, elsewhere := false })

/-- A first revision sets both fields; the draft then drops the one that asks for a restart, and
the call that publishes it is about to commit. -/
def removedOverride : List Event :=
  [
    .edit (.createDraft {
      draftId := "own"
      definitionId := "provider"
      key := timeoutKey
      ancestorTargetIds := []
      content := { fields := [("log", .num "1"), ("timeout", .num "5")], proper := by decide }
    }),
    .edit (.validateDraft "own"),
    .publish 0 "own" 2 none
  ] ++ runCall 0 "first" 11 ++ [
    .edit (.updateDraft "own" {
      expectedVersion := 2
      content := { fields := [("log", .num "2")], proper := by decide }
      ancestorTargetIds := none
    }),
    .edit (.validateDraft "own"),
    .publish 1 "own" 4 (some 1)
  ] ++ runCall 1 "second" 10

/-- The second revision is applied at once, although the first one's timeout is gone. -/
theorem removedOverride_publishes :
    ¬ ∀ (definition : ConfigurationDefinition) (events : List Event),
      Histories.EveryStep (next (fun _ _ => []) (fun _ => "") timeoutChecksum timeoutKey)
        (PublishesChanges (fun _ _ => []) (fun _ => "") timeoutChecksum timeoutKey)
        (initial [definition]) events := by
  intro always
  have steps := always timeoutDefinition (removedOverride ++ runCall 1 "second" 1)
  have last := (Histories.everyStep_append.mp steps).2.1
  have carrying := Histories.always
    (next_carrying (fun _ _ => []) (fun _ => "") timeoutChecksum timeoutKey)
    (initial_carrying [timeoutDefinition]) removedOverride
  have covers := (publishesChanges_iff _ _ _ _ carrying _).mp last _ _ _ rfl rfl rfl rfl
  rcases covers with noneSet | covered
  · have setsLog : true = false := noneSet _ List.mem_cons_self
    cases setsLog
  · have differs : some (Json.num "5") ≠ some (.num "1") := by simp
    have timeout := covered _ (List.mem_cons_of_mem _ List.mem_cons_self) (by decide) differs
    obtain ⟨other, among, isSet, atMost⟩ := timeout
    rcases List.mem_cons.mp among with isLog | later
    · rw [isLog] at atMost
      exact absurd atMost (by decide)
    · rw [List.mem_singleton.mp later] at isSet
      cases isSet

end PublicationSystem

end Configuration

end SdarRuntime
