import SdarRuntime.Provider.StoreSteps

/-!
What holds of every scope of the business store: its versions are gapless and stay as they were
written, its Context refers to stored versions only, and Contexts follow each other one revision
at a time until one is final.
-/

namespace SdarRuntime.Business

open MemoryTaskBusinessStore ScopeState OrderedMap

/-- Versions stand under their own references, and each object has the revisions from one to its
latest. -/
structure Stored (state : ScopeState) : Prop where
  atRef : ∀ ref version, state.version? ref = some version → version.businessObjectRef = ref
  gapless : ∀ ref, (state.version? ref).isSome = true ↔
    1 ≤ ref.revision ∧ ref.revision ≤ (state.latest.get? ref.key).getD 0

def KeepsVersions (before after : ScopeState) : Prop :=
  ∀ ref version, before.version? ref = some version → after.version? ref = some version

theorem KeepsVersions.refl (state : ScopeState) : KeepsVersions state state :=
  fun _ _ stored => stored

theorem KeepsVersions.trans {first second third : ScopeState} (before : KeepsVersions first second)
    (after : KeepsVersions second third) : KeepsVersions first third :=
  fun ref version stored => after ref version (before ref version stored)

variable {before after : ScopeState}

theorem KeepsVersions.isSome (kept : KeepsVersions before after) {ref : BusinessObjectRef}
    (stored : (before.version? ref).isSome = true) :
    (after.version? ref).isSome = true := by
  obtain ⟨version, isVersion⟩ := Option.isSome_iff_exists.mp stored
  rw [kept ref version isVersion]
  rfl

def NextVersion (state : ScopeState) (version : BusinessObjectVersion) : Prop :=
  version.businessObjectRef.revision =
    (state.latest.get? version.businessObjectRef.key).getD 0 + 1

variable {state : ScopeState} {version : BusinessObjectVersion}

theorem Stored.fresh (stored : Stored state) (next : NextVersion state version) :
    state.version? version.businessObjectRef = none := by
  by_contra present
  have known := (stored.gapless version.businessObjectRef).mp
    (Option.isSome_iff_ne_none.mpr present)
  rw [next] at known
  omega

theorem Stored.keepsVersions (stored : Stored state) (next : NextVersion state version) :
    KeepsVersions state (state.setVersion version) := by
  intro ref other isStored
  rw [version?_setVersion]
  have different : ref ≠ version.businessObjectRef := by
    intro same
    rw [same, stored.fresh next] at isStored
    cases isStored
  rw [if_neg different]
  exact isStored

theorem Stored.setVersion (stored : Stored state) (next : NextVersion state version) :
    Stored (state.setVersion version) := by
  constructor
  · intro ref other isStored
    rw [version?_setVersion] at isStored
    by_cases same : ref = version.businessObjectRef
    · rw [if_pos same] at isStored
      rw [same, Option.some.inj isStored]
    · rw [if_neg same] at isStored
      exact stored.atRef ref other isStored
  · intro ref
    rw [version?_setVersion, latest_setVersion]
    have before := stored.gapless ref
    by_cases sameKey : ref.key = version.businessObjectRef.key
    · rw [if_pos sameKey, Option.getD_some, next]
      rw [sameKey] at before
      by_cases same : ref = version.businessObjectRef
      · rw [if_pos same, same, next]
        simp
      · have different : ref.revision ≠ version.businessObjectRef.revision :=
          fun sameRevision => same (ref_eq_iff.mpr ⟨sameKey, sameRevision⟩)
        rw [next] at different
        rw [if_neg same, before]
        omega
    · have different : ref ≠ version.businessObjectRef :=
        fun same => sameKey (ref_eq_iff.mp same).1
      rw [if_neg sameKey, if_neg different]
      exact before

theorem Stored.congr {first second : ScopeState} (stored : Stored first)
    (versions : second.versions = first.versions) (latest : second.latest = first.latest) :
    Stored second := by
  constructor
  · intro ref version isStored
    rw [version?_congr versions] at isStored
    exact stored.atRef ref version isStored
  · intro ref
    rw [version?_congr versions, latest]
    exact stored.gapless ref

variable {libraries : Libraries} {scope : BoundExecutionScope}

theorem stageObject_eq_ok {staged next : ScopeState.Staged} {candidate : BusinessObjectVersion}
    (ran : stageObject libraries scope staged candidate = .ok next) :
    next.state = staged.state.setVersion candidate ∧
      next.published = staged.published ++ [candidate] ∧ NextVersion staged.state candidate := by
  unfold stageObject at ran
  obtain ⟨version, parsed, checking⟩ := Except.bind_eq_ok.mp ran
  have isVersion := parseBusinessObjectVersion_eq_ok parsed
  rw [isVersion] at checking
  obtain ⟨_, -, continuing⟩ := Except.bind_eq_ok.mp checking
  obtain ⟨_, revision, staging⟩ := Except.bind_eq_ok.mp continuing
  have next := eq_of_beq (require_eq_ok.mp revision)
  dsimp only at staging
  split at staging
  · cases staging
    exact ⟨rfl, rfl, next⟩
  · obtain ⟨_, -, staging⟩ := Except.bind_eq_ok.mp staging
    cases staging
    exact ⟨rfl, rfl, next⟩

structure StagedFrom (start : ScopeState) (staged : ScopeState.Staged) : Prop where
  stored : Stored staged.state
  keeps : KeepsVersions start staged.state
  origin : ∀ ref version, staged.state.version? ref = some version →
    start.version? ref = some version ∨ version ∈ staged.published
  published : ∀ version, version ∈ staged.published →
    staged.state.version? version.businessObjectRef = some version
  new : ∀ version, version ∈ staged.published → start.version? version.businessObjectRef = none
  context : staged.state.context = start.context
  commands : staged.state.commands = start.commands

theorem StagedFrom.start {start : ScopeState} (stored : Stored start) :
    StagedFrom start { state := start, published := [] } := by
  constructor
  · exact stored
  · exact KeepsVersions.refl start
  · exact fun _ _ isStored => Or.inl isStored
  · exact fun _ member => absurd member List.not_mem_nil
  · exact fun _ member => absurd member List.not_mem_nil
  · rfl
  · rfl

theorem StagedFrom.next {start : ScopeState} {staged next : ScopeState.Staged}
    (so_far : StagedFrom start staged) (isState : next.state = staged.state.setVersion version)
    (isPublished : next.published = staged.published ++ [version])
    (continues : NextVersion staged.state version) : StagedFrom start next := by
  have kept := so_far.stored.keepsVersions continues
  have fresh := so_far.stored.fresh continues
  constructor
  · rw [isState]
    exact so_far.stored.setVersion continues
  · rw [isState]
    exact so_far.keeps.trans kept
  · intro ref other isStored
    rw [isState, version?_setVersion] at isStored
    rw [isPublished]
    by_cases same : ref = version.businessObjectRef
    · rw [if_pos same] at isStored
      rw [← Option.some.inj isStored]
      exact Or.inr (List.mem_append_right _ (List.mem_singleton.mpr rfl))
    · rw [if_neg same] at isStored
      rcases so_far.origin ref other isStored with old | published
      · exact Or.inl old
      · exact Or.inr (List.mem_append_left _ published)
  · intro other member
    rw [isPublished] at member
    rw [isState]
    rcases List.mem_append.mp member with earlier | isVersion
    · exact kept _ _ (so_far.published other earlier)
    · rw [List.mem_singleton.mp isVersion, version?_setVersion, if_pos rfl]
  · intro other member
    rw [isPublished] at member
    rcases List.mem_append.mp member with earlier | isVersion
    · exact so_far.new other earlier
    · rw [List.mem_singleton.mp isVersion]
      cases old : start.version? version.businessObjectRef with
      | none => rfl
      | some stored =>
        rw [so_far.keeps _ _ old] at fresh
        cases fresh
  · rw [isState, setVersion_context, so_far.context]
  · rw [isState, setVersion_commands, so_far.commands]

theorem Commits.stagedFrom {previous next : ScopeState} {changeSet : BusinessChangeSet}
    {events : List TaskBusinessEventDraft} {staged : ScopeState.Staged}
    (commits : Commits libraries previous changeSet events staged next) (stored : Stored previous) :
    StagedFrom { previous with context := some changeSet.context } staged := by
  have start : Stored { previous with context := some changeSet.context } :=
    stored.congr rfl rfl
  refine Except.foldlM_keeps ?_ (StagedFrom.start start) commits.staging
  intro state item next _ so_far stepped
  obtain ⟨isState, isPublished, continues⟩ := stageObject_eq_ok stepped
  exact so_far.next isState isPublished continues

/-- The Context of a state: every reference of it is stored, and the active ones are listed. -/
structure Resolved (state : ScopeState) (context : TaskBusinessContext) : Prop where
  valid : context.valid = true
  finalization : context.finalizationAgrees = true
  stored : ∀ ref, ref ∈ contextObjectRefs context → (state.version? ref).isSome = true
  activeListed : ∀ ref, ref ∈ context.activeRefs.values → ref ∈ context.listedRefs

variable {context : TaskBusinessContext}

theorem Resolved.mono (resolved : Resolved before context) (kept : KeepsVersions before after) :
    Resolved after context := by
  constructor
  · exact resolved.valid
  · exact resolved.finalization
  · exact fun ref member => kept.isSome (resolved.stored ref member)
  · exact resolved.activeListed

variable {recordedAt : BusinessTime}

theorem mem_submittedRefs {prior ref other : BusinessObjectRef}
    (member : other ∈ contextObjectRefs (submittedContext context prior ref recordedAt)) :
    other = ref ∨ other ∈ contextObjectRefs context := by
  have retargeted : ∀ listed, listed ∈ contextObjectRefs context →
      retarget prior ref listed = other → other = ref ∨ other ∈ contextObjectRefs context := by
    intro listed inRefs isOther
    by_cases same : listed = prior
    · rw [retarget, if_pos same] at isOther
      exact Or.inl isOther.symm
    · rw [retarget, if_neg same] at isOther
      rw [← isOther]
      exact Or.inr inRefs
  rcases mem_contextObjectRefs.mp member with listed | active
  · simp only [TaskBusinessContext.listedRefs, submittedContext, List.mem_append] at listed
    rcases listed with others | intervention
    · apply Or.inr
      apply mem_contextObjectRefs.mpr
      apply Or.inl
      simp only [TaskBusinessContext.listedRefs, List.mem_append]
      exact Or.inl others
    · obtain ⟨old, inRefs, isOther⟩ := List.mem_map.mp intervention
      apply retargeted old _ isOther
      apply mem_contextObjectRefs.mpr
      exact Or.inl (List.mem_append_right _ inRefs)
  · obtain ⟨name, named⟩ := mem_values.mp active
    simp only [submittedContext, get?_filterMap] at named
    obtain ⟨old, isActive, isOther⟩ := Option.bind_eq_some_iff.mp named
    apply retargeted old _ (Option.some.inj isOther)
    apply mem_contextObjectRefs.mpr
    exact Or.inr (mem_values.mpr ⟨name, isActive⟩)

theorem submitted_activeListed {prior ref : BusinessObjectRef} (isValid : context.valid = true)
    (kind : prior.kind = .intervention)
    (listed : ∀ other, other ∈ context.activeRefs.values → other ∈ context.listedRefs) :
    ∀ other, other ∈ (submittedContext context prior ref recordedAt).activeRefs.values →
      other ∈ (submittedContext context prior ref recordedAt).listedRefs := by
  intro other active
  obtain ⟨name, named⟩ := mem_values.mp active
  simp only [submittedContext, get?_filterMap] at named
  obtain ⟨old, isActive, isOther⟩ := Option.bind_eq_some_iff.mp named
  have oldListed := listed old (mem_values.mpr ⟨name, isActive⟩)
  rw [← Option.some.inj isOther]
  by_cases same : old = prior
  · have inInterventions := TaskBusinessContext.mem_interventionRefs isValid oldListed
      (by rw [same]; exact kind)
    apply List.mem_append_right
    exact List.mem_map.mpr ⟨old, inInterventions, rfl⟩
  · rw [retarget, if_neg same]
    simp only [TaskBusinessContext.listedRefs, submittedContext, List.mem_append] at oldListed ⊢
    rcases oldListed with others | intervention
    · exact Or.inl others
    · exact Or.inr (List.mem_map.mpr ⟨old, intervention, if_neg same⟩)

structure WellFormed (state : ScopeState) : Prop where
  stored : Stored state
  resolved : ∀ context, state.context = some context → Resolved state context

theorem wellFormed_empty : WellFormed emptyState := by
  constructor
  · constructor
    · intro ref version impossible
      cases impossible
    · intro ref
      simp only [emptyState, version?, get?_empty, Option.bind_none,
        Option.isSome_none, Option.getD_none]
      constructor
      · intro impossible
        cases impossible
      · omega
  · intro context impossible
    cases impossible

theorem Publishes.nextVersion {command : BusinessCommandRecord} {entryRef : BusinessObjectRef}
    {previous : RuntimeIntervention} {submission : InterventionSubmission}
    (publishes : Publishes libraries scope state command entryRef context previous recordedAt
      submission) (stored : Stored state) : NextVersion state submission.version := by
  have atEntry := stored.atRef _ _ publishes.stored
  have latest := publishes.latest
  rw [← atEntry] at latest
  rw [NextVersion, publishes.submits.version]
  change previous.revision + 1 = (state.latest.get?
    (BusinessObjectVersion.intervention previous).businessObjectRef.key).getD 0 + 1
  rw [latest]
  rfl

theorem StateStep.wellFormed {state next : ScopeState} (wellFormed : WellFormed state)
    (moved : StateStep libraries state next) :
    WellFormed next := by
  cases moved with
  | repeated => exact wellFormed
  | claimed claimable =>
    constructor
    · exact wellFormed.stored.congr rfl rfl
    · intro context onContext
      exact (wellFormed.resolved context onContext).mono (KeepsVersions.refl _)
  | submitted claimable publishes =>
    rename_i scope command entryRef context previous recordedAt submission
    have continues := publishes.nextVersion wellFormed.stored
    have kept := wellFormed.stored.keepsVersions continues
    have before := wellFormed.resolved context publishes.onContext
    constructor
    · exact (wellFormed.stored.setVersion continues).congr rfl rfl
    · intro next onContext
      have isNext := Option.some.inj onContext
      subst isNext
      constructor
      · exact publishes.submits.valid
      · exact publishes.submits.finalization
      · intro ref member
        change ((state.setVersion submission.version).version? ref).isSome = true
        rw [publishes.submits.context] at member
        rcases mem_submittedRefs member with isNew | old
        · rw [isNew, version?_setVersion, if_pos rfl]
          rfl
        · exact kept.isSome (before.stored ref old)
      · rw [publishes.submits.context]
        exact submitted_activeListed before.valid rfl before.activeListed
  | committed commits =>
    have from_ := commits.stagedFrom wellFormed.stored
    constructor
    · exact from_.stored.congr commits.versions commits.latest
    · intro context onContext
      rw [commits.context, from_.context] at onContext
      have isContext := Option.some.inj onContext
      subst isContext
      constructor
      · exact commits.valid
      · exact commits.finalization
      · intro ref member
        rw [version?_congr commits.versions]
        exact commits.resolved ref member
      · exact commits.activeListed

/-- What an operation does to a scope: it keeps every version, and writes nothing or a Context
that follows the one before. -/
structure Advances (before after : ScopeState) : Prop where
  versions : KeepsVersions before after
  write : after.context = before.context ∧ after.versions = before.versions ∧
      after.latest = before.latest ∨
    ∃ next, after.context = some next ∧ ContextFollows before.context next

theorem Advances.refl (state : ScopeState) : Advances state state := by
  constructor
  · exact KeepsVersions.refl state
  · exact Or.inl ⟨rfl, rfl, rfl⟩

theorem StateStep.advances {state next : ScopeState} (wellFormed : WellFormed state)
    (moved : StateStep libraries state next) :
    Advances state next := by
  cases moved with
  | repeated => exact Advances.refl state
  | claimed claimable =>
    constructor
    · exact KeepsVersions.refl state
    · exact Or.inl ⟨rfl, rfl, rfl⟩
  | submitted claimable publishes =>
    rename_i scope command entryRef context previous recordedAt submission
    have submits := publishes.submits
    constructor
    · exact wellFormed.stored.keepsVersions (publishes.nextVersion wellFormed.stored)
    · refine Or.inr ⟨submission.context, rfl, ?_⟩
      rw [publishes.onContext, submits.context]
      constructor
      · intro impossible
        cases impossible
      · intro current isCurrent
        cases isCurrent
        rfl
      · intro current isCurrent
        cases isCurrent
        exact Nat.le_refl _
      · intro current isCurrent
        cases isCurrent
        exact publishes.recorded
      · intro current isCurrent
        cases isCurrent
        have current := publishes.current
        obtain ⟨_, -, current⟩ := Except.bind_eq_ok.mp current
        obtain ⟨_, entry, -⟩ := Except.bind_eq_ok.mp current
        have checked := require_eq_ok.mp entry
        simp only [Bool.and_eq_true, beq_iff_eq] at checked
        exact checked.1.1
  | committed commits =>
    have from_ := commits.stagedFrom wellFormed.stored
    constructor
    · intro ref version isStored
      rw [version?_congr commits.versions]
      exact from_.keeps ref version isStored
    · refine Or.inr ⟨_, ?_, commits.follows⟩
      rw [commits.context, from_.context]

end SdarRuntime.Business
