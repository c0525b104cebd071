import SdarRuntime.Provider.Sample

/-!
The pages of a snapshot, followed by their cursors, hold every reference of the Context once.
-/

namespace SdarRuntime.Business

open TaskBusinessSnapshotPage

section

variable {libraries : Libraries} {sizes : SerializedSizes} {store : SnapshotStore}
  {scope : BoundExecutionScope} {maxBytes : Nat} {context : TaskBusinessContext}

variable {page : TaskBusinessSnapshotPage}

theorem refs_push {object : BusinessObjectVersion} :
    (page.push object).refs = page.refs ++ [object.businessObjectRef] := by
  simp [refs, push]

variable {ref : BusinessObjectRef}

theorem refs_describe {size : Nat} (blank : page.isBlank = true) :
    (page.describe ref size).refs = page.refs ++ [ref] := by
  simp only [isBlank, Bool.and_eq_true, List.isEmpty_iff] at blank
  simp [refs, describe, blank.1, blank.2]

/-- What filling a page from `index` on comes to: the page holds the references up to a later
index, and fits with a cursor to it. -/
structure FilledUpTo (libraries : Libraries) (sizes : SerializedSizes)
    (scope : BoundExecutionScope) (maxBytes : Nat) (context : TaskBusinessContext)
    (remaining : List BusinessObjectRef) (index : Nat) (page : TaskBusinessSnapshotPage)
    (filled : TaskBusinessSnapshotPage) (reached : Nat) : Prop where
  fitting : fits libraries sizes scope maxBytes context reached filled = true
  refs : filled.refs = page.refs ++ remaining.take (reached - index)
  notBack : index ≤ reached
  within : reached ≤ index + remaining.length
  forward : page.isBlank = true → remaining ≠ [] → index < reached

variable {remaining : List BusinessObjectRef} {index reached : Nat}

theorem FilledUpTo.cons {page next filled : TaskBusinessSnapshotPage}
    (rest : FilledUpTo libraries sizes scope maxBytes context remaining (index + 1) next filled
      reached) (added : next.refs = page.refs ++ [ref]) :
    FilledUpTo libraries sizes scope maxBytes context (ref :: remaining) index page filled
      reached := by
  have later := rest.notBack
  have within := rest.within
  have split : reached - index = (reached - (index + 1)) + 1 := by omega
  constructor
  · exact rest.fitting
  · rw [rest.refs, added, split, List.take_succ_cons, List.append_assoc, List.singleton_append]
  · omega
  · rw [List.length_cons]
    omega
  · intro _ _
    omega

theorem fillPage_filled {page filled : TaskBusinessSnapshotPage}
    (fitting : fits libraries sizes scope maxBytes context index page = true)
    (ran : fillPage libraries sizes store scope maxBytes context remaining index page =
      .ok (filled, reached)) :
    FilledUpTo libraries sizes scope maxBytes context remaining index page filled reached := by
  induction remaining generalizing index page with
  | nil =>
    cases ran
    constructor
    · exact fitting
    · simp
    · exact Nat.le_refl _
    · simp
    · exact fun _ empty => absurd rfl empty
  | cons ref rest ih =>
    unfold fillPage at ran
    obtain ⟨found, read, ran⟩ := Except.bind_eq_ok.mp ran
    cases found with
    | none => cases ran
    | some object =>
      have exact := store.exact read
      simp only at ran
      split at ran
      · rename_i pushed
        have filled := ih pushed.2 ran
        exact filled.cons (by rw [refs_push, exact])
      · split at ran
        · rename_i stops
          cases ran
          constructor
          · exact fitting
          · simp
          · exact Nat.le_refl _
          · simp
          · intro blank
            rw [blank] at stops
            cases stops
        · rename_i goesOn
          have blank : page.isBlank = true := by
            simpa using goesOn
          split at ran
          · rename_i described
            have filled := ih described ran
            exact filled.cons (refs_describe blank)
          · cases ran

/-- A request whose cursor names an index takes the references from there. It goes on behind
the index when there are any left, and its cursor names the index it has reached. -/
structure PageFrom (libraries : Libraries) (sizes : SerializedSizes)
    (scope : BoundExecutionScope) (maxBytes : Nat) (context : TaskBusinessContext) (index : Nat)
    (page : TaskBusinessSnapshotPage) (reached : Nat) : Prop where
  size : sizes.page page ≤ maxBytes
  refs : page.refs = ((contextObjectRefs context).drop index).take (reached - index)
  within : reached ≤ (contextObjectRefs context).length
  notBack : index ≤ reached
  forward : index < (contextObjectRefs context).length → index < reached
  cursor : page.nextCursor =
    if reached < (contextObjectRefs context).length then
      some (cursorFor (libraries.sha256 scope.key) context.contextRevision reached)
    else none

variable {cursor : Option String}

theorem loadTaskBusinessSnapshotPage_from {index : Nat} {served : Option TaskBusinessSnapshotPage}
    (found : store.getContext scope = .ok (some context))
    (named : cursorIndex libraries (libraries.sha256 scope.key) context.contextRevision
      (contextObjectRefs context).length cursor = .ok index)
    (bound : index ≤ (contextObjectRefs context).length)
    (ran : loadTaskBusinessSnapshotPage libraries sizes store scope maxBytes cursor =
      .ok served) :
    ∃ page reached, served = some page ∧
      PageFrom libraries sizes scope maxBytes context index page reached := by
  unfold loadTaskBusinessSnapshotPage at ran
  obtain ⟨_, -, ran⟩ := Except.bind_eq_ok.mp ran
  rw [found] at ran
  obtain ⟨_, isContext, ran⟩ := Except.bind_eq_ok.mp ran
  cases isContext
  obtain ⟨start, isStart, ran⟩ := Except.bind_eq_ok.mp ran
  rw [named] at isStart
  cases isStart
  obtain ⟨_, fitting, ran⟩ := Except.bind_eq_ok.mp ran
  obtain ⟨⟨filled, reached⟩, filling, ran⟩ := Except.bind_eq_ok.mp ran
  obtain ⟨_, -, ran⟩ := Except.bind_eq_ok.mp ran
  obtain ⟨_, -, ran⟩ := Except.bind_eq_ok.mp ran
  cases ran
  have upTo := fillPage_filled (require_eq_ok.mp fitting) filling
  have within := upTo.within
  rw [List.length_drop] at within
  refine ⟨_, reached, rfl, ?_⟩
  constructor
  · exact of_decide_eq_true upTo.fitting
  · exact upTo.refs
  · omega
  · exact upTo.notBack
  · intro more
    apply upTo.forward rfl
    intro empty
    have none := List.drop_eq_nil_iff.mp empty
    omega
  · rfl

/-- From an index on, more requests than there are references left complete the snapshot. -/
theorem followCursors_from {requests index : Nat} {snapshot : Snapshot}
    (found : store.getContext scope = .ok (some context))
    (reads : libraries.ReadsCursors scope context)
    (named : cursorIndex libraries (libraries.sha256 scope.key) context.contextRevision
      (contextObjectRefs context).length cursor = .ok index)
    (bound : index ≤ (contextObjectRefs context).length)
    (enough : (contextObjectRefs context).length - index < requests)
    (ran : followCursors libraries sizes store scope maxBytes requests cursor = .ok snapshot) :
    ∃ pages, snapshot = .complete pages ∧ (∀ page, page ∈ pages → sizes.page page ≤ maxBytes) ∧
      pages.flatMap refs = (contextObjectRefs context).drop index := by
  induction requests generalizing index cursor snapshot with
  | zero => omega
  | succ requests ih =>
    unfold followCursors at ran
    obtain ⟨served, loaded, ran⟩ := Except.bind_eq_ok.mp ran
    obtain ⟨page, reached, isPage, from_⟩ :=
      loadTaskBusinessSnapshotPage_from found named bound loaded
    cases isPage
    have within := from_.within
    have notBack := from_.notBack
    by_cases more : reached < (contextObjectRefs context).length
    · have cursorAt := from_.cursor
      rw [if_pos more] at cursorAt
      simp only [cursorAt] at ran
      obtain ⟨rest, followed, ran⟩ := Except.bind_eq_ok.mp ran
      have forward := from_.forward (by omega)
      obtain ⟨pages, isComplete, sized, refs⟩ :=
        ih (cursorIndex_cursorFor reads within) within (by omega) followed
      subst isComplete
      cases ran
      refine ⟨page :: pages, rfl, ?_, ?_⟩
      · intro other member
        rcases List.mem_cons.mp member with isPage | later
        · rw [isPage]
          exact from_.size
        · exact sized other later
      · have rest : (contextObjectRefs context).drop reached =
            ((contextObjectRefs context).drop index).drop (reached - index) := by
          rw [List.drop_drop]
          congr 1
          omega
        rw [List.flatMap_cons, refs, from_.refs, rest, List.take_append_drop]
    · have cursorAt := from_.cursor
      rw [if_neg more] at cursorAt
      simp only [cursorAt] at ran
      cases ran
      refine ⟨[page], rfl, ?_, ?_⟩
      · intro other member
        rw [List.mem_singleton.mp member]
        exact from_.size
      · rw [List.flatMap_singleton, from_.refs]
        apply List.take_of_length_le
        rw [List.length_drop]
        omega

/-- Following the cursors of a store whose Context does not change serves every reference of
the Context once, in order, on pages within the limit. -/
theorem snapshotPages_exact (found : store.getContext scope = .ok (some context))
    (reads : libraries.ReadsCursors scope context) {requests : Nat}
    (enough : (contextObjectRefs context).length < requests) {snapshot : Snapshot}
    (served : followCursors libraries sizes store scope maxBytes requests none = .ok snapshot) :
    ∃ pages, snapshot = .complete pages ∧ (∀ page, page ∈ pages → sizes.page page ≤ maxBytes) ∧
      pages.flatMap refs = contextObjectRefs context ∧
      (contextObjectRefs context).Nodup := by
  obtain ⟨pages, isComplete, sized, refs⟩ :=
    followCursors_from found reads rfl (Nat.zero_le _) (by omega) served
  exact ⟨pages, isComplete, sized, refs, contextObjectRefs_nodup context⟩

theorem loadTaskBusinessSnapshotPage_at {index : Nat}
    (found : store.getContext scope = .ok (some context))
    (named : cursorIndex libraries (libraries.sha256 scope.key) context.contextRevision
      (contextObjectRefs context).length cursor = .ok index) :
    loadTaskBusinessSnapshotPage libraries sizes store scope maxBytes cursor = (do
      require (1024 ≤ maxBytes && maxBytes ≤ 1048576) "BUSINESS_SNAPSHOT_PAGE_LIMIT_INVALID"
      require (fits libraries sizes scope maxBytes context index (emptyPage sizes maxBytes context))
        "BUSINESS_SNAPSHOT_PAGE_LIMIT_TOO_SMALL"
      let filled ← fillPage libraries sizes store scope maxBytes context
        ((contextObjectRefs context).drop index) index (emptyPage sizes maxBytes context)
      pure (some (pageUpTo libraries scope context filled.2 filled.1))) := by
  unfold loadTaskBusinessSnapshotPage
  simp [found, named, bind, Except.bind, require]

theorem followCursors_last {requests : Nat} {page : TaskBusinessSnapshotPage}
    (loaded : loadTaskBusinessSnapshotPage libraries sizes store scope maxBytes cursor =
      .ok (some page)) (last : page.nextCursor = none) :
    followCursors libraries sizes store scope maxBytes (requests + 1) cursor =
      .ok (.complete [page]) := by
  simp only [followCursors, loaded, bind, Except.bind, last]
  rfl

theorem followCursors_next {requests : Nat} {page : TaskBusinessSnapshotPage} {next : String}
    {pages : List TaskBusinessSnapshotPage}
    (loaded : loadTaskBusinessSnapshotPage libraries sizes store scope maxBytes cursor =
      .ok (some page)) (more : page.nextCursor = some next)
    (rest : followCursors libraries sizes store scope maxBytes requests (some next) =
      .ok (.complete pages)) :
    followCursors libraries sizes store scope maxBytes (requests + 1) cursor =
      .ok (.complete (page :: pages)) := by
  simp only [followCursors, loaded, bind, Except.bind, more, rest]
  rfl

/-- The pages of the sample: the description of its artifact, and its intervention. -/
def Sample.described : TaskBusinessSnapshotPage :=
  (emptyPage Sample.sizes 1024 Sample.context).describe Sample.artifactRef 4096

def Sample.pushed : TaskBusinessSnapshotPage :=
  (emptyPage Sample.sizes 1024 Sample.context).push (.intervention Sample.intervention)

theorem Sample.length_refs : (contextObjectRefs Sample.context).length = 2 := by
  decide +kernel

theorem Sample.first_page :
    loadTaskBusinessSnapshotPage Sample.libraries Sample.sizes Sample.store Sample.scope 1024 none =
      .ok (some (pageUpTo Sample.libraries Sample.scope Sample.context 1 Sample.described)) := by
  rfl

theorem Sample.second_page :
    loadTaskBusinessSnapshotPage Sample.libraries Sample.sizes Sample.store Sample.scope 1024
        (some (cursorFor (Sample.libraries.sha256 Sample.scope.key)
          Sample.context.contextRevision 1)) =
      .ok (some (pageUpTo Sample.libraries Sample.scope Sample.context 2 Sample.pushed)) := by
  have bound : 1 ≤ (contextObjectRefs Sample.context).length := by
    rw [Sample.length_refs]
    decide
  have named := cursorIndex_cursorFor Sample.readsCursors bound
  rw [loadTaskBusinessSnapshotPage_at rfl named]
  rfl

theorem snapshotPages_exact_sample :
    ∃ pages, followCursors Sample.libraries Sample.sizes Sample.store Sample.scope 1024 3 none =
        .ok (.complete pages) ∧ pages.length = 2 ∧
      pages.flatMap refs =
        [Sample.artifactRef, Sample.interventionRef] := by
  have served : followCursors Sample.libraries Sample.sizes Sample.store Sample.scope 1024 3 none =
      .ok (.complete [
        pageUpTo Sample.libraries Sample.scope Sample.context 1 Sample.described,
        pageUpTo Sample.libraries Sample.scope Sample.context 2 Sample.pushed]) := by
    have more : 1 < (contextObjectRefs Sample.context).length := by
      rw [Sample.length_refs]
      decide
    have noMore : ¬ 2 < (contextObjectRefs Sample.context).length := by
      rw [Sample.length_refs]
      decide
    have next : (pageUpTo Sample.libraries Sample.scope Sample.context 1
        Sample.described).nextCursor = some (cursorFor (Sample.libraries.sha256 Sample.scope.key)
          Sample.context.contextRevision 1) := by
      rw [pageUpTo, if_pos more]
    have last : (pageUpTo Sample.libraries Sample.scope Sample.context 2
        Sample.pushed).nextCursor = none := by
      rw [pageUpTo, if_neg noMore]
    exact followCursors_next Sample.first_page next (followCursors_last Sample.second_page last)
  obtain ⟨pages, isComplete, -, refs, -⟩ := snapshotPages_exact rfl Sample.readsCursors
    (show (contextObjectRefs Sample.context).length < 3 by
      rw [Sample.length_refs]
      decide) served
  cases isComplete
  refine ⟨_, served, rfl, ?_⟩
  rw [refs]
  decide +kernel

end

end SdarRuntime.Business
