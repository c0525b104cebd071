import Mathlib.Data.List.Nodup
import Mathlib.Data.List.Perm.Basic

/-!
Lists whose items have different keys: what is added, removed and changed between two of them,
and the list that follows from another by such changes. Two items of one key are taken for the
same where their texts are.
-/

universe u v w

namespace KeyedDiff

structure Changes (α : Type u) where
  added : List α
  removed : List α
  changed : List (α × α)

def Changes.Same {α : Type u} (left right : Changes α) : Prop :=
  left.added.Perm right.added ∧ left.removed.Perm right.removed ∧
    left.changed.Perm right.changed

section Definitions

variable {α : Type u} {κ : Type v} {τ : Type w} [DecidableEq κ] [DecidableEq τ] (key : α → κ)
  (text : α → τ)

def at? (items : List α) (name : κ) : Option α := items.find? fun item => key item == name

def changes (before after : List α) : Changes α where
  added := after.filter fun item => (at? key before (key item)).isNone
  removed := before.filter fun item => (at? key after (key item)).isNone
  changed := after.filterMap fun item =>
    (at? key before (key item)).bind fun previous =>
      if text previous = text item then none else some (previous, item)

/-- Removed items go, changed ones are replaced, and added ones come last. -/
def Changes.apply (change : Changes α) (items : List α) : List α :=
  (items.filter fun item => (at? key change.removed (key item)).isNone).map (fun item =>
    (at? (fun pair => key pair.2) change.changed (key item)).elim item Prod.snd) ++ change.added

end Definitions

section Laws

variable {α : Type u} {κ : Type v} {τ : Type w} [DecidableEq κ] [DecidableEq τ] {key : α → κ}
  {text : α → τ} {before after : List α}

variable {items : List α} {name : κ}

theorem at?_eq_none :
    at? key items name = none ↔ ∀ item ∈ items, key item ≠ name := by
  simp [at?]

variable {item : α}

theorem of_at? (found : at? key items name = some item) :
    item ∈ items ∧ key item = name := by
  unfold at? at found
  have named := List.find?_some found
  exact ⟨List.mem_of_find?_eq_some found, beq_iff_eq.mp named⟩

theorem at?_eq_some (distinct : (items.map key).Nodup) :
    at? key items name = some item ↔ item ∈ items ∧ key item = name := by
  constructor
  · exact of_at?
  · intro there
    cases found : at? key items name with
    | none => exact absurd there.2 (at?_eq_none.mp found item there.1)
    | some other =>
      obtain ⟨member, named⟩ := of_at? found
      rw [List.inj_on_of_nodup_map distinct member there.1 (named.trans there.2.symm)]

theorem isNone_iff_of_perm {items others : List α} (same : items.Perm others)
    (name : κ) : at? key items name = none ↔ at? key others name = none := by
  rw [at?_eq_none, at?_eq_none]
  constructor
  · exact fun absent item member => absent item (same.mem_iff.mpr member)
  · exact fun absent item member => absent item (same.mem_iff.mp member)

theorem mem_added :
    item ∈ (changes key text before after).added ↔
      item ∈ after ∧ at? key before (key item) = none := by
  simp [changes]

theorem mem_removed :
    item ∈ (changes key text before after).removed ↔
      item ∈ before ∧ at? key after (key item) = none := by
  simp [changes]

theorem mem_changed {pair : α × α} :
    pair ∈ (changes key text before after).changed ↔
      pair.2 ∈ after ∧ at? key before (key pair.2) = some pair.1 ∧
        text pair.1 ≠ text pair.2 := by
  obtain ⟨previous, item⟩ := pair
  simp only [changes, List.mem_filterMap, Option.bind_eq_some_iff]
  constructor
  · intro found
    obtain ⟨other, member, earlier, isEarlier, kept⟩ := found
    split at kept
    · cases kept
    · next different =>
      cases kept
      exact ⟨member, isEarlier, different⟩
  · intro found
    exact ⟨item, found.1, previous, found.2.1, if_neg found.2.2⟩

/-- The item that stands for one of the later list: the earlier one where the texts agree. -/
def merged (key : α → κ) (text : α → τ) (before : List α) (item : α) : α :=
  match at? key before (key item) with
  | some previous => if text previous = text item then previous else item
  | none => item

theorem key_merged (distinct : (before.map key).Nodup) (item : α) :
    key (merged key text before item) = key item := by
  unfold merged
  cases found : at? key before (key item) with
  | none => rfl
  | some previous =>
    have named := ((at?_eq_some distinct).mp found).2
    change key (if text previous = text item then previous else item) = key item
    split
    · exact named
    · rfl

theorem text_merged (item : α) : text (merged key text before item) = text item := by
  unfold merged
  cases at? key before (key item) with
  | none => rfl
  | some previous =>
    change text (if text previous = text item then previous else item) = text item
    split
    · assumption
    · rfl

variable {change : Changes α}

theorem replaced_eq (distinctBefore : (before.map key).Nodup)
    (distinctAfter : (after.map key).Nodup) (same : change.Same (changes key text before after))
    {item later : α} (member : item ∈ before) (inAfter : later ∈ after)
    (sameKey : key later = key item) :
    (at? (fun pair => key pair.2) change.changed (key item)).elim item Prod.snd =
      merged key text before later := by
  have previous : at? key before (key later) = some item :=
    (at?_eq_some distinctBefore).mpr ⟨member, sameKey.symm⟩
  have isMerged : merged key text before later =
      if text item = text later then item else later := by
    rw [merged, previous]
  cases found : at? (fun pair => key pair.2) change.changed (key item) with
  | none =>
    by_cases sameText : text item = text later
    · rw [isMerged, if_pos sameText]
      rfl
    · have isChanged : (item, later) ∈ change.changed :=
        same.2.2.mem_iff.mpr (mem_changed.mpr ⟨inAfter, previous, sameText⟩)
      exact absurd sameKey (at?_eq_none.mp found (item, later) isChanged)
  | some pair =>
    obtain ⟨isChanged, named⟩ := of_at? found
    obtain ⟨pairAfter, pairBefore, different⟩ :=
      mem_changed.mp (same.2.2.mem_iff.mp isChanged)
    have isLater : pair.2 = later :=
      List.inj_on_of_nodup_map distinctAfter pairAfter inAfter (named.trans sameKey.symm)
    have isItem : pair.1 = item := by
      rw [named, (at?_eq_some distinctBefore).mpr ⟨member, rfl⟩] at pairBefore
      exact (Option.some.inj pairBefore).symm
    rw [isLater, isItem] at different
    rw [isMerged, if_neg different, ← isLater]
    rfl

/-- The changes lead from the earlier list to the later one, up to the items' texts. -/
theorem apply_perm (distinctBefore : (before.map key).Nodup) (distinctAfter : (after.map key).Nodup)
    (same : change.Same (changes key text before after)) :
    (change.apply key before).Perm (after.map (merged key text before)) := by
  have isRemoved (item : α) (member : item ∈ before) :
      at? key change.removed (key item) = none ↔ ∃ later ∈ after, key later = key item := by
    rw [isNone_iff_of_perm same.2.1, at?_eq_none]
    constructor
    · intro kept
      by_contra absent
      push Not at absent
      exact kept item (mem_removed.mpr ⟨member, at?_eq_none.mpr absent⟩) rfl
    · intro there other isRemoved sameKey
      obtain ⟨later, inAfter, laterKey⟩ := there
      exact at?_eq_none.mp (mem_removed.mp isRemoved).2 later inAfter (laterKey.trans sameKey.symm)
  have keysAfter : ((after.map (merged key text before)).map key).Nodup := by
    rw [List.map_map]
    have sameKeys : key ∘ merged key text before = key :=
      funext fun item => key_merged distinctBefore item
    rw [sameKeys]
    exact distinctAfter
  have keyReplaced (item : α) (member : item ∈ before)
      (kept : at? key change.removed (key item) = none) :
      key ((at? (fun pair => key pair.2) change.changed (key item)).elim item Prod.snd) =
        key item := by
    obtain ⟨later, inAfter, sameKey⟩ := (isRemoved item member).mp kept
    rw [replaced_eq distinctBefore distinctAfter same member inAfter sameKey,
      key_merged distinctBefore, sameKey]
  have keysApplied : ((change.apply key before).map key).Nodup := by
    unfold Changes.apply
    rw [List.map_append, List.map_map, List.nodup_append]
    have sameKeys : ((before.filter fun item => (at? key change.removed (key item)).isNone).map
        (key ∘ fun item =>
          (at? (fun pair => key pair.2) change.changed (key item)).elim item Prod.snd)) =
        (before.filter fun item => (at? key change.removed (key item)).isNone).map key := by
      apply List.map_congr_left
      intro item member
      rw [List.mem_filter, Option.isNone_iff_eq_none] at member
      exact keyReplaced item member.1 member.2
    rw [sameKeys]
    refine ⟨distinctBefore.sublist (List.filter_sublist.map key), ?_, ?_⟩
    · have perm := same.1.map key
      exact perm.nodup_iff.mpr (distinctAfter.sublist (List.filter_sublist.map key))
    · intro name inBefore other inAdded sameName
      obtain ⟨item, member, isItem⟩ := List.mem_map.mp inBefore
      obtain ⟨added, isAdded, isOther⟩ := List.mem_map.mp inAdded
      have fresh := (mem_added.mp (same.1.mem_iff.mp isAdded)).2
      have itemBefore := (List.mem_filter.mp member).1
      exact at?_eq_none.mp fresh item itemBefore (isItem.trans (sameName.trans isOther.symm))
  rw [List.perm_ext_iff_of_nodup (List.Nodup.of_map key keysApplied)
    (List.Nodup.of_map key keysAfter)]
  intro item
  unfold Changes.apply
  rw [List.mem_append, List.mem_map, List.mem_map]
  constructor
  · intro applied
    rcases applied with ⟨earlier, member, isItem⟩ | isAdded
    · rw [List.mem_filter, Option.isNone_iff_eq_none] at member
      obtain ⟨later, inAfter, sameKey⟩ := (isRemoved earlier member.1).mp member.2
      rw [replaced_eq distinctBefore distinctAfter same member.1 inAfter sameKey] at isItem
      exact ⟨later, inAfter, isItem⟩
    · obtain ⟨inAfter, fresh⟩ := mem_added.mp (same.1.mem_iff.mp isAdded)
      exact ⟨item, inAfter, by rw [merged, fresh]⟩
  · intro image
    obtain ⟨later, inAfter, isItem⟩ := image
    cases found : at? key before (key later) with
    | none =>
      have isLater : item = later := by rw [← isItem, merged, found]
      rw [isLater]
      exact .inr (same.1.mem_iff.mpr (mem_added.mpr ⟨inAfter, found⟩))
    | some earlier =>
      obtain ⟨member, named⟩ := (at?_eq_some distinctBefore).mp found
      refine .inl ⟨earlier, ?_, ?_⟩
      · rw [List.mem_filter, Option.isNone_iff_eq_none]
        exact ⟨member, (isRemoved earlier member).mpr ⟨later, inAfter, named.symm⟩⟩
      · rw [replaced_eq distinctBefore distinctAfter same member inAfter named.symm, isItem]

/-- Nothing changes exactly between lists that have the same keys, each with the same text. -/
theorem changes_empty_iff (distinctBefore : (before.map key).Nodup)
    (same : change.Same (changes key text before after)) :
    (change.added = [] ∧ change.removed = [] ∧ change.changed = []) ↔
      (∀ item ∈ before, ∃ later ∈ after, key later = key item) ∧
      ∀ later ∈ after, ∃ item ∈ before, key item = key later ∧ text item = text later := by
  have noneOf {β : Type u} {left right : List β} (perm : left.Perm right) :
      left = [] ↔ ∀ item, item ∉ right := by
    rw [List.eq_nil_iff_forall_not_mem]
    exact forall_congr' fun item => not_congr perm.mem_iff
  rw [noneOf same.1, noneOf same.2.1, noneOf same.2.2]
  simp only [mem_added, mem_removed, mem_changed]
  constructor
  · intro nothing
    obtain ⟨noAdded, noRemoved, noChanged⟩ := nothing
    constructor
    · intro item member
      by_contra absent
      push Not at absent
      exact noRemoved item ⟨member, at?_eq_none.mpr absent⟩
    · intro later inAfter
      cases found : at? key before (key later) with
      | none => exact absurd ⟨inAfter, found⟩ (noAdded later)
      | some item =>
        obtain ⟨member, named⟩ := (at?_eq_some distinctBefore).mp found
        by_contra different
        push Not at different
        exact noChanged (item, later) ⟨inAfter, found, different item member named⟩
  · intro agree
    obtain ⟨kept, matched⟩ := agree
    refine ⟨?_, ?_, ?_⟩
    · intro later isAdded
      obtain ⟨item, member, named, _⟩ := matched later isAdded.1
      exact at?_eq_none.mp isAdded.2 item member named
    · intro item isRemoved
      obtain ⟨later, inAfter, named⟩ := kept item isRemoved.1
      exact at?_eq_none.mp isRemoved.2 later inAfter named
    · intro pair isChanged
      obtain ⟨inAfter, found, different⟩ := isChanged
      obtain ⟨item, member, named, sameText⟩ := matched pair.2 inAfter
      rw [(at?_eq_some distinctBefore).mpr ⟨member, named⟩] at found
      rw [← Option.some.inj found] at different
      exact different sameText

end Laws

end KeyedDiff
