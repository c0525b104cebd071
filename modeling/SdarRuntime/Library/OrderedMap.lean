import Mathlib.Data.List.Nodup
import Mathlib.Data.List.Perm.Lattice
import Mathlib.Data.List.Perm.Subperm

/-!
Finite maps whose keys keep the order in which they were first set, as a JavaScript `Map`
does. Setting a key that is there changes its value in place.
-/

universe u v w

structure OrderedMap (κ : Type u) (α : Type v) where
  entries : List (κ × α)
  distinct : (entries.map Prod.fst).Nodup

namespace OrderedMap

variable {κ : Type u} {α : Type v} {β : Type w}

@[ext]
theorem ext {left right : OrderedMap κ α} (same : left.entries = right.entries) :
    left = right := by
  cases left
  cases right
  cases same
  rfl

instance [DecidableEq κ] [DecidableEq α] : DecidableEq (OrderedMap κ α) := fun left right =>
  decidable_of_iff (left.entries = right.entries) ⟨ext, congrArg entries⟩

def empty : OrderedMap κ α :=
  { entries := []
    distinct := List.nodup_nil }

def keys (map : OrderedMap κ α) : List κ :=
  map.entries.map Prod.fst

def values (map : OrderedMap κ α) : List α :=
  map.entries.map Prod.snd

variable [DecidableEq κ]

private def setEntries (key : κ) (value : α) : List (κ × α) → List (κ × α)
  | [] => [(key, value)]
  | entry :: rest =>
    if entry.1 = key then (key, value) :: rest else entry :: setEntries key value rest

private theorem mem_setEntries_keys (key other : κ) (value : α) (entries : List (κ × α)) :
    other ∈ (setEntries key value entries).map Prod.fst ↔
      other = key ∨ other ∈ entries.map Prod.fst := by
  induction entries with
  | nil => simp [setEntries]
  | cons entry rest ih =>
    by_cases same : entry.1 = key
    · simp [setEntries, same]
    · simp only [setEntries, if_neg same, List.map_cons, List.mem_cons, ih]
      tauto

private theorem setEntries_distinct (key : κ) (value : α) (entries : List (κ × α))
    (distinct : (entries.map Prod.fst).Nodup) :
    ((setEntries key value entries).map Prod.fst).Nodup := by
  induction entries with
  | nil => simp [setEntries]
  | cons entry rest ih =>
    have parts := List.nodup_cons.mp distinct
    by_cases same : entry.1 = key
    · simp only [setEntries, if_pos same, List.map_cons]
      rw [← same]
      exact distinct
    · simp only [setEntries, if_neg same, List.map_cons, List.nodup_cons]
      constructor
      · rw [mem_setEntries_keys]
        rintro (isKey | present)
        · exact same isKey
        · exact parts.1 present
      · exact ih parts.2

private def lookupEntries (key : κ) : List (κ × α) → Option α
  | [] => none
  | entry :: rest => if entry.1 = key then some entry.2 else lookupEntries key rest

def get? (map : OrderedMap κ α) (key : κ) : Option α :=
  lookupEntries key map.entries

def set (map : OrderedMap κ α) (key : κ) (value : α) : OrderedMap κ α :=
  { entries := setEntries key value map.entries
    distinct := setEntries_distinct key value map.entries map.distinct }

def erase (map : OrderedMap κ α) (key : κ) : OrderedMap κ α :=
  { entries := map.entries.filter fun entry => entry.1 ≠ key
    distinct := map.distinct.sublist (List.filter_sublist.map Prod.fst) }

private def keepEntry (change : α → Option β) (entry : κ × α) : Option (κ × β) :=
  (change entry.2).map (Prod.mk entry.1)

omit [DecidableEq κ] in
private theorem keepEntries_keys (change : α → Option β) (entries : List (κ × α)) :
    ((entries.filterMap (keepEntry change)).map Prod.fst).Sublist (entries.map Prod.fst) := by
  induction entries with
  | nil => exact List.Sublist.slnil
  | cons entry rest ih =>
    cases kept : change entry.2 with
    | none =>
      rw [List.filterMap_cons_none (by simp [keepEntry, kept]), List.map_cons]
      exact ih.cons _
    | some value =>
      rw [List.filterMap_cons_some (by simp [keepEntry, kept]; rfl), List.map_cons,
        List.map_cons]
      exact ih.cons_cons _

def filterMap (change : α → Option β) (map : OrderedMap κ α) : OrderedMap κ β :=
  { entries := map.entries.filterMap (keepEntry change)
    distinct := map.distinct.sublist (keepEntries_keys change map.entries) }

def setAll (map : OrderedMap κ α) (entries : List (κ × α)) : OrderedMap κ α :=
  entries.foldl (fun map entry => map.set entry.1 entry.2) map

/-- `new Map(entries)`: a later value of a key replaces an earlier one. -/
def ofList (entries : List (κ × α)) : OrderedMap κ α :=
  entries.foldl (fun map entry => map.set entry.1 entry.2) empty

@[simp]
theorem get?_empty (key : κ) : (empty : OrderedMap κ α).get? key = none := rfl

private theorem lookup_setEntries (key other : κ) (value : α) (entries : List (κ × α)) :
    lookupEntries other (setEntries key value entries) =
      if other = key then some value else lookupEntries other entries := by
  induction entries with
  | nil => simp [setEntries, lookupEntries, eq_comm]
  | cons entry rest ih =>
    by_cases same : entry.1 = key
    · by_cases found : other = key
      · simp [setEntries, lookupEntries, same, found]
      · simp [setEntries, lookupEntries, same, found, Ne.symm found]
    · simp only [setEntries, if_neg same, lookupEntries, ih]
      by_cases atEntry : entry.1 = other
      · subst other
        simp [same]
      · simp [atEntry]

theorem get?_set (map : OrderedMap κ α) (key other : κ) (value : α) :
    (map.set key value).get? other = if other = key then some value else map.get? other :=
  lookup_setEntries key other value map.entries

@[simp]
theorem get?_set_self (map : OrderedMap κ α) (key : κ) (value : α) :
    (map.set key value).get? key = some value := by
  rw [get?_set, if_pos rfl]

variable {key other : κ}

theorem get?_set_ne (map : OrderedMap κ α) (value : α) (different : other ≠ key) :
    (map.set key value).get? other = map.get? other := by
  rw [get?_set, if_neg different]

variable {key : κ} {value : α} {entries : List (κ × α)}

private theorem setEntries_lookup (known : lookupEntries key entries = some value) :
    setEntries key value entries = entries := by
  induction entries with
  | nil => cases known
  | cons entry rest ih =>
    unfold lookupEntries at known
    by_cases same : entry.1 = key
    · rw [if_pos same] at known
      rw [setEntries, if_pos same, ← same, ← Option.some.inj known]
    · rw [if_neg same] at known
      rw [setEntries, if_neg same, ih known]

variable {map : OrderedMap κ α}

theorem set_known (known : map.get? key = some value) : map.set key value = map :=
  ext (setEntries_lookup known)

private theorem mem_iff_lookup (distinct : (entries.map Prod.fst).Nodup) :
    (key, value) ∈ entries ↔ lookupEntries key entries = some value := by
  induction entries with
  | nil => simp [lookupEntries]
  | cons entry rest ih =>
    obtain ⟨name, other⟩ := entry
    have parts := List.nodup_cons.mp distinct
    by_cases same : name = key
    · subst name
      have absent : (key, value) ∉ rest := fun member =>
        parts.1 (List.mem_map.mpr ⟨_, member, rfl⟩)
      simp [lookupEntries, absent, eq_comm]
    · have different : key ≠ name := fun equal => same equal.symm
      simp [lookupEntries, same, different, ih parts.2]

theorem mem_entries :
    (key, value) ∈ map.entries ↔ map.get? key = some value :=
  mem_iff_lookup map.distinct

theorem mem_values :
    value ∈ map.values ↔ ∃ key, map.get? key = some value := by
  simp only [values, List.mem_map, Prod.exists, exists_eq_right, mem_entries]

theorem get?_erase (map : OrderedMap κ α) (key other : κ) :
    (map.erase key).get? other = if other = key then none else map.get? other := by
  apply Option.ext
  intro value
  rw [← mem_entries]
  by_cases same : other = key
  · simp [erase, same]
  · simp only [erase, List.mem_filter, mem_entries, if_neg same]
    simp [same]

theorem get?_filterMap (map : OrderedMap κ α) (change : α → Option β) (key : κ) :
    (map.filterMap change).get? key = (map.get? key).bind change := by
  apply Option.ext
  intro value
  rw [← mem_entries]
  simp only [filterMap, List.mem_filterMap, keepEntry, Option.map_eq_some_iff, Prod.mk.injEq,
    Option.bind_eq_some_iff]
  constructor
  · rintro ⟨⟨name, old⟩, member, kept, isKept, rfl, rfl⟩
    exact ⟨old, mem_entries.mp member, isKept⟩
  · rintro ⟨old, found, isKept⟩
    exact ⟨(key, old), mem_entries.mpr found, value, isKept, rfl, rfl⟩

theorem mem_keys : key ∈ map.keys ↔ (map.get? key).isSome := by
  simp only [keys, List.mem_map, Prod.exists, exists_and_right, exists_eq_right, mem_entries,
    Option.isSome_iff_exists]

private theorem get?_foldl_set (entries : List (κ × α)) (map : OrderedMap κ α) (key : κ) :
    (((entries.foldl (fun map entry => map.set entry.1 entry.2) map).get? key).isSome ↔
      (map.get? key).isSome ∨ key ∈ entries.map Prod.fst) ∧
    ∀ value, (entries.foldl (fun map entry => map.set entry.1 entry.2) map).get? key = some value →
      map.get? key = some value ∨ (key, value) ∈ entries := by
  induction entries generalizing map with
  | nil => simp
  | cons entry rest ih =>
    obtain ⟨present, sources⟩ := ih (map.set entry.1 entry.2)
    rw [get?_set] at present sources
    by_cases same : key = entry.1
    · rw [if_pos same] at present sources
      constructor
      · have isPresent := present.mpr (Or.inl rfl)
        simp only [List.foldl_cons, isPresent, true_iff]
        exact Or.inr (by simp [same])
      · intro value found
        rcases sources value found with isValue | later
        · simp only [Option.some.injEq] at isValue
          exact Or.inr (by rw [same, ← isValue]; exact List.mem_cons_self)
        · exact Or.inr (List.mem_cons_of_mem entry later)
    · rw [if_neg same] at present sources
      constructor
      · simp [List.foldl_cons, present, same]
      · intro value found
        rcases sources value found with old | later
        · exact Or.inl old
        · exact Or.inr (List.mem_cons_of_mem entry later)

theorem mem_of_get?_setAll (found : (map.setAll entries).get? key = some value) :
    map.get? key = some value ∨ (key, value) ∈ entries :=
  (get?_foldl_set entries map key).2 value found

theorem mem_keys_ofList :
    key ∈ (ofList entries).keys ↔ key ∈ entries.map Prod.fst := by
  rw [mem_keys]
  simpa [ofList] using (get?_foldl_set entries empty key).1

theorem mem_of_get?_ofList (found : (ofList entries).get? key = some value) :
    (key, value) ∈ entries := by
  rcases (get?_foldl_set entries empty key).2 value found with none | member
  · cases none
  · exact member

private theorem setEntries_new (absent : key ∉ entries.map Prod.fst) :
    setEntries key value entries = entries ++ [(key, value)] := by
  induction entries with
  | nil => rfl
  | cons entry rest ih =>
    rw [List.map_cons, List.mem_cons, not_or] at absent
    rw [setEntries, if_neg (Ne.symm absent.1), ih absent.2]
    rfl

theorem entries_ofList (distinct : (entries.map Prod.fst).Nodup) :
    (ofList entries).entries = entries := by
  have each : ∀ (later : List (κ × α)) (map : OrderedMap κ α),
      ((map.entries ++ later).map Prod.fst).Nodup →
      (later.foldl (fun map entry => map.set entry.1 entry.2) map).entries =
        map.entries ++ later := by
    intro later
    induction later with
    | nil =>
      intro map _
      exact (List.append_nil _).symm
    | cons entry rest ih =>
      intro map different
      have absent : entry.1 ∉ map.entries.map Prod.fst := by
        rw [List.map_append, List.nodup_append] at different
        intro present
        exact different.2.2 _ present _ (List.mem_map_of_mem List.mem_cons_self) rfl
      have added : (map.set entry.1 entry.2).entries = map.entries ++ [entry] :=
        setEntries_new absent
      rw [List.foldl_cons, ih _ (by rw [added, List.append_assoc]; exact different), added,
        List.append_assoc]
      rfl
  exact each entries empty distinct

def size (map : OrderedMap κ α) : Nat :=
  map.entries.length

omit [DecidableEq κ] in
theorem length_keys (map : OrderedMap κ α) : map.keys.length = map.size :=
  List.length_map Prod.fst

omit [DecidableEq κ] in
theorem size_le_of_keys {among : List κ} (covers : ∀ key, key ∈ map.keys → key ∈ among) :
    map.size ≤ among.length := by
  rw [← length_keys]
  exact (List.Nodup.subperm map.distinct covers).length_le

theorem mem_keys_set :
    other ∈ (map.set key value).keys ↔ other = key ∨ other ∈ map.keys :=
  mem_setEntries_keys key other value map.entries

theorem mem_keys_erase :
    other ∈ (map.erase key).keys ↔ other ≠ key ∧ other ∈ map.keys := by
  rw [mem_keys, mem_keys, get?_erase]
  by_cases same : other = key
  · simp [same]
  · simp [same]

theorem size_set_le (map : OrderedMap κ α) (key : κ) (value : α) :
    (map.set key value).size ≤ map.size + 1 := by
  have bound : (map.set key value).size ≤ (key :: map.keys).length := by
    apply size_le_of_keys
    intro other present
    exact List.mem_cons.mpr (mem_keys_set.mp present)
  rw [List.length_cons, length_keys] at bound
  exact bound

theorem size_set_known (value : α) (known : key ∈ map.keys) :
    (map.set key value).size ≤ map.size := by
  rw [← length_keys map]
  apply size_le_of_keys
  intro other present
  rcases mem_keys_set.mp present with isKey | old
  · rw [isKey]
    exact known
  · exact old

theorem size_erase_lt (known : key ∈ map.keys) :
    (map.erase key).size < map.size := by
  have bound : (map.erase key).size ≤ (map.keys.erase key).length := by
    apply size_le_of_keys
    intro other present
    have parts := mem_keys_erase.mp present
    exact (List.mem_erase_of_ne parts.1).mpr parts.2
  have positive := List.length_pos_of_mem known
  rw [List.length_erase_of_mem known, length_keys] at bound
  rw [length_keys] at positive
  omega

omit [DecidableEq κ] in
theorem size_filterMap_le (map : OrderedMap κ α) (change : α → Option β) :
    (map.filterMap change).size ≤ map.size :=
  List.length_filterMap_le (keepEntry change) map.entries

def AtMostOne (map : OrderedMap κ α) (Kind : α → Prop) : Prop :=
  ∀ key other value another, map.get? key = some value → map.get? other = some another →
    Kind value → Kind another → key = other

theorem AtMostOne.empty (Kind : α → Prop) : (empty : OrderedMap κ α).AtMostOne Kind := by
  intro key other value another known
  cases known

theorem AtMostOne.set {Kind : α → Prop} (one : map.AtMostOne Kind)
    (alone : Kind value → ∀ other known, map.get? other = some known → Kind known →
      other = key) : (map.set key value).AtMostOne Kind := by
  intro first second firstValue secondValue firstKnown secondKnown firstKind secondKind
  rw [get?_set] at firstKnown secondKnown
  by_cases firstIsKey : first = key
  · by_cases secondIsKey : second = key
    · rw [firstIsKey, secondIsKey]
    · rw [if_neg secondIsKey] at secondKnown
      rw [if_pos firstIsKey] at firstKnown
      cases firstKnown
      rw [firstIsKey]
      exact (alone firstKind second secondValue secondKnown secondKind).symm
  · rw [if_neg firstIsKey] at firstKnown
    by_cases secondIsKey : second = key
    · rw [if_pos secondIsKey] at secondKnown
      cases secondKnown
      rw [secondIsKey]
      exact alone secondKind first firstValue firstKnown firstKind
    · rw [if_neg secondIsKey] at secondKnown
      exact one first second firstValue secondValue firstKnown secondKnown firstKind secondKind

end OrderedMap
