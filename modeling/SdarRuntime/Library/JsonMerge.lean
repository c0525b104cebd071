import SdarRuntime.Library.CanonicalJson

/-!
Merging one object over another. Members that are objects on both sides are merged in turn, any
other member replaces the one it meets. Some objects count as atoms and are replaced like a text.
A path leads from an object to a value inside it.
-/

namespace Json

variable (atomic : List (String × Json) → Bool)

mutual
def mergeValue (prior : Option Json) : Json → Json
  | .obj fields =>
    match prior with
    | some (.obj priorFields) =>
      if atomic priorFields || atomic fields then .obj fields
      else .obj (deepMerge priorFields fields)
    | _ => .obj fields
  | .null => .null
  | .bool value => .bool value
  | .num text => .num text
  | .str value => .str value
  | .arr items => .arr items

def deepMerge (base : List (String × Json)) : List (String × Json) → List (String × Json)
  | [] => base
  | (key, value) :: rest =>
    deepMerge (assign key (mergeValue (lookup key base) value) base) rest
end

def valueAt : List String → Json → Option Json
  | [], value => some value
  | key :: rest, .obj fields =>
    match lookup key fields with
    | some value => valueAt rest value
    | none => none
  | _ :: _, _ => none

/-- Merging `layer` replaces an object above the value the path leads to. -/
def cuts : List String → List (String × Json) → List (String × Json) → Bool
  | [], _, _ => false
  | key :: rest, base, layer =>
    match lookup key layer, lookup key base with
    | some (.obj fields), some (.obj priorFields) =>
      if atomic priorFields || atomic fields then (valueAt rest (.obj priorFields)).isSome
      else cuts rest priorFields fields
    | some _, some prior => (valueAt rest prior).isSome
    | _, _ => false

variable {atomic}

theorem lookup_assign (key name : String) (value : Json) (fields : List (String × Json)) :
    lookup name (assign key value fields) = if name = key then some value else lookup name fields := by
  induction fields with
  | nil =>
    by_cases same : name = key
    · simp [assign, lookup, same]
    · have other : ¬key = name := fun equal => same equal.symm
      simp [assign, lookup, same, other]
  | cons field rest ih =>
    obtain ⟨first, old⟩ := field
    by_cases here : first = key
    · subst here
      by_cases same : name = first
      · simp [assign, lookup, same]
      · have other : ¬first = name := fun equal => same equal.symm
        simp [assign, lookup, same, other]
    · rw [assign, if_neg here, lookup, lookup, ih]
      by_cases same : first = name
      · have other : ¬name = key := fun equal => here (same.trans equal)
        rw [if_pos same, if_pos same, if_neg other]
      · rw [if_neg same, if_neg same]

theorem lookup_deepMerge {layer : List (String × Json)} (distinct : Distinct layer) (name : String)
    (base : List (String × Json)) :
    lookup name (deepMerge atomic base layer) =
      match lookup name layer with
      | some value => some (mergeValue atomic (lookup name base) value)
      | none => lookup name base := by
  induction layer generalizing base with
  | nil => simp [deepMerge, lookup]
  | cons field rest ih =>
    obtain ⟨key, value⟩ := field
    have parts := List.nodup_cons.mp distinct
    rw [deepMerge, ih parts.2, lookup_assign, lookup]
    by_cases same : key = name
    · subst same
      have absent : lookup key rest = none := by
        cases found : lookup key rest with
        | none => rfl
        | some other =>
          exact absurd (List.mem_map.mpr ⟨(key, other), mem_of_lookup found, rfl⟩) parts.1
      rw [absent, if_pos rfl, if_pos rfl]
    · have other : ¬name = key := fun equal => same equal.symm
      rw [if_neg same, if_neg other]

/-- A layer that neither sets the value a path leads to nor cuts the path leaves the value. -/
theorem valueAt_deepMerge {path : List String} {base layer : List (String × Json)}
    (isProper : (Json.obj layer).proper = true)
    (unset : valueAt path (.obj layer) = none) (uncut : cuts atomic path base layer = false) :
    valueAt path (.obj (deepMerge atomic base layer)) = valueAt path (.obj base) := by
  induction path generalizing base layer with
  | nil => cases unset
  | cons key rest ih =>
    have distinct := proper_distinct isProper
    rw [valueAt, valueAt, lookup_deepMerge distinct]
    rw [valueAt] at unset
    unfold cuts at uncut
    cases found : lookup key layer with
    | none => rfl
    | some value =>
      rw [found] at unset uncut
      dsimp only at unset ⊢
      have isProperValue := proper_value isProper (mem_of_lookup found)
      cases prior : lookup key base with
      | none =>
        have same : mergeValue atomic none value = value := by
          cases value <;> rfl
        rw [same]
        exact unset
      | some old =>
        rw [prior] at uncut
        cases value with
        | obj fields =>
          cases old with
          | obj priorFields =>
            dsimp only at uncut ⊢
            rw [mergeValue]
            by_cases whole : (atomic priorFields || atomic fields) = true
            · rw [if_pos whole] at uncut ⊢
              rw [unset]
              exact (Option.not_isSome_iff_eq_none.mp
                (Bool.not_eq_true _ ▸ uncut)).symm
            · rw [if_neg whole] at uncut ⊢
              cases rest with
              | nil => cases unset
              | cons next later => exact ih isProperValue unset uncut
          | _ =>
            dsimp only at uncut ⊢
            rw [mergeValue]
            · rw [unset]
              exact (Option.not_isSome_iff_eq_none.mp
                (Bool.not_eq_true _ ▸ uncut)).symm
            all_goals simp
        | _ =>
          dsimp only at uncut ⊢
          rw [mergeValue, unset]
          exact (Option.not_isSome_iff_eq_none.mp (Bool.not_eq_true _ ▸ uncut)).symm

end Json
