import SdarRuntime.Library.CanonicalJson

/-!
Schemas of JSON values. An object schema is strict: every member it requires is there, and no
member is there that it does not name.
-/

inductive Schema where
  | null
  | literal (value : String)
  | oneOf (values : List String)
  | boolean
  | string (tests : List (String → Bool))
  | number (tests : List (String → Bool))
  | nullable (inner : Schema)
  | array (least most : Nat) (item : Schema)
  | object (shape : List (String × Bool × Schema))

namespace Schema

open Json

mutual
def accepts : Schema → Json → Bool
  | .null, .null => true
  | .literal value, .str text => text == value
  | .oneOf values, .str text => values.contains text
  | .boolean, .bool _ => true
  | .string tests, .str text => tests.all fun test => test text
  | .number tests, .num text => finiteText text && tests.all fun test => test text
  | .nullable _, .null => true
  | .nullable inner, value => accepts inner value
  | .array least most item, .arr items =>
    decide (least ≤ items.length) && decide (items.length ≤ most) && items.all (accepts item)
  | .object shape, .obj fields =>
    decide (Distinct fields) &&
      fields.all (fun field => shape.any fun member => member.1 == field.1) &&
      acceptsMembers shape fields
  | _, _ => false

/-- The members the shape names are there, or may be missing, and are accepted. -/
def acceptsMembers : List (String × Bool × Schema) → List (String × Json) → Bool
  | [], _ => true
  | (key, required, schema) :: rest, fields =>
    (match lookup key fields with
      | some value => accepts schema value
      | none => !required) && acceptsMembers rest fields
end

attribute [local simp] accepts

/-- `.min(least).max(most)` on a text. -/
def lengthBetween (least most : Nat) (text : String) : Bool :=
  decide (least ≤ (utf16 text).length) && decide ((utf16 text).length ≤ most)

variable {shape : List (String × Bool × Schema)} {fields : List (String × Json)}

theorem acceptsMembers_iff :
    acceptsMembers shape fields = true ↔ ∀ member ∈ shape,
      match lookup member.1 fields with
      | some value => member.2.2.accepts value = true
      | none => member.2.1 = false := by
  induction shape with
  | nil => simp [acceptsMembers]
  | cons member rest ih =>
    obtain ⟨key, required, schema⟩ := member
    rw [acceptsMembers, Bool.and_eq_true, ih, List.forall_mem_cons]
    apply and_congr_left
    intro _
    cases lookup key fields with
    | none => simp
    | some value => simp

theorem accepts_object {value : Json} (accepted : (Schema.object shape).accepts value = true) :
    ∃ fields, value = .obj fields ∧ Distinct fields ∧
      (∀ field ∈ fields, ∃ member ∈ shape, member.1 = field.1) ∧
      acceptsMembers shape fields = true := by
  cases value with
  | obj fields =>
    simp only [accepts, Bool.and_eq_true, decide_eq_true_eq, List.all_eq_true, List.any_eq_true,
      beq_iff_eq] at accepted
    exact ⟨fields, rfl, accepted.1.1, accepted.1.2, accepted.2⟩
  | _ => simp [accepts] at accepted

theorem accepts_member (accepted : acceptsMembers shape fields = true) {key : String}
    {schema : Schema} (named : (key, true, schema) ∈ shape) :
    ∃ value, lookup key fields = some value ∧ schema.accepts value = true := by
  have at_key := acceptsMembers_iff.mp accepted (key, true, schema) named
  cases found : lookup key fields with
  | none =>
    rw [found] at at_key
    cases at_key
  | some value =>
    rw [found] at at_key
    exact ⟨value, rfl, at_key⟩

theorem accepts_string {tests : List (String → Bool)} {value : Json}
    (accepted : (Schema.string tests).accepts value = true) :
    ∃ text, value = .str text ∧ ∀ test ∈ tests, test text = true := by
  cases value with
  | str text => exact ⟨text, rfl, List.all_eq_true.mp accepted⟩
  | _ => simp [accepts] at accepted

theorem accepts_literal {expected : String} {value : Json}
    (accepted : (Schema.literal expected).accepts value = true) : value = .str expected := by
  cases value with
  | str text =>
    have same : text = expected := by simpa [accepts] using accepted
    rw [same]
  | _ => simp [accepts] at accepted

theorem accepts_null {value : Json} (accepted : Schema.null.accepts value = true) :
    value = .null := by
  cases value with
  | null => rfl
  | _ => simp [accepts] at accepted

theorem accepts_nullable {inner : Schema} {value : Json}
    (accepted : (Schema.nullable inner).accepts value = true) :
    value = .null ∨ inner.accepts value = true := by
  cases value with
  | null => exact .inl rfl
  | _ => exact .inr (by simpa [accepts] using accepted)

theorem accepts_required (members : List (String × Schema × Json))
    (distinct : (members.map Prod.fst).Nodup) :
    (Schema.object (members.map fun member => (member.1, true, member.2.1))).accepts
        (.obj (members.map fun member => (member.1, member.2.2))) =
      members.all fun member => member.2.1.accepts member.2.2 := by
  have fieldsDistinct : Distinct (members.map fun member => (member.1, member.2.2)) := by
    rw [Distinct, List.map_map]
    exact distinct
  have named : ((members.map fun member => (member.1, member.2.2)).all fun field =>
      (members.map fun member => (member.1, true, member.2.1)).any fun member =>
        member.1 == field.1) = true := by
    rw [List.all_eq_true]
    intro field inFields
    obtain ⟨member, inMembers, isField⟩ := List.mem_map.mp inFields
    rw [List.any_eq_true]
    exact ⟨_, List.mem_map_of_mem inMembers, by rw [← isField, beq_self_eq_true]⟩
  rw [accepts, decide_eq_true fieldsDistinct, named, Bool.true_and, Bool.true_and, Bool.eq_iff_iff,
    acceptsMembers_iff, List.all_eq_true]
  constructor
  · intro accepted member inMembers
    have atMember := accepted _ (List.mem_map_of_mem inMembers)
    rw [lookup_of_mem fieldsDistinct (List.mem_map_of_mem inMembers)] at atMember
    exact atMember
  · intro accepted inShape isMember
    obtain ⟨member, inMembers, isShape⟩ := List.mem_map.mp isMember
    subst isShape
    rw [lookup_of_mem fieldsDistinct (List.mem_map_of_mem inMembers)]
    exact accepted member inMembers

theorem accepts_field (distinct : Distinct fields)
    (named : ∀ field ∈ fields, ∃ member ∈ shape, member.1 = field.1)
    (accepted : acceptsMembers shape fields = true) {field : String × Json}
    (inFields : field ∈ fields) :
    ∃ member ∈ shape, member.1 = field.1 ∧ member.2.2.accepts field.2 = true := by
  obtain ⟨member, inShape, sameKey⟩ := named field inFields
  have at_key := acceptsMembers_iff.mp accepted member inShape
  have found : lookup member.1 fields = some field.2 := by
    rw [sameKey]
    exact lookup_of_mem distinct inFields
  rw [found] at at_key
  exact ⟨member, inShape, sameKey, at_key⟩

theorem accepts_finite (schema : Schema) (value : Json) (accepted : schema.accepts value = true) :
    value.finite = true := by
  match schema with
  | .nullable inner =>
    rcases accepts_nullable accepted with isNull | inside
    · rw [isNull]
      rfl
    · exact accepts_finite inner value inside
  | .array least most item =>
    cases value with
    | arr items =>
      simp only [accepts, Bool.and_eq_true, List.all_eq_true] at accepted
      rw [finite, finiteItems_eq_all, List.all_eq_true]
      intro one member
      exact accepts_finite item one (accepted.2 one member)
    | _ => simp [accepts] at accepted
  | .object shape =>
    obtain ⟨fields, rfl, distinct, named, members⟩ := accepts_object accepted
    rw [finite, finiteFields_eq_all, List.all_eq_true]
    intro field inFields
    obtain ⟨member, inShape, _, inside⟩ := accepts_field distinct named members inFields
    have smaller : sizeOf member.2.2 < 1 + sizeOf shape := by
      have below := List.sizeOf_lt_of_mem inShape
      obtain ⟨key, required, schema⟩ := member
      simp only [Prod.mk.sizeOf_spec] at below
      change sizeOf schema < 1 + sizeOf shape
      omega
    exact accepts_finite member.2.2 field.2 inside
  | .number tests =>
    cases value with
    | num text =>
      simp only [accepts, Bool.and_eq_true] at accepted
      exact accepted.1
    | _ => simp [accepts] at accepted
  | .null | .literal _ | .oneOf _ | .boolean | .string _ =>
    cases value with
    | num text => simp [accepts] at accepted
    | arr items => simp [accepts] at accepted
    | obj fields => simp [accepts] at accepted
    | _ => rfl

/-! ### Equal values

A schema does not see the order of members.
-/

theorem accepts_of_equal (schema : Schema) {value other : Json} (same : Equal value other)
    (isProper : other.proper = true) (accepted : schema.accepts value = true) :
    schema.accepts other = true := by
  match schema with
  | .nullable inner =>
    rcases accepts_nullable accepted with isNull | inside
    · rw [isNull] at same
      rw [same.null_left]
      rfl
    · have inner_accepts := accepts_of_equal inner same isProper inside
      cases other with
      | null => rfl
      | _ => simpa [accepts] using inner_accepts
  | .array least most item =>
    cases value with
    | arr items =>
      obtain ⟨items', rfl, images⟩ := same.arr_left
      simp only [accepts, Bool.and_eq_true, List.all_eq_true, decide_eq_true_eq] at accepted ⊢
      have lengths : items'.length = items.length := by
        have counted := congrArg List.length images
        rw [List.length_map, List.length_map] at counted
        exact counted.symm
      rw [lengths]
      refine ⟨accepted.1, ?_⟩
      intro one member
      have inImage : normal one ∈ items.map normal := by
        rw [images]
        exact List.mem_map_of_mem member
      obtain ⟨original, inItems, sameNormal⟩ := List.mem_map.mp inImage
      exact accepts_of_equal item sameNormal (proper_item isProper member)
        (accepted.2 original inItems)
    | _ => simp [accepts] at accepted
  | .object shape =>
    obtain ⟨fields, rfl, distinct, named, members⟩ := accepts_object accepted
    obtain ⟨fields', rfl⟩ := same.obj_left
    have distinct' := proper_distinct isProper
    have lookups := lookup_of_equal distinct distinct' same
    simp only [accepts, Bool.and_eq_true, decide_eq_true_eq, List.all_eq_true, List.any_eq_true,
      beq_iff_eq]
    refine ⟨⟨distinct', ?_⟩, acceptsMembers_iff.mpr ?_⟩
    · intro field inFields
      have found := lookup_of_mem distinct' inFields
      have there := lookups field.1
      rw [found] at there
      cases original : lookup field.1 fields with
      | none =>
        rw [original] at there
        cases there
      | some inner => exact named (field.1, inner) (mem_of_lookup original)
    · intro member inShape
      have atMember := acceptsMembers_iff.mp members member inShape
      have there := lookups member.1
      cases original : lookup member.1 fields with
      | none =>
        rw [original] at atMember there
        cases found : lookup member.1 fields' with
        | none => exact atMember
        | some inner =>
          rw [found] at there
          cases there
      | some inner =>
        rw [original] at atMember there
        cases found : lookup member.1 fields' with
        | none =>
          rw [found] at there
          cases there
        | some inner' =>
          rw [found] at there
          have sameInner : Equal inner inner' := Option.some.inj there
          have properInner := proper_value isProper (mem_of_lookup found)
          have smaller : sizeOf member.2.2 < 1 + sizeOf shape := by
            have below := List.sizeOf_lt_of_mem inShape
            obtain ⟨key, required, schema⟩ := member
            simp only [Prod.mk.sizeOf_spec] at below
            change sizeOf schema < 1 + sizeOf shape
            omega
          exact accepts_of_equal member.2.2 sameInner properInner atMember
  | .number tests =>
    cases value with
    | num text => exact same.num_left ▸ accepted
    | _ => simp [accepts] at accepted
  | .null =>
    cases value with
    | null => exact same.null_left ▸ accepted
    | _ => simp [accepts] at accepted
  | .boolean =>
    cases value with
    | bool flag => exact same.bool_left ▸ accepted
    | _ => simp [accepts] at accepted
  | .literal _ | .oneOf _ | .string _ =>
    cases value with
    | str text => exact same.str_left ▸ accepted
    | _ => simp [accepts] at accepted

end Schema
