import SdarRuntime.BusinessEvents.AdapterEvents

/-!
The canonical form of JSON values: when there is one, and which values share it. A member named
`__proto__` is assigned to the prototype of the object that is rebuilt, so it is not in the form.
-/

namespace SdarRuntime

namespace BusinessEvents

open Json

section

variable {normalize : String → String}

mutual
theorem normalizeUnicode_eq (value : Json) :
    normalizeUnicode normalize value =
      if apart normalize value = true then .ok (withoutPrototypes (composed normalize value))
      else .error "BUSINESS_EVENT_UNICODE_KEY_COLLISION" := by
  cases value with
  | arr items =>
    unfold normalizeUnicode apart composed withoutPrototypes
    rw [normalizeItems_eq items]
    split
    · rfl
    · rfl
  | obj fields =>
    have unprotected : "__proto__" ∉ ([] : List (String × Json)).map Prod.fst := List.not_mem_nil
    unfold normalizeUnicode apart composed withoutPrototypes
    rw [normalizeFields_eq [] fields unprotected]
    by_cases distinct : ((fields.map fun field => normalize field.1).filter
        (· ≠ "__proto__")).Nodup ∧ apartFields normalize fields = true
    · rw [if_pos ⟨fun _ _ => List.not_mem_nil, distinct⟩,
        if_pos (by rw [Bool.and_eq_true, decide_eq_true_eq]; exact distinct)]
      rfl
    · rw [if_neg fun parts => distinct parts.2,
        if_neg (by rw [Bool.and_eq_true, decide_eq_true_eq]; exact distinct)]
      rfl
  | null => rfl
  | bool value => rfl
  | num text => rfl
  | str text => rfl

theorem normalizeItems_eq (items : List Json) :
    normalizeItems normalize items =
      if apartItems normalize items = true then
        .ok (withoutPrototypesItems (composedItems normalize items))
      else .error "BUSINESS_EVENT_UNICODE_KEY_COLLISION" := by
  cases items with
  | nil => rfl
  | cons item rest =>
    unfold normalizeItems apartItems composedItems withoutPrototypesItems
    rw [normalizeUnicode_eq item, normalizeItems_eq rest]
    cases apart normalize item with
    | false => rfl
    | true =>
      cases apartItems normalize rest with
      | false => rfl
      | true => rfl

theorem normalizeFields_eq (result fields : List (String × Json))
    (unprotected : "__proto__" ∉ result.map Prod.fst) :
    normalizeFields normalize result fields =
      if (∀ field ∈ fields, normalize field.1 ∉ result.map Prod.fst) ∧
          ((fields.map fun field => normalize field.1).filter (· ≠ "__proto__")).Nodup ∧
          apartFields normalize fields = true then
        .ok (result ++ withoutPrototypesFields (composedFields normalize fields))
      else .error "BUSINESS_EVENT_UNICODE_KEY_COLLISION" := by
  cases fields with
  | nil =>
    rw [if_pos ⟨fun _ member => (nomatch member), List.nodup_nil, rfl⟩]
    simp [normalizeFields, composedFields, withoutPrototypesFields]
  | cons field rest =>
    obtain ⟨key, child⟩ := field
    have collides : result.any (fun member => member.1 == normalize key) = true ↔
        normalize key ∈ result.map Prod.fst := by
      simp [List.any_eq_true, List.mem_map]
    unfold normalizeFields apartFields composedFields withoutPrototypesFields
    by_cases known : normalize key ∈ result.map Prod.fst
    · rw [if_pos (collides.mpr known), if_neg fun parts => parts.1 _ List.mem_cons_self known]
    rw [if_neg fun found => known (collides.mp found), normalizeUnicode_eq child]
    by_cases inside : apart normalize child = true
    · rw [if_pos inside]
      change normalizeFields normalize _ rest = _
      by_cases special : normalize key = "__proto__"
      · rw [if_pos special, if_pos special, normalizeFields_eq result rest unprotected]
        have both : ((∀ other ∈ (key, child) :: rest, normalize other.1 ∉ result.map Prod.fst) ∧
              ((((key, child) :: rest).map fun field => normalize field.1).filter
                (· ≠ "__proto__")).Nodup ∧
              (apart normalize child && apartFields normalize rest) = true) ↔
            ((∀ other ∈ rest, normalize other.1 ∉ result.map Prod.fst) ∧
              ((rest.map fun field => normalize field.1).filter (· ≠ "__proto__")).Nodup ∧
              apartFields normalize rest = true) := by
          have dropped : ¬decide (normalize key ≠ "__proto__") = true := by
            simp [special]
          rw [List.forall_mem_cons, List.map_cons, List.filter_cons, if_neg dropped, inside,
            Bool.true_and]
          constructor
          · rintro ⟨⟨-, before⟩, others⟩
            exact ⟨before, others⟩
          · rintro ⟨before, others⟩
            exact ⟨⟨known, before⟩, others⟩
        simp only [both]
      · have stillUnprotected : "__proto__" ∉
            (result ++ [(normalize key, withoutPrototypes (composed normalize child))]).map
              Prod.fst := by
          rw [List.map_append, List.mem_append]
          rintro (before | last)
          · exact unprotected before
          · exact special (List.mem_singleton.mp last).symm
        rw [if_neg special, if_neg special, normalizeFields_eq _ rest stillUnprotected]
        have keys : (∀ other ∈ rest, normalize other.1 ∉
              (result ++ [(normalize key, withoutPrototypes (composed normalize child))]).map
                Prod.fst) ↔
            (∀ other ∈ rest, normalize other.1 ∉ result.map Prod.fst) ∧
              normalize key ∉ (rest.map fun field => normalize field.1).filter
                (· ≠ "__proto__") := by
          simp only [List.map_append, List.mem_append, List.map_cons, List.map_nil,
            List.mem_singleton, not_or, List.mem_filter, List.mem_map, not_and]
          constructor
          · intro each
            refine ⟨fun other member => (each other member).1, ?_⟩
            rintro ⟨other, member, same⟩
            exact absurd same (each other member).2
          · rintro ⟨before, new⟩ other member
            refine ⟨before other member, fun same => new ⟨other, member, same⟩ ?_⟩
            exact decide_eq_true special
        have both : ((∀ other ∈ (key, child) :: rest, normalize other.1 ∉ result.map Prod.fst) ∧
              ((((key, child) :: rest).map fun field => normalize field.1).filter
                (· ≠ "__proto__")).Nodup ∧
              (apart normalize child && apartFields normalize rest) = true) ↔
            ((∀ other ∈ rest, normalize other.1 ∉
                (result ++ [(normalize key, withoutPrototypes (composed normalize child))]).map
                  Prod.fst) ∧
              ((rest.map fun field => normalize field.1).filter (· ≠ "__proto__")).Nodup ∧
              apartFields normalize rest = true) := by
          have kept : decide (normalize key ≠ "__proto__") = true := decide_eq_true special
          rw [keys, List.forall_mem_cons, List.map_cons, List.filter_cons, if_pos kept,
            List.nodup_cons, inside, Bool.true_and]
          constructor
          · rintro ⟨⟨-, before⟩, ⟨new, distinct⟩, others⟩
            exact ⟨⟨before, new⟩, distinct, others⟩
          · rintro ⟨⟨before, new⟩, distinct, others⟩
            exact ⟨⟨known, before⟩, ⟨new, distinct⟩, others⟩
        simp only [both, List.append_assoc, List.singleton_append]
    · rw [if_neg inside, if_neg fun parts => inside (Bool.and_eq_true_iff.mp parts.2.2).1]
      rfl
end

end

theorem filter_orderedInsert (keeps : String × Json → Bool) (member : String × Json)
    {sorted : List (String × Json)} (isSorted : sorted.Pairwise Json.KeyOrder) :
    (sorted.orderedInsert Json.KeyOrder member).filter keeps =
      if keeps member = true then (sorted.filter keeps).orderedInsert Json.KeyOrder member
      else sorted.filter keeps := by
  induction sorted with
  | nil => by_cases kept : keeps member = true <;> simp [kept]
  | cons head rest ih =>
    have ⟨below, restSorted⟩ := List.pairwise_cons.mp isSorted
    rw [List.orderedInsert_cons]
    by_cases first : Json.KeyOrder member head
    · rw [if_pos first, List.filter_cons]
      by_cases kept : keeps member = true
      · rw [if_pos kept, if_pos kept]
        cases others : (head :: rest).filter keeps with
        | nil => rfl
        | cons other later =>
          have isMember : other ∈ (head :: rest).filter keeps := by
            rw [others]
            exact List.mem_cons_self
          have notBelow : Json.KeyOrder member other := by
            rcases List.mem_cons.mp (List.mem_of_mem_filter isMember) with isHead | inRest
            · rw [isHead]
              exact first
            · exact le_trans first (below other inRest)
          rw [List.orderedInsert_cons, if_pos notBelow]
      · rw [if_neg kept, if_neg kept]
    · rw [if_neg first, List.filter_cons, List.filter_cons, ih restSorted]
      by_cases keptHead : keeps head = true
      · rw [if_pos keptHead, if_pos keptHead]
        by_cases kept : keeps member = true
        · rw [if_pos kept, if_pos kept, List.orderedInsert_cons, if_neg first]
        · rw [if_neg kept, if_neg kept]
      · rw [if_neg keptHead, if_neg keptHead]

theorem filter_insertionSort (keeps : String × Json → Bool) (members : List (String × Json)) :
    (members.insertionSort Json.KeyOrder).filter keeps =
      (members.filter keeps).insertionSort Json.KeyOrder := by
  have total : Std.Total (Json.KeyOrder (α := Json)) :=
    ⟨fun left right => le_total (utf16 left.1) (utf16 right.1)⟩
  have trans : IsTrans (String × Json) Json.KeyOrder :=
    ⟨fun _ _ _ below above => le_trans below above⟩
  induction members with
  | nil => rfl
  | cons member rest ih =>
    have sorted := List.pairwise_insertionSort Json.KeyOrder rest
    rw [List.insertionSort_cons, filter_orderedInsert keeps member sorted, List.filter_cons, ih]
    by_cases kept : keeps member = true
    · rw [if_pos kept, if_pos kept, List.insertionSort_cons]
    · rw [if_neg kept, if_neg kept]

theorem withoutPrototypesItems_eq (items : List Json) :
    withoutPrototypesItems items = items.map withoutPrototypes := by
  induction items with
  | nil => rfl
  | cons item rest ih => rw [withoutPrototypesItems, ih, List.map_cons]

theorem withoutPrototypesFields_eq (fields : List (String × Json)) :
    withoutPrototypesFields fields =
      (fields.filter fun field => decide (field.1 ≠ "__proto__")).map
        fun field => (field.1, withoutPrototypes field.2) := by
  induction fields with
  | nil => rfl
  | cons field rest ih =>
    rw [withoutPrototypesFields, ih, List.filter_cons]
    by_cases special : field.1 = "__proto__"
    · have dropped : ¬decide (field.1 ≠ "__proto__") = true := by
        simp [special]
      rw [if_pos special, if_neg dropped]
    · have kept : decide (field.1 ≠ "__proto__") = true := decide_eq_true special
      rw [if_neg special, if_pos kept, List.map_cons]

theorem normal_withoutPrototypes (value : Json) :
    (withoutPrototypes value).normal = withoutPrototypes value.normal := by
  induction value using Json.induct with
  | null => rfl
  | bool flag => rfl
  | num text => rfl
  | str text => rfl
  | arr items each =>
    rw [withoutPrototypes, normal, normal, withoutPrototypes, withoutPrototypesItems_eq,
      withoutPrototypesItems_eq, normalItems_eq_map, normalItems_eq_map, List.map_map,
      List.map_map]
    exact congrArg Json.arr (List.map_congr_left each)
  | obj fields each =>
    rw [withoutPrototypes, normal, normal, withoutPrototypes,
      withoutPrototypesFields_eq, withoutPrototypesFields_eq, normalFields_eq_map,
      normalFields_eq_map, filter_insertionSort,
      List.map_insertionSort Json.KeyOrder Json.KeyOrder
        (fun field : String × Json => (field.1, withoutPrototypes field.2)) _
        (fun _ _ _ _ => Iff.rfl)]
    rw [List.filter_map, List.map_map, List.map_map]
    refine congrArg Json.obj (congrArg (List.insertionSort Json.KeyOrder) ?_)
    apply List.map_congr_left
    intro field member
    exact congrArg (Prod.mk field.1) (each field (List.mem_of_mem_filter member))

/-- The values are equal up to the normal form of their texts and keys and the order of members. -/
def SameContent (normalize : String → String) (value other : Json) : Prop :=
  Json.Equal (composed normalize value) (composed normalize other)

/-- The same, if the members of the special name are not looked at. -/
def SameOwnContent (normalize : String → String) (value other : Json) : Prop :=
  Json.Equal (withoutPrototypes (composed normalize value))
    (withoutPrototypes (composed normalize other))

variable {normalize : String → String} {value other : Json}

theorem SameContent.own (same : SameContent normalize value other) :
    SameOwnContent normalize value other := by
  unfold SameOwnContent Json.Equal
  rw [normal_withoutPrototypes, normal_withoutPrototypes]
  exact congrArg withoutPrototypes same

variable {value : Json} {text : String}

theorem canonicalJson_eq_ok (canonical : canonicalJson normalize value = .ok text) :
    (withoutPrototypes (composed normalize value)).finite = true ∧
      text = canonicalize (withoutPrototypes (composed normalize value)) := by
  unfold canonicalJson at canonical
  rw [normalizeUnicode_eq] at canonical
  split at canonical
  · change serialize (withoutPrototypes (composed normalize value)) = _ at canonical
    unfold serialize at canonical
    split at canonical
    · rename_i isFinite
      cases canonical
      exact ⟨isFinite, rfl⟩
    · cases canonical
  · cases canonical

theorem canonicalJson_eq_iff {text otherText : String}
    (canonical : canonicalJson normalize value = .ok text)
    (otherCanonical : canonicalJson normalize other = .ok otherText) :
    text = otherText ↔ SameOwnContent normalize value other := by
  have ⟨isFinite, isText⟩ := canonicalJson_eq_ok canonical
  have ⟨otherFinite, isOtherText⟩ := canonicalJson_eq_ok otherCanonical
  rw [isText, isOtherText]
  exact canonicalize_eq_iff isFinite otherFinite

theorem canonicalSha256_eq {platform : Platform}
    (canonical : canonicalJson platform.normalize value = .ok text) :
    platform.canonicalSha256 value = .ok ("sha256:" ++ platform.sha256 text) := by
  unfold Platform.canonicalSha256
  rw [canonical]
  rfl

/-- A canonical form, and so a hash without collisions, tells two values apart as it should exactly
where they do not differ in members of the special name alone. -/
theorem canonicalJson_identifies_iff {platform : Platform}
    (collisionFree : Function.Injective platform.sha256) {value other : Json}
    {text otherText : String} (canonical : canonicalJson platform.normalize value = .ok text)
    (otherCanonical : canonicalJson platform.normalize other = .ok otherText) :
    ((text = otherText ↔ SameContent platform.normalize value other) ↔
      (SameOwnContent platform.normalize value other →
        SameContent platform.normalize value other)) ∧
    ((platform.canonicalSha256 value = platform.canonicalSha256 other →
        SameContent platform.normalize value other) ↔
      (SameOwnContent platform.normalize value other →
        SameContent platform.normalize value other)) := by
  have texts := canonicalJson_eq_iff canonical otherCanonical
  have hashes : platform.canonicalSha256 value = platform.canonicalSha256 other ↔
      text = otherText := by
    rw [canonicalSha256_eq canonical, canonicalSha256_eq otherCanonical]
    constructor
    · intro same
      have appended := Except.ok.inj same
      rw [← String.toList_inj, String.toList_append, String.toList_append] at appended
      exact collisionFree (String.toList_inj.mp (List.append_cancel_left appended))
    · intro same
      rw [same]
  rw [hashes, texts]
  constructor
  · constructor
    · exact Iff.mp
    · exact fun differs => ⟨differs, SameContent.own⟩
  · exact Iff.rfl

/-- Texts are taken to be in normal form, and a hash to be the text itself. -/
def plainPlatform : Platform :=
  { providerId := "vehicle"
    normalize := id
    sha256 := id
    businessEventId := fun providerId _ _ sourceEventId => providerId ++ sourceEventId
    parsesTaskBusinessFeedbackBody := fun _ => true
    indexes := fun _ => true
    audits := fun _ => true }

theorem canonicalJson_identifies_sample :
    canonicalJson id (.obj [("b", .num "2"), ("a", .num "1")]) =
      canonicalJson id (.obj [("a", .num "1"), ("b", .num "2")]) ∧
    SameContent id (.obj [("b", .num "2"), ("a", .num "1")])
      (.obj [("a", .num "1"), ("b", .num "2")]) := by
  have collisionFree : Function.Injective plainPlatform.sha256 := Function.injective_id
  have canonical : canonicalJson plainPlatform.normalize
      (.obj [("b", .num "2"), ("a", .num "1")]) = .ok "\x7b\"a\":1,\"b\":2\x7d" := by
    decide
  have otherCanonical : canonicalJson plainPlatform.normalize
      (.obj [("a", .num "1"), ("b", .num "2")]) = .ok "\x7b\"a\":1,\"b\":2\x7d" := by
    decide
  have identifies := (canonicalJson_identifies_iff collisionFree canonical otherCanonical).1
  exact ⟨canonical.trans otherCanonical.symm, (identifies.mpr fun _ => rfl).mp rfl⟩

theorem canonicalJson_confuses :
    canonicalJson id (.obj [("__proto__", .obj [("a", .num "1")])]) =
      canonicalJson id (.obj []) ∧
    canonicalJson id (.obj []) = .ok "\x7b\x7d" ∧
    ¬SameContent id (.obj [("__proto__", .obj [("a", .num "1")])]) (.obj []) := by
  refine ⟨rfl, rfl, ?_⟩
  intro same
  cases same

end BusinessEvents

end SdarRuntime
