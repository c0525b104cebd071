import SdarRuntime.Library.Json
import Mathlib.Data.List.Perm.Basic

/-!
JSON values up to the order of their members, and the canonical serialization as a name for
them: two values without a non-finite number have the same canonical text exactly when they are
equal up to the order of members.
-/

namespace Json

/-- Induction on a value, with the hypothesis for every item and for every member's value. -/
@[elab_as_elim]
theorem induct {P : Json → Prop} (null : P .null) (bool : ∀ flag, P (.bool flag))
    (num : ∀ text, P (.num text)) (str : ∀ text, P (.str text))
    (arr : ∀ items, (∀ item ∈ items, P item) → P (.arr items))
    (obj : ∀ fields, (∀ field ∈ fields, P field.2) → P (.obj fields)) (value : Json) :
    P value := by
  refine @Json.rec P (fun items => ∀ item ∈ items, P item)
    (fun fields => ∀ field ∈ fields, P field.2) (fun field => P field.2)
    null bool num str arr obj ?_ ?_ ?_ ?_ (fun _ _ holds => holds) value
  · intro item member
    cases member
  · intro head rest first others item member
    rcases List.mem_cons.mp member with same | inRest
    · exact same ▸ first
    · exact others item inRest
  · intro field member
    cases member
  · intro head rest first others field member
    rcases List.mem_cons.mp member with same | inRest
    · exact same ▸ first
    · exact others field inRest

def numberChars : List Char := "0123456789+-.e".toList

/-- A finite number's text; `NaN` and `Infinity` are not. -/
def finiteText (text : String) : Bool :=
  text.toList != [] && text.toList.all fun char => numberChars.contains char

mutual
/-- No number in the value is `NaN` or infinite. -/
def finite : Json → Bool
  | .num text => finiteText text
  | .arr items => finiteItems items
  | .obj fields => finiteFields fields
  | _ => true

def finiteItems : List Json → Bool
  | [] => true
  | item :: rest => finite item && finiteItems rest

def finiteFields : List (String × Json) → Bool
  | [] => true
  | (_, value) :: rest => finite value && finiteFields rest
end

def KeyOrder {α : Type} (left right : String × α) : Prop :=
  utf16 left.1 ≤ utf16 right.1

instance {α : Type} : DecidableRel (KeyOrder (α := α)) :=
  fun left right => inferInstanceAs (Decidable (utf16 left.1 ≤ utf16 right.1))

mutual
def normal : Json → Json
  | .arr items => .arr (normalItems items)
  | .obj fields => .obj ((normalFields fields).insertionSort KeyOrder)
  | other => other

def normalItems : List Json → List Json
  | [] => []
  | item :: rest => normal item :: normalItems rest

def normalFields : List (String × Json) → List (String × Json)
  | [] => []
  | (key, value) :: rest => (key, normal value) :: normalFields rest
end

private theorem isNumberChar_of_isDigit {char : Char} (digit : char.isDigit = true) :
    numberChars.contains char = true := by
  have bounds := Char.isDigit_iff_toNat.mp digit
  have nine : '9'.toNat = 57 := rfl
  have zero : '0'.toNat = 48 := rfl
  have each : ∀ code ∈ List.range' 48 10, numberChars.contains (Char.ofNat code) = true := by
    decide
  have member : char.toNat ∈ List.range' 48 10 := by
    rw [List.mem_range'_1]
    omega
  have contained := each char.toNat member
  rw [Char.ofNat_toNat] at contained
  exact contained

theorem finiteText_toString (number : Nat) : finiteText (toString number) = true := by
  unfold finiteText
  rw [Bool.and_eq_true, bne_iff_ne, List.all_eq_true]
  rw [Nat.toString_eq_ofList_toDigits, String.toList_ofList]
  constructor
  · exact Nat.toDigits_ne_nil
  · intro char member
    exact isNumberChar_of_isDigit (Nat.isDigit_of_mem_toDigits (by decide) (by decide) member)

mutual
def write : Json → List Char
  | .null => ['n', 'u', 'l', 'l']
  | .bool true => ['t', 'r', 'u', 'e']
  | .bool false => ['f', 'a', 'l', 's', 'e']
  | .num text => text.toList
  | .str value => (quote value).toList
  | .arr [] => ['[', ']']
  | .arr (item :: rest) => '[' :: (write item ++ writeItems rest)
  | .obj [] => ['\x7b', '\x7d']
  | .obj ((key, value) :: rest) =>
    '\x7b' :: ((quote key).toList ++ ':' :: (write value ++ writeFields rest))

def writeItems : List Json → List Char
  | [] => [']']
  | item :: rest => ',' :: (write item ++ writeItems rest)

def writeFields : List (String × Json) → List Char
  | [] => ['\x7d']
  | (key, value) :: rest =>
    ',' :: ((quote key).toList ++ ':' :: (write value ++ writeFields rest))
end

def Follows (rest : List Char) : Prop :=
  ∀ char, rest.head? = some char → char ∉ numberChars

private def kind : Char → Nat
  | 'n' => 0
  | 't' => 1
  | 'f' => 2
  | '"' => 3
  | '[' => 4
  | '\x7b' => 5
  | ']' => 7
  | '\x7d' => 7
  | _ => 6

private def kindOf : Json → Nat
  | .null => 0
  | .bool true => 1
  | .bool false => 2
  | .str _ => 3
  | .arr _ => 4
  | .obj _ => 5
  | .num _ => 6

private theorem kind_of_number : ∀ char ∈ numberChars, kind char = 6 := by
  have each : numberChars.all (fun char => kind char == 6) = true := by
    decide
  intro char member
  exact eq_of_beq (List.all_eq_true.mp each char member)

variable {text : String}

private theorem finiteText_chars (finite : finiteText text = true) :
    text.toList ≠ [] ∧ ∀ char ∈ text.toList, char ∈ numberChars := by
  unfold finiteText at finite
  rw [Bool.and_eq_true, bne_iff_ne, List.all_eq_true] at finite
  exact ⟨finite.1, fun char member => List.contains_iff_mem.mp (finite.2 char member)⟩

private theorem kind_write (value : Json) (isFinite : value.finite = true) (rest : List Char) :
    (write value ++ rest).head?.map kind = some (kindOf value) := by
  cases value with
  | null => rfl
  | bool flag => cases flag <;> rfl
  | num text =>
    have chars := finiteText_chars isFinite
    change (text.toList ++ rest).head?.map kind = some 6
    cases textChars : text.toList with
    | nil => exact absurd textChars chars.1
    | cons char tail =>
      rw [textChars] at chars
      have code := kind_of_number char (chars.2 char List.mem_cons_self)
      simp [code]
  | str text =>
    change ((quote text).toList ++ rest).head?.map kind = some 3
    rw [quote_append]
    rfl
  | arr items => cases items <;> rfl
  | obj fields =>
    cases fields with
    | nil => rfl
    | cons member tail => rfl

variable {rest rest' : List Char}

private theorem number_cancel {text other : String} (finite : finiteText text = true)
    (finite' : finiteText other = true) (follows : Follows rest) (follows' : Follows rest')
    (same : text.toList ++ rest = other.toList ++ rest') : text = other ∧ rest = rest' := by
  have cut : ∀ (text : String) (rest : List Char), finiteText text = true → Follows rest →
      (text.toList ++ rest).takeWhile (fun char => numberChars.contains char) = text.toList := by
    intro text rest finite follows
    have chars := (finiteText_chars finite).2
    rw [List.takeWhile_append_of_pos
      (fun char member => List.contains_iff_mem.mpr (chars char member))]
    have stop : rest.takeWhile (fun char => numberChars.contains char) = [] := by
      cases rest with
      | nil => rfl
      | cons char tail =>
        have notNumber := follows char rfl
        rw [List.takeWhile_cons_of_neg]
        rw [List.contains_iff_mem]
        exact notNumber
    rw [stop, List.append_nil]
  have texts : text.toList = other.toList := by
    rw [← cut text rest finite follows, same, cut other rest' finite' follows']
  rw [texts] at same
  exact ⟨String.toList_inj.mp texts, List.append_cancel_left same⟩

private theorem follows_items (items : List Json) (rest : List Char) :
    Follows (writeItems items ++ rest) := by
  intro char first
  cases items with
  | nil =>
    cases first
    decide
  | cons item tail =>
    cases first
    decide

private theorem follows_fields (fields : List (String × Json)) (rest : List Char) :
    Follows (writeFields fields ++ rest) := by
  intro char first
  cases fields with
  | nil =>
    cases first
    decide
  | cons member tail =>
    cases first
    decide

/-- What is written for a value can be read back, whatever follows it. -/
def Cancels (value : Json) : Prop :=
  ∀ (other : Json) (rest rest' : List Char),
    value.finite = true → other.finite = true → Follows rest → Follows rest' →
      write value ++ rest = write other ++ rest' → value = other ∧ rest = rest'

private theorem kindOf_ne_close (value : Json) : kindOf value ≠ 7 := by
  cases value with
  | bool flag => cases flag <;> decide
  | _ => intro same; cases same

variable {value : Json}

private theorem write_ne_close (isFinite : value.finite = true) {close : Char}
    {tail rest : List Char} (closing : kind close = 7) :
    close :: tail ≠ write value ++ rest := by
  intro same
  have first := congrArg (fun chars => chars.head?.map kind) same
  rw [kind_write value isFinite] at first
  exact kindOf_ne_close value (Option.some.inj first ▸ closing)

private theorem kindOf_eq {value other : Json} (finiteValue : value.finite = true)
    (finiteOther : other.finite = true) (same : write value ++ rest = write other ++ rest') :
    kindOf value = kindOf other := by
  have first := congrArg (fun chars => chars.head?.map kind) same
  rw [kind_write value finiteValue, kind_write other finiteOther] at first
  exact Option.some.inj first

private theorem items_cancel (items : List Json) : ∀ (others : List Json) (rest rest' : List Char),
    (∀ item ∈ items, Cancels item) → finiteItems items = true → finiteItems others = true →
      writeItems items ++ rest = writeItems others ++ rest' → items = others ∧ rest = rest' := by
  induction items with
  | nil =>
    intro others rest rest' _ _ _ same
    cases others with
    | nil => exact ⟨rfl, List.append_cancel_left same⟩
    | cons other others => cases same
  | cons item items ih =>
    intro others rest rest' each finiteItems finiteOthers same
    cases others with
    | nil => cases same
    | cons other others =>
      simp only [Json.finiteItems, Bool.and_eq_true] at finiteItems finiteOthers
      simp only [writeItems, List.cons_append, List.append_assoc, List.cons.injEq,
        true_and] at same
      have heads := each item List.mem_cons_self other _ _ finiteItems.1 finiteOthers.1
        (follows_items items rest) (follows_items others rest') same
      have tails := ih others rest rest'
        (fun other member => each other (List.mem_cons_of_mem item member))
        finiteItems.2 finiteOthers.2 heads.2
      exact ⟨by rw [heads.1, tails.1], tails.2⟩

private theorem fields_cancel (fields : List (String × Json)) :
    ∀ (others : List (String × Json)) (rest rest' : List Char),
      (∀ field ∈ fields, Cancels field.2) → finiteFields fields = true →
        finiteFields others = true → writeFields fields ++ rest = writeFields others ++ rest' →
          fields = others ∧ rest = rest' := by
  induction fields with
  | nil =>
    intro others rest rest' _ _ _ same
    cases others with
    | nil => exact ⟨rfl, List.append_cancel_left same⟩
    | cons other others => cases same
  | cons field fields ih =>
    intro others rest rest' each finiteFields finiteOthers same
    cases others with
    | nil => cases same
    | cons other others =>
      obtain ⟨key, value⟩ := field
      obtain ⟨key', value'⟩ := other
      simp only [Json.finiteFields, Bool.and_eq_true] at finiteFields finiteOthers
      simp only [writeFields, List.cons_append, List.append_assoc, List.cons.injEq,
        true_and] at same
      have keys := quote_cancel same
      have values := (List.cons.inj keys.2).2
      have heads := each (key, value) List.mem_cons_self value' _ _ finiteFields.1
        finiteOthers.1 (follows_fields fields rest) (follows_fields others rest') values
      have tails := ih others rest rest'
        (fun other member => each other (List.mem_cons_of_mem (key, value) member))
        finiteFields.2 finiteOthers.2 heads.2
      have sameValue : value = value' := heads.1
      exact ⟨by rw [keys.1, sameValue, tails.1], tails.2⟩

private theorem arr_cancel (items : List Json) (each : ∀ item ∈ items, Cancels item)
    (others : List Json) (rest rest' : List Char)
    (finiteItems : (Json.arr items).finite = true) (finiteOthers : (Json.arr others).finite = true)
    (same : write (.arr items) ++ rest = write (.arr others) ++ rest') :
    items = others ∧ rest = rest' := by
  cases items with
  | nil =>
    cases others with
    | nil => exact ⟨rfl, List.append_cancel_left same⟩
    | cons other others =>
      simp only [finite, Json.finiteItems, Bool.and_eq_true] at finiteOthers
      simp only [write, List.cons_append, List.append_assoc, List.cons.injEq,
        true_and] at same
      exact absurd same (write_ne_close finiteOthers.1 rfl)
  | cons item items =>
    simp only [finite, Json.finiteItems, Bool.and_eq_true] at finiteItems
    cases others with
    | nil =>
      simp only [write, List.cons_append, List.append_assoc, List.cons.injEq,
        true_and] at same
      exact absurd same.symm (write_ne_close finiteItems.1 rfl)
    | cons other others =>
      simp only [finite, Json.finiteItems, Bool.and_eq_true] at finiteOthers
      simp only [write, List.cons_append, List.append_assoc, List.cons.injEq,
        true_and] at same
      have heads := each item List.mem_cons_self other _ _ finiteItems.1 finiteOthers.1
        (follows_items items rest) (follows_items others rest') same
      have tails := items_cancel items others rest rest'
        (fun other member => each other (List.mem_cons_of_mem item member))
        finiteItems.2 finiteOthers.2 heads.2
      exact ⟨by rw [heads.1, tails.1], tails.2⟩

private theorem obj_cancel (fields : List (String × Json)) (each : ∀ field ∈ fields, Cancels field.2)
    (others : List (String × Json)) (rest rest' : List Char)
    (finiteFields : (Json.obj fields).finite = true) (finiteOthers : (Json.obj others).finite = true)
    (same : write (.obj fields) ++ rest = write (.obj others) ++ rest') :
    fields = others ∧ rest = rest' := by
  cases fields with
  | nil =>
    cases others with
    | nil => exact ⟨rfl, List.append_cancel_left same⟩
    | cons other others =>
      simp only [write, List.cons_append, List.append_assoc, List.cons.injEq, true_and,
        quote_append] at same
      cases same.1
  | cons field fields =>
    obtain ⟨key, value⟩ := field
    simp only [finite, Json.finiteFields, Bool.and_eq_true] at finiteFields
    cases others with
    | nil =>
      simp only [write, List.cons_append, List.append_assoc, List.cons.injEq, true_and,
        quote_append] at same
      cases same.1
    | cons other others =>
      obtain ⟨key', value'⟩ := other
      simp only [finite, Json.finiteFields, Bool.and_eq_true] at finiteOthers
      simp only [write, List.cons_append, List.append_assoc, List.cons.injEq,
        true_and] at same
      have keys := quote_cancel same
      have values := (List.cons.inj keys.2).2
      have heads := each (key, value) List.mem_cons_self value' _ _ finiteFields.1
        finiteOthers.1 (follows_fields fields rest) (follows_fields others rest') values
      have tails := fields_cancel fields others rest rest'
        (fun other member => each other (List.mem_cons_of_mem (key, value) member))
        finiteFields.2 finiteOthers.2 heads.2
      have sameValue : value = value' := heads.1
      exact ⟨by rw [keys.1, sameValue, tails.1], tails.2⟩

theorem write_cancel (value : Json) : Cancels value := by
  induction value using induct with
  | null =>
    intro other rest rest' finiteValue finiteOther _ _ same
    have kinds := kindOf_eq finiteValue finiteOther same
    cases other with
    | null => exact ⟨rfl, List.append_cancel_left same⟩
    | bool flag => cases flag <;> cases kinds
    | _ => cases kinds
  | bool flag =>
    intro other rest rest' finiteValue finiteOther _ _ same
    have kinds := kindOf_eq finiteValue finiteOther same
    cases other with
    | bool flag' =>
      have flags : flag = flag' := by
        cases flag <;> cases flag' <;> first | rfl | cases kinds
      subst flags
      exact ⟨rfl, List.append_cancel_left same⟩
    | _ => cases flag <;> cases kinds
  | num text =>
    intro other rest rest' finiteValue finiteOther follows follows' same
    have kinds := kindOf_eq finiteValue finiteOther same
    cases other with
    | num text' =>
      have both := number_cancel finiteValue finiteOther follows follows' same
      exact ⟨by rw [both.1], both.2⟩
    | bool flag => cases flag <;> cases kinds
    | _ => cases kinds
  | str text =>
    intro other rest rest' finiteValue finiteOther _ _ same
    have kinds := kindOf_eq finiteValue finiteOther same
    cases other with
    | str text' =>
      have both := quote_cancel same
      exact ⟨by rw [both.1], both.2⟩
    | bool flag => cases flag <;> cases kinds
    | _ => cases kinds
  | arr items each =>
    intro other rest rest' finiteValue finiteOther _ _ same
    have kinds := kindOf_eq finiteValue finiteOther same
    cases other with
    | arr items' =>
      have both := arr_cancel items each items' rest rest' finiteValue finiteOther same
      exact ⟨by rw [both.1], both.2⟩
    | bool flag => cases flag <;> cases kinds
    | _ => cases kinds
  | obj fields each =>
    intro other rest rest' finiteValue finiteOther _ _ same
    have kinds := kindOf_eq finiteValue finiteOther same
    cases other with
    | obj fields' =>
      have both := obj_cancel fields each fields' rest rest' finiteValue finiteOther same
      exact ⟨by rw [both.1], both.2⟩
    | bool flag => cases flag <;> cases kinds
    | _ => cases kinds

theorem write_injective {value other : Json} (finiteValue : value.finite = true)
    (finiteOther : other.finite = true) (same : write value = write other) : value = other := by
  have nothing : Follows [] := fun char first => by cases first
  exact (write_cancel value other [] [] finiteValue finiteOther nothing nothing (by rw [same])).1

theorem normalItems_eq_map (items : List Json) : normalItems items = items.map normal := by
  induction items with
  | nil => rfl
  | cons item rest ih => rw [normalItems, ih, List.map_cons]

theorem normalFields_eq_map (fields : List (String × Json)) :
    normalFields fields = fields.map fun field => (field.1, normal field.2) := by
  induction fields with
  | nil => rfl
  | cons field rest ih => rw [normalFields, ih, List.map_cons]

theorem finiteItems_eq_all (items : List Json) : finiteItems items = items.all finite := by
  induction items with
  | nil => rfl
  | cons item rest ih => rw [finiteItems, ih, List.all_cons]

theorem finiteFields_eq_all (fields : List (String × Json)) :
    finiteFields fields = fields.all fun field => finite field.2 := by
  induction fields with
  | nil => rfl
  | cons field rest ih => rw [finiteFields, ih, List.all_cons]

private theorem all_congr {α : Type} {list : List α} {test test' : α → Bool}
    (same : ∀ element ∈ list, test element = test' element) : list.all test = list.all test' := by
  rw [Bool.eq_iff_iff, List.all_eq_true, List.all_eq_true]
  exact forall₂_congr fun element member => by rw [same element member]

theorem finite_normal (value : Json) : value.normal.finite = value.finite := by
  induction value using induct with
  | arr items each =>
    rw [normal, finite, finite, finiteItems_eq_all, finiteItems_eq_all, normalItems_eq_map,
      List.all_map]
    exact all_congr fun item member => each item member
  | obj fields each =>
    rw [normal, finite, finite, finiteFields_eq_all, finiteFields_eq_all,
      (List.perm_insertionSort KeyOrder _).all_eq, normalFields_eq_map, List.all_map]
    exact all_congr fun field member => each field member
  | _ => rfl

theorem canonicalizeItems_eq_map (items : List Json) :
    canonicalizeItems items = items.map canonicalize := by
  induction items with
  | nil => rfl
  | cons item rest ih => rw [canonicalizeItems, ih, List.map_cons]

theorem canonicalizeFields_eq_map (fields : List (String × Json)) :
    canonicalizeFields fields = fields.map fun field => (field.1, canonicalize field.2) := by
  induction fields with
  | nil => rfl
  | cons field rest ih => rw [canonicalizeFields, ih, List.map_cons]

private theorem writeItems_eq (items : List Json) :
    writeItems items = (items.flatMap fun item => ',' :: write item) ++ [']'] := by
  induction items with
  | nil => rfl
  | cons item rest ih => simp [writeItems, ih]

private theorem intercalate_toList (first : String) (rest : List String) :
    (String.intercalate "," (first :: rest)).toList =
      first.toList ++ rest.flatMap fun text => ',' :: text.toList := by
  rw [String.toList_intercalate]
  induction rest generalizing first with
  | nil => simp
  | cons second others ih =>
    have inner := ih second
    simp only [List.map_cons] at inner ⊢
    rw [List.intercalate_cons_cons, inner]
    simp

private theorem writeItems_normal (items : List Json)
    (each : ∀ item ∈ items, (canonicalize item).toList = write item.normal) :
    (items.map canonicalize).flatMap (fun text => ',' :: text.toList) ++ [']'] =
      writeItems (items.map normal) := by
  rw [writeItems_eq, List.flatMap_map, List.flatMap_map]
  congr 1
  exact List.flatMap_congr fun item member => by rw [each item member]

private theorem writeFields_normal (fields : List (String × Json))
    (each : ∀ field ∈ fields, (canonicalize field.2).toList = write field.2.normal) :
    (fields.map fun field => quote field.1 ++ ":" ++ canonicalize field.2).flatMap
        (fun text => ',' :: text.toList) ++ ['\x7d'] =
      writeFields (fields.map fun field => (field.1, normal field.2)) := by
  induction fields with
  | nil => rfl
  | cons field rest ih =>
    have tails := ih fun other member => each other (List.mem_cons_of_mem field member)
    rw [List.map_cons, List.map_cons, writeFields, ← tails, List.flatMap_cons,
      String.toList_append, String.toList_append, each field List.mem_cons_self]
    simp only [List.append_assoc, List.cons_append]
    rfl

private theorem canonicalize_fields (fields : List (String × Json)) :
    canonicalize (.obj fields) = "\x7b" ++ String.intercalate ","
      ((fields.insertionSort KeyOrder).map
        fun field => quote field.1 ++ ":" ++ canonicalize field.2) ++ "\x7d" := by
  rw [canonicalize, canonicalizeFields_eq_map, ← List.map_insertionSort KeyOrder]
  · simp only [List.map_map, Function.comp_def]
  · intro left _ right _
    unfold KeyOrder
    exact decide_eq_true_iff.symm

private theorem normal_fields (fields : List (String × Json)) :
    normal (.obj fields) =
      .obj ((fields.insertionSort KeyOrder).map fun field => (field.1, normal field.2)) := by
  rw [normal, normalFields_eq_map, List.map_insertionSort KeyOrder KeyOrder]
  intro left _ right _
  exact Iff.rfl

/-- The canonical text is what is written for the value with its members sorted. -/
theorem canonicalize_toList (value : Json) : (canonicalize value).toList = write value.normal := by
  induction value using induct with
  | null => simp [canonicalize, stringify, normal, write]
  | bool flag => cases flag <;> simp [canonicalize, stringify, normal, write]
  | num text => simp [canonicalize, stringify, normal, write]
  | str text => simp [canonicalize, stringify, normal, write]
  | arr items each =>
    rw [canonicalize, canonicalizeItems_eq_map, normal, normalItems_eq_map]
    cases items with
    | nil => simp [write]
    | cons item rest =>
      have tails := writeItems_normal rest
        (fun other member => each other (List.mem_cons_of_mem item member))
      rw [List.map_cons, List.map_cons, write, ← tails, String.toList_append,
        String.toList_append, intercalate_toList, each item List.mem_cons_self]
      simp [List.append_assoc]
  | obj fields each =>
    rw [canonicalize_fields, normal_fields]
    have eachSorted : ∀ field ∈ fields.insertionSort KeyOrder,
        (canonicalize field.2).toList = write field.2.normal :=
      fun field member => each field ((List.mem_insertionSort KeyOrder).mp member)
    cases sorted : fields.insertionSort KeyOrder with
    | nil => simp [write]
    | cons field rest =>
      rw [sorted] at eachSorted
      have tails := writeFields_normal rest
        (fun other member => eachSorted other (List.mem_cons_of_mem field member))
      rw [List.map_cons, List.map_cons, write, ← tails, String.toList_append,
        String.toList_append, intercalate_toList, String.toList_append, String.toList_append,
        eachSorted field List.mem_cons_self]
      simp [List.append_assoc]

/-- Without non-finite numbers the canonical text is a name of the value up to the order of
members. -/
theorem canonicalize_eq_iff {value other : Json} (finiteValue : value.finite = true)
    (finiteOther : other.finite = true) :
    canonicalize value = canonicalize other ↔ value.normal = other.normal := by
  constructor
  · intro same
    have written := congrArg String.toList same
    rw [canonicalize_toList, canonicalize_toList] at written
    exact write_injective ((finite_normal value).trans finiteValue)
      ((finite_normal other).trans finiteOther) written
  · intro same
    apply String.toList_inj.mp
    rw [canonicalize_toList, canonicalize_toList, same]

def Distinct {α : Type} (fields : List (String × α)) : Prop :=
  (fields.map Prod.fst).Nodup

instance {α : Type} (fields : List (String × α)) : Decidable (Distinct fields) :=
  inferInstanceAs (Decidable (fields.map Prod.fst).Nodup)

variable {key : String} {fields : List (String × Json)}

theorem lookup_of_mem (distinct : Distinct fields) (member : (key, value) ∈ fields) :
    lookup key fields = some value := by
  induction fields with
  | nil => cases member
  | cons field rest ih =>
    obtain ⟨name, old⟩ := field
    have parts := List.nodup_cons.mp distinct
    rcases List.mem_cons.mp member with same | inRest
    · cases same
      rw [lookup, if_pos rfl]
    · have different : name ≠ key := by
        intro same
        exact parts.1 (List.mem_map.mpr ⟨(key, value), inRest, same.symm⟩)
      rw [lookup, if_neg different]
      exact ih parts.2 inRest

theorem lookup_eq_some_iff (distinct : Distinct fields) :
    lookup key fields = some value ↔ (key, value) ∈ fields :=
  ⟨mem_of_lookup, lookup_of_mem distinct⟩

variable {f : Json → Json}

theorem lookup_map (key : String) (fields : List (String × Json)) :
    lookup key (fields.map fun field => (field.1, f field.2)) = (lookup key fields).map f := by
  induction fields with
  | nil => rfl
  | cons field rest ih =>
    by_cases same : field.1 = key
    · simp [lookup, same]
    · simp [lookup, same, ih]

theorem distinct_map (distinct : Distinct fields) :
    Distinct (fields.map fun field => (field.1, f field.2)) := by
  unfold Distinct
  rw [List.map_map]
  exact distinct

variable {fields others : List (String × Json)}

private theorem sorted_eq_of_perm (distinct : Distinct fields) (rearranged : fields.Perm others) :
    fields.insertionSort KeyOrder = others.insertionSort KeyOrder := by
  have total : ∀ left right : String × Json, KeyOrder left right ∨ KeyOrder right left :=
    fun left right => le_total (utf16 left.1) (utf16 right.1)
  have trans : ∀ first second third : String × Json,
      KeyOrder first second → KeyOrder second third → KeyOrder first third :=
    fun first second third below above => le_trans below above
  have : Std.Total (KeyOrder (α := Json)) := ⟨total⟩
  have : IsTrans (String × Json) KeyOrder := ⟨trans⟩
  refine List.Perm.eq_of_pairwise ?_ (List.pairwise_insertionSort KeyOrder fields)
    (List.pairwise_insertionSort KeyOrder others) ?_
  · intro left right inLeft inRight below above
    have sameKey : left.1 = right.1 := utf16_injective (le_antisymm below above)
    have leftFound := lookup_of_mem distinct ((List.mem_insertionSort KeyOrder).mp inLeft)
    have inFields := rearranged.mem_iff.mpr ((List.mem_insertionSort KeyOrder).mp inRight)
    have rightFound := lookup_of_mem distinct inFields
    rw [sameKey, rightFound] at leftFound
    exact Prod.ext sameKey (Option.some.inj leftFound).symm
  · exact ((List.perm_insertionSort KeyOrder fields).trans rearranged).trans
      (List.perm_insertionSort KeyOrder others).symm

theorem normal_obj_eq (distinct : Distinct fields) (distinct' : Distinct others)
    (same : ∀ key, (lookup key fields).map normal = (lookup key others).map normal) :
    normal (.obj fields) = normal (.obj others) := by
  have rearranged : (normalFields fields).Perm (normalFields others) := by
    rw [normalFields_eq_map, normalFields_eq_map]
    have nodup := (distinct_map (f := normal) distinct).of_map
    have nodup' := (distinct_map (f := normal) distinct').of_map
    rw [List.perm_ext_iff_of_nodup nodup nodup']
    intro field
    obtain ⟨key, value⟩ := field
    rw [← lookup_eq_some_iff (distinct_map distinct), ← lookup_eq_some_iff (distinct_map distinct'),
      lookup_map, lookup_map, same key]
  have distinctNormal : Distinct (normalFields fields) := by
    rw [normalFields_eq_map]
    exact distinct_map distinct
  rw [normal, normal, sorted_eq_of_perm distinctNormal rearranged]

theorem lookup_eq_none (absent : ∀ field ∈ fields, field.1 ≠ key) : lookup key fields = none := by
  cases found : lookup key fields with
  | none => rfl
  | some value => exact absurd rfl (absent (key, value) (mem_of_lookup found))

/-- Equality of JSON values: the order in which an object has its members does not count. -/
def Equal (value other : Json) : Prop := value.normal = other.normal

theorem Equal.refl (value : Json) : Equal value value := rfl

theorem Equal.symm {value other : Json} (same : Equal value other) : Equal other value :=
  Eq.symm same

theorem Equal.trans {first second third : Json} (same : Equal first second)
    (same' : Equal second third) : Equal first third :=
  Eq.trans same same'

theorem canonicalize_of_equal {value other : Json} (same : Equal value other) :
    canonicalize value = canonicalize other := by
  apply String.toList_inj.mp
  rw [canonicalize_toList, canonicalize_toList, show value.normal = other.normal from same]

theorem finite_of_equal {value other : Json} (same : Equal value other) :
    value.finite = other.finite := by
  rw [← finite_normal value, ← finite_normal other, show value.normal = other.normal from same]

private theorem mem_normal_iff (distinct : Distinct fields) :
    (key, value) ∈ (normalFields fields).insertionSort KeyOrder ↔
      (lookup key fields).map normal = some value := by
  rw [List.mem_insertionSort, normalFields_eq_map, ← lookup_map,
    lookup_eq_some_iff (distinct_map distinct)]

theorem lookup_of_equal (distinct : Distinct fields) (distinct' : Distinct others)
    (same : Equal (.obj fields) (.obj others)) (key : String) :
    (lookup key fields).map normal = (lookup key others).map normal := by
  have lists : (normalFields fields).insertionSort KeyOrder =
      (normalFields others).insertionSort KeyOrder := by
    simpa [Equal, normal] using same
  apply Option.ext
  intro value
  rw [← mem_normal_iff distinct, ← mem_normal_iff distinct', lists]

theorem equal_of_perm (distinct : Distinct fields) (rearranged : fields.Perm others) :
    Equal (.obj fields) (.obj others) := by
  have distinctNormal : Distinct (normalFields fields) := by
    rw [normalFields_eq_map]
    exact distinct_map distinct
  have normalPerm : (normalFields fields).Perm (normalFields others) := by
    rw [normalFields_eq_map, normalFields_eq_map]
    exact rearranged.map _
  unfold Equal
  rw [normal, normal, sorted_eq_of_perm distinctNormal normalPerm]

mutual
def proper : Json → Bool
  | .arr items => properItems items
  | .obj fields => decide (Distinct fields) && properFields fields
  | _ => true

def properItems : List Json → Bool
  | [] => true
  | item :: rest => proper item && properItems rest

def properFields : List (String × Json) → Bool
  | [] => true
  | (_, value) :: rest => proper value && properFields rest
end

variable {items : List Json}

theorem proper_item (isProper : (Json.arr items).proper = true) {item : Json}
    (member : item ∈ items) : item.proper = true := by
  change properItems items = true at isProper
  induction items with
  | nil => cases member
  | cons head rest ih =>
    rw [properItems, Bool.and_eq_true] at isProper
    rcases List.mem_cons.mp member with same | inRest
    · exact same ▸ isProper.1
    · exact ih inRest isProper.2

theorem proper_distinct (isProper : (Json.obj fields).proper = true) : Distinct fields := by
  rw [proper, Bool.and_eq_true, decide_eq_true_eq] at isProper
  exact isProper.1

theorem proper_value (isProper : (Json.obj fields).proper = true) {field : String × Json}
    (member : field ∈ fields) : field.2.proper = true := by
  rw [proper, Bool.and_eq_true] at isProper
  have each := isProper.2
  clear isProper
  induction fields with
  | nil => cases member
  | cons head rest ih =>
    rw [properFields, Bool.and_eq_true] at each
    rcases List.mem_cons.mp member with same | inRest
    · exact same ▸ each.1
    · exact ih inRest each.2

namespace Equal

theorem null_left (same : Equal .null value) : value = .null := by
  cases value with
  | null => rfl
  | _ => simp [Equal, normal] at same

theorem bool_left {flag : Bool} (same : Equal (.bool flag) value) :
    .bool flag = value := by
  cases value with
  | bool other => exact same
  | _ => simp [Equal, normal] at same

theorem num_left (same : Equal (.num text) value) :
    .num text = value := by
  cases value with
  | num other => exact same
  | _ => simp [Equal, normal] at same

theorem str_left (same : Equal (.str text) value) :
    .str text = value := by
  cases value with
  | str other => exact same
  | _ => simp [Equal, normal] at same

theorem arr_left (same : Equal (.arr items) value) :
    ∃ items', value = .arr items' ∧ items.map normal = items'.map normal := by
  cases value with
  | arr items' =>
    have images : normalItems items = normalItems items' := by
      simpa [Equal, normal] using same
    rw [normalItems_eq_map, normalItems_eq_map] at images
    exact ⟨items', rfl, images⟩
  | _ => simp [Equal, normal] at same

theorem obj_left (same : Equal (.obj fields) value) : ∃ fields', value = .obj fields' := by
  cases value with
  | obj fields' => exact ⟨fields', rfl⟩
  | _ => simp [Equal, normal] at same

end Equal

end Json
