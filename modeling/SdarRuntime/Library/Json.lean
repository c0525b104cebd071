import Mathlib.Data.List.Lex
import Mathlib.Data.List.Sort

/-!
JSON values as programs in JavaScript see them: serialization, a canonical
serialization with sorted keys, member access and object spread. A number keeps the
text it is written with; an object keeps its members in insertion order.
-/

inductive Json where
  | null
  | bool (value : Bool)
  | num (text : String)
  | str (value : String)
  | arr (items : List Json)
  | obj (fields : List (String × Json))

namespace Json

instance : Inhabited Json := ⟨.null⟩

private def hexDigit (digit : Nat) : Char :=
  if digit < 10 then Char.ofNat (48 + digit) else Char.ofNat (87 + digit)

/-- The escapes `JSON.stringify` uses inside a string literal. -/
private def quoteChar (char : Char) : List Char :=
  if char = '"' then ['\\', '"']
  else if char = '\\' then ['\\', '\\']
  else if char.toNat = 8 then ['\\', 'b']
  else if char.toNat = 12 then ['\\', 'f']
  else if char.toNat = 10 then ['\\', 'n']
  else if char.toNat = 13 then ['\\', 'r']
  else if char.toNat = 9 then ['\\', 't']
  else if char.toNat < 32 then
    ['\\', 'u', '0', '0', hexDigit (char.toNat / 16), hexDigit (char.toNat % 16)]
  else [char]

def quote (text : String) : String :=
  "\"" ++ String.ofList (text.toList.flatMap quoteChar) ++ "\""

mutual
/-- `JSON.stringify` without spaces. -/
def stringify : Json → String
  | .null => "null"
  | .bool true => "true"
  | .bool false => "false"
  | .num text => text
  | .str value => quote value
  | .arr items => "[" ++ String.intercalate "," (stringifyItems items) ++ "]"
  | .obj fields => "\x7b" ++ String.intercalate "," (stringifyFields fields) ++ "\x7d"

def stringifyItems : List Json → List String
  | [] => []
  | item :: rest => stringify item :: stringifyItems rest

def stringifyFields : List (String × Json) → List String
  | [] => []
  | (key, value) :: rest => (quote key ++ ":" ++ stringify value) :: stringifyFields rest
end

def utf16 (text : String) : List Nat :=
  text.toList.flatMap fun char =>
    if char.toNat < 0x10000 then [char.toNat]
    else [0xD800 + (char.toNat - 0x10000) / 0x400, 0xDC00 + (char.toNat - 0x10000) % 0x400]

private def keyLe (left right : String × String) : Bool :=
  decide (utf16 left.1 ≤ utf16 right.1)

mutual
def canonicalize : Json → String
  | .arr items => "[" ++ String.intercalate "," (canonicalizeItems items) ++ "]"
  | .obj fields =>
    "\x7b" ++ String.intercalate ","
      (((canonicalizeFields fields).insertionSort (fun left right => keyLe left right = true)).map
        fun member => quote member.1 ++ ":" ++ member.2) ++ "\x7d"
  | other => stringify other

def canonicalizeItems : List Json → List String
  | [] => []
  | item :: rest => canonicalize item :: canonicalizeItems rest

def canonicalizeFields : List (String × Json) → List (String × String)
  | [] => []
  | (key, value) :: rest => (key, canonicalize value) :: canonicalizeFields rest
end

def same (left right : Json) : Bool :=
  canonicalize left == canonicalize right

def lookup (key : String) : List (String × Json) → Option Json
  | [] => none
  | (name, value) :: rest => if name = key then some value else lookup key rest

/-- `value[key]`; only an object has members. -/
def field? (key : String) : Json → Option Json
  | .obj fields => lookup key fields
  | _ => none

/-- Assignment of one member: in place when the key is there, otherwise at the end. -/
def assign (key : String) (value : Json) : List (String × Json) → List (String × Json)
  | [] => [(key, value)]
  | (name, old) :: rest =>
    if name = key then (key, value) :: rest else (name, old) :: assign key value rest

def spread (base : List (String × Json)) (extra : List (String × Json)) :
    List (String × Json) :=
  extra.foldl (fun fields member => assign member.1 member.2 fields) base

def members : Json → List (String × Json)
  | .obj fields => fields
  | _ => []

def text? : Json → Option String
  | .str value => some value
  | _ => none

def isRecord : Json → Bool
  | .obj _ => true
  | _ => false

/-- `Object.keys`, of an absent value too. -/
def keys : Option Json → List String
  | some (.obj fields) => fields.map Prod.fst
  | some (.arr items) => (List.range items.length).map toString
  | some (.str text) => (List.range (utf16 text).length).map toString
  | _ => []

def inheritedNames : List String :=
  ["constructor", "__defineGetter__", "__defineSetter__", "hasOwnProperty", "__lookupGetter__",
    "__lookupSetter__", "isPrototypeOf", "propertyIsEnumerable", "toString", "valueOf",
    "__proto__", "toLocaleString"]

mutual
/-- `String(value)`. -/
def asText : Json → String
  | .null => "null"
  | .bool true => "true"
  | .bool false => "false"
  | .num text => text
  | .str value => value
  | .arr items => String.intercalate "," (itemTexts items)
  | .obj _ => "[object Object]"

/-- The items as `Array.prototype.join` writes them: null is empty. -/
def itemTexts : List Json → List String
  | [] => []
  | .null :: rest => "" :: itemTexts rest
  | item :: rest => asText item :: itemTexts rest
end

/-! ### Texts

What `quote` and `utf16` write can be read back, so neither confuses two texts.
-/

private def hexValue (char : Char) : Nat :=
  if char.toNat < 58 then char.toNat - 48 else char.toNat - 87

private def unquoteChar : List Char → Option (Char × List Char)
  | '\\' :: 'u' :: _ :: _ :: high :: low :: rest =>
    some (Char.ofNat (hexValue high * 16 + hexValue low), rest)
  | '\\' :: 'b' :: rest => some (Char.ofNat 8, rest)
  | '\\' :: 'f' :: rest => some (Char.ofNat 12, rest)
  | '\\' :: 'n' :: rest => some (Char.ofNat 10, rest)
  | '\\' :: 'r' :: rest => some (Char.ofNat 13, rest)
  | '\\' :: 't' :: rest => some (Char.ofNat 9, rest)
  | '\\' :: other :: rest => some (other, rest)
  | '"' :: _ => none
  | char :: rest => some (char, rest)
  | [] => none

private theorem char_eq_ofNat {char : Char} {code : Nat} (same : char.toNat = code) :
    char = Char.ofNat code := by
  rw [← same, Char.ofNat_toNat]

private theorem hexValue_hexDigit : ∀ code < 32,
    hexValue (hexDigit (code / 16)) * 16 + hexValue (hexDigit (code % 16)) = code := by
  decide

private theorem unquoteChar_quoteChar (char : Char) (rest : List Char) :
    unquoteChar (quoteChar char ++ rest) = some (char, rest) := by
  unfold quoteChar
  split
  next same => subst same; rfl
  split
  next same => subst same; rfl
  split
  next same => rw [char_eq_ofNat same]; rfl
  split
  next same => rw [char_eq_ofNat same]; rfl
  split
  next same => rw [char_eq_ofNat same]; rfl
  split
  next same => rw [char_eq_ofNat same]; rfl
  split
  next same => rw [char_eq_ofNat same]; rfl
  split
  next small =>
    have code := hexValue_hexDigit char.toNat small
    simp [unquoteChar, code]
  next notQuote notSlash _ _ _ _ _ _ =>
    rw [List.singleton_append]
    unfold unquoteChar
    split <;> simp_all

variable {rest rest' : List Char}

theorem quoted_cancel {text other : List Char}
    (same : text.flatMap quoteChar ++ '"' :: rest = other.flatMap quoteChar ++ '"' :: rest') :
    text = other ∧ rest = rest' := by
  induction text generalizing other with
  | nil =>
    cases other with
    | nil => simpa using same
    | cons char tail =>
      have read := congrArg unquoteChar same
      rw [List.flatMap_cons, List.append_assoc, unquoteChar_quoteChar] at read
      cases read
  | cons char tail ih =>
    cases other with
    | nil =>
      have read := congrArg unquoteChar same
      rw [List.flatMap_cons, List.append_assoc, unquoteChar_quoteChar] at read
      cases read
    | cons char' tail' =>
      have read := congrArg unquoteChar same
      rw [List.flatMap_cons, List.flatMap_cons, List.append_assoc, List.append_assoc,
        unquoteChar_quoteChar, unquoteChar_quoteChar] at read
      simp only [Option.some.injEq, Prod.mk.injEq] at read
      have tails := ih read.2
      exact ⟨by rw [read.1, tails.1], tails.2⟩

theorem quote_append (text : String) (rest : List Char) :
    (quote text).toList ++ rest = '"' :: (text.toList.flatMap quoteChar ++ '"' :: rest) := by
  simp [quote]

theorem quote_cancel {text other : String}
    (same : (quote text).toList ++ rest = (quote other).toList ++ rest') :
    text = other ∧ rest = rest' := by
  rw [quote_append, quote_append, List.cons.injEq] at same
  have both := quoted_cancel same.2
  exact ⟨String.toList_inj.mp both.1, both.2⟩

private def readUnits : List Nat → Option (Char × List Nat)
  | [] => none
  | [unit] => some (Char.ofNat unit, [])
  | first :: second :: rest =>
    if 0xD800 ≤ first ∧ first < 0xE000 then
      some (Char.ofNat (0x10000 + (first - 0xD800) * 0x400 + (second - 0xDC00)), rest)
    else some (Char.ofNat first, second :: rest)

private def charUnits (char : Char) : List Nat :=
  if char.toNat < 0x10000 then [char.toNat]
  else [0xD800 + (char.toNat - 0x10000) / 0x400, 0xDC00 + (char.toNat - 0x10000) % 0x400]

private theorem readUnits_charUnits (char : Char) (rest : List Nat) :
    readUnits (charUnits char ++ rest) = some (char, rest) := by
  have valid : char.toNat < 0xD800 ∨ 0xDFFF < char.toNat ∧ char.toNat < 0x110000 := char.valid
  unfold charUnits
  split
  next =>
    cases rest with
    | nil => simp [readUnits]
    | cons unit rest =>
      have plain : ¬ (0xD800 ≤ char.toNat ∧ char.toNat < 0xE000) := by omega
      simp only [List.singleton_append, readUnits, if_neg plain, Char.ofNat_toNat]
  next =>
    have paired : 0xD800 ≤ 0xD800 + (char.toNat - 0x10000) / 0x400 ∧
        0xD800 + (char.toNat - 0x10000) / 0x400 < 0xE000 := by omega
    have code : 0x10000 + (0xD800 + (char.toNat - 0x10000) / 0x400 - 0xD800) * 0x400 +
        (0xDC00 + (char.toNat - 0x10000) % 0x400 - 0xDC00) = char.toNat := by omega
    simp only [List.cons_append, List.nil_append, readUnits, if_pos paired, code,
      Char.ofNat_toNat]

private theorem units_injective {text other : List Char}
    (same : text.flatMap charUnits = other.flatMap charUnits) : text = other := by
  induction text generalizing other with
  | nil =>
    cases other with
    | nil => rfl
    | cons char tail =>
      have read := congrArg readUnits same
      rw [List.flatMap_cons, readUnits_charUnits] at read
      cases read
  | cons char tail ih =>
    cases other with
    | nil =>
      have read := congrArg readUnits same
      rw [List.flatMap_cons, readUnits_charUnits] at read
      cases read
    | cons char' tail' =>
      have read := congrArg readUnits same
      rw [List.flatMap_cons, List.flatMap_cons, readUnits_charUnits,
        readUnits_charUnits] at read
      simp only [Option.some.injEq, Prod.mk.injEq] at read
      rw [read.1, ih read.2]

theorem utf16_injective {text other : String} (same : utf16 text = utf16 other) :
    text = other :=
  String.toList_inj.mp (units_injective same)

theorem lookup_assign_self (key : String) (value : Json) (fields : List (String × Json)) :
    lookup key (assign key value fields) = some value := by
  induction fields with
  | nil => simp [assign, lookup]
  | cons member rest ih =>
    obtain ⟨name, old⟩ := member
    by_cases same : name = key
    · simp [assign, lookup, same]
    · simp [assign, lookup, same, ih]

theorem lookup_assign_ne {key other : String} (different : other ≠ key) (value : Json)
    (fields : List (String × Json)) :
    lookup other (assign key value fields) = lookup other fields := by
  induction fields with
  | nil => simp [assign, lookup, Ne.symm different]
  | cons member rest ih =>
    obtain ⟨name, old⟩ := member
    by_cases same : name = key
    · subst same
      simp [assign, lookup, Ne.symm different]
    · by_cases hit : name = other
      · subst hit
        simp [assign, lookup, same]
      · simp [assign, lookup, same, hit, ih]

variable {key : String}

theorem lookup_spread_of_notMem (extra : List (String × Json)) :
    ∀ base : List (String × Json), (∀ member ∈ extra, member.1 ≠ key) →
      lookup key (spread base extra) = lookup key base := by
  induction extra with
  | nil => intro base _; rfl
  | cons member rest ih =>
    intro base absent
    have headDifferent := absent member List.mem_cons_self
    have restAbsent := fun other inRest => absent other (List.mem_cons_of_mem member inRest)
    change lookup key (spread (assign member.1 member.2 base) rest) = lookup key base
    rw [ih _ restAbsent, lookup_assign_ne headDifferent.symm]

variable {value : Json} {fields : List (String × Json)}

theorem mem_of_lookup (found : lookup key fields = some value) : (key, value) ∈ fields := by
  induction fields with
  | nil => cases found
  | cons field rest ih =>
    obtain ⟨name, old⟩ := field
    by_cases same : name = key
    · rw [lookup, if_pos same] at found
      cases found
      exact same ▸ List.mem_cons_self
    · rw [lookup, if_neg same] at found
      exact List.mem_cons_of_mem _ (ih found)

variable {member : String × Json}

theorem mem_assign (present : member ∈ assign key value fields) :
    member = (key, value) ∨ member ∈ fields := by
  induction fields with
  | nil =>
    rw [assign, List.mem_singleton] at present
    exact Or.inl present
  | cons first rest ih =>
    unfold assign at present
    split at present
    · rcases List.mem_cons.mp present with isNew | later
      · exact Or.inl isNew
      · exact Or.inr (List.mem_cons_of_mem _ later)
    · rcases List.mem_cons.mp present with isFirst | later
      · exact Or.inr (by rw [isFirst]; exact List.mem_cons_self)
      · rcases ih later with isNew | old
        · exact Or.inl isNew
        · exact Or.inr (List.mem_cons_of_mem _ old)

theorem mem_spread {base extra : List (String × Json)} (present : member ∈ spread base extra) :
    member ∈ base ∨ member ∈ extra := by
  induction extra generalizing base with
  | nil => exact Or.inl present
  | cons first rest ih =>
    rcases ih present with inBase | inRest
    · rcases mem_assign inBase with isFirst | old
      · exact Or.inr (by rw [isFirst]; exact List.mem_cons_self)
      · exact Or.inl old
    · exact Or.inr (List.mem_cons_of_mem _ inRest)

end Json
