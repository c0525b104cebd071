import SdarRuntime.Library.DecimalText
import Mathlib.Data.List.Nodup

/-!
JSON texts as programs in JavaScript write and read them: strings are sequences of UTF-16 code
units, and a unit of half a character is written as an escape, so every text is a sequence of
characters. Reading takes any text, with spaces, all escapes and repeated members.

What is written is read back.
-/

namespace JsonText

abbrev Text := List UInt16

inductive Value (ν : Type) where
  | null
  | bool (flag : Bool)
  | num (number : ν)
  | str (text : Text)
  | arr (items : List (Value ν))
  | obj (fields : List (Text × Value ν))

def numberChars : List Char := "0123456789+-.eE".toList

def afterDigits : List Char → Option (List Char)
  | [] => none
  | char :: rest => if char.isDigit then some (rest.dropWhile Char.isDigit) else none

def afterInteger : List Char → Option (List Char)
  | '0' :: rest => some rest
  | rest => afterDigits rest

def afterFraction : List Char → Option (List Char)
  | '.' :: rest => afterDigits rest
  | rest => some rest

def afterSign : List Char → List Char
  | '+' :: rest => rest
  | '-' :: rest => rest
  | rest => rest

def afterExponent : List Char → Option (List Char)
  | 'e' :: rest => afterDigits (afterSign rest)
  | 'E' :: rest => afterDigits (afterSign rest)
  | rest => some rest

def withoutMinus : List Char → List Char
  | '-' :: rest => rest
  | rest => rest

def isLiteral (text : List Char) : Bool :=
  (((afterInteger (withoutMinus text)).bind afterFraction).bind afterExponent) == some []

/-- How the engine writes and reads numbers. A finite number is read back from what is written
for it. -/
structure NumberFormat (ν : Type) where
  isFinite : ν → Bool
  write : ν → List Char
  read : List Char → ν
  literal : ∀ number, isFinite number = true → isLiteral (write number) = true
  read_write : ∀ number, isFinite number = true → read (write number) = number

def isHigh (unit : UInt16) : Bool := decide (0xD800 ≤ unit.toNat ∧ unit.toNat ≤ 0xDBFF)

def isLow (unit : UInt16) : Bool := decide (0xDC00 ≤ unit.toNat ∧ unit.toNat ≤ 0xDFFF)

def pair (high low : UInt16) : Char :=
  Char.ofNat (0x10000 + (high.toNat - 0xD800) * 0x400 + (low.toNat - 0xDC00))

def unitsOf (char : Char) : Text :=
  if char.toNat < 0x10000 then [.ofNat char.toNat]
  else
    [.ofNat (0xD800 + (char.toNat - 0x10000) / 0x400),
      .ofNat (0xDC00 + (char.toNat - 0x10000) % 0x400)]

def hexDigit (digit : Nat) : Char :=
  if digit < 10 then Char.ofNat (48 + digit) else Char.ofNat (87 + digit)

def hexValue? (char : Char) : Option Nat :=
  if char.isDigit then some (char.toNat - 48)
  else if 'a' ≤ char ∧ char ≤ 'f' then some (char.toNat - 87)
  else if 'A' ≤ char ∧ char ≤ 'F' then some (char.toNat - 55)
  else none

def unicodeEscape (unit : UInt16) : List Char :=
  ['\\', 'u', hexDigit (unit.toNat / 4096), hexDigit (unit.toNat / 256 % 16),
    hexDigit (unit.toNat / 16 % 16), hexDigit (unit.toNat % 16)]

def quoteUnit (unit : UInt16) : List Char :=
  if unit = 0x22 then ['\\', '"']
  else if unit = 0x5C then ['\\', '\\']
  else if unit = 0x08 then ['\\', 'b']
  else if unit = 0x0C then ['\\', 'f']
  else if unit = 0x0A then ['\\', 'n']
  else if unit = 0x0D then ['\\', 'r']
  else if unit = 0x09 then ['\\', 't']
  else if unit.toNat < 0x20 || isHigh unit || isLow unit then unicodeEscape unit
  else [Char.ofNat unit.toNat]

def quoteUnits : Text → List Char
  | [] => []
  | [unit] => quoteUnit unit
  | first :: second :: rest =>
    if isHigh first && isLow second then pair first second :: quoteUnits rest
    else quoteUnit first ++ quoteUnits (second :: rest)

def quote (text : Text) : List Char := '"' :: (quoteUnits text ++ ['"'])

def escape? : Char → Option UInt16
  | '"' => some 0x22
  | '\\' => some 0x5C
  | '/' => some 0x2F
  | 'b' => some 0x08
  | 'f' => some 0x0C
  | 'n' => some 0x0A
  | 'r' => some 0x0D
  | 't' => some 0x09
  | _ => none

def hexUnit? (first second third fourth : Char) : Option UInt16 := do
  let a ← hexValue? first
  let b ← hexValue? second
  let c ← hexValue? third
  let d ← hexValue? fourth
  some (.ofNat (a * 4096 + b * 256 + c * 16 + d))

def readUnits : List Char → Option (Text × List Char)
  | [] => none
  | '"' :: rest => some ([], rest)
  | '\\' :: 'u' :: first :: second :: third :: fourth :: rest =>
    (hexUnit? first second third fourth).bind fun unit =>
      (readUnits rest).map fun read => (unit :: read.1, read.2)
  | '\\' :: char :: rest =>
    (escape? char).bind fun unit =>
      (readUnits rest).map fun read => (unit :: read.1, read.2)
  | char :: rest =>
    if char.toNat < 0x20 || char = '\\' then none
    else (readUnits rest).map fun read => (unitsOf char ++ read.1, read.2)

section Write

variable {ν : Type} (format : NumberFormat ν)

mutual
/-- `JSON.stringify` -/
def stringify : Value ν → List Char
  | .null => ['n', 'u', 'l', 'l']
  | .bool true => ['t', 'r', 'u', 'e']
  | .bool false => ['f', 'a', 'l', 's', 'e']
  | .num number => if format.isFinite number then format.write number else ['n', 'u', 'l', 'l']
  | .str text => quote text
  | .arr [] => ['[', ']']
  | .arr (item :: rest) => '[' :: (stringify item ++ stringifyItems rest)
  | .obj [] => ['\x7b', '\x7d']
  | .obj ((key, value) :: rest) =>
    '\x7b' :: (quote key ++ ':' :: (stringify value ++ stringifyFields rest))

def stringifyItems : List (Value ν) → List Char
  | [] => [']']
  | item :: rest => ',' :: (stringify item ++ stringifyItems rest)

def stringifyFields : List (Text × Value ν) → List Char
  | [] => ['\x7d']
  | (key, value) :: rest => ',' :: (quote key ++ ':' :: (stringify value ++ stringifyFields rest))
end

end Write

def isSpace (char : Char) : Bool :=
  char == ' ' || char == '\n' || char == '\r' || char == '\t'

def skipSpaces (text : List Char) : List Char := text.dropWhile isSpace

/-- Assignment of one member: in place when the key is there, otherwise at the end. -/
def assign {ν : Type} (key : Text) (value : Value ν) :
    List (Text × Value ν) → List (Text × Value ν)
  | [] => [(key, value)]
  | (name, old) :: rest =>
    if name = key then (key, value) :: rest else (name, old) :: assign key value rest

/-- The members of an object that was read: a repeated key has the last value. -/
def membersOf {ν : Type} (fields : List (Text × Value ν)) : List (Text × Value ν) :=
  fields.foldl (fun members field => assign field.1 field.2 members) []

section Read

variable {ν : Type} (format : NumberFormat ν)

def readNumber (text : List Char) : Option (Value ν × List Char) :=
  let literal := text.takeWhile numberChars.contains
  if isLiteral literal then
    some (.num (format.read literal), text.dropWhile numberChars.contains)
  else none

mutual
def readValue : Nat → List Char → Option (Value ν × List Char)
  | 0, _ => none
  | fuel + 1, text =>
    match skipSpaces text with
    | 'n' :: 'u' :: 'l' :: 'l' :: rest => some (.null, rest)
    | 't' :: 'r' :: 'u' :: 'e' :: rest => some (.bool true, rest)
    | 'f' :: 'a' :: 'l' :: 's' :: 'e' :: rest => some (.bool false, rest)
    | '"' :: rest => (readUnits rest).map fun read => (.str read.1, read.2)
    | '[' :: rest =>
      match skipSpaces rest with
      | ']' :: rest => some (.arr [], rest)
      | rest => (readItems fuel rest).map fun read => (.arr read.1, read.2)
    | '\x7b' :: rest =>
      match skipSpaces rest with
      | '\x7d' :: rest => some (.obj [], rest)
      | rest => (readFields fuel rest).map fun read => (.obj (membersOf read.1), read.2)
    | rest => readNumber format rest

def readItems : Nat → List Char → Option (List (Value ν) × List Char)
  | 0, _ => none
  | fuel + 1, text =>
    (readValue fuel text).bind fun item =>
      match skipSpaces item.2 with
      | ']' :: rest => some ([item.1], rest)
      | ',' :: rest => (readItems fuel rest).map fun read => (item.1 :: read.1, read.2)
      | _ => none

def readFields : Nat → List Char → Option (List (Text × Value ν) × List Char)
  | 0, _ => none
  | fuel + 1, text =>
    match skipSpaces text with
    | '"' :: rest =>
      (readUnits rest).bind fun key =>
        match skipSpaces key.2 with
        | ':' :: rest =>
          (readValue fuel rest).bind fun value =>
            match skipSpaces value.2 with
            | '\x7d' :: rest => some ([(key.1, value.1)], rest)
            | ',' :: rest =>
              (readFields fuel rest).map fun read =>
                ((key.1, value.1) :: read.1, read.2)
            | _ => none
        | _ => none
    | _ => none
end

/-- `JSON.parse` -/
def parse (text : List Char) : Option (Value ν) :=
  (readValue format (2 * text.length + 1) text).bind fun read =>
    if skipSpaces read.2 = [] then some read.1 else none

end Read

private theorem hexValue?_hexDigit : ∀ digit < 16, hexValue? (hexDigit digit) = some digit := by
  decide

private theorem hexUnit?_escape (unit : UInt16) :
    hexUnit? (hexDigit (unit.toNat / 4096)) (hexDigit (unit.toNat / 256 % 16))
      (hexDigit (unit.toNat / 16 % 16)) (hexDigit (unit.toNat % 16)) = some unit := by
  have bound := unit.toNat_lt
  have whole : unit.toNat / 4096 * 4096 + unit.toNat / 256 % 16 * 256 +
      unit.toNat / 16 % 16 * 16 + unit.toNat % 16 = unit.toNat := by
    omega
  unfold hexUnit?
  rw [hexValue?_hexDigit _ (by omega), hexValue?_hexDigit _ (by omega),
    hexValue?_hexDigit _ (by omega), hexValue?_hexDigit _ (by omega)]
  simp only [Option.bind_eq_bind, Option.bind_some, whole, UInt16.ofNat_toNat]

variable {char : Char}

theorem readUnits_char {rest : List Char} (notQuote : char ≠ '"') (notEscape : char ≠ '\\')
    (printed : ¬ char.toNat < 0x20) :
    readUnits (char :: rest) =
      (readUnits rest).map fun read => (unitsOf char ++ read.1, read.2) := by
  rw [readUnits]
  · simp [printed, notEscape]
  · exact notQuote
  · intro _ _ _ _ _ isEscape
    exact absurd isEscape notEscape
  · intro _ _ isEscape
    exact absurd isEscape notEscape

private theorem toNat_ofNat {code : Nat} (valid : code.isValidChar) :
    (Char.ofNat code).toNat = code := by
  rw [Char.ofNat, dif_pos valid]
  rfl

theorem readUnits_quoteUnit (unit : UInt16) (rest : List Char) :
    readUnits (quoteUnit unit ++ rest) =
      (readUnits rest).map fun read => (unit :: read.1, read.2) := by
  unfold quoteUnit
  split
  · next same => rw [same]; rfl
  split
  · next same => rw [same]; rfl
  split
  · next same => rw [same]; rfl
  split
  · next same => rw [same]; rfl
  split
  · next same => rw [same]; rfl
  split
  · next same => rw [same]; rfl
  split
  · next same => rw [same]; rfl
  split
  · change (hexUnit? _ _ _ _).bind _ = _
    rw [hexUnit?_escape]
    rfl
  · next notQuote notEscape _ _ _ _ _ plain =>
    simp only [Bool.or_eq_true, decide_eq_true_eq, not_or, isHigh, isLow] at plain
    obtain ⟨⟨printed, notHigh⟩, notLow⟩ := plain
    have bound := unit.toNat_lt
    have code : (Char.ofNat unit.toNat).toNat = unit.toNat := by
      apply toNat_ofNat
      unfold Nat.isValidChar
      omega
    have ofUnit (char : Char) (other : UInt16) (sameCode : char.toNat = other.toNat)
        (different : unit ≠ other) : Char.ofNat unit.toNat ≠ char := by
      intro same
      rw [← same, code] at sameCode
      exact different (UInt16.toNat_inj.mp sameCode)
    have units : unitsOf (Char.ofNat unit.toNat) = [unit] := by
      rw [unitsOf, code, if_pos bound, UInt16.ofNat_toNat]
    rw [List.singleton_append, readUnits_char]
    · rw [units]
      rfl
    · exact ofUnit _ 0x22 rfl notQuote
    · exact ofUnit _ 0x5C rfl notEscape
    · rw [code]
      exact printed

theorem readUnits_pair {high low : UInt16} (isFirst : isHigh high = true)
    (isSecond : isLow low = true) (rest : List Char) :
    readUnits (pair high low :: rest) =
      (readUnits rest).map fun read => (high :: low :: read.1, read.2) := by
  simp only [isHigh, isLow, decide_eq_true_eq] at isFirst isSecond
  have code : (pair high low).toNat =
      0x10000 + (high.toNat - 0xD800) * 0x400 + (low.toNat - 0xDC00) := by
    apply toNat_ofNat
    unfold Nat.isValidChar
    omega
  have units : unitsOf (pair high low) = [high, low] := by
    have first : 0xD800 + ((pair high low).toNat - 0x10000) / 0x400 = high.toNat := by
      omega
    have second : 0xDC00 + ((pair high low).toNat - 0x10000) % 0x400 = low.toNat := by
      omega
    rw [unitsOf, if_neg (by omega), first, second, UInt16.ofNat_toNat, UInt16.ofNat_toNat]
  have large {char : Char} (small : char.toNat < 0x10000) : pair high low ≠ char := by
    intro same
    rw [← same] at small
    omega
  rw [readUnits_char (large (by decide)) (large (by decide)) (by omega), units]
  rfl

theorem readUnits_quoteUnits (text : Text) (rest : List Char) :
    readUnits (quoteUnits text ++ '"' :: rest) = some (text, rest) := by
  induction text using quoteUnits.induct with
  | case1 => rfl
  | case2 unit =>
    rw [quoteUnits, readUnits_quoteUnit]
    rfl
  | case3 first second others isPair ih =>
    rw [quoteUnits, if_pos isPair, List.cons_append]
    rw [Bool.and_eq_true] at isPair
    rw [readUnits_pair isPair.1 isPair.2, ih]
    rfl
  | case4 first second others noPair ih =>
    rw [quoteUnits, if_neg noPair, List.append_assoc, readUnits_quoteUnit, ih]
    rfl

private def Behind (text rest : List Char) : Prop :=
  ∃ used, text = used ++ rest ∧ ∀ char ∈ used, numberChars.contains char = true

private theorem Behind.refl (text : List Char) : Behind text text :=
  ⟨[], rfl, by simp⟩

private theorem Behind.trans {first second third : List Char} (near : Behind first second)
    (far : Behind second third) : Behind first third := by
  obtain ⟨used, isFirst, numeric⟩ := near
  obtain ⟨more, isSecond, numeric'⟩ := far
  refine ⟨used ++ more, by rw [isFirst, isSecond, List.append_assoc], ?_⟩
  intro char member
  rcases List.mem_append.mp member with inUsed | inMore
  · exact numeric char inUsed
  · exact numeric' char inMore

private theorem Behind.cons (numeric : numberChars.contains char = true) (rest : List Char) :
    Behind (char :: rest) rest :=
  ⟨[char], rfl, by simpa using numeric⟩

private theorem numeric_of_isDigit (digit : char.isDigit = true) :
    numberChars.contains char = true := by
  have bounds := Char.isDigit_iff_toNat.mp digit
  have nine : '9'.toNat = 57 := rfl
  have zero : '0'.toNat = 48 := rfl
  have each : ∀ code ∈ List.range' 48 10, numberChars.contains (Char.ofNat code) = true := by
    decide
  have member : char.toNat ∈ List.range' 48 10 := by
    rw [List.mem_range'_1]
    omega
  have contained := each char.toNat member
  rw [Char.ofNat_toNat] at contained
  exact contained

private theorem behind_dropWhile (text : List Char) :
    Behind text (text.dropWhile Char.isDigit) := by
  refine ⟨text.takeWhile Char.isDigit, List.takeWhile_append_dropWhile.symm, ?_⟩
  intro char member
  exact numeric_of_isDigit (List.all_eq_true.mp List.all_takeWhile char member)

variable {text rest : List Char}

private theorem behind_afterDigits (after : afterDigits text = some rest) :
    Behind text rest := by
  cases text with
  | nil => cases after
  | cons char others =>
    simp only [afterDigits] at after
    split at after
    · next digit =>
      cases after
      exact (Behind.cons (numeric_of_isDigit digit) others).trans (behind_dropWhile others)
    · cases after

private theorem behind_afterInteger (after : afterInteger text = some rest) :
    Behind text rest := by
  unfold afterInteger at after
  split at after
  · cases after
    exact Behind.cons (by decide) _
  · exact behind_afterDigits after

private theorem behind_afterFraction (after : afterFraction text = some rest) :
    Behind text rest := by
  unfold afterFraction at after
  split at after
  · exact (Behind.cons (by decide) _).trans (behind_afterDigits after)
  · cases after
    exact Behind.refl _

private theorem behind_afterSign (text : List Char) : Behind text (afterSign text) := by
  unfold afterSign
  split
  · exact Behind.cons (by decide) _
  · exact Behind.cons (by decide) _
  · exact Behind.refl _

private theorem behind_afterExponent (after : afterExponent text = some rest) :
    Behind text rest := by
  unfold afterExponent at after
  split at after
  · exact ((Behind.cons (by decide) _).trans (behind_afterSign _)).trans (behind_afterDigits after)
  · exact ((Behind.cons (by decide) _).trans (behind_afterSign _)).trans (behind_afterDigits after)
  · cases after
    exact Behind.refl _

private theorem behind_withoutMinus (text : List Char) : Behind text (withoutMinus text) := by
  unfold withoutMinus
  split
  · exact Behind.cons (by decide) _
  · exact Behind.refl _

theorem numeric_of_isLiteral {text : List Char} (literal : isLiteral text = true) :
    text ≠ [] ∧ ∀ char ∈ text, numberChars.contains char = true := by
  have parts := eq_of_beq literal
  rw [Option.bind_eq_some_iff] at parts
  obtain ⟨exponent, parts, afterAll⟩ := parts
  rw [Option.bind_eq_some_iff] at parts
  obtain ⟨fraction, integer, afterPoint⟩ := parts
  constructor
  · intro empty
    rw [empty] at integer
    cases integer
  · have whole := (((behind_withoutMinus text).trans (behind_afterInteger integer)).trans
      (behind_afterFraction afterPoint)).trans (behind_afterExponent afterAll)
    obtain ⟨used, isText, numeric⟩ := whole
    rw [List.append_nil] at isText
    rw [isText]
    exact numeric

theorem isLiteral_toDigits (number : Nat) : isLiteral (Nat.toDigits 10 number) = true := by
  by_cases zero : number = 0
  · rw [zero]
    rfl
  · obtain ⟨first, rest, written, notZero⟩ := DecimalText.head_toDigits (Nat.pos_of_ne_zero zero)
    have digits := DecimalText.isDigits_toDigits number
    rw [written] at digits ⊢
    have isDigit := digits first List.mem_cons_self
    have notMinus : first ≠ '-' := by
      intro isMinus
      rw [isMinus] at isDigit
      cases isDigit
    have noMinus : withoutMinus (first :: rest) = first :: rest := by
      unfold withoutMinus
      split
      · next same => exact absurd (List.cons.inj same).1 notMinus
      · rfl
    have toEnd : rest.dropWhile Char.isDigit = [] :=
      List.dropWhile_eq_nil_iff.mpr fun char member => digits char (List.mem_cons_of_mem first member)
    have integer : afterInteger (first :: rest) = some [] := by
      unfold afterInteger
      split
      · next same => exact absurd (List.cons.inj same).1 notZero
      · rw [afterDigits, if_pos isDigit, toEnd]
    unfold isLiteral
    rw [noMinus, integer]
    rfl

def Follows (rest : List Char) : Prop :=
  ∀ char, rest.head? = some char → numberChars.contains char = false

section RoundTrip

variable {ν : Type} (format : NumberFormat ν)

theorem readNumber_literal {literal rest : List Char} (isNumber : isLiteral literal = true)
    (follows : Follows rest) :
    readNumber format (literal ++ rest) = some (.num (format.read literal), rest) := by
  have numeric := (numeric_of_isLiteral isNumber).2
  have taken : rest.takeWhile numberChars.contains = [] := by
    cases rest with
    | nil => rfl
    | cons char others => rw [List.takeWhile_cons_of_neg (by rw [follows char rfl]; simp)]
  have dropped : rest.dropWhile numberChars.contains = rest := by
    cases rest with
    | nil => rfl
    | cons char others => rw [List.dropWhile_cons_of_neg (by rw [follows char rfl]; simp)]
  unfold readNumber
  rw [List.takeWhile_append_of_pos numeric, List.dropWhile_append_of_pos numeric, taken, dropped,
    List.append_nil, if_pos isNumber]

/-- Induction on a value, with the hypothesis for every item and for every member's value. -/
@[elab_as_elim]
theorem Value.induct {P : Value ν → Prop} (null : P .null) (bool : ∀ flag, P (.bool flag))
    (num : ∀ number, P (.num number)) (str : ∀ text, P (.str text))
    (arr : ∀ items, (∀ item ∈ items, P item) → P (.arr items))
    (obj : ∀ fields, (∀ field ∈ fields, P field.2) → P (.obj fields)) (value : Value ν) :
    P value := by
  refine @Value.rec ν P (fun items => ∀ item ∈ items, P item)
    (fun fields => ∀ field ∈ fields, P field.2) (fun field => P field.2)
    null bool num str arr obj ?_ ?_ ?_ ?_ (fun _ _ holds => holds) value
  · intro item member
    cases member
  · intro head rest first others item member
    rcases List.mem_cons.mp member with same | inRest
    · exact same ▸ first
    · exact others item inRest
  · intro field member
    cases member
  · intro head rest first others field member
    rcases List.mem_cons.mp member with same | inRest
    · exact same ▸ first
    · exact others field inRest

mutual
/-- A value whose numbers are finite and whose objects have no key twice. -/
def Plain : Value ν → Prop
  | .num number => format.isFinite number = true
  | .arr items => PlainItems items
  | .obj fields => (fields.map Prod.fst).Nodup ∧ PlainFields fields
  | _ => True

def PlainItems : List (Value ν) → Prop
  | [] => True
  | item :: rest => Plain item ∧ PlainItems rest

def PlainFields : List (Text × Value ν) → Prop
  | [] => True
  | (_, value) :: rest => Plain value ∧ PlainFields rest
end

variable {value : Value ν}

private theorem assign_new {key : Text} {members : List (Text × Value ν)}
    (absent : key ∉ members.map Prod.fst) :
    assign key value members = members ++ [(key, value)] := by
  induction members with
  | nil => rfl
  | cons member rest ih =>
    rw [List.map_cons, List.mem_cons, not_or] at absent
    rw [assign, if_neg (Ne.symm absent.1), ih absent.2]
    rfl

variable {fields : List (Text × Value ν)}

theorem membersOf_distinct (distinct : (fields.map Prod.fst).Nodup) :
    membersOf fields = fields := by
  have each : ∀ (later members : List (Text × Value ν)),
      ((members ++ later).map Prod.fst).Nodup →
      later.foldl (fun members field => assign field.1 field.2 members) members =
        members ++ later := by
    intro later
    induction later with
    | nil =>
      intro members _
      exact (List.append_nil _).symm
    | cons field rest ih =>
      intro members different
      have absent : field.1 ∉ members.map Prod.fst := by
        rw [List.map_append, List.nodup_append] at different
        intro present
        exact different.2.2 _ present _ (List.mem_map_of_mem List.mem_cons_self) rfl
      rw [List.foldl_cons, assign_new absent, ih _ (by simpa using different),
        List.append_assoc]
      rfl
  exact each fields [] distinct

theorem head_stringify (plain : Plain format value) :
    ∃ first rest, stringify format value = first :: rest ∧ isSpace first = false ∧
      first ≠ ']' := by
  cases value with
  | null => exact ⟨_, _, rfl, by decide, by decide⟩
  | bool flag => cases flag <;> exact ⟨_, _, rfl, by decide, by decide⟩
  | num number =>
    have finite : format.isFinite number = true := plain
    obtain ⟨notEmpty, numeric⟩ := numeric_of_isLiteral (format.literal number finite)
    cases written : format.write number with
    | nil => exact absurd written notEmpty
    | cons first rest =>
      have isNumeric := numeric first (by rw [written]; exact List.mem_cons_self)
      have apart : ∀ char ∈ numberChars, isSpace char = false ∧ char ≠ ']' := by
        unfold numberChars
        simp [isSpace]
      refine ⟨first, rest, ?_, apart first (List.contains_iff_mem.mp isNumeric)⟩
      rw [stringify, if_pos finite, written]
  | str text => exact ⟨_, _, rfl, by decide, by decide⟩
  | arr items => cases items <;> exact ⟨_, _, rfl, by decide, by decide⟩
  | obj fields => cases fields <;> exact ⟨_, _, rfl, by decide, by decide⟩

theorem skipSpaces_of_head {first : Char} (solid : isSpace first = false) (rest : List Char) :
    skipSpaces (first :: rest) = first :: rest :=
  List.dropWhile_cons_of_neg (by rw [solid]; decide)

theorem readValue_number {fuel : Nat} {first : Char} (numeric : numberChars.contains first = true)
    (rest : List Char) :
    readValue format (fuel + 1) (first :: rest) = readNumber format (first :: rest) := by
  have apart : ∀ char ∈ numberChars,
      isSpace char = false ∧ char ∉ ['n', 't', 'f', '"', '[', '\x7b'] := by
    unfold numberChars
    simp [isSpace]
  obtain ⟨solid, other⟩ := apart first (List.contains_iff_mem.mp numeric)
  rw [readValue, skipSpaces_of_head solid]
  split
  all_goals first
    | rfl
    | next same =>
      rw [(List.cons.inj same).1] at other
      exact absurd (by decide) other

private theorem follows_char (rest : List Char) (notNumeric : numberChars.contains char = false) :
    Follows (char :: rest) := by
  intro first isFirst
  cases isFirst
  exact notNumeric

private theorem follows_items (items : List (Value ν)) (rest : List Char) :
    Follows (stringifyItems format items ++ rest) := by
  cases items with
  | nil => exact follows_char _ (by decide)
  | cons item others => exact follows_char _ (by decide)

private theorem follows_fields (fields : List (Text × Value ν)) (rest : List Char) :
    Follows (stringifyFields format fields ++ rest) := by
  cases fields with
  | nil => exact follows_char _ (by decide)
  | cons field others => exact follows_char _ (by decide)

private theorem readValue_items {fuel : Nat} {first : Char} (solid : isSpace first = false)
    (notClose : first ≠ ']') (rest : List Char) :
    readValue format (fuel + 1) ('[' :: first :: rest) =
      (readItems format fuel (first :: rest)).map fun read => (.arr read.1, read.2) := by
  rw [readValue, skipSpaces_of_head (by decide)]
  change (match skipSpaces (first :: rest) with
    | ']' :: rest => some (Value.arr [], rest)
    | rest => (readItems format fuel rest).map
        fun read : List (Value ν) × List Char => (Value.arr read.1, read.2)) = _
  rw [skipSpaces_of_head solid]
  split
  · next same => exact absurd (List.cons.inj same).1 notClose
  · rfl

private theorem readValue_fields {fuel : Nat} (rest : List Char) :
    readValue format (fuel + 1) ('\x7b' :: '"' :: rest) =
      (readFields format fuel ('"' :: rest)).map fun read => (.obj (membersOf read.1), read.2) :=
  rfl

/-- What is written for the value is read back, whatever follows it. -/
def Reads (value : Value ν) : Prop :=
  ∀ fuel rest, Follows rest → 2 * (stringify format value).length ≤ fuel →
    readValue format fuel (stringify format value ++ rest) = some (value, rest)

variable {items : List (Value ν)}

private theorem readItems_written (rest : List Char) :
    ∀ (item : Value ν) (fuel : Nat), Reads format item → (∀ other ∈ items, Reads format other) →
      2 * ((stringify format item).length + (stringifyItems format items).length) + 1 ≤ fuel →
      readItems format fuel (stringify format item ++ (stringifyItems format items ++ rest)) =
        some (item :: items, rest) := by
  induction items with
  | nil =>
    intro item fuel reads _ enough
    obtain ⟨more, isFuel⟩ := Nat.exists_eq_add_of_lt (Nat.lt_of_lt_of_le (Nat.succ_pos _) enough)
    rw [Nat.zero_add] at isFuel
    rw [isFuel, readItems, reads more _ (follows_items format [] rest) (by omega)]
    rfl
  | cons next items ih =>
    intro item fuel reads each enough
    obtain ⟨more, isFuel⟩ := Nat.exists_eq_add_of_lt (Nat.lt_of_lt_of_le (Nat.succ_pos _) enough)
    rw [Nat.zero_add] at isFuel
    rw [isFuel, readItems, reads more _ (follows_items format (next :: items) rest) (by omega)]
    rw [stringifyItems, List.length_cons, List.length_append] at enough
    have later := ih next more (each next List.mem_cons_self)
      (fun other member => each other (List.mem_cons_of_mem next member)) (by omega)
    rw [stringifyItems, List.cons_append, List.append_assoc, Option.bind_some]
    rw [skipSpaces_of_head (by decide)]
    change (readItems format more _).map _ = _
    rw [later]
    rfl

private theorem readFields_written (rest : List Char) :
    ∀ (key : Text) (value : Value ν) (fuel : Nat), Reads format value →
      (∀ field ∈ fields, Reads format field.2) →
      2 * ((quote key).length + 1 + (stringify format value).length +
        (stringifyFields format fields).length) + 1 ≤ fuel →
      readFields format fuel (quote key ++ (':' :: (stringify format value ++
        (stringifyFields format fields ++ rest)))) = some ((key, value) :: fields, rest) := by
  induction fields with
  | nil =>
    intro key value fuel reads _ enough
    obtain ⟨more, isFuel⟩ := Nat.exists_eq_add_of_lt (Nat.lt_of_lt_of_le (Nat.succ_pos _) enough)
    rw [Nat.zero_add] at isFuel
    rw [isFuel, readFields, quote, List.cons_append, skipSpaces_of_head (by decide)]
    change (readUnits _).bind _ = _
    rw [List.append_assoc, List.singleton_append, readUnits_quoteUnits, Option.bind_some]
    dsimp only
    rw [skipSpaces_of_head (by decide)]
    change (readValue format more _).bind _ = _
    rw [reads more _ (follows_fields format [] rest) (by omega)]
    rfl
  | cons next fields ih =>
    intro key value fuel reads each enough
    obtain ⟨nextKey, nextValue⟩ := next
    obtain ⟨more, isFuel⟩ := Nat.exists_eq_add_of_lt (Nat.lt_of_lt_of_le (Nat.succ_pos _) enough)
    rw [Nat.zero_add] at isFuel
    rw [stringifyFields, List.length_cons, List.length_append, List.length_cons,
      List.length_append] at enough
    have later := ih nextKey nextValue more (each _ List.mem_cons_self)
      (fun field member => each field (List.mem_cons_of_mem _ member)) (by omega)
    rw [isFuel, readFields, quote, List.cons_append, skipSpaces_of_head (by decide)]
    change (readUnits _).bind _ = _
    rw [List.append_assoc, List.singleton_append, readUnits_quoteUnits, Option.bind_some]
    dsimp only
    rw [skipSpaces_of_head (by decide)]
    change (readValue format more _).bind _ = _
    rw [reads more _ (follows_fields format ((nextKey, nextValue) :: fields) rest) (by omega)]
    rw [Option.bind_some, stringifyFields, List.cons_append, skipSpaces_of_head (by decide)]
    change (readFields format more _).map _ = _
    rw [List.append_assoc, List.cons_append, List.append_assoc, later]
    rfl

private theorem plainItems_iff :
    PlainItems format items ↔ ∀ item ∈ items, Plain format item := by
  induction items with
  | nil => simp [PlainItems]
  | cons item rest ih => simp [PlainItems, ih]

private theorem plainFields_iff :
    PlainFields format fields ↔ ∀ field ∈ fields, Plain format field.2 := by
  induction fields with
  | nil => simp [PlainFields]
  | cons field rest ih =>
    obtain ⟨key, value⟩ := field
    simp [PlainFields, ih]

theorem reads_of_plain (value : Value ν) : Plain format value → Reads format value := by
  induction value using Value.induct with
  | null =>
    intro _ fuel rest _ enough
    obtain ⟨more, isFuel⟩ := Nat.exists_eq_add_of_lt (Nat.lt_of_lt_of_le (Nat.succ_pos _) enough)
    rw [isFuel]
    rfl
  | bool flag =>
    intro _ fuel rest _ enough
    cases flag with
    | true =>
      obtain ⟨more, isFuel⟩ :=
        Nat.exists_eq_add_of_lt (Nat.lt_of_lt_of_le (Nat.succ_pos _) enough)
      rw [isFuel]
      rfl
    | false =>
      obtain ⟨more, isFuel⟩ :=
        Nat.exists_eq_add_of_lt (Nat.lt_of_lt_of_le (Nat.succ_pos _) enough)
      rw [isFuel]
      rfl
  | num number =>
    intro plain fuel rest follows enough
    have finite : format.isFinite number = true := plain
    have literal := format.literal number finite
    obtain ⟨notEmpty, numeric⟩ := numeric_of_isLiteral literal
    rw [stringify, if_pos finite] at enough ⊢
    have read := readNumber_literal format literal follows
    rw [format.read_write number finite] at read
    cases written : format.write number with
    | nil => exact absurd written notEmpty
    | cons first others =>
      have isNumeric := numeric first (by rw [written]; exact List.mem_cons_self)
      rw [written, List.length_cons] at enough
      obtain ⟨more, isFuel⟩ : ∃ more, fuel = more + 1 := ⟨fuel - 1, by omega⟩
      rw [written] at read
      rw [isFuel, List.cons_append, readValue_number format isNumeric]
      exact read
  | str text =>
    intro _ fuel rest _ enough
    obtain ⟨more, isFuel⟩ : ∃ more, fuel = more + 1 := by
      rw [stringify, quote, List.length_cons] at enough
      exact ⟨fuel - 1, by omega⟩
    rw [isFuel, stringify, quote, List.cons_append, readValue, skipSpaces_of_head (by decide)]
    change (readUnits _).map _ = _
    rw [List.append_assoc, List.singleton_append, readUnits_quoteUnits]
    rfl
  | arr items each =>
    intro plain fuel rest _ enough
    have plainItems := (plainItems_iff format).mp plain
    cases items with
    | nil =>
      obtain ⟨more, isFuel⟩ :=
        Nat.exists_eq_add_of_lt (Nat.lt_of_lt_of_le (Nat.succ_pos _) enough)
      rw [isFuel]
      rfl
    | cons item items =>
      rw [stringify, List.length_cons, List.length_append] at enough
      obtain ⟨more, isFuel⟩ : ∃ more, fuel = more + 1 := ⟨fuel - 1, by omega⟩
      have reads (other : Value ν) (member : other ∈ item :: items) : Reads format other :=
        each other member (plainItems other member)
      have read := readItems_written format rest item more (reads item List.mem_cons_self)
        (fun other member => reads other (List.mem_cons_of_mem item member)) (by omega)
      obtain ⟨first, others, written, solid, notClose⟩ :=
        head_stringify format (plainItems item List.mem_cons_self)
      rw [written, List.cons_append] at read
      rw [isFuel, stringify, written, List.cons_append, List.append_assoc, List.cons_append,
        readValue_items format solid notClose, read]
      rfl
  | obj fields each =>
    intro plain fuel rest _ enough
    have plainFields := (plainFields_iff format).mp plain.2
    have distinct := membersOf_distinct plain.1
    cases fields with
    | nil =>
      obtain ⟨more, isFuel⟩ :=
        Nat.exists_eq_add_of_lt (Nat.lt_of_lt_of_le (Nat.succ_pos _) enough)
      rw [isFuel]
      rfl
    | cons field fields =>
      obtain ⟨key, value⟩ := field
      rw [stringify, List.length_cons, List.length_append, List.length_cons,
        List.length_append] at enough
      obtain ⟨more, isFuel⟩ : ∃ more, fuel = more + 1 := ⟨fuel - 1, by omega⟩
      have reads (other : Text × Value ν) (member : other ∈ (key, value) :: fields) :
          Reads format other.2 :=
        each other member (plainFields other member)
      have read := readFields_written format rest key value more
        (reads (key, value) List.mem_cons_self)
        (fun other member => reads other (List.mem_cons_of_mem _ member)) (by omega)
      rw [quote, List.cons_append] at read
      rw [isFuel, stringify, List.cons_append, List.append_assoc, List.cons_append,
        List.append_assoc, quote, List.cons_append, readValue_fields, read, Option.map_some,
        distinct]

/-- `JSON.parse` reads what `JSON.stringify` wrote. -/
theorem parse_stringify (plain : Plain format value) :
    parse format (stringify format value) = some value := by
  have read := reads_of_plain format value plain (2 * (stringify format value).length + 1) []
    (by intro char isFirst; cases isFirst) (by omega)
  rw [List.append_nil] at read
  rw [parse, read]
  rfl

end RoundTrip

end JsonText
