import SdarRuntime.Library.DecimalText

/-!
Sequence numbers as texts: `parseBusinessEventSequence` and the integer texts `BigInt` reads.
-/

namespace SdarRuntime

namespace BusinessEvents

namespace SequenceText

open DecimalText

/-- White space and line ends, which `BigInt` takes away on both sides. -/
def isWhiteSpace (char : Char) : Bool :=
  char.toNat ∈ [0x9, 0xA, 0xB, 0xC, 0xD, 0x20, 0xA0, 0x1680, 0x2028, 0x2029, 0x202F, 0x205F,
    0x3000, 0xFEFF] || (0x2000 ≤ char.toNat && char.toNat ≤ 0x200A)

def trim (text : List Char) : List Char :=
  (text.dropWhile isWhiteSpace).rdropWhile isWhiteSpace

/-- The value of a digit or letter as a digit, 36 for any other character. -/
def digitValue (char : Char) : Nat :=
  if char.isDigit then char.toNat - 48
  else if char.isLower then char.toNat - 87
  else if char.isUpper then char.toNat - 55
  else 36

def readDigits (base : Nat) (digits : List Char) : Option Int :=
  if !digits.isEmpty && digits.all (digitValue · < base) then
    some (digits.foldl (fun number char => base * number + digitValue char) 0 : Nat)
  else
    none

/-- The base that a letter behind a leading zero announces. -/
def radix (marker : Char) : Option Nat :=
  if marker = 'x' ∨ marker = 'X' then some 16
  else if marker = 'o' ∨ marker = 'O' then some 8
  else if marker = 'b' ∨ marker = 'B' then some 2
  else none

def readUnsigned : List Char → Option Int
  | '0' :: marker :: digits =>
    match radix marker with
    | some base => readDigits base digits
    | none => readDigits 10 ('0' :: marker :: digits)
  | digits => readDigits 10 digits

/-- `BigInt(text)`, none where it throws a `SyntaxError`. -/
def bigInt (text : List Char) : Option Int :=
  match trim text with
  | [] => some 0
  | '-' :: digits => (readDigits 10 digits).map Neg.neg
  | '+' :: digits => readDigits 10 digits
  | unsigned => readUnsigned unsigned

example : ["", " 5\n", "-5", "+5", "007", "0x1F", "0b11"].map (bigInt ·.toList) =
    [some 0, some 5, some (-5), some 5, some 7, some 31, some 3] := by
  decide

example : ["abc", "1.5", "-0x1", "0x", "- 5", "1_0"].map (bigInt ·.toList) =
    List.replicate 6 none := by
  decide

inductive Thrown where
  | syntaxError
  | error (message : String)
  deriving DecidableEq

def maxSignedBigintSequence : Int := 9223372036854775807

/-- `/^[1-9][0-9]{0,18}$/.test` -/
def isPositiveNumeral : List Char → Bool
  | [] => false
  | first :: rest =>
    first.isDigit && first != '0' && rest.all Char.isDigit && decide (rest.length ≤ 18)

def parseBusinessEventSequence (value : String) (allowZero : Bool) : Except Thrown Int :=
  -- With `allowZero` the condition is a regular expression, not its test: an object, which is true.
  if !(if allowZero then true else isPositiveNumeral value.toList) then
    throw (.error "BUSINESS_EVENT_SEQUENCE_INVALID")
  else
    match bigInt value.toList with
    | none => throw .syntaxError
    | some parsed =>
      if parsed > maxSignedBigintSequence then
        throw (.error "BUSINESS_EVENT_SEQUENCE_INVALID")
      else
        return parsed

/-- A number in the range of sequences that is written as its canonical numeral. -/
def Writes (value : String) (allowZero : Bool) (number : Int) : Prop :=
  value = toString number ∧ (if allowZero then 0 else 1) ≤ number ∧
    number ≤ maxSignedBigintSequence

/-- The texts that are read are the canonical numerals in range, each as its number, and every
other text is refused as an invalid sequence. -/
def Strict (value : String) (allowZero : Bool) : Prop :=
  (∀ number, parseBusinessEventSequence value allowZero = .ok number ↔
    Writes value allowZero number) ∧
  ((∀ number, ¬Writes value allowZero number) →
    parseBusinessEventSequence value allowZero =
      .error (.error "BUSINESS_EVENT_SEQUENCE_INVALID"))

theorem isWhiteSpace_of_isDigit {char : Char} (digit : char.isDigit = true) :
    isWhiteSpace char = false := by
  have bounds : 48 ≤ char.toNat ∧ char.toNat ≤ 57 := Char.isDigit_iff_toNat.mp digit
  unfold isWhiteSpace
  simp only [Bool.or_eq_false_iff, decide_eq_false_iff_not, List.mem_cons, List.not_mem_nil,
    Bool.and_eq_false_iff, or_false]
  omega

theorem digitValue_of_isDigit {char : Char} (digit : char.isDigit = true) :
    digitValue char = char.toNat - 48 := if_pos digit

theorem trim_digits {text : List Char} (digits : DecimalText.IsDigits text) :
    trim text = text := by
  unfold trim
  have kept : text.dropWhile isWhiteSpace = text := by
    cases text with
    | nil => rfl
    | cons first rest =>
      exact List.dropWhile_cons_of_neg
        (by simp [isWhiteSpace_of_isDigit (digits first List.mem_cons_self)])
  rw [kept, List.rdropWhile_eq_self_iff]
  intro nonempty
  simp [isWhiteSpace_of_isDigit (digits _ (List.getLast_mem nonempty))]

theorem readDigits_digits {text : List Char} (digits : DecimalText.IsDigits text)
    (nonempty : text ≠ []) : readDigits 10 text = some (DecimalText.value text : Int) := by
  have small : text.all (digitValue · < 10) = true := by
    rw [List.all_eq_true]
    intro char member
    rw [decide_eq_true_eq, digitValue_of_isDigit (digits char member)]
    exact (digit_lt (digits char member)).2
  unfold readDigits
  rw [small, List.isEmpty_eq_false_iff.mpr nonempty]
  simp only [Bool.not_false, Bool.and_self, if_true]
  congr 2
  apply List.foldl_ext
  intro number char member
  rw [digitValue_of_isDigit (digits char member)]
  rfl

theorem radix_of_isDigit {char : Char} (digit : char.isDigit = true) : radix char = none := by
  have apart : ∀ letter : Char, letter.isDigit = false → char ≠ letter := by
    rintro letter notDigit rfl
    rw [digit] at notDigit
    cases notDigit
  unfold radix
  simp [apart 'x', apart 'X', apart 'o', apart 'O', apart 'b', apart 'B']

theorem bigInt_digits {text : List Char} (digits : DecimalText.IsDigits text)
    (nonempty : text ≠ []) : bigInt text = some (DecimalText.value text : Int) := by
  have unsigned : readUnsigned text = some (DecimalText.value text : Int) := by
    unfold readUnsigned
    split
    · rename_i marker rest
      rw [radix_of_isDigit (digits marker (by simp))]
      exact readDigits_digits digits nonempty
    · exact readDigits_digits digits nonempty
  unfold bigInt
  rw [trim_digits digits]
  split
  · contradiction
  · exact absurd (digits '-' List.mem_cons_self) (by decide)
  · exact absurd (digits '+' List.mem_cons_self) (by decide)
  · exact unsigned

theorem canonical_toString (number : Nat) :
    DecimalText.Canonical (toString number).toList := by
  constructor
  · intro char member
    rw [Nat.toString_eq_ofList_toDigits, String.toList_ofList] at member
    exact isDigits_toDigits number char member
  · rw [Nat.toString_eq_ofList_toDigits, String.toList_ofList]
    cases number with
    | zero => exact ⟨'0', [], rfl, Or.inr rfl⟩
    | succ number =>
      obtain ⟨first, rest, split, notZero⟩ := head_toDigits (Nat.succ_pos number)
      exact ⟨first, rest, split, Or.inl notZero⟩

theorem bigInt_toString (number : Nat) : bigInt (toString number).toList = some (number : Int) := by
  obtain ⟨digits, first, rest, split, -⟩ := canonical_toString number
  rw [bigInt_digits digits (by rw [split]; exact List.cons_ne_nil _ _),
    value_toString]

theorem writes_iff {value : String} {allowZero : Bool} {number : Int} :
    Writes value allowZero number ↔ ∃ natural : Nat, number = natural ∧
      value = toString natural ∧ (allowZero = false → 0 < natural) ∧
      (natural : Int) ≤ maxSignedBigintSequence := by
  unfold Writes
  constructor
  · rintro ⟨written, low, high⟩
    obtain ⟨natural, rfl⟩ := Int.eq_ofNat_of_zero_le (a := number) (by split at low <;> omega)
    refine ⟨natural, rfl, written, ?_, high⟩
    rintro rfl
    exact Int.natCast_pos.mp low
  · rintro ⟨natural, rfl, written, low, high⟩
    refine ⟨written, ?_, high⟩
    cases allowZero with
    | true => exact Int.natCast_nonneg natural
    | false =>
      have := low rfl
      simp only [Bool.false_eq_true, if_false]
      omega

theorem isPositiveNumeral_iff {value : String} : isPositiveNumeral value.toList = true ↔
    ∃ number : Nat, value = toString number ∧ 0 < number ∧ number < 10 ^ 19 := by
  constructor
  · intro matched
    cases text : value.toList with
    | nil =>
      rw [text] at matched
      cases matched
    | cons first rest =>
      rw [text] at matched
      simp only [isPositiveNumeral, Bool.and_eq_true, bne_iff_ne, List.all_eq_true,
        decide_eq_true_eq] at matched
      obtain ⟨⟨⟨digit, notZero⟩, others⟩, short⟩ := matched
      have digits : DecimalText.IsDigits (first :: rest) :=
        List.forall_mem_cons.mpr ⟨digit, others⟩
      have positive : 10 ^ rest.length ≤ DecimalText.value (first :: rest) :=
        pow_le_value digit notZero
      have below := value_lt digits
      refine ⟨DecimalText.value (first :: rest), ?_,
        Nat.lt_of_lt_of_le (Nat.pow_pos (by decide)) positive,
        Nat.lt_of_lt_of_le below (Nat.pow_le_pow_right (by decide) (Nat.succ_le_succ short))⟩
      rw [← String.toList_inj, text]
      exact DecimalText.Canonical.ext ⟨digits, first, rest, rfl, Or.inl notZero⟩
        (canonical_toString _) (value_toString _).symm
  · rintro ⟨number, rfl, positive, below⟩
    obtain ⟨first, rest, split, notZero⟩ := head_toDigits positive
    have digits := isDigits_toDigits number
    have short := (Nat.length_toDigits_le_iff (b := 10) (by decide) (by decide)).mpr below
    rw [Nat.toString_eq_ofList_toDigits, String.toList_ofList]
    rw [split] at digits short ⊢
    obtain ⟨digit, others⟩ := List.forall_mem_cons.mp digits
    simp only [isPositiveNumeral, Bool.and_eq_true, bne_iff_ne, List.all_eq_true,
      decide_eq_true_eq]
    exact ⟨⟨⟨digit, notZero⟩, others⟩, Nat.le_of_succ_le_succ short⟩

variable {value : String} {allowZero : Bool} {number : Int}

theorem parse_of_writes (written : Writes value allowZero number) :
    parseBusinessEventSequence value allowZero = .ok number := by
  obtain ⟨natural, rfl, rfl, allowed, fits⟩ := writes_iff.mp written
  have tested :
      (if allowZero then true else isPositiveNumeral (toString natural).toList) = true := by
    cases allowZero with
    | true => rfl
    | false =>
      have short : natural < 10 ^ 19 := by
        unfold maxSignedBigintSequence at fits
        omega
      exact isPositiveNumeral_iff.mpr ⟨natural, rfl, allowed rfl, short⟩
  unfold parseBusinessEventSequence
  rw [tested, bigInt_toString]
  simp only [Bool.not_true, Bool.false_eq_true, if_false, if_neg (not_lt.mpr fits)]
  rfl

/-- Both tests refuse with one error, so a number above the range is refused whether or not its
text is tested. -/
theorem parse_of_large (read : bigInt value.toList = some number)
    (large : maxSignedBigintSequence < number) :
    parseBusinessEventSequence value allowZero =
      .error (.error "BUSINESS_EVENT_SEQUENCE_INVALID") := by
  unfold parseBusinessEventSequence
  rw [read]
  simp only [gt_iff_lt, if_pos large, ite_self]
  rfl

theorem strict_iff : Strict value allowZero ↔
    ((∀ number, ¬Writes value allowZero number) →
      parseBusinessEventSequence value allowZero =
        .error (.error "BUSINESS_EVENT_SEQUENCE_INVALID")) := by
  constructor
  · exact And.right
  · intro refused
    refine ⟨fun number => ⟨?_, parse_of_writes⟩, refused⟩
    intro read
    by_contra unwritten
    by_cases written : ∃ other, Writes value allowZero other
    · obtain ⟨other, isOther⟩ := written
      rw [parse_of_writes isOther] at read
      cases read
      exact unwritten isOther
    · rw [refused (not_exists.mp written)] at read
      cases read

/-- With `allowZero` set the text is not tested: then the sequence is read strictly only where the
text is a canonical numeral, or is read as a number above the range. -/
theorem parseBusinessEventSequence_strict_iff (value : String) (allowZero : Bool) :
    Strict value allowZero ↔
      allowZero = false ∨ (∃ natural : Nat, value = toString natural) ∨
        ∃ number, bigInt value.toList = some number ∧ maxSignedBigintSequence < number := by
  rw [strict_iff]
  constructor
  · intro refused
    cases allowZero with
    | false => exact Or.inl rfl
    | true =>
      by_cases canonical : ∃ natural : Nat, value = toString natural
      · exact Or.inr (Or.inl canonical)
      · have unwritten : ∀ number, ¬Writes value true number := by
          intro number written
          obtain ⟨natural, -, isText, -⟩ := writes_iff.mp written
          exact canonical ⟨natural, isText⟩
        have thrown := refused unwritten
        simp only [parseBusinessEventSequence, if_true, Bool.not_true, Bool.false_eq_true,
          if_false] at thrown
        cases read : bigInt value.toList with
        | none =>
          rw [read] at thrown
          cases thrown
        | some number =>
          rw [read] at thrown
          by_cases large : maxSignedBigintSequence < number
          · exact Or.inr (Or.inr ⟨number, rfl, large⟩)
          · simp only [if_neg large] at thrown
            cases thrown
  · intro condition unwritten
    have ofNumeral : ∀ natural : Nat, value = toString natural →
        (allowZero = false → 0 < natural) →
        parseBusinessEventSequence value allowZero =
          .error (.error "BUSINESS_EVENT_SEQUENCE_INVALID") := by
      rintro natural rfl allowed
      apply parse_of_large (bigInt_toString natural)
      by_contra fits
      exact unwritten natural (writes_iff.mpr ⟨natural, rfl, rfl, allowed, not_lt.mp fits⟩)
    rcases condition with rfl | ⟨natural, isText⟩ | ⟨number, read, large⟩
    · by_cases tested : isPositiveNumeral value.toList = true
      · obtain ⟨natural, isText, positive, -⟩ := isPositiveNumeral_iff.mp tested
        exact ofNumeral natural isText fun _ => positive
      · unfold parseBusinessEventSequence
        rw [Bool.eq_false_iff.mpr tested]
        rfl
    · cases allowZero with
      | true => exact ofNumeral natural isText nofun
      | false =>
        by_cases positive : 0 < natural
        · exact ofNumeral natural isText fun _ => positive
        · have zero : natural = 0 := by omega
          rw [isText, zero]
          rfl
    · exact parse_of_large read large

/-- A negative number passes for a sequence, and a text that is no number is refused by another
error. -/
theorem parseBusinessEventSequence_not_strict :
    parseBusinessEventSequence "-5" true = .ok (-5) ∧
      parseBusinessEventSequence "" true = .ok 0 ∧
      parseBusinessEventSequence "abc" true = .error .syntaxError ∧ ¬Strict "-5" true := by
  have read : parseBusinessEventSequence "-5" true = .ok (-5) := by decide
  refine ⟨read, by decide, by decide, ?_⟩
  intro strict
  exact absurd ((strict.1 (-5)).mp read).2.1 (by decide)

end SequenceText

end BusinessEvents

end SdarRuntime
