import Mathlib.Algebra.Order.Field.Basic
import Mathlib.Algebra.Order.Ring.Rat
import Mathlib.Data.Char
import Mathlib.Data.List.DropRight
import Mathlib.Data.List.Lex
import Mathlib.Tactic.FieldSimp
import Mathlib.Tactic.Linarith
import Mathlib.Tactic.Positivity
import Mathlib.Tactic.Ring

/-!
Texts of decimal digits: the number they are written for, padded texts, and the fraction they
stand for behind a point. Texts of one length are ordered as their numbers are.
-/

namespace DecimalText

def IsDigits (text : List Char) : Prop := ∀ char ∈ text, char.isDigit = true

def value (text : List Char) : Nat := Nat.ofDigitChars 10 text 0

def padded (width number : Nat) : List Char :=
  List.replicate (width - (Nat.toDigits 10 number).length) '0' ++ Nat.toDigits 10 number

def withoutEndZeros (text : List Char) : List Char := text.rdropWhile (· == '0')

def fraction (text : List Char) : ℚ := value text / 10 ^ text.length

variable {left right : List Char}

theorem isDigits_append :
    IsDigits (left ++ right) ↔ IsDigits left ∧ IsDigits right := by
  simp [IsDigits, or_imp, forall_and]

theorem isDigits_zeros (count : Nat) : IsDigits (List.replicate count '0') := by
  intro char member
  rw [(List.mem_replicate.mp member).2]
  rfl

theorem value_append (left right : List Char) :
    value (left ++ right) = 10 ^ right.length * value left + value right := by
  unfold value
  rw [Nat.ofDigitChars_append, Nat.ofDigitChars_eq_ofDigitChars_zero]

theorem value_cons (char : Char) (rest : List Char) :
    value (char :: rest) = 10 ^ rest.length * (char.toNat - 48) + value rest := by
  unfold value
  rw [Nat.ofDigitChars_cons, Nat.ofDigitChars_eq_ofDigitChars_zero, Nat.mul_zero, Nat.zero_add]
  rfl

theorem value_zeros (count : Nat) : value (List.replicate count '0') = 0 := by
  unfold value
  rw [Nat.ofDigitChars_replicate_zero, Nat.mul_zero]

theorem digit_lt {char : Char} (digit : char.isDigit = true) :
    48 ≤ char.toNat ∧ char.toNat - 48 < 10 := by
  have bounds : 48 ≤ char.toNat ∧ char.toNat ≤ 57 := Char.isDigit_iff_toNat.mp digit
  omega

variable {text : List Char}

theorem value_lt (digits : IsDigits text) : value text < 10 ^ text.length := by
  induction text with
  | nil => decide
  | cons char rest ih =>
    have rest_lt := ih fun other member => digits other (List.mem_cons_of_mem _ member)
    have char_lt := (digit_lt (digits char List.mem_cons_self)).2
    rw [value_cons, List.length_cons, Nat.pow_succ]
    calc 10 ^ rest.length * (char.toNat - 48) + value rest
        < 10 ^ rest.length * (char.toNat - 48) + 10 ^ rest.length := by omega
      _ = 10 ^ rest.length * (char.toNat - 48 + 1) := by ring
      _ ≤ 10 ^ rest.length * 10 := Nat.mul_le_mul_left _ char_lt

theorem lt_iff_value_lt (leftDigits : IsDigits left) (rightDigits : IsDigits right)
    (same : left.length = right.length) :
    left < right ↔ value left < value right := by
  induction left generalizing right with
  | nil =>
    have empty := List.length_eq_zero_iff.mp same.symm
    subst empty
    simp
  | cons char rest ih =>
    cases right with
    | nil => cases same
    | cons char' rest' =>
      rw [List.length_cons, List.length_cons, Nat.add_right_cancel_iff] at same
      have restDigits : IsDigits rest := fun other member =>
        leftDigits other (List.mem_cons_of_mem _ member)
      have restDigits' : IsDigits rest' := fun other member =>
        rightDigits other (List.mem_cons_of_mem _ member)
      have rests := ih restDigits restDigits' same
      have low := value_lt restDigits
      have low' := value_lt restDigits'
      have digit := digit_lt (leftDigits char List.mem_cons_self)
      have digit' := digit_lt (rightDigits char' List.mem_cons_self)
      rw [List.cons_lt_cons_iff, value_cons, value_cons, rests, ← same]
      rw [← same] at low'
      have order : char < char' ↔ char.toNat < char'.toNat := Iff.rfl
      constructor
      · rintro (smaller | ⟨equal, smaller⟩)
        · rw [order] at smaller
          have step : char.toNat - 48 + 1 ≤ char'.toNat - 48 := by omega
          have scaled := Nat.mul_le_mul_left (10 ^ rest.length) step
          rw [Nat.mul_add, Nat.mul_one] at scaled
          omega
        · subst equal
          omega
      · intro smaller
        rcases Nat.lt_trichotomy char.toNat char'.toNat with less | equal | more
        · exact Or.inl (order.mpr less)
        · have sameChar : char = char' := Char.toNat_inj.mp equal
          subst sameChar
          exact Or.inr ⟨rfl, by omega⟩
        · have step : char'.toNat - 48 + 1 ≤ char.toNat - 48 := by omega
          have scaled := Nat.mul_le_mul_left (10 ^ rest.length) step
          rw [Nat.mul_add, Nat.mul_one] at scaled
          omega

theorem eq_of_value_eq (leftDigits : IsDigits left) (rightDigits : IsDigits right)
    (same : left.length = right.length) (equal : value left = value right) : left = right := by
  have notLess : ¬left < right := by
    rw [lt_iff_value_lt leftDigits rightDigits same]
    omega
  have notMore : ¬right < left := by
    rw [lt_iff_value_lt rightDigits leftDigits same.symm]
    omega
  exact le_antisymm (not_lt.mp notMore) (not_lt.mp notLess)

def Canonical (text : List Char) : Prop :=
  IsDigits text ∧ ∃ first rest, text = first :: rest ∧ (first ≠ '0' ∨ rest = [])

theorem pow_le_value {first : Char} {rest : List Char} (digit : first.isDigit = true)
    (notZero : first ≠ '0') : 10 ^ rest.length ≤ value (first :: rest) := by
  have bounds := digit_lt digit
  have positive : 1 ≤ first.toNat - 48 := by
    have different : first.toNat ≠ '0'.toNat := fun same => notZero (Char.toNat_inj.mp same)
    change first.toNat ≠ 48 at different
    omega
  rw [value_cons]
  calc 10 ^ rest.length = 10 ^ rest.length * 1 := (Nat.mul_one _).symm
    _ ≤ 10 ^ rest.length * (first.toNat - 48) := Nat.mul_le_mul_left _ positive
    _ ≤ _ := Nat.le_add_right _ _

theorem Canonical.length_le (isLeft : Canonical left) (isRight : Canonical right)
    (same : value left = value right) : right.length ≤ left.length := by
  by_contra shorter
  obtain ⟨rightDigits, first, rest, rfl, leading⟩ := isRight
  have below := value_lt isLeft.1
  have firstDigit := rightDigits first List.mem_cons_self
  have nonempty : left ≠ [] := by
    obtain ⟨-, head, tail, rfl, -⟩ := isLeft
    exact List.cons_ne_nil head tail
  have leftPositive := List.length_pos_iff.mpr nonempty
  rw [List.length_cons] at shorter
  have notZero : first ≠ '0' := by
    apply leading.resolve_right
    intro single
    rw [single, List.length_nil] at shorter
    omega
  have above : 10 ^ rest.length ≤ value (first :: rest) := pow_le_value firstDigit notZero
  have powers : 10 ^ left.length ≤ 10 ^ rest.length :=
    Nat.pow_le_pow_right (by decide) (by omega)
  omega

theorem Canonical.ext (isLeft : Canonical left) (isRight : Canonical right)
    (same : value left = value right) : left = right := by
  have sameLength : left.length = right.length :=
    Nat.le_antisymm (isRight.length_le isLeft same.symm) (isLeft.length_le isRight same)
  exact eq_of_value_eq isLeft.1 isRight.1 sameLength same

theorem span_digits {digits rest : List Char} (areDigits : IsDigits digits)
    (stops : ∀ char, rest.head? = some char → char.isDigit = false) :
    (digits ++ rest).takeWhile Char.isDigit = digits ∧
      (digits ++ rest).dropWhile Char.isDigit = rest := by
  have none : rest.takeWhile Char.isDigit = [] ∧ rest.dropWhile Char.isDigit = rest := by
    cases rest with
    | nil => exact ⟨rfl, rfl⟩
    | cons char tail =>
      have notDigit := stops char rfl
      simp [notDigit]
  rw [List.takeWhile_append_of_pos areDigits, List.dropWhile_append_of_pos areDigits, none.1,
    none.2, List.append_nil]
  exact ⟨rfl, rfl⟩

theorem isDigits_toDigits (number : Nat) : IsDigits (Nat.toDigits 10 number) :=
  fun _ member => Nat.isDigit_of_mem_toDigits (by decide) (by decide) member

theorem head_toDigits {number : Nat} (positive : 0 < number) :
    ∃ first rest, Nat.toDigits 10 number = first :: rest ∧ first ≠ '0' := by
  induction number using Nat.strong_induction_on with
  | _ number ih =>
    by_cases small : number < 10
    · have table : ∀ digit < 10, 0 < digit → Nat.digitChar digit ≠ '0' := by decide
      exact ⟨_, _, Nat.toDigits_of_lt_base small, table number small positive⟩
    · have large : 10 ≤ number := Nat.not_lt.mp small
      obtain ⟨first, rest, written, notZero⟩ := ih (number / 10) (by omega) (by omega)
      rw [Nat.toDigits_of_base_le (by decide) large, written, List.cons_append]
      exact ⟨first, _, rfl, notZero⟩

theorem value_toString (number : Nat) : value (toString number).toList = number := by
  rw [Nat.toString_eq_ofList_toDigits, String.toList_ofList]
  exact Nat.ofDigitChars_ten_toDigits

theorem isDigits_padded (width number : Nat) : IsDigits (padded width number) :=
  isDigits_append.mpr ⟨isDigits_zeros _, isDigits_toDigits number⟩

@[simp] theorem value_padded (width number : Nat) : value (padded width number) = number := by
  unfold padded
  rw [value_append, value_zeros, Nat.mul_zero, Nat.zero_add]
  exact Nat.ofDigitChars_ten_toDigits

theorem length_padded {width number : Nat} (positive : 0 < width) (fits : number < 10 ^ width) :
    (padded width number).length = width := by
  have short := (Nat.length_toDigits_le_iff (b := 10) (by decide) positive).mpr fits
  unfold padded
  rw [List.length_append, List.length_replicate]
  omega

theorem fraction_append (left right : List Char) :
    fraction (left ++ right) = fraction left + fraction right / 10 ^ left.length := by
  unfold fraction
  rw [value_append, List.length_append, pow_add]
  push_cast
  field_simp

theorem fraction_zeros (count : Nat) : fraction (List.replicate count '0') = 0 := by
  unfold fraction
  rw [value_zeros]
  simp

theorem fraction_append_zeros (text : List Char) (count : Nat) :
    fraction (text ++ List.replicate count '0') = fraction text := by
  rw [fraction_append, fraction_zeros]
  simp

theorem exists_endZeros (text : List Char) :
    ∃ count, text = withoutEndZeros text ++ List.replicate count '0' := by
  have zeros : ∀ char ∈ text.rtakeWhile (· == '0'), char = '0' := by
    intro char member
    simpa using List.mem_rtakeWhile_imp member
  refine ⟨(text.rtakeWhile (· == '0')).length, ?_⟩
  rw [← List.eq_replicate_of_mem zeros]
  exact List.rdropWhile_append_rtakeWhile.symm

theorem fraction_withoutEndZeros (text : List Char) :
    fraction (withoutEndZeros text) = fraction text := by
  obtain ⟨count, isText⟩ := exists_endZeros text
  conv_rhs => rw [isText]
  exact (fraction_append_zeros _ _).symm

theorem value_of_withoutEndZeros_eq_nil (empty : withoutEndZeros text = []) :
    value text = 0 := by
  obtain ⟨count, isText⟩ := exists_endZeros text
  rw [isText, empty, List.nil_append]
  exact value_zeros count

theorem isDigits_withoutEndZeros (digits : IsDigits text) :
    IsDigits (withoutEndZeros text) := by
  intro char member
  exact digits char (List.IsPrefix.subset (List.rdropWhile_prefix _ _) member)

theorem fraction_nonneg (text : List Char) : 0 ≤ fraction text := by
  unfold fraction
  positivity

theorem fraction_lt_one (digits : IsDigits text) : fraction text < 1 := by
  unfold fraction
  rw [div_lt_one (by positivity)]
  exact_mod_cast value_lt digits

theorem fraction_lt_iff (leftDigits : IsDigits left) (rightDigits : IsDigits right)
    (same : left.length = right.length) :
    fraction left < fraction right ↔ left < right := by
  unfold fraction
  rw [lt_iff_value_lt leftDigits rightDigits same, same, div_lt_div_iff_of_pos_right (by positivity)]
  exact Nat.cast_lt

theorem withoutEndZeros_append_zeros (text : List Char) (count : Nat) :
    withoutEndZeros (text ++ List.replicate count '0') = withoutEndZeros text := by
  induction count with
  | zero => rw [List.replicate_zero, List.append_nil]
  | succ count ih =>
    unfold withoutEndZeros at ih ⊢
    rw [List.replicate_succ', ← List.append_assoc, List.rdropWhile_concat_pos _ _ _ rfl, ih]

theorem withoutEndZeros_idem (text : List Char) :
    withoutEndZeros (withoutEndZeros text) = withoutEndZeros text := by
  obtain ⟨count, isText⟩ := exists_endZeros text
  conv_rhs => rw [isText]
  exact (withoutEndZeros_append_zeros _ _).symm

theorem withoutEndZeros_eq_of_fraction_eq (leftDigits : IsDigits left)
    (rightDigits : IsDigits right) (same : fraction left = fraction right) :
    withoutEndZeros left = withoutEndZeros right := by
  have lengths : (left ++ List.replicate right.length '0').length =
      (right ++ List.replicate left.length '0').length := by
    simp [Nat.add_comm]
  have leftPadded := isDigits_append.mpr ⟨leftDigits, isDigits_zeros right.length⟩
  have rightPadded := isDigits_append.mpr ⟨rightDigits, isDigits_zeros left.length⟩
  have notLess : ¬(left ++ List.replicate right.length '0') <
      (right ++ List.replicate left.length '0') := by
    rw [← fraction_lt_iff leftPadded rightPadded lengths, fraction_append_zeros,
      fraction_append_zeros, same]
    exact lt_irrefl _
  have notMore : ¬(right ++ List.replicate left.length '0') <
      (left ++ List.replicate right.length '0') := by
    rw [← fraction_lt_iff rightPadded leftPadded lengths.symm, fraction_append_zeros,
      fraction_append_zeros, same]
    exact lt_irrefl _
  have equal := le_antisymm (not_lt.mp notMore) (not_lt.mp notLess)
  rw [← withoutEndZeros_append_zeros left right.length, equal, withoutEndZeros_append_zeros]

end DecimalText
