import Mathlib
import SdarRuntime.Domain.Rfc3339

/-!
Timestamps of the vehicle providers. `Date.parse` keeps milliseconds, so two texts are compared
by their milliseconds first and by the digits of their fractions then; the encoder writes all the
microseconds of a count.
-/

namespace SdarRuntime

namespace IsoTimestamps

open DecimalText

/-- `(?:Z|[+-]\d{2}:\d{2})$`. -/
def isZoneSuffix : List Char → Bool
  | ['Z'] => true
  | [sign, hour, hour', ':', minute, minute'] =>
    (sign == '+' || sign == '-') && hour.isDigit && hour'.isDigit && minute.isDigit &&
      minute'.isDigit
  | _ => false

def fractionalDigits : List Char → List Char
  | [] => []
  | char :: rest =>
    if char = '.' ∧ rest.takeWhile Char.isDigit ≠ [] ∧
        isZoneSuffix (rest.dropWhile Char.isDigit) then
      rest.takeWhile Char.isDigit
    else fractionalDigits rest

def padEnd (length : Nat) (text : List Char) : List Char :=
  text ++ List.replicate (length - text.length) '0'

/-- A text that is no date is read as `NaN`, which differs from every number and is below none. -/
def compareIsoTimestamps (dateParse : String → Option Int) (left right : String) : Int :=
  match dateParse left, dateParse right with
  | some leftMillis, some rightMillis =>
    if leftMillis ≠ rightMillis then
      if leftMillis < rightMillis then -1 else 1
    else
      let leftFraction := fractionalDigits left.toList
      let rightFraction := fractionalDigits right.toList
      let length := max leftFraction.length rightFraction.length
      let normalizedLeft := padEnd length leftFraction
      let normalizedRight := padEnd length rightFraction
      if normalizedLeft = normalizedRight then 0
      else if normalizedLeft < normalizedRight then -1
      else 1
  | _, _ => 1

def isSafeInteger (value : Int) : Prop := value.natAbs ≤ 9007199254740991

instance (value : Int) : Decidable (isSafeInteger value) :=
  inferInstanceAs (Decidable (_ ≤ _))

def isoTimestampFromEpochMicroseconds (value : Int) : Option String :=
  if isSafeInteger value then
    let milliseconds := Int.fdiv value 1000
    if milliseconds.natAbs ≤ 8640000000000000 then
      let iso := (Instant.toISOString (1000 * milliseconds)).toList
      let remainingMicroseconds := (value - milliseconds * 1000).toNat
      let extra := withoutEndZeros (padded 3 remainingMicroseconds)
      some (String.ofList (iso.dropLast ++ extra ++ ['Z']))
    else none
  else none

theorem fractionalDigits_append {front : List Char} (back : List Char)
    (noPoint : ∀ char ∈ front, char ≠ '.') :
    fractionalDigits (front ++ back) = fractionalDigits back := by
  induction front with
  | nil => rfl
  | cons char rest ih =>
    have notHere : char ≠ '.' := noPoint char List.mem_cons_self
    rw [List.cons_append, fractionalDigits, if_neg fun here => notHere here.1]
    exact ih fun other member => noPoint other (List.mem_cons_of_mem _ member)

variable {text : List Char}

theorem ne_point_of_isDigits (digits : DecimalText.IsDigits text) :
    ∀ char ∈ text, char ≠ '.' := by
  intro char member isPoint
  subst isPoint
  exact absurd (digits _ member) (by decide)

theorem ne_point_whole (stamp : Timestamp) : ∀ char ∈ stamp.whole, char ≠ '.' := by
  have padded (width number : Nat) := ne_point_of_isDigits (isDigits_padded width number)
  intro char member
  have letter : (if stamp.lowerT then 't' else 'T') ≠ '.' := by
    cases stamp.lowerT <;> decide
  unfold Timestamp.whole at member
  simp only [List.mem_append, List.mem_cons] at member
  rcases member with ((((member | rfl | member) | rfl | member) | rfl | member) | rfl | member) |
    rfl | member
  all_goals first
    | exact padded _ _ char member
    | exact letter
    | decide

theorem ne_point_zone (zone : Zone) : ∀ char ∈ zone.text, char ≠ '.' := by
  have padded (width number : Nat) := ne_point_of_isDigits (isDigits_padded width number)
  intro char member
  cases zone with
  | zulu lower => cases lower <;> simp_all [Zone.text]
  | numeric behind hours minutes =>
    have sign : (if behind then '-' else '+') ≠ '.' := by
      cases behind <;> decide
    simp only [Zone.text, List.mem_append, List.mem_cons] at member
    rcases member with (rfl | member) | rfl | member
    · exact sign
    · exact padded _ _ char member
    · decide
    · exact padded _ _ char member

theorem isZoneSuffix_text {zone : Zone} (wellFormed : zone.WellFormed)
    (capital : zone ≠ .zulu true) : isZoneSuffix zone.text = true := by
  cases zone with
  | zulu lower =>
    cases lower with
    | false => rfl
    | true => exact absurd rfl capital
  | numeric behind hours minutes =>
    obtain ⟨hours_lt, minutes_lt⟩ := wellFormed
    have hoursLength : (padded 2 hours).length = 2 :=
      length_padded (by decide) (by omega)
    have minutesLength : (padded 2 minutes).length = 2 :=
      length_padded (by decide) (by omega)
    have hoursDigits := isDigits_padded 2 hours
    have minutesDigits := isDigits_padded 2 minutes
    obtain ⟨hour, hour', isHours⟩ := List.length_eq_two.mp hoursLength
    obtain ⟨minute, minute', isMinutes⟩ := List.length_eq_two.mp minutesLength
    rw [isHours] at hoursDigits
    rw [isMinutes] at minutesDigits
    have hourDigit := hoursDigits hour (by simp)
    have hourDigit' := hoursDigits hour' (by simp)
    have minuteDigit := minutesDigits minute (by simp)
    have minuteDigit' := minutesDigits minute' (by simp)
    change isZoneSuffix ((if behind then '-' else '+') :: padded 2 hours ++
      ':' :: padded 2 minutes) = true
    rw [isHours, isMinutes]
    cases behind <;> simp [isZoneSuffix, hourDigit, hourDigit', minuteDigit, minuteDigit']

theorem fractionalDigits_text {stamp : Timestamp} (capital : stamp.zone ≠ .zulu true) :
    fractionalDigits stamp.text.toList = stamp.fraction := by
  have suffix := isZoneSuffix_text stamp.zone_wellFormed capital
  unfold Timestamp.text
  rw [String.toList_ofList, fractionalDigits_append _ (ne_point_whole stamp)]
  unfold Timestamp.fractionText
  by_cases empty : stamp.fraction = []
  · rw [if_pos empty, List.nil_append, ← List.append_nil stamp.zone.text,
      fractionalDigits_append _ (ne_point_zone stamp.zone), empty]
    rfl
  · have spanned := span_digits stamp.digits stamp.zone.not_isDigit_head
    rw [if_neg empty, List.cons_append, fractionalDigits]
    rw [spanned.1, spanned.2, if_pos ⟨rfl, empty, suffix⟩]

theorem padEnd_isDigits (digits : DecimalText.IsDigits text) (length : Nat) :
    DecimalText.IsDigits (padEnd length text) :=
  isDigits_append.mpr ⟨digits, isDigits_zeros _⟩

theorem fraction_padEnd (length : Nat) (text : List Char) :
    fraction (padEnd length text) = fraction text :=
  fraction_append_zeros _ _

theorem length_padEnd {length : Nat} (fits : text.length ≤ length) :
    (padEnd length text).length = length := by
  unfold padEnd
  rw [List.length_append, List.length_replicate]
  omega

theorem fraction_lt_iff_padEnd {left right : List Char} (leftDigits : DecimalText.IsDigits left)
    (rightDigits : DecimalText.IsDigits right) :
    fraction left < fraction right ↔
      padEnd (max left.length right.length) left < padEnd (max left.length right.length) right := by
  have leftLength := length_padEnd (Nat.le_max_left left.length right.length)
  have rightLength := length_padEnd (Nat.le_max_right left.length right.length)
  have order := fraction_lt_iff (padEnd_isDigits leftDigits _)
    (padEnd_isDigits rightDigits _) (leftLength.trans rightLength.symm)
  rw [fraction_padEnd, fraction_padEnd] at order
  exact order

theorem isDigits_fractionalDigits (text : List Char) :
    DecimalText.IsDigits (fractionalDigits text) := by
  induction text with
  | nil => exact fun _ member => absurd member List.not_mem_nil
  | cons char rest ih =>
    unfold fractionalDigits
    split
    · intro other member
      exact List.mem_takeWhile_imp member
    · exact ih

def timeKey (milliseconds : Int) (text : String) : Int ×ₗ ℚ :=
  toLex (milliseconds, fraction (fractionalDigits text.toList))

variable {dateParse : String → Option Int}

theorem compareIsoTimestamps_keys {left right : String} {leftMillis rightMillis : Int}
    (isLeft : dateParse left = some leftMillis) (isRight : dateParse right = some rightMillis) :
    compareIsoTimestamps dateParse left right =
      if timeKey leftMillis left = timeKey rightMillis right then 0
      else if timeKey leftMillis left < timeKey rightMillis right then -1
      else 1 := by
  unfold compareIsoTimestamps
  rw [isLeft, isRight]
  dsimp only
  have leftDigits := isDigits_fractionalDigits left.toList
  have rightDigits := isDigits_fractionalDigits right.toList
  unfold timeKey
  generalize fractionalDigits left.toList = leftFraction at leftDigits ⊢
  generalize fractionalDigits right.toList = rightFraction at rightDigits ⊢
  by_cases same : leftMillis = rightMillis
  · subst same
    have order := fraction_lt_iff_padEnd leftDigits rightDigits
    have order' := fraction_lt_iff_padEnd rightDigits leftDigits
    rw [Nat.max_comm] at order'
    rw [if_neg (not_not_intro rfl)]
    rcases lt_trichotomy (fraction leftFraction) (fraction rightFraction)
      with smaller | equal | larger
    · have smallerText := order.mp smaller
      have smallerKey : toLex (leftMillis, fraction leftFraction) <
          toLex (leftMillis, fraction rightFraction) :=
        Prod.Lex.toLex_lt_toLex.mpr (Or.inr ⟨rfl, smaller⟩)
      rw [if_neg (ne_of_lt smallerText), if_pos smallerText, if_neg (ne_of_lt smallerKey),
        if_pos smallerKey]
    · have notSmaller : ¬padEnd (max leftFraction.length rightFraction.length) leftFraction <
          padEnd (max leftFraction.length rightFraction.length) rightFraction := by
        rw [← order]
        exact not_lt_of_ge equal.ge
      have notLarger : ¬padEnd (max leftFraction.length rightFraction.length) rightFraction <
          padEnd (max leftFraction.length rightFraction.length) leftFraction := by
        rw [← order']
        exact not_lt_of_ge equal.le
      have sameText := le_antisymm (not_lt.mp notLarger) (not_lt.mp notSmaller)
      rw [if_pos sameText, equal, if_pos rfl]
    · have largerText := order'.mp larger
      have largerKey : toLex (leftMillis, fraction rightFraction) <
          toLex (leftMillis, fraction leftFraction) :=
        Prod.Lex.toLex_lt_toLex.mpr (Or.inr ⟨rfl, larger⟩)
      rw [if_neg (ne_of_gt largerText), if_neg (not_lt_of_gt largerText),
        if_neg (ne_of_gt largerKey), if_neg (not_lt_of_gt largerKey)]
  · have different : toLex (leftMillis, fraction leftFraction) ≠
        toLex (rightMillis, fraction rightFraction) :=
      fun equal => same (congrArg (fun key => (ofLex key).1) equal)
    rw [if_pos same, if_neg different]
    by_cases less : leftMillis < rightMillis
    · rw [if_pos less, if_pos (Prod.Lex.toLex_lt_toLex.mpr (Or.inl less))]
    · have notLess : ¬ toLex (leftMillis, fraction leftFraction) <
          toLex (rightMillis, fraction rightFraction) := by
        rw [Prod.Lex.toLex_lt_toLex]
        rintro (lower | ⟨equal, _⟩)
        · exact less lower
        · exact same equal
      rw [if_neg less, if_neg notLess]

theorem compareIsoTimestamps_eq (truncates : Timestamp.TruncatesToMilliseconds dateParse)
    {left right : Timestamp} (leftCapital : left.zone ≠ .zulu true)
    (rightCapital : right.zone ≠ .zulu true) :
    compareIsoTimestamps dateParse left.text right.text =
      (SignType.sign (left.instant - right.instant) : Int) := by
  rw [compareIsoTimestamps_keys (truncates left) (truncates right)]
  unfold timeKey
  rw [fractionalDigits_text leftCapital, fractionalDigits_text rightCapital]
  rcases lt_trichotomy left.milliseconds right.milliseconds with less | same | more
  · have earlier := Timestamp.instant_lt_of_milliseconds_lt less
    have smaller : toLex (left.milliseconds, fraction left.fraction) <
        toLex (right.milliseconds, fraction right.fraction) :=
      Prod.Lex.toLex_lt_toLex.mpr (Or.inl less)
    rw [if_neg (ne_of_lt smaller), if_pos smaller, sign_neg (by linarith)]
    rfl
  · have seconds := Timestamp.seconds_eq_of_milliseconds_eq same
    have difference : left.instant - right.instant =
        fraction left.fraction - fraction right.fraction := by
      unfold Timestamp.instant
      rw [seconds]
      ring
    rw [same, difference]
    rcases lt_trichotomy (fraction left.fraction)
      (fraction right.fraction) with smaller | equal | larger
    · have smallerKey : toLex (right.milliseconds, fraction left.fraction) <
          toLex (right.milliseconds, fraction right.fraction) :=
        Prod.Lex.toLex_lt_toLex.mpr (Or.inr ⟨rfl, smaller⟩)
      rw [if_neg (ne_of_lt smallerKey), if_pos smallerKey, sign_neg (by linarith)]
      rfl
    · rw [equal, if_pos rfl, sub_self, sign_zero]
      rfl
    · have largerKey : toLex (right.milliseconds, fraction right.fraction) <
          toLex (right.milliseconds, fraction left.fraction) :=
        Prod.Lex.toLex_lt_toLex.mpr (Or.inr ⟨rfl, larger⟩)
      rw [if_neg (ne_of_gt largerKey), if_neg (not_lt_of_gt largerKey), sign_pos (by linarith)]
      rfl
  · have later := Timestamp.instant_lt_of_milliseconds_lt more
    have larger : toLex (right.milliseconds, fraction right.fraction) <
        toLex (left.milliseconds, fraction left.fraction) :=
      Prod.Lex.toLex_lt_toLex.mpr (Or.inl more)
    rw [if_neg (ne_of_gt larger), if_neg (not_lt_of_gt larger), sign_pos (by linarith)]
    rfl

theorem year_bounds {days year : Int} {month day : Nat} (isDate : Calendar.IsDate year month day)
    (isDay : Calendar.dayNumber year month day = days) (low : -110000 ≤ days)
    (high : days ≤ 110000) : 0 ≤ year ∧ year < 10000 := by
  obtain ⟨month_pos, month_le, day_pos, day_le⟩ := isDate
  have short := Calendar.daysInMonth_le year month
  have months := Calendar.daysBeforeMonth_le year month_pos month_le
  unfold Calendar.dayNumber Calendar.daysBeforeYear at isDay
  omega

theorem hour_lt_of_inDay {inDay : Nat} (inDay_lt : inDay < 86400000) : inDay / 3600000 < 24 := by
  omega

theorem minuteOf_lt (inDay : Nat) : inDay / 60000 % 60 < 60 := Nat.mod_lt _ (by decide)

theorem secondOf_lt (inDay : Nat) : inDay / 1000 % 60 < 60 := Nat.mod_lt _ (by decide)

/-- The timestamp of a date, the milliseconds of its day that are over, and the microseconds left
over. -/
def encoded (year month day inDay remaining : Nat) (year_lt : year < 10000)
    (isDate : Calendar.IsDate year month day) (inDay_lt : inDay < 86400000) : Timestamp where
  year := year
  month := month
  day := day
  hour := inDay / 3600000
  minute := inDay / 60000 % 60
  second := inDay / 1000 % 60
  fraction := padded 3 (inDay % 1000) ++
    withoutEndZeros (padded 3 remaining)
  zone := .zulu false
  lowerT := false
  year_lt := year_lt
  isDate := isDate
  hour_lt := hour_lt_of_inDay inDay_lt
  minute_lt := minuteOf_lt inDay
  second_lt := secondOf_lt inDay
  digits := isDigits_append.mpr
    ⟨isDigits_padded _ _,
      isDigits_withoutEndZeros (isDigits_padded _ _)⟩
  zone_wellFormed := trivial

section

variable {year month day inDay remaining : Nat} {year_lt : year < 10000}
  {isDate : Calendar.IsDate year month day} {inDay_lt : inDay < 86400000}

/-- The extra digits stand between those `toISOString` writes and its last letter. -/
theorem encoded_text {milliseconds : Int}
    (civil : Calendar.civil (Int.fdiv milliseconds 86400000) = ((year : Int), month, day))
    (isInDay : (Int.fmod milliseconds 86400000).toNat = inDay) :
    (encoded year month day inDay remaining year_lt isDate inDay_lt).text =
      String.ofList ((Instant.toISOString (1000 * milliseconds)).toList.dropLast ++
        withoutEndZeros (padded 3 remaining) ++ ['Z']) := by
  have sameDate : Int.fdiv (1000 * milliseconds) 1000 = milliseconds := by
    rw [Int.fdiv_eq_ediv_of_nonneg _ (by decide)]
    omega
  have civilDate : Calendar.civil (Int.fdiv (Int.fdiv (1000 * milliseconds) 1000) 86400000) =
      ((year : Int), month, day) := by
    rw [sameDate]
    exact civil
  have fourDigits : (Instant.yearText (year : Int)).toList = padded 4 year := by
    unfold Instant.yearText
    rw [if_pos (by omega)]
    exact String.toList_ofList
  have written := Instant.toISOString_toList (1000 * milliseconds) civilDate
  rw [sameDate, isInDay, fourDigits] at written
  have three : (padded 3 (inDay % 1000)).length = 3 :=
    length_padded (by decide) (by omega)
  have notEmpty : padded 3 (inDay % 1000) ++
      withoutEndZeros (padded 3 remaining) ≠ [] := by
    intro empty
    have long := congrArg List.length empty
    rw [List.length_append, three, List.length_nil] at long
    omega
  rw [written, List.dropLast_concat]
  unfold Timestamp.text Timestamp.fractionText
  rw [if_neg (show (encoded year month day inDay remaining year_lt isDate inDay_lt).fraction ≠ []
    from notEmpty)]
  simp [Timestamp.whole, Zone.text, encoded]

theorem encoded_fraction (remaining_lt : remaining < 1000) :
    fraction (encoded year month day inDay remaining year_lt isDate inDay_lt).fraction =
      ((inDay % 1000 : Nat) : ℚ) / 1000 + (remaining : ℚ) / 1000000 := by
  have three : (padded 3 (inDay % 1000)).length = 3 :=
    length_padded (by decide) (by omega)
  have remaining_three : (padded 3 remaining).length = 3 :=
    length_padded (by decide) remaining_lt
  change fraction (_ ++ _) = _
  rw [fraction_append, fraction_withoutEndZeros]
  unfold fraction
  rw [three, remaining_three, value_padded, value_padded]
  ring

theorem encoded_seconds :
    (encoded year month day inDay remaining year_lt isDate inDay_lt).seconds =
      86400 * Calendar.dayNumber year month day + (inDay / 1000 : Nat) := by
  change 86400 * Calendar.dayNumber year month day +
    ((3600 * (inDay / 3600000) + 60 * (inDay / 60000 % 60) + inDay / 1000 % 60 : Nat) : Int) - 0 = _
  omega

end

/-- The encoding of a safe count of microseconds is a timestamp of exactly that instant. -/
theorem isoTimestampFromEpochMicroseconds_eq {value : Int} (safe : isSafeInteger value) :
    ∃ stamp : Timestamp, isoTimestampFromEpochMicroseconds value = some stamp.text ∧
      stamp.zone = .zulu false ∧ stamp.instant = value / 1000000 := by
  have bound : value.natAbs ≤ 9007199254740991 := safe
  have milliseconds_eq : Int.fdiv value 1000 = value / 1000 :=
    Int.fdiv_eq_ediv_of_nonneg _ (by decide)
  have days_eq : Int.fdiv (value / 1000) 86400000 = value / 1000 / 86400000 :=
    Int.fdiv_eq_ediv_of_nonneg _ (by decide)
  have inDay_eq : Int.fmod (value / 1000) 86400000 = value / 1000 % 86400000 :=
    Int.fmod_eq_emod_of_nonneg _ (by decide)
  rcases civil : Calendar.civil (Int.fdiv (value / 1000) 86400000) with ⟨year, month, day⟩
  have ⟨isDate, isDay⟩ := Calendar.civil_spec _ civil
  have ⟨year_nonneg, year_lt⟩ := year_bounds isDate isDay (by omega) (by omega)
  obtain ⟨yearNumber, isYear⟩ := Int.eq_ofNat_of_zero_le year_nonneg
  subst isYear
  have inDay_lt : (Int.fmod (value / 1000) 86400000).toNat < 86400000 := by
    rw [inDay_eq]
    omega
  refine ⟨encoded yearNumber month day _ (value - value / 1000 * 1000).toNat (by omega) isDate
    inDay_lt, ?_, rfl, ?_⟩
  · unfold isoTimestampFromEpochMicroseconds
    dsimp only
    rw [if_pos safe, milliseconds_eq, if_pos (by omega), encoded_text civil rfl]
  · have parts : value =
        ((86400 * (value / 1000 / 86400000) + ((value / 1000 % 86400000).toNat / 1000 : Nat)) * 1000 +
          ((value / 1000 % 86400000).toNat % 1000 : Nat)) * 1000 +
            ((value - value / 1000 * 1000).toNat : Int) := by
      omega
    unfold Timestamp.instant
    rw [encoded_seconds, encoded_fraction (by omega), isDay, days_eq, inDay_eq]
    conv_rhs => rw [parts]
    generalize (value / 1000 % 86400000).toNat / 1000 = seconds
    generalize (value / 1000 % 86400000).toNat % 1000 = milliseconds
    push_cast
    ring

/-- A timestamp `Date.parse` and the expression of `fractionalDigits` both know whole. -/
def Capital : Type := { stamp : Timestamp // stamp.zone ≠ .zulu true }

def NotLater (dateParse : String → Option Int) (left right : Capital) : Prop :=
  compareIsoTimestamps dateParse left.val.text right.val.text ≤ 0

theorem notLater_iff (truncates : Timestamp.TruncatesToMilliseconds dateParse)
    (left right : Capital) :
    NotLater dateParse left right ↔ left.val.instant ≤ right.val.instant := by
  unfold NotLater
  rw [compareIsoTimestamps_eq truncates left.property right.property]
  rcases lt_trichotomy left.val.instant right.val.instant with less | same | more
  · rw [sign_neg (by linarith)]
    exact iff_of_true (by decide) less.le
  · rw [same, sub_self, sign_zero]
    exact iff_of_true (by decide) le_rfl
  · rw [sign_pos (by linarith)]
    exact iff_of_false (by decide) (not_le_of_gt more)

/-- Timestamps are compared as the instants they denote, and the encodings of counts of
microseconds denote them exactly. -/
theorem compareIsoTimestamps_orders_instants (dateParse : String → Option Int)
    (truncates : Timestamp.TruncatesToMilliseconds dateParse) :
    (∀ left right : Timestamp, left.zone ≠ .zulu true → right.zone ≠ .zulu true →
      compareIsoTimestamps dateParse left.text right.text =
        (SignType.sign (left.instant - right.instant) : Int)) ∧
    ((∀ stamp, NotLater dateParse stamp stamp) ∧
      (∀ left middle right, NotLater dateParse left middle → NotLater dateParse middle right →
        NotLater dateParse left right) ∧
      ∀ left right, NotLater dateParse left right ∨ NotLater dateParse right left) ∧
    ∀ a b : Int, isSafeInteger a → isSafeInteger b → ∃ left right : Timestamp,
      isoTimestampFromEpochMicroseconds a = some left.text ∧ left.instant * 1000000 = a ∧
      isoTimestampFromEpochMicroseconds b = some right.text ∧ right.instant * 1000000 = b ∧
      compareIsoTimestamps dateParse left.text right.text = (SignType.sign (a - b) : Int) := by
  constructor
  · intro left right leftCapital rightCapital
    exact compareIsoTimestamps_eq truncates leftCapital rightCapital
  constructor
  · simp only [notLater_iff truncates]
    constructor
    · intro stamp
      exact le_rfl
    constructor
    · intro left middle right
      exact le_trans
    · intro left right
      exact le_total _ _
  · intro a b aSafe bSafe
    obtain ⟨left, isLeft, leftZone, leftInstant⟩ := isoTimestampFromEpochMicroseconds_eq aSafe
    obtain ⟨right, isRight, rightZone, rightInstant⟩ := isoTimestampFromEpochMicroseconds_eq bSafe
    have leftCapital : left.zone ≠ .zulu true := by
      rw [leftZone]
      decide
    have rightCapital : right.zone ≠ .zulu true := by
      rw [rightZone]
      decide
    refine ⟨left, right, isLeft, ?_, isRight, ?_, ?_⟩
    · rw [leftInstant]
      ring
    · rw [rightInstant]
      ring
    · have scaled : left.instant - right.instant = ((a - b : Int) : ℚ) * (1 / 1000000) := by
        rw [leftInstant, rightInstant]
        push_cast
        ring
      rw [compareIsoTimestamps_eq truncates leftCapital rightCapital, scaled, sign_mul,
        sign_pos (show (0 : ℚ) < 1 / 1000000 by norm_num), mul_one, sign_intCast]

theorem Sample.midnight_lt : 0 < 24 := by
  decide

theorem Sample.noMinutes_lt : 0 < 60 := by
  decide

def Sample.shortly (count : Nat) (zone : Zone) (wellFormed : zone.WellFormed) : Timestamp where
  year := 1970
  month := 1
  day := 1
  hour := 0
  minute := 0
  second := 0
  fraction := padded 4 count
  zone := zone
  lowerT := false
  year_lt := by decide
  isDate := ⟨by decide, by decide, by decide, by decide⟩
  hour_lt := midnight_lt
  minute_lt := noMinutes_lt
  second_lt := noMinutes_lt
  digits := isDigits_padded _ _
  zone_wellFormed := wellFormed

theorem compareIsoTimestamps_orders_instants_sample :
    compareIsoTimestamps Timestamp.read (Sample.shortly 1 (.zulu false) trivial).text
        (Sample.shortly 2 (.numeric true 1 30) ⟨by decide, by decide⟩).text =
      (SignType.sign ((Sample.shortly 1 (.zulu false) trivial).instant -
        (Sample.shortly 2 (.numeric true 1 30) ⟨by decide, by decide⟩).instant) : Int) :=
  (compareIsoTimestamps_orders_instants Timestamp.read
    Timestamp.truncatesToMilliseconds_read).1 _ _ (by decide) (by decide)

/-- Behind a small letter no digits are found, so that two instants of one millisecond are taken
for the same. -/
theorem compareIsoTimestamps_small_letter :
    Timestamp.TruncatesToMilliseconds Timestamp.read ∧
    compareIsoTimestamps Timestamp.read "1970-01-01T00:00:00.0001z" "1970-01-01T00:00:00.0002z" = 0 ∧
    (Sample.shortly 1 (.zulu true) trivial).text = "1970-01-01T00:00:00.0001z" ∧
    (Sample.shortly 2 (.zulu true) trivial).text = "1970-01-01T00:00:00.0002z" ∧
    (SignType.sign ((Sample.shortly 1 (.zulu true) trivial).instant -
      (Sample.shortly 2 (.zulu true) trivial).instant) : Int) = -1 := by
  refine ⟨Timestamp.truncatesToMilliseconds_read, by decide +kernel, by decide +kernel,
    by decide +kernel, ?_⟩
  have earlier : (Sample.shortly 1 (.zulu true) trivial).instant -
      (Sample.shortly 2 (.zulu true) trivial).instant < 0 := by
    decide +kernel
  rw [sign_neg earlier]
  rfl

end IsoTimestamps

end SdarRuntime
