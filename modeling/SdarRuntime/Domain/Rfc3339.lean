import Mathlib.Data.Rat.Floor
import SdarRuntime.Domain.Time

/-!
Timestamps of RFC 3339: what is written, and the exact instant it denotes. Leap seconds are left
out, since `Date.parse` reads none.
-/

namespace SdarRuntime

open DecimalText

/-- Where a timestamp is written; the letter may be of either case. -/
inductive Zone where
  | zulu (lower : Bool)
  | numeric (behind : Bool) (hours minutes : Nat)
  deriving DecidableEq

namespace Zone

def WellFormed : Zone → Prop
  | zulu _ => True
  | numeric _ hours minutes => hours < 24 ∧ minutes < 60

def seconds : Zone → Int
  | zulu _ => 0
  | numeric behind hours minutes =>
    if behind then -(3600 * hours + 60 * minutes : Nat) else (3600 * hours + 60 * minutes : Nat)

def text : Zone → List Char
  | zulu lower => [if lower then 'z' else 'Z']
  | numeric behind hours minutes =>
    (if behind then '-' else '+') :: DecimalText.padded 2 hours ++
      ':' :: DecimalText.padded 2 minutes

theorem not_isDigit_head (zone : Zone) :
    ∀ char, zone.text.head? = some char → char.isDigit = false := by
  intro char isHead
  cases zone with
  | zulu lower =>
    have isChar : (if lower then 'z' else 'Z') = char := Option.some.inj isHead
    subst isChar
    cases lower <;> decide
  | numeric behind hours minutes =>
    have isChar : (if behind then '-' else '+') = char := Option.some.inj isHead
    subst isChar
    cases behind <;> decide

end Zone

structure Timestamp where
  year : Nat
  month : Nat
  day : Nat
  hour : Nat
  minute : Nat
  second : Nat
  /-- The digits behind the point, if there is one. -/
  fraction : List Char
  zone : Zone
  /-- The letter before the time is a small one. -/
  lowerT : Bool
  year_lt : year < 10000
  isDate : Calendar.IsDate year month day
  hour_lt : hour < 24
  minute_lt : minute < 60
  second_lt : second < 60
  digits : DecimalText.IsDigits fraction
  zone_wellFormed : zone.WellFormed

namespace Timestamp

def seconds (stamp : Timestamp) : Int :=
  86400 * Calendar.dayNumber stamp.year stamp.month stamp.day +
    (3600 * stamp.hour + 60 * stamp.minute + stamp.second : Nat) - stamp.zone.seconds

def instant (stamp : Timestamp) : ℚ :=
  stamp.seconds + DecimalText.fraction stamp.fraction

/-- The instant as a count of milliseconds, what is below them cut off. -/
def milliseconds (stamp : Timestamp) : Int := ⌊stamp.instant * 1000⌋

def whole (stamp : Timestamp) : List Char :=
  DecimalText.padded 4 stamp.year ++ '-' :: DecimalText.padded 2 stamp.month ++
    '-' :: DecimalText.padded 2 stamp.day ++ (if stamp.lowerT then 't' else 'T') ::
    DecimalText.padded 2 stamp.hour ++ ':' :: DecimalText.padded 2 stamp.minute ++
    ':' :: DecimalText.padded 2 stamp.second

def fractionText (stamp : Timestamp) : List Char :=
  if stamp.fraction = [] then [] else '.' :: stamp.fraction

def text (stamp : Timestamp) : String :=
  String.ofList (stamp.whole ++ (stamp.fractionText ++ stamp.zone.text))

/-- A JavaScript engine reads timestamps as counts of milliseconds. -/
def TruncatesToMilliseconds (dateParse : String → Option Int) : Prop :=
  ∀ stamp : Timestamp, dateParse stamp.text = some stamp.milliseconds

theorem milliseconds_eq (stamp : Timestamp) :
    stamp.milliseconds = stamp.seconds * 1000 + ⌊DecimalText.fraction stamp.fraction * 1000⌋ := by
  unfold milliseconds instant
  rw [add_mul, ← Int.floor_intCast_add]
  norm_cast

theorem seconds_eq_of_milliseconds_eq {left right : Timestamp}
    (same : left.milliseconds = right.milliseconds) : left.seconds = right.seconds := by
  have bounds (stamp : Timestamp) : 0 ≤ ⌊DecimalText.fraction stamp.fraction * 1000⌋ ∧
      ⌊DecimalText.fraction stamp.fraction * 1000⌋ < 1000 := by
    have nonneg := DecimalText.fraction_nonneg stamp.fraction
    have below := DecimalText.fraction_lt_one stamp.digits
    constructor
    · exact Int.floor_nonneg.mpr (by linarith)
    · rw [Int.floor_lt]
      push_cast
      linarith
  rw [left.milliseconds_eq, right.milliseconds_eq] at same
  have leftBounds := bounds left
  have rightBounds := bounds right
  omega

theorem instant_lt_of_milliseconds_lt {left right : Timestamp}
    (less : left.milliseconds < right.milliseconds) : left.instant < right.instant := by
  by_contra notLess
  have scaled : right.instant * 1000 ≤ left.instant * 1000 := by linarith
  have floors := Int.floor_le_floor scaled
  unfold milliseconds at less
  omega

def zoneSeconds : List Char → Int
  | [] => 0
  | sign :: rest =>
    let offset : Nat :=
      3600 * DecimalText.value (rest.take 2) + 60 * DecimalText.value ((rest.drop 3).take 2)
    if sign = '-' then -offset else if sign = '+' then offset else 0

/-- What stands behind the seconds: the digits of the fraction, and the zone. -/
def splitFraction : List Char → List Char × List Char
  | '.' :: rest => (rest.takeWhile Char.isDigit, rest.dropWhile Char.isDigit)
  | rest => ([], rest)

def read (text : String) : Option Int :=
  let chars := text.toList
  let number (start length : Nat) := DecimalText.value ((chars.drop start).take length)
  let (fraction, zone) := splitFraction (chars.drop 19)
  some ((86400 * Calendar.dayNumber (number 0 4) (number 5 2) (number 8 2) +
    (3600 * number 11 2 + 60 * number 14 2 + number 17 2 : Nat) - zoneSeconds zone) * 1000 +
      ⌊DecimalText.fraction fraction * 1000⌋)

theorem exists_two {number : Nat} (number_lt : number < 100) :
    ∃ char char', DecimalText.padded 2 number = [char, char'] :=
  List.length_eq_two.mp (length_padded (by decide) number_lt)

theorem exists_four {number : Nat} (number_lt : number < 10000) :
    ∃ first second third fourth, DecimalText.padded 4 number = [first, second, third, fourth] := by
  have four : (DecimalText.padded 4 number).length = 4 :=
    length_padded (by decide) number_lt
  rcases isPadded : DecimalText.padded 4 number with
    _ | ⟨first, _ | ⟨second, _ | ⟨third, _ | ⟨fourth, _ | ⟨extra, rest⟩⟩⟩⟩⟩
  all_goals rw [isPadded] at four
  all_goals first
    | exact ⟨first, second, third, fourth, rfl⟩
    | simp at four

theorem zoneSeconds_text {zone : Zone} (wellFormed : zone.WellFormed) :
    zoneSeconds zone.text = zone.seconds := by
  cases zone with
  | zulu lower => cases lower <;> rfl
  | numeric behind hours minutes =>
    obtain ⟨hours_lt, minutes_lt⟩ := wellFormed
    obtain ⟨hour, hour', isHours⟩ := exists_two (show hours < 100 by omega)
    obtain ⟨minute, minute', isMinutes⟩ := exists_two (show minutes < 100 by omega)
    have hoursValue := value_padded 2 hours
    have minutesValue := value_padded 2 minutes
    rw [isHours] at hoursValue
    rw [isMinutes] at minutesValue
    change zoneSeconds ((if behind then '-' else '+') :: DecimalText.padded 2 hours ++
      ':' :: DecimalText.padded 2 minutes) = _
    rw [isHours, isMinutes]
    cases behind <;> simp [zoneSeconds, Zone.seconds, hoursValue, minutesValue]

theorem splitFraction_text (stamp : Timestamp) :
    splitFraction (stamp.fractionText ++ stamp.zone.text) = (stamp.fraction, stamp.zone.text) := by
  unfold fractionText
  by_cases empty : stamp.fraction = []
  · rw [if_pos empty, List.nil_append, empty]
    cases stamp.zone with
    | zulu lower => cases lower <;> rfl
    | numeric behind hours minutes => cases behind <;> rfl
  · have spanned := span_digits stamp.digits stamp.zone.not_isDigit_head
    rw [if_neg empty, List.cons_append]
    exact Prod.ext spanned.1 spanned.2

theorem truncatesToMilliseconds_read : TruncatesToMilliseconds read := by
  intro stamp
  have ⟨month_pos, month_le, day_pos, day_le⟩ := stamp.isDate
  have day_lt : stamp.day < 100 := by
    have short := Calendar.daysInMonth_le stamp.year stamp.month
    omega
  have hour_lt := stamp.hour_lt
  have minute_lt := stamp.minute_lt
  have second_lt := stamp.second_lt
  obtain ⟨y, y', y'', y''', isYear⟩ := exists_four stamp.year_lt
  obtain ⟨m, m', isMonth⟩ := exists_two (show stamp.month < 100 by omega)
  obtain ⟨d, d', isDay⟩ := exists_two day_lt
  obtain ⟨h, h', isHour⟩ := exists_two (show stamp.hour < 100 by omega)
  obtain ⟨n, n', isMinute⟩ := exists_two (show stamp.minute < 100 by omega)
  obtain ⟨s, s', isSecond⟩ := exists_two (show stamp.second < 100 by omega)
  have yearValue := value_padded 4 stamp.year
  have monthValue := value_padded 2 stamp.month
  have dayValue := value_padded 2 stamp.day
  have hourValue := value_padded 2 stamp.hour
  have minuteValue := value_padded 2 stamp.minute
  have secondValue := value_padded 2 stamp.second
  rw [isYear] at yearValue
  rw [isMonth] at monthValue
  rw [isDay] at dayValue
  rw [isHour] at hourValue
  rw [isMinute] at minuteValue
  rw [isSecond] at secondValue
  rw [milliseconds_eq]
  unfold read text whole
  rw [String.toList_ofList, isYear, isMonth, isDay, isHour, isMinute, isSecond]
  simp only [List.cons_append, List.nil_append, List.drop_succ_cons, List.drop_zero,
    List.take_succ_cons, List.take_zero, yearValue, monthValue, dayValue, hourValue, minuteValue,
    secondValue, splitFraction_text, zoneSeconds_text stamp.zone_wellFormed]
  rfl

end Timestamp

namespace Instant

/-- A count of microseconds as the fields `toISOString` writes. -/
theorem toISOString_toList (value : Instant) {year : Int} {month day : Nat}
    (isCivil : Calendar.civil (Int.fdiv (Int.fdiv value 1000) 86400000) = (year, month, day)) :
    value.toISOString.toList =
      (yearText year).toList ++ '-' :: DecimalText.padded 2 month ++
        '-' :: DecimalText.padded 2 day ++ 'T' ::
        DecimalText.padded 2 ((Int.fmod (Int.fdiv value 1000) 86400000).toNat / 3600000) ++
        ':' :: DecimalText.padded 2 ((Int.fmod (Int.fdiv value 1000) 86400000).toNat / 60000 % 60) ++
        ':' :: DecimalText.padded 2 ((Int.fmod (Int.fdiv value 1000) 86400000).toNat / 1000 % 60) ++
        '.' :: DecimalText.padded 3 ((Int.fmod (Int.fdiv value 1000) 86400000).toNat % 1000) ++
        ['Z'] := by
  unfold toISOString
  dsimp only
  rw [isCivil]
  simp [padded, String.toList_append]

end Instant

end SdarRuntime
