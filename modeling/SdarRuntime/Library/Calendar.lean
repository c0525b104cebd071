import Mathlib.Data.Int.DivMod
import Mathlib.Tactic.IntervalCases

/-!
The Gregorian calendar, extended to every year, and the count of days from 1970-01-01. `dayNumber`
counts the days of the years and months that are over; `civil` computes the date of a count in
eras of four centuries that begin in March, and is its inverse.
-/

namespace Calendar

def isLeap (year : Int) : Bool :=
  decide (year % 4 = 0) && (decide (year % 100 ≠ 0) || decide (year % 400 = 0))

def daysInMonth (year : Int) (month : Nat) : Nat :=
  match month with
  | 2 => if isLeap year then 29 else 28
  | 4 | 6 | 9 | 11 => 30
  | _ => 31

theorem daysInMonth_le (year : Int) (month : Nat) : daysInMonth year month ≤ 31 := by
  unfold daysInMonth
  split
  · split <;> omega
  all_goals omega

def daysBeforeMonth (year : Int) (month : Nat) : Nat :=
  ((List.range' 1 (month - 1)).map (daysInMonth year)).sum

theorem daysBeforeMonth_le (year : Int) {month : Nat} (month_pos : 1 ≤ month)
    (month_le : month ≤ 12) : daysBeforeMonth year month ≤ 366 := by
  unfold daysBeforeMonth daysInMonth
  cases isLeap year <;> interval_cases month <;> decide

def daysBeforeYear (year : Int) : Int :=
  365 * year + (year + 3) / 4 - (year + 99) / 100 + (year + 399) / 400

def dayNumber (year : Int) (month day : Nat) : Int :=
  daysBeforeYear year + daysBeforeMonth year month + day - 1 - 719528

structure IsDate (year : Int) (month day : Nat) : Prop where
  month_pos : 1 ≤ month
  month_le : month ≤ 12
  day_pos : 1 ≤ day
  day_le : day ≤ daysInMonth year month

def civil (days : Int) : Int × Nat × Nat :=
  let shifted := days + 719468
  let era := Int.fdiv shifted 146097
  let dayOfEra := (shifted - era * 146097).toNat
  let yearOfEra :=
    (dayOfEra - dayOfEra / 1460 + dayOfEra / 36524 - dayOfEra / 146096) / 365
  let dayOfYear := dayOfEra - (365 * yearOfEra + yearOfEra / 4 - yearOfEra / 100)
  let shiftedMonth := (5 * dayOfYear + 2) / 153
  let day := dayOfYear - (153 * shiftedMonth + 2) / 5 + 1
  let month := if shiftedMonth < 10 then shiftedMonth + 3 else shiftedMonth - 9
  let year := Int.ofNat yearOfEra + era * 400
  (if month ≤ 2 then year + 1 else year, month, day)

/-- A day of an era in its century, its four years, its year and its day of the year. Only a leap
year, the last of its four and not of a century but the last, has a day 365. -/
structure EraDay where
  century : Nat
  olympiad : Nat
  yearOfOlympiad : Nat
  dayOfYear : Nat
  century_le : century ≤ 3
  olympiad_le : olympiad ≤ 24
  yearOfOlympiad_le : yearOfOlympiad ≤ 3
  dayOfYear_le : dayOfYear ≤ 365
  leap : dayOfYear = 365 → yearOfOlympiad = 3 ∧ (olympiad < 24 ∨ century = 3)

def EraDay.year (day : EraDay) : Nat :=
  100 * day.century + 4 * day.olympiad + day.yearOfOlympiad

def EraDay.number (day : EraDay) : Nat :=
  36524 * day.century + 1461 * day.olympiad + 365 * day.yearOfOlympiad + day.dayOfYear

/-- The day of a century, whose number is given, since only the last century has a day more. -/
private theorem exists_dayOfCentury (century rest : Nat) (century_le : century ≤ 3)
    (bound : rest < 36524 ∨ rest = 36524 ∧ century = 3) :
    ∃ day : EraDay, day.century = century ∧ day.number = 36524 * century + rest := by
  by_cases last : rest % 1461 = 1460
  · refine ⟨⟨century, rest / 1461, 3, 365, century_le, ?_, by omega, by omega, ?_⟩, rfl, ?_⟩
    · omega
    · intro _
      omega
    · unfold EraDay.number
      dsimp only
      omega
  · refine ⟨⟨century, rest / 1461, rest % 1461 / 365, rest % 1461 % 365, century_le, ?_, ?_, ?_,
      ?_⟩, rfl, ?_⟩
    · omega
    · omega
    · omega
    · intro full
      omega
    · unfold EraDay.number
      dsimp only
      omega

theorem exists_eraDay (number : Nat) (inEra : number < 146097) :
    ∃ day : EraDay, day.number = number := by
  by_cases early : number < 109572
  · obtain ⟨day, -, same⟩ := exists_dayOfCentury (number / 36524) (number % 36524) (by omega)
      (by omega)
    exact ⟨day, by omega⟩
  · obtain ⟨day, -, same⟩ := exists_dayOfCentury 3 (number - 109572) (by omega) (by omega)
    exact ⟨day, by omega⟩

/-- The year of a day, by one division: a day is taken off for each leap day before. -/
theorem EraDay.yearOfEra (day : EraDay) :
    (day.number - day.number / 1460 + day.number / 36524 - day.number / 146096) / 365 =
      day.year := by
  obtain ⟨century, olympiad, year, rest, century_le, olympiad_le, year_le, rest_le, leap⟩ := day
  simp only [EraDay.number, EraDay.year]
  have olympiads : (36524 * century + 1461 * olympiad + 365 * year + rest) / 1460 =
      25 * century + olympiad + (24 * century + olympiad + 365 * year + rest) / 1460 := by
    omega
  rw [olympiads]
  by_cases last : 36524 * century + 1461 * olympiad + 365 * year + rest = 146096
  · have isLast : century = 3 ∧ olympiad = 24 ∧ year = 3 := by omega
    omega
  · have centuries : (36524 * century + 1461 * olympiad + 365 * year + rest) / 36524 = century := by
      omega
    have eras : (36524 * century + 1461 * olympiad + 365 * year + rest) / 146096 = 0 := by
      omega
    rw [centuries, eras]
    by_cases before : 24 * century + olympiad + 365 * year + rest < 1460
    · rw [Nat.div_eq_of_lt before]
      have common : rest < 365 := by omega
      omega
    · have one : (24 * century + olympiad + 365 * year + rest) / 1460 = 1 := by omega
      rw [one]
      have late : 0 < rest := by omega
      omega

theorem EraDay.yearStart (day : EraDay) :
    365 * day.year + day.year / 4 - day.year / 100 + day.dayOfYear = day.number := by
  obtain ⟨century, olympiad, year, rest, century_le, olympiad_le, year_le, rest_le, leap⟩ := day
  simp only [EraDay.number, EraDay.year]
  omega

theorem daysBeforeYear_era (era : Int) (yearOfEra : Nat) (inEra : yearOfEra < 400) :
    daysBeforeYear (yearOfEra + era * 400 + 1) =
      146097 * era + 365 * yearOfEra + (yearOfEra / 4 : Nat) - (yearOfEra / 100 : Nat) + 366 := by
  unfold daysBeforeYear
  omega

theorem daysBeforeYear_succ (year : Int) :
    daysBeforeYear (year + 1) = daysBeforeYear year + 365 + (if isLeap year then 1 else 0) := by
  unfold daysBeforeYear isLeap
  by_cases four : year % 4 = 0
  · by_cases hundred : year % 100 = 0
    · by_cases fourHundred : year % 400 = 0
      · simp only [four, hundred, fourHundred]
        simp
        omega
      · simp only [four, hundred, fourHundred]
        simp
        omega
    · simp only [four]
      simp [hundred]
      omega
  · have notHundred : ¬year % 100 = 0 := by omega
    simp only [four]
    simp
    omega

/-- The months from March on begin at every fifth of a hundred and fifty-three days. -/
theorem daysBeforeMonth_march (year : Int) (shiftedMonth : Nat) (inYear : shiftedMonth < 10) :
    daysBeforeMonth year (shiftedMonth + 3) =
      (153 * shiftedMonth + 2) / 5 + 59 + (if isLeap year then 1 else 0) := by
  unfold daysBeforeMonth
  interval_cases shiftedMonth
  all_goals
    simp [List.range', daysInMonth]
    split
    · rfl
    · rfl

theorem daysInMonth_march (year : Int) (shiftedMonth : Nat) (inYear : shiftedMonth < 10) :
    daysInMonth year (shiftedMonth + 3) =
      (153 * (shiftedMonth + 1) + 2) / 5 - (153 * shiftedMonth + 2) / 5 := by
  interval_cases shiftedMonth
  all_goals rfl

/-- A day of an era as a date: the months of a year of an era begin with March. -/
theorem EraDay.isDate (day : EraDay) (era : Int) {shiftedMonth dayOfMonth month : Nat}
    {year : Int} (isShifted : shiftedMonth = (5 * day.dayOfYear + 2) / 153)
    (isDay : dayOfMonth = day.dayOfYear - (153 * shiftedMonth + 2) / 5 + 1)
    (isMonth : month = if shiftedMonth < 10 then shiftedMonth + 3 else shiftedMonth - 9)
    (isYear : year = if month ≤ 2 then day.year + era * 400 + 1 else day.year + era * 400) :
    IsDate year month dayOfMonth ∧
      dayNumber year month dayOfMonth = 146097 * era + day.number - 719468 := by
  have inYear := day.dayOfYear_le
  have start := day.yearStart
  have yearInEra : day.year < 400 := by
    unfold EraDay.year
    have := day.century_le
    have := day.olympiad_le
    have := day.yearOfOlympiad_le
    omega
  have next := daysBeforeYear_era era day.year yearInEra
  by_cases march : shiftedMonth < 10
  · rw [if_pos march] at isMonth
    subst isMonth
    rw [if_neg (by omega)] at isYear
    subst isYear
    have succ := daysBeforeYear_succ (day.year + era * 400)
    constructor
    · constructor
      · omega
      · omega
      · omega
      · rw [daysInMonth_march _ _ march]
        omega
    · unfold dayNumber
      rw [daysBeforeMonth_march _ _ march]
      by_cases leap : isLeap (day.year + era * 400) = true
      · rw [if_pos leap] at succ ⊢
        omega
      · rw [if_neg leap] at succ ⊢
        omega
  · rw [if_neg march] at isMonth
    rw [if_pos (by omega)] at isYear
    subst isYear
    have lastMonths : shiftedMonth = 10 ∨ shiftedMonth = 11 := by omega
    rcases lastMonths with january | february
    · subst january
      subst isMonth
      constructor
      · constructor
        · decide
        · decide
        · omega
        · change dayOfMonth ≤ 31
          omega
      · unfold dayNumber
        change _ + ((0 : Nat) : Int) + _ - _ - _ = _
        omega
    · subst february
      subst isMonth
      constructor
      · constructor
        · decide
        · decide
        · omega
        · change dayOfMonth ≤ if isLeap (day.year + era * 400 + 1) then 29 else 28
          by_cases leap : day.dayOfYear = 365
          · obtain ⟨last, century⟩ := day.leap leap
            have isLeapYear : isLeap (day.year + era * 400 + 1) = true := by
              have olympiad := day.olympiad_le
              unfold isLeap EraDay.year
              rw [Bool.and_eq_true, Bool.or_eq_true, decide_eq_true_eq, decide_eq_true_eq,
                decide_eq_true_eq]
              omega
            rw [if_pos isLeapYear]
            omega
          · have short : dayOfMonth ≤ 28 := by omega
            split
            · omega
            · exact short
      · unfold dayNumber
        change _ + ((31 : Nat) : Int) + _ - _ - _ = _
        omega

theorem civil_spec (days : Int) {year : Int} {month day : Nat}
    (isCivil : civil days = (year, month, day)) :
    IsDate year month day ∧ dayNumber year month day = days := by
  unfold civil at isCivil
  have fdiv : Int.fdiv (days + 719468) 146097 = (days + 719468) / 146097 :=
    Int.fdiv_eq_ediv_of_nonneg _ (by decide)
  dsimp only at isCivil
  rw [fdiv] at isCivil
  obtain ⟨eraDay, isEraDay⟩ := exists_eraDay
    (days + 719468 - (days + 719468) / 146097 * 146097).toNat (by omega)
  rw [← isEraDay, eraDay.yearOfEra] at isCivil
  have start := eraDay.yearStart
  have dayOfYear : eraDay.number -
      (365 * eraDay.year + eraDay.year / 4 - eraDay.year / 100) = eraDay.dayOfYear := by
    omega
  rw [dayOfYear] at isCivil
  simp only [Prod.mk.injEq] at isCivil
  obtain ⟨isYear, isMonth, isDay⟩ := isCivil
  have sameYear : year = if month ≤ 2 then (eraDay.year : Int) +
      (days + 719468) / 146097 * 400 + 1 else eraDay.year + (days + 719468) / 146097 * 400 := by
    rw [← isYear, isMonth]
    rfl
  obtain ⟨isDate, number⟩ :=
    eraDay.isDate ((days + 719468) / 146097) rfl isDay.symm isMonth.symm sameYear
  refine ⟨isDate, ?_⟩
  rw [number]
  omega

end Calendar
