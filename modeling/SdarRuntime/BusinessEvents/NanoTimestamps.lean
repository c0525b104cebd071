import SdarRuntime.Domain.Rfc3339

/-!
Timestamps with up to nine digits of a fraction, as business events carry them: what is written
for a protobuf timestamp, and the normalized form in UTC.
-/

namespace SdarRuntime

namespace BusinessEvents

open DecimalText Calendar

/-- The milliseconds a `Date` may be away from the epoch. -/
def maxDate : Int := 8640000000000000

/-- `google.protobuf.Timestamp`; nothing relates the two fields. -/
structure ProtoTimestamp where
  seconds : Int
  nanos : Int
  seconds_int64 : -9223372036854775808 ≤ seconds ∧ seconds ≤ 9223372036854775807
  nanos_int32 : -2147483648 ≤ nanos ∧ nanos ≤ 2147483647

def integerText (value : Int) : List Char :=
  if value < 0 then '-' :: Nat.toDigits 10 value.natAbs else Nat.toDigits 10 value.natAbs

def padStart (length : Nat) (text : List Char) : List Char :=
  List.replicate (length - text.length) '0' ++ text

/-- `new Date(value).toISOString().slice(0, 19)`. -/
def isoSeconds (milliseconds : Int) : List Char :=
  (Instant.toISOString (1000 * milliseconds)).toList.take 19

def nanosText (nanos : Int) : List Char :=
  if nanos = 0 then []
  else '.' :: withoutEndZeros (padStart 9 (integerText nanos))

/-- A missing timestamp has no fields, and a `Date` out of range has no text. -/
def timestampToRfc3339Nano : Option ProtoTimestamp → Except String String
  | none => .error "TypeError"
  | some timestamp =>
    let milliseconds := timestamp.seconds * 1000
    if milliseconds.natAbs ≤ maxDate then
      .ok (String.ofList (isoSeconds milliseconds ++ nanosText timestamp.nanos ++ ['Z']))
    else .error "RangeError"

def takeDigits (count : Nat) (text : List Char) : Option (Nat × List Char) :=
  if (text.take count).length = count ∧ (text.take count).all Char.isDigit = true then
    some (DecimalText.value (text.take count), text.drop count)
  else none

def takeChar (expected : Char) : List Char → Option (List Char)
  | [] => none
  | char :: rest => if char = expected then some rest else none

/-- `(?:\.(\d{1,9}))?`. -/
def takeFraction : List Char → Option (List Char × List Char)
  | '.' :: rest =>
    let digits := rest.takeWhile Char.isDigit
    if 1 ≤ digits.length ∧ digits.length ≤ 9 then some (digits, rest.dropWhile Char.isDigit)
    else none
  | rest => some ([], rest)

/-- `(Z|[+-]\d{2}:\d{2})$`, as minutes. -/
def takeZone : List Char → Option Int
  | ['Z'] => some 0
  | sign :: rest => do
    let (hours, rest) ← takeDigits 2 rest
    let rest ← takeChar ':' rest
    let (minutes, rest) ← takeDigits 2 rest
    let offset : Int := 60 * hours + minutes
    if rest ≠ [] then none
    else if sign = '-' then some (-offset)
    else if sign = '+' then some offset
    else none
  | [] => none

structure NanoMatch where
  year : Nat
  month : Nat
  day : Nat
  hour : Nat
  minute : Nat
  second : Nat
  fraction : List Char
  offsetMinutes : Int
  deriving DecidableEq

def matchNano (text : List Char) : Option NanoMatch := do
  let (year, text) ← takeDigits 4 text
  let text ← takeChar '-' text
  let (month, text) ← takeDigits 2 text
  let text ← takeChar '-' text
  let (day, text) ← takeDigits 2 text
  let text ← takeChar 'T' text
  let (hour, text) ← takeDigits 2 text
  let text ← takeChar ':' text
  let (minute, text) ← takeDigits 2 text
  let text ← takeChar ':' text
  let (second, text) ← takeDigits 2 text
  let (fraction, text) ← takeFraction text
  let offsetMinutes ← takeZone text
  return {
    year := year
    month := month
    day := day
    hour := hour
    minute := minute
    second := second
    fraction := fraction
    offsetMinutes := offsetMinutes
  }

/-- `Date.UTC`: months and what follows may be out of their ranges, and the years up to 99 are
those of the last century. -/
def dateUtc (year : Nat) (month : Int) (day hour : Nat) (minute : Int) (second : Nat) : Int :=
  let fullYear : Int := if year ≤ 99 then 1900 + year else year
  let days := dayNumber (fullYear + Int.fdiv month 12) ((Int.fmod month 12).toNat + 1) 1 +
    (day - 1)
  86400000 * days + 3600000 * hour + 60000 * minute + 1000 * second

def normalizeRfc3339Nano (input : String) : Except String String :=
  match matchNano input.toList with
  | none => .error "BUSINESS_EVENT_TIMESTAMP_INVALID"
  | some found =>
    let utc := dateUtc found.year (found.month - 1) found.day found.hour
      (found.minute - found.offsetMinutes) found.second
    if utc.natAbs ≤ maxDate then
      let normalizedFraction := withoutEndZeros found.fraction
      .ok (String.ofList (isoSeconds utc ++
        (if normalizedFraction = [] then [] else '.' :: normalizedFraction) ++ ['Z']))
    else .error "BUSINESS_EVENT_TIMESTAMP_INVALID"

theorem takeDigits_append {digits : List Char} (areDigits : DecimalText.IsDigits digits)
    (rest : List Char) {count : Nat} (length : digits.length = count) :
    takeDigits count (digits ++ rest) = some (DecimalText.value digits, rest) := by
  unfold takeDigits
  rw [List.take_left' length, List.drop_left' length, if_pos]
  constructor
  · exact length
  · rw [List.all_eq_true]
    exact areDigits

theorem takeDigits_padded {count number : Nat} (positive : 0 < count) (fits : number < 10 ^ count)
    (rest : List Char) :
    takeDigits count (padded count number ++ rest) = some (number, rest) := by
  have taken := takeDigits_append (isDigits_padded count number) rest
    (length_padded positive fits)
  rw [value_padded] at taken
  exact taken

theorem takeDigits_head {char : Char} {rest : List Char} {count : Nat}
    (notDigit : char.isDigit = false) : takeDigits (count + 1) (char :: rest) = none := by
  unfold takeDigits
  rw [if_neg]
  rintro ⟨-, areDigits⟩
  rw [List.take_succ_cons, List.all_cons, notDigit] at areDigits
  cases areDigits

theorem takeChar_none {expected : Char} {text : List Char} (absent : expected ∉ text) :
    takeChar expected text = none := by
  cases text with
  | nil => rfl
  | cons char rest =>
    have different : char ≠ expected := by
      intro same
      apply absent
      rw [same]
      exact List.mem_cons_self
    rw [takeChar, if_neg different]

theorem takeZone_none {text : List Char} (noLetter : text ≠ ['Z']) (noColon : ':' ∉ text) :
    takeZone text = none := by
  unfold takeZone
  split
  · exact absurd rfl noLetter
  · rename_i sign rest _
    cases taken : takeDigits 2 rest with
    | none => rfl
    | some found =>
      obtain ⟨hours, later⟩ := found
      have isLater : later = rest.drop 2 := by
        unfold takeDigits at taken
        split at taken
        · cases taken
          rfl
        · cases taken
      have absent : ':' ∉ later := by
        intro member
        rw [isLater] at member
        exact noColon (List.mem_cons_of_mem _ (List.mem_of_mem_drop member))
      simp [takeChar_none absent]
  · rfl

/-- The nanoseconds are not negative, and written with at most nine digits. -/
def nanosFit (nanos : Int) : Prop :=
  0 ≤ nanos ∧ (withoutEndZeros (padStart 9 (integerText nanos))).length ≤ 9

instance (nanos : Int) : Decidable (nanosFit nanos) := inferInstanceAs (Decidable (_ ∧ _))

theorem isDigits_integerText {value : Int} (nonneg : 0 ≤ value) :
    DecimalText.IsDigits (integerText value) := by
  unfold integerText
  rw [if_neg (by omega)]
  exact isDigits_toDigits _

theorem value_integerText {value : Int} (nonneg : 0 ≤ value) :
    (DecimalText.value (integerText value) : Int) = value := by
  unfold integerText
  rw [if_neg (by omega)]
  have digits : DecimalText.value (Nat.toDigits 10 value.natAbs) = value.natAbs :=
    Nat.ofDigitChars_ten_toDigits
  rw [digits]
  omega

/-- The fraction and the zone behind the seconds are read back, if the nanoseconds fit. -/
theorem takeFraction_nanosText {nanos : Int} (fits : nanosFit nanos) :
    ∃ fraction, takeFraction (nanosText nanos ++ ['Z']) = some (fraction, ['Z']) := by
  unfold nanosText
  by_cases zero : nanos = 0
  · rw [if_pos zero]
    exact ⟨[], rfl⟩
  · obtain ⟨nonneg, short⟩ := fits
    have digits : DecimalText.IsDigits (padStart 9 (integerText nanos)) :=
      isDigits_append.mpr
        ⟨isDigits_zeros _, isDigits_integerText nonneg⟩
    have trimmed := isDigits_withoutEndZeros digits
    have notEmpty : withoutEndZeros (padStart 9 (integerText nanos)) ≠ [] := by
      intro empty
      have isZero := value_of_withoutEndZeros_eq_nil empty
      have isValue := value_integerText nonneg
      unfold padStart at isZero
      rw [value_append, value_zeros, Nat.mul_zero, Nat.zero_add] at isZero
      omega
    have stops : ∀ char, ['Z'].head? = some char → char.isDigit = false := by
      intro char isHead
      cases isHead
      rfl
    have spanned := span_digits trimmed stops
    rw [if_neg zero]
    refine ⟨withoutEndZeros (padStart 9 (integerText nanos)), ?_⟩
    rw [List.cons_append, takeFraction]
    rw [spanned.1, spanned.2, if_pos ⟨List.length_pos_iff.mpr notEmpty, short⟩]

theorem takeFraction_nanosText_none {nanos : Int} (unfit : ¬nanosFit nanos) :
    (takeFraction (nanosText nanos ++ ['Z'])).bind (fun found => takeZone found.2) = none := by
  have nonzero : nanos ≠ 0 := by
    intro zero
    apply unfit
    rw [zero]
    decide
  unfold nanosText
  rw [if_neg nonzero, List.cons_append, takeFraction]
  generalize isTrimmed : withoutEndZeros (padStart 9 (integerText nanos)) = trimmed
  obtain ⟨count, isText⟩ := exists_endZeros (padStart 9 (integerText nanos))
  rw [isTrimmed] at isText
  split
  · rename_i lengths
    by_cases negative : nanos < 0
    · -- The sign is neither a digit nor a zero, so it stands behind the digits.
      have sign : '-' ∈ trimmed := by
        have written : '-' ∈ padStart 9 (integerText nanos) := by
          unfold padStart integerText
          rw [if_pos negative]
          simp
        rw [isText] at written
        rcases List.mem_append.mp written with front | zeros
        · exact front
        · cases (List.mem_replicate.mp zeros).2
      have parts := List.takeWhile_append_dropWhile (p := Char.isDigit) (l := trimmed ++ ['Z'])
      have behind : '-' ∈ (trimmed ++ ['Z']).dropWhile Char.isDigit := by
        have among : '-' ∈ trimmed ++ ['Z'] := List.mem_append_left _ sign
        rw [← parts] at among
        rcases List.mem_append.mp among with digits | rest
        · exact absurd (List.mem_takeWhile_imp digits) (by decide)
        · exact rest
      have noColon : ':' ∉ trimmed ++ ['Z'] := by
        intro member
        rcases List.mem_append.mp member with front | letter
        · have written : ':' ∈ padStart 9 (integerText nanos) := by
            rw [isText]
            exact List.mem_append_left _ front
          unfold padStart integerText at written
          rw [if_pos negative] at written
          rcases List.mem_append.mp written with zeros | number
          · cases (List.mem_replicate.mp zeros).2
          · rcases List.mem_cons.mp number with isSign | digits
            · cases isSign
            · exact absurd (isDigits_toDigits _ _ digits) (by decide)
        · cases List.mem_singleton.mp letter
      apply takeZone_none
      · intro onlyLetter
        change (trimmed ++ ['Z']).dropWhile Char.isDigit = ['Z'] at onlyLetter
        rw [onlyLetter] at behind
        cases List.mem_singleton.mp behind
      · intro member
        exact noColon (List.dropWhile_sublist _ |>.subset member)
    · have nonneg : 0 ≤ nanos := by omega
      have digits : DecimalText.IsDigits trimmed := by
        rw [← isTrimmed]
        exact isDigits_withoutEndZeros (isDigits_append.mpr
          ⟨isDigits_zeros _, isDigits_integerText nonneg⟩)
      have stops : ∀ char, ['Z'].head? = some char → char.isDigit = false := by
        intro char isHead
        cases isHead
        rfl
      rw [(span_digits digits stops).1] at lengths
      rw [← isTrimmed] at lengths
      exact absurd ⟨nonneg, lengths.2⟩ unfit
  · rfl

def ProtoTimestamp.year (timestamp : ProtoTimestamp) : Int :=
  (Calendar.civil (Int.fdiv (timestamp.seconds * 1000) 86400000)).1

def wholeText (year month day hour minute second : Nat) : List Char :=
  padded 4 year ++ '-' :: (padded 2 month ++
    '-' :: (padded 2 day ++ 'T' :: (padded 2 hour ++
      ':' :: (padded 2 minute ++ ':' :: padded 2 second))))

theorem isoSeconds_eq {milliseconds : Int} {year month day inDay : Nat} (year_lt : year < 10000)
    (civil : Calendar.civil (Int.fdiv milliseconds 86400000) = ((year : Int), month, day))
    (isInDay : (Int.fmod milliseconds 86400000).toNat = inDay) :
    isoSeconds milliseconds =
      wholeText year month day (inDay / 3600000) (inDay / 60000 % 60) (inDay / 1000 % 60) := by
  have sameDate : Int.fdiv (1000 * milliseconds) 1000 = milliseconds := by
    rw [Int.fdiv_eq_ediv_of_nonneg _ (by decide)]
    omega
  have civilDate : Calendar.civil (Int.fdiv (Int.fdiv (1000 * milliseconds) 1000) 86400000) =
      ((year : Int), month, day) := by
    rw [sameDate]
    exact civil
  have fourDigits : (Instant.yearText (year : Int)).toList = padded 4 year := by
    unfold Instant.yearText
    rw [if_pos (by omega)]
    exact String.toList_ofList
  have written := Instant.toISOString_toList (1000 * milliseconds) civilDate
  have ⟨month_pos, month_le, day_pos, day_le⟩ := (civil_spec _ civil).1
  have day_short := daysInMonth_le year month
  have inDay_lt : inDay < 86400000 := by
    rw [← isInDay, Int.fmod_eq_emod_of_nonneg _ (by decide)]
    omega
  rw [sameDate, fourDigits, isInDay] at written
  have length : (wholeText year month day (inDay / 3600000) (inDay / 60000 % 60)
      (inDay / 1000 % 60)).length = 19 := by
    have two {number : Nat} (number_lt : number < 100) :
        (padded 2 number).length = 2 :=
      length_padded (by decide) number_lt
    unfold wholeText
    simp only [List.length_append, List.length_cons,
      length_padded (show 0 < 4 by decide) year_lt,
      two (show month < 100 by omega), two (show day < 100 by omega),
      two (show inDay / 3600000 < 100 by omega), two (show inDay / 60000 % 60 < 100 by omega),
      two (show inDay / 1000 % 60 < 100 by omega)]
  have parts : (Instant.toISOString (1000 * milliseconds)).toList =
      wholeText year month day (inDay / 3600000) (inDay / 60000 % 60) (inDay / 1000 % 60) ++
        '.' :: (padded 3 (inDay % 1000) ++ ['Z']) := by
    rw [written]
    simp [wholeText]
  unfold isoSeconds
  rw [parts]
  exact List.take_left' length

theorem inDay_lt (milliseconds : Int) : (Int.fmod milliseconds 86400000).toNat < 86400000 := by
  rw [Int.fmod_eq_emod_of_nonneg _ (by decide)]
  omega

theorem matchNano_whole {year month day hour minute second : Nat} (year_lt : year < 10000)
    (month_lt : month < 100) (day_lt : day < 100) (hour_lt : hour < 100) (minute_lt : minute < 100)
    (second_lt : second < 100) (rest : List Char) :
    matchNano (wholeText year month day hour minute second ++ rest) =
      (takeFraction rest).bind fun found =>
        (takeZone found.2).map fun offsetMinutes =>
          { year := year
            month := month
            day := day
            hour := hour
            minute := minute
            second := second
            fraction := found.1
            offsetMinutes := offsetMinutes } := by
  have two {number : Nat} (number_lt : number < 100) (later : List Char) :
      takeDigits 2 (padded 2 number ++ later) = some (number, later) :=
    takeDigits_padded (by decide) number_lt later
  have char (expected : Char) (later : List Char) :
      takeChar expected (expected :: later) = some later := by
    rw [takeChar, if_pos rfl]
  have four (later : List Char) :
      takeDigits 4 (padded 4 year ++ later) = some (year, later) :=
    takeDigits_padded (by decide) year_lt later
  unfold matchNano wholeText
  simp only [List.append_assoc, List.cons_append, four, two month_lt, two day_lt, two hour_lt,
    two minute_lt, two second_lt, char, Option.bind_eq_bind, Option.bind_some]
  cases takeFraction rest with
  | none => rfl
  | some found =>
    rw [Option.bind_some, Option.bind_some]
    cases takeZone found.2 <;> rfl

theorem matchNano_isoSeconds_none {milliseconds year : Int} {month day : Nat}
    (civil : Calendar.civil (Int.fdiv milliseconds 86400000) = (year, month, day))
    (outside : ¬(0 ≤ year ∧ year ≤ 9999)) (rest : List Char) :
    matchNano (isoSeconds milliseconds ++ rest) = none := by
  have sameDate : Int.fdiv (1000 * milliseconds) 1000 = milliseconds := by
    rw [Int.fdiv_eq_ediv_of_nonneg _ (by decide)]
    omega
  have civilDate : Calendar.civil (Int.fdiv (Int.fdiv (1000 * milliseconds) 1000) 86400000) =
      (year, month, day) := by
    rw [sameDate]
    exact civil
  have signed : ∃ sign digits, (Instant.yearText year).toList = sign :: digits ∧
      sign.isDigit = false := by
    unfold Instant.yearText
    rw [if_neg outside]
    split
    · exact ⟨'-', _, by rw [String.toList_append]; rfl, rfl⟩
    · exact ⟨'+', _, by rw [String.toList_append]; rfl, rfl⟩
  obtain ⟨sign, digits, isYear, notDigit⟩ := signed
  have begins : ∃ later, isoSeconds milliseconds ++ rest = sign :: later := by
    unfold isoSeconds
    rw [Instant.toISOString_toList (1000 * milliseconds) civilDate, isYear]
    exact ⟨_, rfl⟩
  obtain ⟨later, isText⟩ := begins
  unfold matchNano
  rw [isText, takeDigits_head notDigit]
  rfl

theorem dateUtc_le {year month day hour minute second : Nat} (year_lt : year < 10000)
    (month_pos : 1 ≤ month) (month_le : month ≤ 12) (day_lt : day < 100) (hour_lt : hour < 100)
    (minute_lt : minute < 100) (second_lt : second < 100) :
    (dateUtc year (month - 1) day hour (minute - 0) second).natAbs ≤ maxDate := by
  have quotient : Int.fdiv ((month : Int) - 1) 12 = 0 := by
    rw [Int.fdiv_eq_ediv_of_nonneg _ (by decide)]
    omega
  have remainder : (Int.fmod ((month : Int) - 1) 12).toNat + 1 = month := by
    rw [Int.fmod_eq_emod_of_nonneg _ (by decide)]
    omega
  have months (fullYear : Int) := daysBeforeMonth_le fullYear month_pos month_le
  unfold dateUtc
  rw [quotient, remainder]
  dsimp only
  have bound (fullYear : Int) (low : 0 ≤ fullYear) (high : fullYear < 10000) :
      (86400000 * (dayNumber (fullYear + 0) month 1 + ((day : Int) - 1)) +
        3600000 * (hour : Int) + 60000 * ((minute : Int) - 0) + 1000 * (second : Int)).natAbs ≤
          maxDate := by
    have before := months (fullYear + 0)
    unfold maxDate dayNumber daysBeforeYear
    omega
  split
  · apply bound <;> omega
  · apply bound <;> omega

/-- The timestamp of an event is normalized exactly when it is there, in a year of four digits, and
its nanoseconds fit. -/
theorem normalizes_iff (timestamp : Option ProtoTimestamp) :
    (∃ text normalized, timestampToRfc3339Nano timestamp = .ok text ∧
      normalizeRfc3339Nano text = .ok normalized) ↔
    ∃ present, timestamp = some present ∧ 0 ≤ present.year ∧ present.year ≤ 9999 ∧
      nanosFit present.nanos := by
  cases timestamp with
  | none =>
    constructor
    · rintro ⟨text, normalized, written, -⟩
      cases written
    · rintro ⟨present, isPresent, -⟩
      cases isPresent
  | some timestamp =>
    rcases civil : Calendar.civil (Int.fdiv (timestamp.seconds * 1000) 86400000) with
      ⟨year, month, day⟩
    have sameYear : timestamp.year = year := by
      unfold ProtoTimestamp.year
      rw [civil]
    have ⟨isDate, isDay⟩ := civil_spec _ civil
    have ⟨month_pos, month_le, day_pos, day_le⟩ := isDate
    have day_short := daysInMonth_le year month
    constructor
    · rintro ⟨text, normalized, written, normalizes⟩
      refine ⟨timestamp, rfl, ?_⟩
      rw [sameYear, ← and_assoc]
      unfold timestampToRfc3339Nano at written
      dsimp only at written
      split at written
      · have isText := Except.ok.inj written
        subst isText
        unfold normalizeRfc3339Nano at normalizes
        rw [String.toList_ofList, List.append_assoc] at normalizes
        by_cases inside : 0 ≤ year ∧ year ≤ 9999
        · refine ⟨inside, ?_⟩
          by_contra unfit
          obtain ⟨number, isNumber⟩ := Int.eq_ofNat_of_zero_le inside.1
          subst isNumber
          have isIso := isoSeconds_eq (show number < 10000 by omega) civil rfl
          have inDay_lt := inDay_lt (timestamp.seconds * 1000)
          generalize (Int.fmod (timestamp.seconds * 1000) 86400000).toNat = inDay at isIso inDay_lt
          rw [isIso, matchNano_whole (by omega) (by omega) (by omega) (by omega) (by omega)
            (by omega)] at normalizes
          have unread := takeFraction_nanosText_none unfit
          cases found : takeFraction (nanosText timestamp.nanos ++ ['Z']) with
          | none =>
            rw [found] at normalizes
            cases normalizes
          | some parts =>
            rw [found, Option.bind_some] at unread
            rw [found, Option.bind_some, unread] at normalizes
            cases normalizes
        · rw [matchNano_isoSeconds_none civil inside] at normalizes
          cases normalizes
      · cases written
    · rintro ⟨present, isPresent, low, high, fits⟩
      cases isPresent
      rw [sameYear] at low high
      obtain ⟨number, isNumber⟩ := Int.eq_ofNat_of_zero_le low
      subst isNumber
      have isIso := isoSeconds_eq (show number < 10000 by omega) civil rfl
      have inDay_lt := inDay_lt (timestamp.seconds * 1000)
      generalize (Int.fmod (timestamp.seconds * 1000) 86400000).toNat = inDay at isIso inDay_lt
      have parts_lt : inDay / 3600000 < 100 ∧ inDay / 60000 % 60 < 100 ∧
          inDay / 1000 % 60 < 100 := by
        omega
      generalize inDay / 3600000 = hour, inDay / 60000 % 60 = minute,
        inDay / 1000 % 60 = second at isIso parts_lt
      obtain ⟨fraction, found⟩ := takeFraction_nanosText fits
      have months := daysBeforeMonth_le number month_pos month_le
      have inRange : (timestamp.seconds * 1000).natAbs ≤ maxDate := by
        rw [Int.fdiv_eq_ediv_of_nonneg _ (by decide)] at isDay
        unfold dayNumber daysBeforeYear at isDay
        unfold maxDate
        omega
      have utcRange := dateUtc_le (show number < 10000 by omega) month_pos month_le
        (show day < 100 by omega) (show hour < 100 by omega) (show minute < 100 by omega)
        (show second < 100 by omega)
      unfold timestampToRfc3339Nano
      dsimp only
      rw [if_pos inRange]
      refine ⟨_, String.ofList (isoSeconds (dateUtc number (month - 1) day hour (minute - 0) second) ++
        (if withoutEndZeros fraction = [] then []
          else '.' :: withoutEndZeros fraction) ++ ['Z']), rfl, ?_⟩
      unfold normalizeRfc3339Nano
      rw [String.toList_ofList, List.append_assoc, isIso, matchNano_whole (by omega) (by omega)
        (by omega) (by omega) (by omega) (by omega), found, Option.bind_some]
      change (if (dateUtc number (month - 1) day hour (minute - 0) second).natAbs ≤ maxDate
        then _ else _) = _
      rw [if_pos utcRange]

end BusinessEvents

end SdarRuntime
