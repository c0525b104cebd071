import SdarRuntime.BusinessEvents.NanoTimestamps

/-!
What the normalized form of a timestamp denotes. `Date.UTC` rolls over whatever is out of its
range, takes the first hundred years for those of the last century, and writes years of more than
four digits with a sign; the other timestamps keep their instant, which the normalized form names.
-/

namespace SdarRuntime

namespace BusinessEvents

open DecimalText Calendar Timestamp

def Denotes (text : String) (instant : ℚ) : Prop :=
  ∃ stamp : Timestamp, stamp.text = text ∧ stamp.instant = instant

def SameInstant (left right : String) : Prop :=
  ∃ instant, Denotes left instant ∧ Denotes right instant

/-- The result denotes what the input does, and is normalized itself. -/
def Faithful (input result : String) : Prop :=
  SameInstant input result ∧ normalizeRfc3339Nano result = .ok result

def utcYear (stamp : Timestamp) : Int := (civil (Int.fdiv stamp.seconds 86400)).1

/-- A timestamp in the years 100 to 9999, both as it is written and in UTC. -/
def Regular (input : String) : Prop :=
  ∃ stamp : Timestamp, stamp.text = input ∧ 100 ≤ stamp.year ∧ 100 ≤ utcYear stamp ∧
    utcYear stamp ≤ 9999

def fractionChars (fraction : List Char) : List Char :=
  if fraction = [] then [] else '.' :: fraction

variable {fraction : List Char}

theorem takeFraction_fractionChars (digits : DecimalText.IsDigits fraction) (zone : Zone) :
    takeFraction (fractionChars fraction ++ zone.text) =
      if fraction.length ≤ 9 then some (fraction, zone.text) else none := by
  unfold fractionChars
  by_cases empty : fraction = []
  · rw [if_pos empty, empty, if_pos (by decide), List.nil_append]
    cases zone with
    | zulu lower => cases lower <;> rfl
    | numeric behind hours minutes => cases behind <;> rfl
  · have spanned := span_digits digits zone.not_isDigit_head
    have positive : 1 ≤ fraction.length := List.length_pos_iff.mpr empty
    rw [if_neg empty, List.cons_append, takeFraction, spanned.1, spanned.2]
    by_cases short : fraction.length ≤ 9
    · rw [if_pos short, if_pos ⟨positive, short⟩]
    · rw [if_neg short, if_neg fun both => short both.2]

def zoneMinutes : Zone → Int
  | .zulu _ => 0
  | .numeric behind hours minutes =>
    if behind then -(60 * hours + minutes : Nat) else (60 * hours + minutes : Nat)

theorem seconds_eq_zoneMinutes (zone : Zone) : zone.seconds = 60 * zoneMinutes zone := by
  cases zone with
  | zulu lower => rfl
  | numeric behind hours minutes =>
    cases behind <;> simp only [Zone.seconds, zoneMinutes] <;> split <;> push_cast <;> ring

theorem takeZone_text {zone : Zone} (wellFormed : zone.WellFormed) :
    takeZone zone.text = if zone = .zulu true then none else some (zoneMinutes zone) := by
  cases zone with
  | zulu lower => cases lower <;> rfl
  | numeric behind hours minutes =>
    obtain ⟨hours_lt, minutes_lt⟩ := wellFormed
    have hoursTaken (rest : List Char) :
        takeDigits 2 (padded 2 hours ++ rest) = some (hours, rest) :=
      takeDigits_padded (by decide) (by omega) rest
    have minutesTaken :
        takeDigits 2 (padded 2 minutes) = some (minutes, []) := by
      have taken := takeDigits_padded (show 0 < 2 by decide) (show minutes < 10 ^ 2 by omega) []
      rw [List.append_nil] at taken
      exact taken
    have colon (rest : List Char) : takeChar ':' (':' :: rest) = some rest := by
      rw [takeChar, if_pos rfl]
    rw [if_neg (by simp)]
    cases behind with
    | false =>
      change takeZone ('+' :: (padded 2 hours ++
        ':' :: padded 2 minutes)) = _
      simp [takeZone, hoursTaken, minutesTaken, colon, zoneMinutes]
    | true =>
      change takeZone ('-' :: (padded 2 hours ++
        ':' :: padded 2 minutes)) = _
      simp [takeZone, hoursTaken, minutesTaken, colon, zoneMinutes]

/-- The parts of a timestamp as the expression of the source names them. -/
def nanoMatch (stamp : Timestamp) : NanoMatch :=
  { year := stamp.year
    month := stamp.month
    day := stamp.day
    hour := stamp.hour
    minute := stamp.minute
    second := stamp.second
    fraction := stamp.fraction
    offsetMinutes := zoneMinutes stamp.zone }

/-- A timestamp with large letters and at most nine digits of a fraction. -/
def Matched (stamp : Timestamp) : Prop :=
  stamp.lowerT = false ∧ stamp.fraction.length ≤ 9 ∧ stamp.zone ≠ .zulu true

instance (stamp : Timestamp) : Decidable (Matched stamp) := inferInstanceAs (Decidable (_ ∧ _))

theorem parts_lt (stamp : Timestamp) : stamp.month < 100 ∧ stamp.day < 100 ∧ stamp.hour < 100 ∧
    stamp.minute < 100 ∧ stamp.second < 100 := by
  have ⟨month_pos, month_le, day_pos, day_le⟩ := stamp.isDate
  have day_short := daysInMonth_le stamp.year stamp.month
  have hour_lt := stamp.hour_lt
  have minute_lt := stamp.minute_lt
  have second_lt := stamp.second_lt
  omega

variable {stamp : Timestamp}

theorem matchNano_lowerT (lower : stamp.lowerT = true) :
    matchNano stamp.text.toList = none := by
  obtain ⟨month_lt, day_lt, -⟩ := parts_lt stamp
  have two {number : Nat} (number_lt : number < 100) (later : List Char) :
      takeDigits 2 (padded 2 number ++ later) = some (number, later) :=
    takeDigits_padded (by decide) number_lt later
  have four (later : List Char) :
      takeDigits 4 (padded 4 stamp.year ++ later) = some (stamp.year, later) :=
    takeDigits_padded (by decide) stamp.year_lt later
  have dash (later : List Char) : takeChar '-' ('-' :: later) = some later := by
    rw [takeChar, if_pos rfl]
  have letter (later : List Char) : takeChar 'T' ('t' :: later) = none := by
    rw [takeChar, if_neg (by decide)]
  unfold matchNano Timestamp.text whole
  rw [String.toList_ofList]
  simp only [List.append_assoc, List.cons_append, four, two month_lt, two day_lt, dash, lower,
    letter, Option.bind_eq_bind, Option.bind_some, Option.bind_none, if_true]

theorem matchNano_text (stamp : Timestamp) :
    matchNano stamp.text.toList = if Matched stamp then some (nanoMatch stamp) else none := by
  have ⟨month_lt, day_lt, hour_lt, minute_lt, second_lt⟩ := parts_lt stamp
  cases isLower : stamp.lowerT with
  | true =>
    rw [matchNano_lowerT isLower, if_neg]
    rintro ⟨large, -⟩
    rw [isLower] at large
    cases large
  | false =>
    have isText : stamp.text.toList =
        wholeText stamp.year stamp.month stamp.day stamp.hour stamp.minute stamp.second ++
          (fractionChars stamp.fraction ++ stamp.zone.text) := by
      unfold Timestamp.text whole fractionText wholeText fractionChars
      rw [String.toList_ofList, isLower]
      simp
    rw [isText, matchNano_whole stamp.year_lt month_lt day_lt hour_lt minute_lt second_lt,
      takeFraction_fractionChars stamp.digits]
    by_cases short : stamp.fraction.length ≤ 9
    · rw [if_pos short, Option.bind_some, takeZone_text stamp.zone_wellFormed]
      by_cases small : stamp.zone = .zulu true
      · rw [if_pos small, if_neg fun parts => parts.2.2 small]
        rfl
      · rw [if_neg small, if_pos ⟨isLower, short, small⟩]
        rfl
    · rw [if_neg short, if_neg fun parts => short parts.2.1]
      rfl

variable {left right : Timestamp}

theorem parts_unique (same : left.text = right.text) (matched : Matched left) :
    left.year = right.year ∧ left.seconds = right.seconds ∧ left.fraction = right.fraction := by
  have leftParts := matchNano_text left
  have rightParts := matchNano_text right
  rw [if_pos matched, same, rightParts] at leftParts
  split at leftParts
  · have parts := Option.some.inj leftParts
    have zones : zoneMinutes right.zone = zoneMinutes left.zone :=
      congrArg NanoMatch.offsetMinutes parts
    have years : right.year = left.year := congrArg NanoMatch.year parts
    have months : right.month = left.month := congrArg NanoMatch.month parts
    have days : right.day = left.day := congrArg NanoMatch.day parts
    have hours : right.hour = left.hour := congrArg NanoMatch.hour parts
    have minutes : right.minute = left.minute := congrArg NanoMatch.minute parts
    have seconds : right.second = left.second := congrArg NanoMatch.second parts
    have fractions : right.fraction = left.fraction := congrArg NanoMatch.fraction parts
    refine ⟨years.symm, ?_, fractions.symm⟩
    unfold Timestamp.seconds
    rw [seconds_eq_zoneMinutes, seconds_eq_zoneMinutes, zones, years, months, days, hours, minutes,
      seconds]
  · cases leftParts

theorem denotes_unique (matched : Matched stamp) {instant : ℚ}
    (denotes : Denotes stamp.text instant) : stamp.instant = instant := by
  obtain ⟨other, same, isInstant⟩ := denotes
  obtain ⟨-, seconds, fractions⟩ := parts_unique same.symm matched
  rw [← isInstant]
  unfold Timestamp.instant
  rw [seconds, fractions]

/-- Instants are equal where the whole seconds are, and the fractions without the zeros at their
ends. -/
theorem instant_eq_iff :
    left.instant = right.instant ↔ left.seconds = right.seconds ∧
      withoutEndZeros left.fraction = withoutEndZeros right.fraction := by
  constructor
  · intro same
    have milliseconds : left.milliseconds = right.milliseconds := by
      unfold milliseconds
      rw [same]
    have seconds := seconds_eq_of_milliseconds_eq milliseconds
    refine ⟨seconds, ?_⟩
    apply withoutEndZeros_eq_of_fraction_eq left.digits right.digits
    unfold Timestamp.instant at same
    rw [seconds] at same
    exact add_left_cancel same
  · rintro ⟨seconds, fractions⟩
    unfold Timestamp.instant
    rw [seconds, ← fraction_withoutEndZeros left.fraction, fractions,
      fraction_withoutEndZeros]

def utcOf (stamp : Timestamp) : Int :=
  dateUtc stamp.year (stamp.month - 1) stamp.day stamp.hour (stamp.minute - zoneMinutes stamp.zone)
    stamp.second

theorem utcOf_eq (stamp : Timestamp) :
    utcOf stamp = 86400000 * (dayNumber
        (if stamp.year ≤ 99 then 1900 + (stamp.year : Int) else stamp.year) stamp.month 1 +
          (stamp.day - 1)) +
      1000 * ((3600 * stamp.hour + 60 * stamp.minute + stamp.second : Nat) - stamp.zone.seconds) := by
  have ⟨month_pos, month_le, day_pos, day_le⟩ := stamp.isDate
  have quotient : Int.fdiv ((stamp.month : Int) - 1) 12 = 0 := by
    rw [Int.fdiv_eq_ediv_of_nonneg _ (by decide)]
    omega
  have remainder : (Int.fmod ((stamp.month : Int) - 1) 12).toNat + 1 = stamp.month := by
    rw [Int.fmod_eq_emod_of_nonneg _ (by decide)]
    omega
  unfold utcOf dateUtc
  rw [quotient, remainder, seconds_eq_zoneMinutes]
  dsimp only
  rw [add_zero]
  push_cast
  ring

theorem utcOf_whole (stamp : Timestamp) : utcOf stamp % 1000 = 0 := by
  rw [utcOf_eq]
  omega

theorem utcOf_eq_iff (stamp : Timestamp) :
    utcOf stamp = 1000 * stamp.seconds ↔ 100 ≤ stamp.year := by
  have ⟨month_pos, month_le, day_pos, day_le⟩ := stamp.isDate
  have before := daysBeforeMonth_le stamp.year month_pos month_le
  rw [utcOf_eq]
  unfold Timestamp.seconds dayNumber
  by_cases early : stamp.year ≤ 99
  · have later := daysBeforeMonth_le (1900 + (stamp.year : Int)) month_pos month_le
    rw [if_pos early]
    unfold daysBeforeYear
    omega
  · rw [if_neg early]
    omega

def utcStamp (year month day inDay : Nat) (fraction : List Char) (year_lt : year < 10000)
    (isDate : Calendar.IsDate year month day) (inDay_lt : inDay < 86400000)
    (digits : DecimalText.IsDigits fraction) : Timestamp where
  year := year
  month := month
  day := day
  hour := inDay / 3600000
  minute := inDay / 60000 % 60
  second := inDay / 1000 % 60
  fraction := fraction
  zone := .zulu false
  lowerT := false
  year_lt := year_lt
  isDate := isDate
  hour_lt := by omega
  minute_lt := Nat.mod_lt _ (by decide)
  second_lt := Nat.mod_lt _ (by decide)
  digits := digits
  zone_wellFormed := trivial

def normalizedText (utc : Int) (fraction : List Char) : String :=
  String.ofList (isoSeconds utc ++ (fractionChars fraction ++ ['Z']))

variable {utc year : Int} {month day : Nat}

theorem normalizedText_eq (isWhole : utc % 1000 = 0)
    (civil : civil (Int.fdiv utc 86400000) = (year, month, day)) (low : 0 ≤ year)
    (high : year ≤ 9999) (digits : DecimalText.IsDigits fraction) :
    ∃ stamp : Timestamp, normalizedText utc fraction = stamp.text ∧ 1000 * stamp.seconds = utc ∧
      stamp.fraction = fraction ∧ (stamp.year : Int) = year ∧ stamp.zone = .zulu false ∧
      stamp.lowerT = false := by
  obtain ⟨number, isNumber⟩ := Int.eq_ofNat_of_zero_le low
  subst isNumber
  have ⟨isDate, isDay⟩ := civil_spec _ civil
  have written := isoSeconds_eq (show number < 10000 by omega) civil rfl
  have inDay_lt := inDay_lt utc
  refine ⟨utcStamp number month day (Int.fmod utc 86400000).toNat fraction (by omega) isDate
    inDay_lt digits, ?_, ?_, rfl, rfl, rfl, rfl⟩
  · unfold normalizedText
    rw [written]
    unfold Timestamp.text
    simp [whole, fractionText, Zone.text, utcStamp, wholeText, fractionChars]
    rfl
  · change 1000 * (86400 * dayNumber number month day +
      ((3600 * ((Int.fmod utc 86400000).toNat / 3600000) +
        60 * ((Int.fmod utc 86400000).toNat / 60000 % 60) +
        (Int.fmod utc 86400000).toNat / 1000 % 60 : Nat) : Int) - 0) = utc
    rw [isDay]
    rw [Int.fdiv_eq_ediv_of_nonneg _ (by decide), Int.fmod_eq_emod_of_nonneg _ (by decide)]
    omega

theorem matchNano_normalizedText_none
    (civil : civil (Int.fdiv utc 86400000) = (year, month, day))
    (outside : ¬(0 ≤ year ∧ year ≤ 9999)) :
    matchNano (normalizedText utc fraction).toList = none := by
  unfold normalizedText
  rw [String.toList_ofList]
  exact matchNano_isoSeconds_none civil outside _

variable {input result : String}

theorem normalize_eq_ok (normalized : normalizeRfc3339Nano input = .ok result) :
    ∃ found, matchNano input.toList = some found ∧ result = normalizedText
      (dateUtc found.year (found.month - 1) found.day found.hour
        (found.minute - found.offsetMinutes) found.second)
      (withoutEndZeros found.fraction) := by
  unfold normalizeRfc3339Nano at normalized
  split at normalized
  · cases normalized
  · rename_i found isFound
    dsimp only at normalized
    split at normalized
    · refine ⟨found, isFound, ?_⟩
      rw [← Except.ok.inj normalized]
      unfold normalizedText fractionChars
      rw [List.append_assoc]
    · cases normalized

variable {result : String}

theorem normalize_text (normalized : normalizeRfc3339Nano stamp.text = .ok result) :
    Matched stamp ∧
      result = normalizedText (utcOf stamp) (withoutEndZeros stamp.fraction) := by
  obtain ⟨found, isFound, isResult⟩ := normalize_eq_ok normalized
  rw [matchNano_text] at isFound
  split at isFound
  · rename_i matched
    cases isFound
    exact ⟨matched, isResult⟩
  · cases isFound

theorem normalizedText_stamp {utc : Int} {again : String} (isWhole : utc % 1000 = 0)
    (digits : DecimalText.IsDigits fraction)
    (normalized : normalizeRfc3339Nano (normalizedText utc fraction) = .ok again) :
    ∃ stamp : Timestamp, normalizedText utc fraction = stamp.text ∧ 1000 * stamp.seconds = utc ∧
      stamp.fraction = fraction ∧ (stamp.year : Int) = (civil (Int.fdiv utc 86400000)).1 := by
  rcases civil : civil (Int.fdiv utc 86400000) with ⟨year, month, day⟩
  by_cases inside : 0 ≤ year ∧ year ≤ 9999
  · obtain ⟨stamp, isText, seconds, isFraction, isYear, -⟩ :=
      normalizedText_eq isWhole civil inside.1 inside.2 digits
    exact ⟨stamp, isText, seconds, isFraction, isYear⟩
  · obtain ⟨found, isFound, -⟩ := normalize_eq_ok normalized
    rw [matchNano_normalizedText_none civil inside] at isFound
    cases isFound

theorem utcYear_eq {utc : Int} (same : utc = 1000 * stamp.seconds) :
    (civil (Int.fdiv utc 86400000)).1 = utcYear stamp := by
  have days : Int.fdiv utc 86400000 = Int.fdiv stamp.seconds 86400 := by
    rw [same, Int.fdiv_eq_ediv_of_nonneg _ (by decide), Int.fdiv_eq_ediv_of_nonneg _ (by decide)]
    omega
  rw [days]
  rfl

theorem year_of_kept {stamp rewritten : Timestamp}
    (normalized : normalizeRfc3339Nano stamp.text = .ok result) (isText : result = rewritten.text)
    (seconds : 1000 * rewritten.seconds = utcOf stamp) (kept : SameInstant stamp.text result)
    (again : ∃ text, normalizeRfc3339Nano result = .ok text) :
    100 ≤ stamp.year ∧ rewritten.seconds = stamp.seconds := by
  obtain ⟨matched, -⟩ := normalize_text normalized
  obtain ⟨text, normalizedAgain⟩ := again
  rw [isText] at normalizedAgain
  obtain ⟨rewrittenMatched, -⟩ := normalize_text normalizedAgain
  obtain ⟨instant, denotes, denotesResult⟩ := kept
  rw [isText] at denotesResult
  have same : rewritten.instant = stamp.instant := by
    rw [denotes_unique rewrittenMatched denotesResult, denotes_unique matched denotes]
  have sameSeconds := (instant_eq_iff.mp same).1
  rw [sameSeconds] at seconds
  exact ⟨(utcOf_eq_iff stamp).mp seconds.symm, sameSeconds⟩

theorem regular_of_faithful (normalized : normalizeRfc3339Nano input = .ok result)
    (faithful : Faithful input result) :
    Regular input := by
  obtain ⟨kept, fixed⟩ := faithful
  obtain ⟨instant, ⟨stamp, isInput, isInstant⟩, denotesResult⟩ := kept
  subst isInput
  obtain ⟨matched, isResult⟩ := normalize_text normalized
  have trimmed := isDigits_withoutEndZeros stamp.digits
  have normalizedAgain := fixed
  rw [isResult] at normalizedAgain
  obtain ⟨rewritten, isText, seconds, isFraction, isYear⟩ :=
    normalizedText_stamp (utcOf_whole stamp) trimmed normalizedAgain
  rw [← isResult] at isText
  have ⟨early, sameSeconds⟩ := year_of_kept normalized isText seconds
    ⟨instant, ⟨stamp, rfl, isInstant⟩, denotesResult⟩ ⟨result, fixed⟩
  have sameUtc := (utcOf_eq_iff stamp).mpr early
  rw [utcYear_eq sameUtc] at isYear
  -- The result is its own result, so the same holds of it.
  have fixedText : normalizeRfc3339Nano rewritten.text = .ok result := by
    rw [← isText]
    exact fixed
  obtain ⟨rewrittenMatched, isResult'⟩ := normalize_text fixedText
  have trimmed' := isDigits_withoutEndZeros rewritten.digits
  have normalizedThrice := fixed
  rw [isResult'] at normalizedThrice
  obtain ⟨rewritten', isText', seconds', -⟩ :=
    normalizedText_stamp (utcOf_whole rewritten) trimmed' normalizedThrice
  rw [← isResult'] at isText'
  have kept' : SameInstant rewritten.text result :=
    ⟨rewritten.instant, ⟨rewritten, rfl, rfl⟩, ⟨rewritten, isText.symm, rfl⟩⟩
  obtain ⟨later, -⟩ := year_of_kept fixedText isText' seconds' kept' ⟨result, fixed⟩
  have year_lt := rewritten.year_lt
  refine ⟨stamp, rfl, early, ?_, ?_⟩
  · omega
  · omega

theorem rewritten_of_regular (normalized : normalizeRfc3339Nano input = .ok result)
    (regular : Regular input) :
    ∃ stamp rewritten : Timestamp, stamp.text = input ∧ Matched stamp ∧ rewritten.text = result ∧
      Matched rewritten ∧ rewritten.seconds = stamp.seconds ∧ 100 ≤ rewritten.year ∧
      rewritten.fraction = withoutEndZeros stamp.fraction ∧
      rewritten.zone = .zulu false ∧
      result = normalizedText (1000 * stamp.seconds) rewritten.fraction := by
  obtain ⟨stamp, isInput, early, low, high⟩ := regular
  subst isInput
  obtain ⟨matched, isResult⟩ := normalize_text normalized
  have sameUtc := (utcOf_eq_iff stamp).mpr early
  have sameYear := utcYear_eq sameUtc
  rcases civil : civil (Int.fdiv (utcOf stamp) 86400000) with ⟨year, month, day⟩
  rw [civil] at sameYear
  change year = utcYear stamp at sameYear
  obtain ⟨rewritten, isText, seconds, isFraction, isYear, isZone, large⟩ :=
    normalizedText_eq (utcOf_whole stamp) civil (by omega) (by omega)
      (isDigits_withoutEndZeros stamp.digits)
  have shorter : rewritten.fraction.length ≤ stamp.fraction.length := by
    rw [isFraction]
    exact (List.rdropWhile_prefix _ _).length_le
  have rewrittenMatched : Matched rewritten := by
    refine ⟨large, le_trans shorter matched.2.1, ?_⟩
    rw [isZone]
    decide
  refine ⟨stamp, rewritten, rfl, matched, ?_, rewrittenMatched, ?_, ?_, isFraction, isZone, ?_⟩
  · rw [isResult, isText]
  · omega
  · omega
  · rw [isResult, sameUtc, isFraction]

theorem faithful_of_regular (normalized : normalizeRfc3339Nano input = .ok result)
    (regular : Regular input) :
    Faithful input result := by
  obtain ⟨stamp, rewritten, isInput, matched, isText, rewrittenMatched, seconds, late, isFraction,
    isZone, isResult⟩ := rewritten_of_regular normalized regular
  constructor
  · refine ⟨stamp.instant, ⟨stamp, isInput, rfl⟩, ⟨rewritten, isText, ?_⟩⟩
    rw [instant_eq_iff, isFraction]
    exact ⟨seconds, withoutEndZeros_idem _⟩
  · have ⟨month_pos, month_le, day_pos, day_le⟩ := rewritten.isDate
    have ⟨month_lt, day_lt, hour_lt, minute_lt, second_lt⟩ := parts_lt rewritten
    have inRange := dateUtc_le rewritten.year_lt month_pos month_le day_lt hour_lt minute_lt second_lt
    have sameUtc := (utcOf_eq_iff rewritten).mpr late
    have offset : zoneMinutes rewritten.zone = 0 := by
      rw [isZone]
      rfl
    have inRange' : (utcOf rewritten).natAbs ≤ maxDate := by
      unfold utcOf
      rw [offset]
      exact inRange
    have found := matchNano_text rewritten
    rw [if_pos rewrittenMatched, isText] at found
    unfold normalizeRfc3339Nano
    rw [found]
    have trimmed : withoutEndZeros rewritten.fraction = rewritten.fraction := by
      rw [isFraction, withoutEndZeros_idem]
    have written : String.ofList (isoSeconds (utcOf rewritten) ++
        fractionChars (withoutEndZeros rewritten.fraction) ++ ['Z']) = result := by
      rw [isResult, sameUtc, seconds, trimmed, List.append_assoc]
      rfl
    change (if (utcOf rewritten).natAbs ≤ maxDate then
      Except.ok (String.ofList (isoSeconds (utcOf rewritten) ++
        fractionChars (withoutEndZeros rewritten.fraction) ++ ['Z']))
      else Except.error "BUSINESS_EVENT_TIMESTAMP_INVALID") = _
    rw [if_pos inRange', written]

theorem faithful_iff (normalized : normalizeRfc3339Nano input = .ok result) :
    Faithful input result ↔ Regular input :=
  ⟨regular_of_faithful normalized, faithful_of_regular normalized⟩

theorem results_eq_iff {left right result otherResult : String}
    (normalized : normalizeRfc3339Nano left = .ok result)
    (otherNormalized : normalizeRfc3339Nano right = .ok otherResult) (regular : Regular left)
    (otherRegular : Regular right) : result = otherResult ↔ SameInstant left right := by
  obtain ⟨stamp, rewritten, isLeft, matched, isText, rewrittenMatched, seconds, -, isFraction, -,
    isResult⟩ := rewritten_of_regular normalized regular
  obtain ⟨stamp', rewritten', isRight, matched', isText', rewrittenMatched', seconds', -,
    isFraction', -, isResult'⟩ := rewritten_of_regular otherNormalized otherRegular
  have sameInstant : SameInstant left right ↔ stamp.instant = stamp'.instant := by
    constructor
    · rintro ⟨instant, denotes, denotes'⟩
      rw [← isLeft] at denotes
      rw [← isRight] at denotes'
      rw [denotes_unique matched denotes, denotes_unique matched' denotes']
    · intro same
      exact ⟨stamp.instant, ⟨stamp, isLeft, rfl⟩, ⟨stamp', isRight, same.symm⟩⟩
  rw [sameInstant, instant_eq_iff, ← seconds, ← seconds', ← isFraction, ← isFraction']
  constructor
  · intro same
    rw [← isText, ← isText'] at same
    obtain ⟨-, sameSeconds, fractions⟩ := parts_unique same rewrittenMatched
    exact ⟨sameSeconds, fractions⟩
  · rintro ⟨sameSeconds, fractions⟩
    rw [isResult, isResult', ← seconds, ← seconds', sameSeconds, fractions]

/-- The normalized forms of two accepted timestamps are those of their instants, are normalized
themselves and tell the instants apart exactly where both are timestamps of the years 100 to 9999,
as they are written and in UTC. -/
theorem normalizeRfc3339Nano_faithful_iff {input other result otherResult : String}
    (normalized : normalizeRfc3339Nano input = .ok result)
    (otherNormalized : normalizeRfc3339Nano other = .ok otherResult) :
    (Faithful input result ∧ Faithful other otherResult ∧
      (result = otherResult ↔ SameInstant input other)) ↔ Regular input ∧ Regular other := by
  rw [faithful_iff normalized, faithful_iff otherNormalized]
  constructor
  · rintro ⟨regular, otherRegular, -⟩
    exact ⟨regular, otherRegular⟩
  · rintro ⟨regular, otherRegular⟩
    exact ⟨regular, otherRegular,
      results_eq_iff normalized otherNormalized regular otherRegular⟩

def julyHour (hour : Nat) (fraction : List Char) (zone : Zone) (hour_lt : hour < 24)
    (digits : DecimalText.IsDigits fraction) (wellFormed : zone.WellFormed) : Timestamp where
  year := 2026
  month := 7
  day := 22
  hour := hour
  minute := 0
  second := 0
  fraction := fraction
  zone := zone
  lowerT := false
  year_lt := by decide
  isDate := ⟨by decide, by decide, by decide, by decide⟩
  hour_lt := hour_lt
  minute_lt := by decide
  second_lt := by decide
  digits := digits
  zone_wellFormed := wellFormed

theorem normalizeRfc3339Nano_faithful_sample :
    Faithful "2026-07-22T09:00:00+08:00" "2026-07-22T01:00:00Z" ∧
    SameInstant "2026-07-22T09:00:00+08:00" "2026-07-22T01:00:00.000Z" := by
  have normalized : normalizeRfc3339Nano "2026-07-22T09:00:00+08:00" =
      .ok "2026-07-22T01:00:00Z" := by
    decide
  have otherNormalized : normalizeRfc3339Nano "2026-07-22T01:00:00.000Z" =
      .ok "2026-07-22T01:00:00Z" := by
    decide
  have regular : Regular "2026-07-22T09:00:00+08:00" :=
    ⟨julyHour 9 [] (.numeric false 8 0) (by decide) (fun _ member => nomatch member)
        ⟨by decide, by decide⟩,
      by decide, by decide, by decide, by decide⟩
  have otherRegular : Regular "2026-07-22T01:00:00.000Z" :=
    ⟨julyHour 1 ['0', '0', '0'] (.zulu false) (by decide) (isDigits_zeros 3) trivial,
      by decide, by decide, by decide, by decide⟩
  have faithful := (normalizeRfc3339Nano_faithful_iff normalized otherNormalized).mpr
    ⟨regular, otherRegular⟩
  exact ⟨faithful.1, faithful.2.2.mp rfl⟩

def newYear (year : Nat) (year_lt : year < 10000) : Timestamp where
  year := year
  month := 1
  day := 1
  hour := 0
  minute := 0
  second := 0
  fraction := []
  zone := .zulu false
  lowerT := false
  year_lt := year_lt
  isDate := ⟨by decide, by decide, by decide, show 1 ≤ 31 by decide⟩
  hour_lt := by decide
  minute_lt := by decide
  second_lt := by decide
  digits := fun _ member => nomatch member
  zone_wellFormed := trivial

/-- A day that is none is accepted, a year of the first century comes back as another one, and a
timestamp at the end of the years comes back as a text that is not accepted. -/
theorem normalizeRfc3339Nano_unfaithful :
    normalizeRfc3339Nano "2026-02-30T00:00:00Z" = .ok "2026-03-02T00:00:00Z" ∧
    (¬∃ instant, Denotes "2026-02-30T00:00:00Z" instant) ∧
    normalizeRfc3339Nano "0050-01-01T00:00:00Z" = .ok "1950-01-01T00:00:00Z" ∧
    ¬SameInstant "0050-01-01T00:00:00Z" "1950-01-01T00:00:00Z" ∧
    normalizeRfc3339Nano "9999-12-31T23:59:00-00:01" = .ok "+010000-01-01T00:00Z" ∧
    normalizeRfc3339Nano "+010000-01-01T00:00Z" = .error "BUSINESS_EVENT_TIMESTAMP_INVALID" := by
  refine ⟨by decide, ?_, by decide, ?_, by decide, by decide⟩
  · rintro ⟨instant, stamp, isText, -⟩
    have parts := matchNano_text stamp
    rw [isText] at parts
    split at parts
    · have found : matchNano "2026-02-30T00:00:00Z".toList = some
          { year := 2026
            month := 2
            day := 30
            hour := 0
            minute := 0
            second := 0
            fraction := []
            offsetMinutes := 0 } := by
        decide
      rw [found] at parts
      have same := Option.some.inj parts
      have isYear : 2026 = stamp.year := congrArg NanoMatch.year same
      have isMonth : 2 = stamp.month := congrArg NanoMatch.month same
      have isDay : 30 = stamp.day := congrArg NanoMatch.day same
      have day_le := stamp.isDate.day_le
      rw [← isYear, ← isMonth, ← isDay] at day_le
      revert day_le
      decide
    · have notNone : matchNano "2026-02-30T00:00:00Z".toList ≠ none := by
        decide
      exact notNone parts
  · rintro ⟨instant, denotes, denotesOther⟩
    have isText : (newYear 50 (by decide)).text = "0050-01-01T00:00:00Z" := by
      decide
    have isOther : (newYear 1950 (by decide)).text = "1950-01-01T00:00:00Z" := by
      decide
    rw [← isText] at denotes
    rw [← isOther] at denotesOther
    have first := denotes_unique (by decide) denotes
    have second := denotes_unique (by decide) denotesOther
    have same := (instant_eq_iff.mp (first.trans second.symm)).1
    revert same
    decide

end BusinessEvents

end SdarRuntime
