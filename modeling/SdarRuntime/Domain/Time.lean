import SdarRuntime.Library.Calendar
import SdarRuntime.Library.DecimalText

/-!
Instants and their text. Timestamps are microseconds since the epoch, the resolution
of the database; a JavaScript `Date` is one of them with whole milliseconds.
-/

namespace SdarRuntime

abbrev Instant := Int

namespace Instant

def addMilliseconds (value : Instant) (milliseconds : Int) : Instant :=
  value + 1000 * milliseconds

def padded (width : Nat) (value : Nat) : String :=
  String.ofList (DecimalText.padded width value)

def yearText (year : Int) : String :=
  if 0 ≤ year ∧ year ≤ 9999 then padded 4 year.toNat
  else if year < 0 then "-" ++ padded 6 year.natAbs
  else "+" ++ padded 6 year.toNat

/-- `Date.prototype.toISOString`. -/
def toISOString (value : Instant) : String :=
  let milliseconds := Int.fdiv value 1000
  let (year, month, day) := Calendar.civil (Int.fdiv milliseconds 86400000)
  let inDay := (Int.fmod milliseconds 86400000).toNat
  yearText year ++ "-" ++ padded 2 month ++ "-" ++ padded 2 day ++ "T" ++
    padded 2 (inDay / 3600000) ++ ":" ++ padded 2 (inDay / 60000 % 60) ++ ":" ++
    padded 2 (inDay / 1000 % 60) ++ "." ++ padded 3 (inDay % 1000) ++ "Z"

end Instant

structure Clocks where
  database : Instant
  runtime : Instant
  deriving DecidableEq

end SdarRuntime
