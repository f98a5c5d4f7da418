import BlockVault.Number.Shortest

/-!
# Timestamps

Seconds of the Unix clock as a date and a time of day in UTC, in the Gregorian calendar carried on
in both directions.
-/

namespace BlockVault.Calendar

/-- Days from the first of March of the year zero to the first of January 1970. -/
def epochOffset : Int := 719468

structure Date where
  year : Int
  month : Nat
  day : Nat
  deriving DecidableEq, Repr

/-- The date of a day counted from the first of January 1970. Years are counted from March, so that
a leap day ends one; eras are the 400 years after which the calendar repeats. -/
def Date.ofDay (day : Int) : Date :=
  let days := day + epochOffset
  let era := days / 146097
  let inEra := (days % 146097).toNat
  let yearOfEra := (inEra - inEra / 1460 + inEra / 36524 - inEra / 146096) / 365
  let inYear := inEra - (365 * yearOfEra + yearOfEra / 4 - yearOfEra / 100)
  let shifted := (5 * inYear + 2) / 153
  let month := if shifted < 10 then shifted + 3 else shifted - 9
  ⟨yearOfEra + era * 400 + (if month ≤ 2 then 1 else 0), month,
    inYear - (153 * shifted + 2) / 5 + 1⟩

/-- The second of the clock in the form of RFC 3339; the year is not filled up with zeros. -/
def timestamp (second : Int) : String :=
  let date := Date.ofDay (second / 86400)
  let time := (second % 86400).toNat
  let two := DecimalLayout.padded 2
  s!"{date.year}-{two date.month}-{two date.day}T{two (time / 3600)}:{two (time / 60 % 60)}:" ++
    s!"{two (time % 60)}Z"

end BlockVault.Calendar
