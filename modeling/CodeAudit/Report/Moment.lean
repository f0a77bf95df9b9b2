/-!
# Moments

A moment counts the seconds since the beginning of 1970, and the nanoseconds of the next one.
Reports write it as a date and a time of day.

The years are counted from March on, so that the day that leap years add is the last one; 400 such
years, an era, have 146097 days.
-/

namespace CodeAudit

/-- A moment. -/
structure Moment where
  seconds : Nat
  nanoseconds : Nat
  deriving DecidableEq, Inhabited

/-- A day of the calendar. -/
structure Day where
  year : Nat
  month : Nat
  day : Nat
  deriving DecidableEq, Inhabited

namespace Day

/-- How many days an era that starts in March of the year 0 has had when 1970 begins. -/
def epochOffset : Nat := 719468

/-- The days of an era. -/
def eraDays : Nat := 146097

/-- The day after a number of days since the beginning of 1970. -/
def after (days : Nat) : Day :=
  let count := days + epochOffset
  let era := count / eraDays
  let inEra := count % eraDays
  let yearOfEra := (inEra - inEra / 1460 + inEra / 36524 - inEra / 146096) / 365
  let inYear := inEra - (365 * yearOfEra + yearOfEra / 4 - yearOfEra / 100)
  let monthFromMarch := (5 * inYear + 2) / 153
  let month := if monthFromMarch < 10 then monthFromMarch + 3 else monthFromMarch - 9
  { year := yearOfEra + era * 400 + (if month ≤ 2 then 1 else 0)
    month := month
    day := inYear - (153 * monthFromMarch + 2) / 5 + 1 }

end Day

namespace Moment

/-- A number with zeros in front of it. -/
def padded (width number : Nat) : String :=
  let digits := toString number
  .ofList (List.replicate (width - digits.length) '0') ++ digits

/-- The day of a moment. -/
def day (moment : Moment) : Day := Day.after (moment.seconds / 86400)

/-- The date as eight digits, and the time of day as six. -/
def stamp (moment : Moment) : String :=
  let day := moment.day
  let second := moment.seconds % 86400
  padded 4 day.year ++ padded 2 day.month ++ padded 2 day.day ++ "_" ++ padded 2 (second / 3600)
    ++ padded 2 (second / 60 % 60) ++ padded 2 (second % 60)

/-- The part of a second, in as many groups of three digits as it needs. -/
def fraction (moment : Moment) : String :=
  let n := moment.nanoseconds
  if n = 0 then ""
  else if n % 1000000 = 0 then "." ++ padded 3 (n / 1000000)
  else if n % 1000 = 0 then "." ++ padded 6 (n / 1000)
  else "." ++ padded 9 n

/-- The date and the time of day as reports write them. -/
def text (moment : Moment) : String :=
  let day := moment.day
  let second := moment.seconds % 86400
  padded 4 day.year ++ "-" ++ padded 2 day.month ++ "-" ++ padded 2 day.day ++ "T"
    ++ padded 2 (second / 3600) ++ ":" ++ padded 2 (second / 60 % 60) ++ ":"
    ++ padded 2 (second % 60) ++ moment.fraction ++ "+00:00"

end Moment

end CodeAudit
