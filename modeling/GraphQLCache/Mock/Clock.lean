import GraphQLCache.Json.Number

/-!
# Clock — the date and time that defaults are made of

A clock is a reading in universal time. `Clock.ofMicroseconds` reads the calendar off a count of
microseconds since the beginning of 1970: years are counted from March, so that a leap day ends its year,
in eras of 400 years, which all have the same number of days.
-/

namespace GraphQLCache

/-- A date and a time of day in universal time. -/
structure Clock where
  year : Nat
  month : Nat
  day : Nat
  hour : Nat
  minute : Nat
  second : Nat
  microsecond : Nat
deriving DecidableEq, Repr

namespace Clock

/-- A number with at least `width` digits. -/
def padded (width n : Nat) : String := String.ofList (padZeros width (natDigits n))

/-- Month and day behind the year. -/
def monthDay (c : Clock) : String := "-" ++ padded 2 c.month ++ "-" ++ padded 2 c.day

/-- The calendar date, its year with four digits. -/
def date (c : Clock) : String := padded 4 c.year ++ c.monthDay

/-- Date and time to the millisecond, the microseconds cut off. -/
def timestamp (c : Clock) : String :=
  toString c.year ++ c.monthDay ++ "T" ++ padded 2 c.hour ++ ":" ++ padded 2 c.minute ++ ":"
    ++ padded 2 c.second ++ "." ++ padded 3 (c.microsecond / 1000) ++ "Z"

/-! ## Reading the calendar -/

/-- The days of an era of 400 years. -/
def eraDays : Nat := 146097

/-- The days from the first of March of the year zero to the first of January 1970. -/
def epochDays : Nat := 719468

/-- The year of an era, counted from zero, in which a day of it lies. -/
def yearOfEra (day : Nat) : Nat := (day - day / 1460 + day / 36524 - day / 146096) / 365

/-- The day of a year from March, counted from zero, for a day of an era. -/
def dayOfYear (day : Nat) : Nat :=
  let year := yearOfEra day
  day - (365 * year + year / 4 - year / 100)

/-- The date that lies so many days after the first of January 1970, at midnight. -/
def ofDays (days : Nat) : Clock :=
  let count := days + epochDays
  let day := count % eraDays
  let ordinal := dayOfYear day
  let fromMarch := (5 * ordinal + 2) / 153
  let month := if fromMarch < 10 then fromMarch + 3 else fromMarch - 9
  let year := count / eraDays * 400 + yearOfEra day
  { year := if month ≤ 2 then year + 1 else year
    month
    day := ordinal - (153 * fromMarch + 2) / 5 + 1
    hour := 0
    minute := 0
    second := 0
    microsecond := 0 }

/-- The reading so many microseconds after the beginning of 1970. -/
def ofMicroseconds (count : Nat) : Clock :=
  let seconds := count / 1000000
  { ofDays (seconds / 86400) with
    hour := seconds / 3600 % 24
    minute := seconds / 60 % 60
    second := seconds % 60
    microsecond := count % 1000000 }

end Clock

end GraphQLCache
