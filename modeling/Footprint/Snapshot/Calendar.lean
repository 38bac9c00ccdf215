/-!
# Dates of the proleptic Gregorian calendar

A moment is a number of seconds since the beginning of 1970, in UTC. `Moment.ofSeconds?` gives its
date and time of day, for years within the range that a date can hold.
-/

namespace Footprint

/-- A date with a time of day. -/
structure Moment where
  /-- The year, which may be 0 or negative. -/
  year : Int
  /-- The month, from 1 to 12. -/
  month : Int
  /-- The day of the month, from 1 on. -/
  day : Int
  /-- The hour, from 0 to 23. -/
  hour : Int
  /-- The minute, from 0 to 59. -/
  minute : Int
  /-- The second, from 0 to 59. -/
  second : Int
deriving Repr, DecidableEq

namespace Moment

/-- The first second that a date can hold. -/
def firstSecond : Int := -8334601228800

/-- The last second that a date can hold. -/
def lastSecond : Int := 8210266876799

/-- The days from the first of March of year 0 to the beginning of 1970. -/
def epochDays : Int := 719468

/-- The days of 400 years. -/
def eraDays : Int := 146097

/-- The year, the month and the day that is `days` days after the beginning of 1970. Years are
counted from March, so that the leap day comes last, in eras of 400 years. -/
def dateOfDays (days : Int) : Int × Int × Int :=
  let shifted := days + epochDays
  let era := shifted / eraDays
  let dayOfEra := shifted % eraDays
  let yearOfEra := (dayOfEra - dayOfEra / 1460 + dayOfEra / 36524 - dayOfEra / 146096) / 365
  let dayOfYear := dayOfEra - (365 * yearOfEra + yearOfEra / 4 - yearOfEra / 100)
  let marchMonth := (5 * dayOfYear + 2) / 153
  let day := dayOfYear - (153 * marchMonth + 2) / 5 + 1
  let month := if marchMonth < 10 then marchMonth + 3 else marchMonth - 9
  let year := yearOfEra + era * 400 + if month ≤ 2 then 1 else 0
  (year, month, day)

/-- The date and time of a number of seconds, within the range that a date can hold. -/
def ofSeconds? (seconds : Int) : Option Moment :=
  if firstSecond ≤ seconds ∧ seconds ≤ lastSecond then
    let (year, month, day) := dateOfDays (seconds / 86400)
    let rest := seconds % 86400
    some ⟨year, month, day, rest / 3600, rest / 60 % 60, rest % 60⟩
  else none

end Moment

end Footprint
