import Drafting.Number.Decimal

/-!
# Civil time

A moment is counted in seconds since the beginning of 1970 and shown as a date
and a time of day, without regard to zones. The calendar repeats itself every
four hundred years. Inside such an era years are counted from March, so that the
day that only some years have is the last one of its year.
-/

namespace Drafting

/-- A date and a time of day. -/
structure CivilTime where
  year : Int
  month : Nat
  day : Nat
  hour : Nat
  minute : Nat
  second : Nat
  deriving DecidableEq, Repr

namespace CivilTime

/-- The days from the first of March of the year zero to the beginning of 1970. -/
def daysBefore1970 : Int := 719468

/-- The days of four hundred years. -/
def daysOfEra : Int := 146097

/-- The year of a day in its era. Every fourth year has a day more, but not every
hundredth, and again the last one. -/
def yearOfEra (day : Nat) : Nat := (day - day / 1460 + day / 36524 - day / 146096) / 365

/-- The days of an era before one of its years. -/
def daysBeforeYear (year : Nat) : Nat := 365 * year + year / 4 - year / 100

/-- The days of a year before one of its months, both counted from March. -/
def daysBeforeMonth (month : Nat) : Nat := (153 * month + 2) / 5

/-- The days from the beginning of 1970 to a date. -/
def dayNumber (year : Int) (month day : Nat) : Int :=
  let fromMarch := if month ≤ 2 then year - 1 else year
  let monthFromMarch := if month ≤ 2 then month + 9 else month - 3
  let yearOfEra := (fromMarch % 400).toNat
  fromMarch / 400 * daysOfEra + daysBeforeYear yearOfEra + daysBeforeMonth monthFromMarch +
    (day - 1 : Int) - daysBefore1970

/-- The days of a month: those up to the first day of the next one. -/
def daysOfMonth (year : Int) (month : Nat) : Int :=
  let next := if month = 12 then dayNumber (year + 1) 1 1 else dayNumber year (month + 1) 1
  next - dayNumber year month 1

/-- The moment a number of seconds after the beginning of 1970. -/
def ofSeconds (seconds : Int) : CivilTime :=
  let days := seconds / 86400 + daysBefore1970
  let ofDay := (seconds % 86400).toNat
  let dayOfEra := (days % daysOfEra).toNat
  let yearOfEra := yearOfEra dayOfEra
  let dayOfYear := dayOfEra - daysBeforeYear yearOfEra
  let monthFromMarch := (5 * dayOfYear + 2) / 153
  let month := if monthFromMarch < 10 then monthFromMarch + 3 else monthFromMarch - 9
  { year := days / daysOfEra * 400 + yearOfEra + if month ≤ 2 then 1 else 0
    month
    day := dayOfYear - daysBeforeMonth monthFromMarch + 1
    hour := ofDay / 3600
    minute := ofDay / 60 % 60
    second := ofDay % 60 }

/-- A number with zeros before it, up to a width. -/
def padded (width number : Nat) : List Char :=
  let digits := Number.naturalText number
  List.replicate (width - digits.length) '0' ++ digits

/-- An integer with zeros before its digits, up to a width that a minus sign is
part of. -/
def signedPadded (width : Nat) (number : Int) : List Char :=
  if number < 0 then '-' :: padded (width - 1) number.natAbs else padded width number.natAbs

/-- The date, with hyphens. -/
def dateText (time : CivilTime) : List Char :=
  Number.integerText time.year ++ '-' :: padded 2 time.month ++ '-' :: padded 2 time.day

/-- The time of day, with colons. -/
def clockText (time : CivilTime) : List Char :=
  padded 2 time.hour ++ ':' :: padded 2 time.minute ++ ':' :: padded 2 time.second

/-- The moment as it stands in documents, with thousandths of a second. -/
def stampText (time : CivilTime) (thousandths : Nat) : String :=
  String.ofList (time.dateText ++ 'T' :: time.clockText ++ '.' :: padded 3 thousandths ++ ['Z'])

end CivilTime

end Drafting
