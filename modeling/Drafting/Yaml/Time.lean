import Drafting.CivilTime
import Drafting.Text.Lines
import Drafting.Text.Scan

/-!
# Dates and times

A word of digits and hyphens is a date, and together with a time of day it is a
moment, perhaps with a zone. The form of a word alone decides that it is one of
them; only then the numbers in it are checked against the calendar and the clock.
-/

namespace Drafting.Yaml

/-- A day of the calendar. -/
structure Date where
  year : Nat
  month : Nat
  day : Nat
  deriving DecidableEq, Repr

/-- A time on a day, with the minutes by which its zone is ahead of the common
time, if a zone is given. -/
structure Moment where
  date : Date
  hour : Nat
  minute : Nat
  second : Nat
  microsecond : Nat
  zone : Option Int
  deriving DecidableEq, Repr

/-- A day, or a time on a day. -/
inductive Time where
  | date (date : Date)
  | moment (moment : Moment)
  deriving DecidableEq, Repr

/-- Which number of a time is not possible. -/
inductive TimeProblem where
  | year (year : Nat)
  | month
  | day
  | hour
  | minute
  | second
  | zone (minutes : Int)
  deriving DecidableEq, Repr

/-- A difference of some minutes, as it is shown: in days and in seconds of a day,
of which only those that are not zero are named. -/
def shownDifference (minutes : Int) : List Char :=
  let days := minutes / 1440
  let seconds := 60 * (minutes % 1440)
  let dayPart := "days=".toList ++ Number.integerText days
  let secondPart := "seconds=".toList ++ Number.integerText seconds
  let parts :=
    if days = 0 then if seconds = 0 then ['0'] else secondPart
    else if seconds = 0 then dayPart
    else dayPart ++ ',' :: ' ' :: secondPart
  "datetime.timedelta(".toList ++ parts ++ [')']

/-- What is said about a number that is not possible. -/
def TimeProblem.message : TimeProblem → String
  | .year given =>
    String.ofList ("year ".toList ++ Number.naturalText given ++ " is out of range".toList)
  | .month => "month must be in 1..12"
  | .day => "day is out of range for month"
  | .hour => "hour must be in 0..23"
  | .minute => "minute must be in 0..59"
  | .second => "second must be in 0..59"
  | .zone minutes =>
    String.ofList
      ("offset must be a timedelta strictly between -timedelta(hours=24) and ".toList ++
        "timedelta(hours=24), not ".toList ++ shownDifference minutes ++ ['.'])

/-- Some numbers with commas between them. -/
def shownNumbers (numbers : List Nat) : List Char :=
  Text.join [',', ' '] (numbers.map Number.naturalText)

/-- A zone as it is shown behind a moment. -/
def shownZone : Option Int → List Char
  | none => []
  | some 0 => ", tzinfo=datetime.timezone.utc".toList
  | some minutes => ", tzinfo=datetime.timezone(".toList ++ shownDifference minutes ++ [')']

/-- A time as it is shown. Seconds and parts of seconds that are zero are left
out from the end. -/
def Time.shown : Time → String
  | .date day =>
    String.ofList ("datetime.date(".toList ++ shownNumbers [day.year, day.month, day.day] ++ [')'])
  | .moment time =>
    let day := time.date
    let behindMinute :=
      if time.microsecond ≠ 0 then [time.second, time.microsecond]
      else if time.second ≠ 0 then [time.second]
      else []
    String.ofList
      ("datetime.datetime(".toList ++
        shownNumbers ([day.year, day.month, day.day, time.hour, time.minute] ++ behindMinute) ++
        shownZone time.zone ++ [')'])

/-- The microseconds from the beginning of 1970 to a moment, if it were one of the
common time. -/
def Moment.microseconds (moment : Moment) : Int :=
  let days := CivilTime.dayNumber moment.date.year moment.date.month moment.date.day
  (((days * 24 + moment.hour) * 60 + moment.minute) * 60 + moment.second) * 1000000 +
    moment.microsecond

/-- Whether two times are the same. Moments with zones are the same if they are at
the same time; a moment with a zone is never the same as one without. -/
def Time.same : Time → Time → Bool
  | .date first, .date second => first == second
  | .moment first, .moment second =>
    match first.zone, second.zone with
    | none, none => first == second
    | some firstZone, some secondZone =>
      first.microseconds - firstZone * 60000000 == second.microseconds - secondZone * 60000000
    | _, _ => false
  | _, _ => false

/-- The numbers of a time of day as they are written: of the fraction of a second
its digits, and of the zone its minutes. -/
structure WrittenClock where
  hour : Nat
  minute : Nat
  second : Nat
  fraction : List Char
  zone : Option Int
  deriving DecidableEq, Repr

/-- The numbers of a time as they are written. -/
structure WrittenTime where
  date : Date
  clock : Option WrittenClock
  deriving DecidableEq, Repr

/-- A number of at least `least` and at most `most` digits, and what follows. -/
def digits? (least most : Nat) (text : List Char) : Option (Nat × List Char) :=
  let digits := (text.take most).takeWhile Char.isDigit
  if least ≤ digits.length then some (Number.digitsValue digits, text.drop digits.length) else none

/-- A date whose month and day have the given least number of digits, and what
follows it. -/
def date? (least : Nat) (text : List Char) : Option (Date × List Char) := do
  let (year, rest) ← digits? 4 4 text
  let (month, rest) ← digits? least 2 (← Text.expect "-" rest)
  let (day, rest) ← digits? least 2 (← Text.expect "-" rest)
  return (⟨year, month, day⟩, rest)

/-- The white space that may stand before a time of day and before a zone. -/
def isTimeSpace (character : Char) : Bool := character == ' ' || character == '\t'

/-- What follows the mark between a date and a time of day. -/
def timeMark? (text : List Char) : Option (List Char) :=
  match text with
  | [] => none
  | mark :: rest =>
    if mark == 'T' || mark == 't' then some rest
    else if isTimeSpace mark then some (rest.dropWhile isTimeSpace)
    else none

/-- The zone that a text is, if it is one or nothing. -/
def zone? (text : List Char) : Option (Option Int) :=
  match text.dropWhile isTimeSpace with
  | [] => if text.isEmpty then some none else none
  | ['Z'] => some (some 0)
  | sign :: rest =>
    if sign == '+' || sign == '-' then do
      let (hours, rest) ← digits? 1 2 rest
      let minutes ←
        match rest with
        | [] => some 0
        | ':' :: rest =>
          match digits? 2 2 rest with
          | some (minutes, []) => some minutes
          | _ => none
        | _ => none
      let difference : Int := 60 * hours + minutes
      return some (if sign == '-' then -difference else difference)
    else none

/-- The time of day that a text is. -/
def clock? (text : List Char) : Option WrittenClock := do
  let (hour, rest) ← digits? 1 2 text
  let (minute, rest) ← digits? 2 2 (← Text.expect ":" rest)
  let (second, rest) ← digits? 2 2 (← Text.expect ":" rest)
  let (fraction, rest) :=
    match rest with
    | '.' :: behind => (behind.takeWhile Char.isDigit, behind.dropWhile Char.isDigit)
    | rest => ([], rest)
  return { hour, minute, second, fraction, zone := ← zone? rest }

/-- The time that a text is. A date alone has the given least number of digits for
its month and day. -/
def writtenTime? (least : Nat) (text : List Char) : Option WrittenTime :=
  match date? least text with
  | some (date, []) => some ⟨date, none⟩
  | _ => do
    let (date, rest) ← date? 1 text
    return ⟨date, ← clock? (← timeMark? rest)⟩

/-- The millionths of a second that the digits of a fraction stand for. Digits
behind the sixth do not count. -/
def microseconds (fraction : List Char) : Nat :=
  let digits := fraction.take 6
  Number.digitsValue (digits ++ List.replicate (6 - digits.length) '0')

/-- A date, if there is such a day. -/
def Date.check (date : Date) : Except TimeProblem Date :=
  if date.year = 0 then .error (.year date.year)
  else if date.month = 0 || 12 < date.month then .error .month
  else if date.day = 0 || CivilTime.daysOfMonth date.year date.month < date.day then .error .day
  else .ok date

/-- A time, if there is one with the numbers that are written. The zone is checked
before the date and the time of day. -/
def WrittenTime.check (written : WrittenTime) : Except TimeProblem Time :=
  match written.clock with
  | none => written.date.check.map .date
  | some clock => do
    if let some minutes := clock.zone then
      if 1440 ≤ minutes.natAbs then throw (.zone minutes)
    let date ← written.date.check
    if 23 < clock.hour then throw .hour
    if 59 < clock.minute then throw .minute
    if 59 < clock.second then throw .second
    return .moment {
      date
      hour := clock.hour
      minute := clock.minute
      second := clock.second
      microsecond := microseconds clock.fraction
      zone := clock.zone }

end Drafting.Yaml
