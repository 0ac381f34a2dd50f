import Drafting.CivilTime

/-!
# Log lines

A log record is shown as a coloured line: the time, the name of the logger, the
function, the level and the message, the last in the colour of the level. A
record of a level without a name is shown as its message alone.
-/

namespace Drafting

/-- The levels that have names. -/
inductive LogLevel where
  | debug
  | info
  | warning
  | error
  | critical
  deriving DecidableEq, Repr

namespace LogLevel

/-- All levels. -/
def all : List LogLevel := [debug, info, warning, error, critical]

/-- The number of a level. -/
def number : LogLevel → Int
  | debug => 10
  | info => 20
  | warning => 30
  | error => 40
  | critical => 50

/-- The level with a number. -/
def ofNumber? (number : Int) : Option LogLevel := all.find? fun level => level.number == number

/-- The name of a level. -/
def text : LogLevel → String
  | debug => "DEBUG"
  | info => "INFO"
  | warning => "WARNING"
  | error => "ERROR"
  | critical => "CRITICAL"

end LogLevel

/-- What makes a terminal change its colours. -/
structure Ink where
  code : String
  deriving DecidableEq, Repr

namespace Ink

/-- Grey letters. -/
def grey : Ink := ⟨"38;21"⟩

/-- Green letters. -/
def green : Ink := ⟨"32"⟩

/-- Red letters. -/
def red : Ink := ⟨"31;21"⟩

/-- Bold red letters. -/
def boldRed : Ink := ⟨"31;1"⟩

/-- Yellow letters. -/
def yellow : Ink := ⟨"33"⟩

/-- Blue letters. -/
def blue : Ink := ⟨"34"⟩

/-- White letters. -/
def white : Ink := ⟨"37"⟩

/-- Bold letters. -/
def bold : Ink := ⟨"1"⟩

/-- Letters as they were at the beginning. -/
def plain : Ink := ⟨"0"⟩

/-- The characters that choose an ink. -/
def sequence (ink : Ink) : String := "\x1b[" ++ ink.code ++ "m"

/-- A text in an ink, and plain letters behind it. -/
def write (ink : Ink) (text : String) : String := ink.sequence ++ text ++ plain.sequence

end Ink

/-- The ink for the message of a level. -/
def LogLevel.ink : LogLevel → Ink
  | debug => .grey
  | info => .white
  | warning => .yellow
  | error => .red
  | critical => .boldRed

/-- What is logged. The time is counted in seconds since the beginning of 1970,
and the thousandths of a second are kept apart; nothing binds them to be those of
the same time. -/
structure LogRecord where
  logger : String
  level : Int
  message : String
  function : String
  seconds : Int
  thousandths : Int
  deriving DecidableEq, Repr

namespace LogRecord

/-- The time of a record, with thousandths of a second behind a comma. -/
def timeText (record : LogRecord) : String :=
  let time := CivilTime.ofSeconds record.seconds
  String.ofList (time.dateText ++ ' ' :: time.clockText ++ ',' ::
    CivilTime.signedPadded 3 record.thousandths)

/-- The line for a record. -/
def line (record : LogRecord) : String :=
  match LogLevel.ofNumber? record.level with
  | none => record.message
  | some level =>
    Ink.green.write (record.timeText ++ "  ") ++ Ink.blue.write (record.logger ++ " ") ++
      Ink.white.write (record.function ++ " ") ++
      Ink.bold.sequence ++ Ink.grey.write (level.text ++ " ") ++ level.ink.write record.message

end LogRecord

end Drafting
