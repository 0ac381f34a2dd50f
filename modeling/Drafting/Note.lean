import Drafting.Text.Lines

/-!
# Notes

A note is opened by one line and closed by another, and the lines between are
its text. While a note is open no line means anything else. The state of a
reader holds at most one note; opening one forgets what was collected before.
-/

namespace Drafting

/-- A note that is being collected, or none. -/
structure Note where
  active : Bool := false
  lines : List String := []
  deriving DecidableEq, Repr

namespace Note

/-- Opens a note whose first line may be given. An empty first line is none. -/
def start (first : String) : Note :=
  { active := true, lines := if first.isEmpty then [] else [first] }

/-- Adds a line. -/
def add (note : Note) (line : String) : Note := { note with lines := note.lines ++ [line] }

/-- The text collected so far. -/
def text (note : Note) : String := Text.joinStrings "\n" note.lines

/-- The state after a note was closed. -/
def closed : Note := {}

end Note

end Drafting
