import Drafting.Text.Quoted

/-!
# Words for the members of a fixed list

Kinds of things are exchanged as words. A word that stands for none of them is
an error, which tells the word and what was expected.
-/

namespace Drafting

/-- What was given, as messages show it, and the kind of things that was expected
and of which it stands for none. -/
structure UnknownWord where
  given : String
  expected : String
  deriving DecidableEq, Repr

/-- What is said about an unknown word. -/
def UnknownWord.message (unknown : UnknownWord) : String :=
  unknown.given ++ " is not a valid " ++ unknown.expected

variable {α : Type}

/-- The first of some things that a word stands for. -/
def choose? (all : List α) (text : α → String) (word : String) : Option α :=
  all.find? fun thing => text thing == word

/-- The first of some things that a word stands for, or the error. -/
def choose (expected : String) (all : List α) (text : α → String) (word : String) :
    Except UnknownWord α :=
  match choose? all text word with
  | some thing => .ok thing
  | none => .error { given := Text.quoted word, expected }

end Drafting
