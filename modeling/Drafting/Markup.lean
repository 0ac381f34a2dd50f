import Drafting.Text.Escape

/-!
# Markup elements

An element has a name, attributes in a fixed order and further elements inside
it. Only attribute values come from outside; they are escaped in one place, so
no value can end an attribute or begin an element.

The main statements give the text of an element with and without content.
-/

namespace Drafting

/-- A named value of an element, as it is before escaping. -/
structure Attribute where
  name : String
  value : String
  deriving DecidableEq, Repr

/-- An element of markup. -/
inductive Element where
  | mk (name : String) (attributes : List Attribute) (content : List Element)

namespace Attribute

/-- The text of an attribute, with the blank that separates it from what stands
before it. -/
def characters (named : Attribute) : List Char :=
  ' ' :: named.name.toList ++ '=' :: '\x22' ::
    Text.escapeCharacters named.value.toList ++ ['\x22']

end Attribute

namespace Element

mutual

/-- The text of an element. One without content is a single closed tag. -/
def characters : Element → List Char
  | mk name attributes [] =>
    '<' :: name.toList ++ attributes.flatMap Attribute.characters ++ ['/', '>']
  | mk name attributes (first :: others) =>
    '<' :: name.toList ++ attributes.flatMap Attribute.characters ++ '>' ::
      (characters first ++ contentCharacters others ++ ('<' :: '/' :: name.toList ++ ['>']))

/-- The texts of the elements inside another, one after the other. -/
def contentCharacters : List Element → List Char
  | [] => []
  | first :: others => characters first ++ contentCharacters others

end

/-- The elements inside another are written one after the other. -/
theorem contentCharacters_eq (content : List Element) :
    contentCharacters content = content.flatMap characters := by
  induction content with
  | nil => simp [contentCharacters]
  | cons first others inductionHypothesis => simp [contentCharacters, inductionHypothesis]

/-- The text of an element that holds others. -/
theorem characters_of_content (name : String) (attributes : List Attribute) (first : Element)
    (others : List Element) :
    characters (mk name attributes (first :: others)) =
      '<' :: name.toList ++ attributes.flatMap Attribute.characters ++ '>' ::
        ((first :: others).flatMap characters ++ ('<' :: '/' :: name.toList ++ ['>'])) := by
  simp [characters, contentCharacters_eq]

end Element

end Drafting
