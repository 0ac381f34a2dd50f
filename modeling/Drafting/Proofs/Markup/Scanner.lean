import Drafting.Markup
import Drafting.Proofs.Text.Unescape

/-!
# Scanning markup

The scanner reads markup one character at a time and splits it into tags. It
knows only in which part of a tag it stands and what it has read of that part: a
value ends at its quotation mark, whatever stands in it, and is then unescaped.
Between tags it accepts nothing.

Tags are put together to elements again. The reader keeps the elements that are
open, innermost first, each with what stood before it, and what it has read
inside the innermost one; a closing tag has to name that one.

The main statements are that the text of an element is scanned as the tags of that
element, for all values of its attributes, and that the text of some elements is
read as these elements. The inductions follow the element; a run of characters
that does not leave its part of a tag is read by one lemma.
-/

namespace Drafting.Markup

/-- A tag opens an element, is an element without content, or closes one. -/
inductive Tag where
  | opening (name : String) (attributes : List Attribute)
  | closed (name : String) (attributes : List Attribute)
  | closing (name : String)
  deriving DecidableEq, Repr

/-- What has been read of a tag: its name and its first attributes. -/
structure Head where
  name : String
  attributes : List Attribute := []
  deriving DecidableEq, Repr

/-- Where the scanner stands, with what it has read there. -/
inductive Place where
  | outside
  | tagName (read : List Char)
  | closingName (read : List Char)
  | inside (head : Head)
  | attributeName (head : Head) (read : List Char)
  | beforeValue (head : Head) (name : List Char)
  | value (head : Head) (name read : List Char)
  | beforeEnd (head : Head)
  deriving DecidableEq, Repr

/-- A head with one more attribute, whose value is still escaped. -/
def Head.add (head : Head) (name value : List Char) : Head :=
  { head with attributes := head.attributes ++
      [⟨String.ofList name, String.ofList (Text.unescape value)⟩] }

/-- The characters behind which the name of a tag does not go on. -/
def endsName (character : Char) : Bool := character == ' ' || character == '/' || character == '>'

/-- Reads a character behind the name of a tag or behind an attribute. -/
def stepInside (head : Head) (character : Char) : Place × List Tag :=
  if character = ' ' then (.inside head, [])
  else if character = '/' then (.beforeEnd head, [])
  else if character = '>' then (.outside, [.opening head.name head.attributes])
  else (.attributeName head [character], [])

/-- Reads one character. The answer is the new place and the tag that has ended,
if one has. -/
def step (place : Place) (character : Char) : Option (Place × List Tag) :=
  match place with
  | .outside => if character = '<' then some (.tagName [], []) else none
  | .tagName read =>
    if character = '/' ∧ read = [] then some (.closingName [], [])
    else if endsName character then some (stepInside ⟨String.ofList read, []⟩ character)
    else some (.tagName (read ++ [character]), [])
  | .closingName read =>
    if character = '>' then some (.outside, [.closing (String.ofList read)])
    else some (.closingName (read ++ [character]), [])
  | .inside head => some (stepInside head character)
  | .attributeName head read =>
    if character = '=' then some (.beforeValue head read, [])
    else some (.attributeName head (read ++ [character]), [])
  | .beforeValue head name =>
    if character = '\x22' then some (.value head name [], []) else none
  | .value head name read =>
    if character = '\x22' then some (.inside (head.add name read), [])
    else some (.value head name (read ++ [character]), [])
  | .beforeEnd head =>
    if character = '>' then some (.outside, [.closed head.name head.attributes]) else none

/-- Reads a text from a given place. The answer is the last place and the tags that
have ended. -/
def scan (place : Place) : List Char → Option (Place × List Tag)
  | [] => some (place, [])
  | character :: rest => do
    let (next, ended) ← step place character
    let (last, others) ← scan next rest
    return (last, ended ++ others)

/-- The tags of a text. It has to end outside of tags. -/
def tags? (text : List Char) : Option (List Tag) := do
  let (last, tags) ← scan .outside text
  if last = .outside then some tags else none

/-- Scanning goes on where it has stopped. -/
theorem scan_append {first second : List Char} {place next last : Place}
    {ended others : List Tag} (start : scan place first = some (next, ended))
    (rest : scan next second = some (last, others)) :
    scan place (first ++ second) = some (last, ended ++ others) := by
  induction first generalizing place ended with
  | nil =>
    obtain ⟨rfl, rfl⟩ : place = next ∧ [] = ended := by simpa [scan] using start
    exact rest
  | cons character tail inductionHypothesis =>
    cases stepped : step place character with
    | none => simp [scan, stepped] at start
    | some result =>
      obtain ⟨between, here⟩ := result
      cases scanned : scan between tail with
      | none => simp [scan, stepped, scanned] at start
      | some result =>
        obtain ⟨stop, later⟩ := result
        obtain ⟨rfl, rfl⟩ : stop = next ∧ here ++ later = ended := by
          simpa [scan, stepped, scanned] using start
        simp [scan, stepped, inductionHypothesis scanned]

/-- A run of characters that stay in one part of a tag is collected there. -/
theorem scan_run (place : List Char → Place) (accepts : Char → Prop)
    (stays : ∀ read character, accepts character →
      step (place read) character = some (place (read ++ [character]), []))
    {run : List Char} (accepted : ∀ character ∈ run, accepts character) (read : List Char) :
    scan (place read) run = some (place (read ++ run), []) := by
  induction run generalizing read with
  | nil => simp [scan]
  | cons character tail inductionHypothesis =>
    have here := stays read character (accepted character (by simp))
    have later := inductionHypothesis (fun other member => accepted other (by simp [member]))
      (read ++ [character])
    simp [scan, here, later]

/-- A name that can be told from what surrounds it: letters and digits only. -/
def isName (name : String) : Bool := name.toList != [] && name.toList.all Char.isAlphanum

/-- A name is not empty and holds letters and digits. -/
theorem characters_of_isName {name : String} (named : isName name = true) :
    name.toList ≠ [] ∧ ∀ character ∈ name.toList, character.isAlphanum = true := by
  simpa [isName] using named

/-- No mark of a tag is a letter or a digit. -/
theorem ne_of_isAlphanum (mark : Char) (isMark : mark.isAlphanum = false) {character : Char}
    (letter : character.isAlphanum = true) : character ≠ mark := by
  rintro rfl
  exact absurd letter (by simp [isMark])

/-- The head of a tag with further attributes. -/
def Head.addAll (head : Head) (attributes : List Attribute) : Head :=
  { head with attributes := head.attributes ++ attributes }

/-- The part of an attribute before its value. -/
theorem scan_attributeName (head : Head) {name : String} (named : isName name = true) :
    scan (.inside head) (' ' :: name.toList ++ ['=', '\x22']) =
      some (.value head name.toList [], []) := by
  obtain ⟨notEmpty, letters⟩ := characters_of_isName named
  obtain ⟨first, others, spelled⟩ := List.exists_cons_of_ne_nil notEmpty
  rw [spelled] at letters ⊢
  have letter : first.isAlphanum = true := letters first (by simp)
  have begins : scan (.inside head) [' ', first] = some (.attributeName head [first], []) := by
    simp [scan, step, stepInside, ne_of_isAlphanum ' ' (by decide) letter,
      ne_of_isAlphanum '/' (by decide) letter,
      ne_of_isAlphanum '>' (by decide) letter]
  have unequal : ∀ character ∈ others, character ≠ '=' := fun character member =>
    ne_of_isAlphanum '=' (by decide) (letters character (by simp [member]))
  have continues : scan (.attributeName head [first]) others =
      some (.attributeName head (first :: others), []) :=
    scan_run (.attributeName head) (· ≠ '=') (fun read character other => by simp [step, other])
      unequal [first]
  have quotes : scan (.attributeName head (first :: others)) ['=', '\x22'] =
      some (.value head (first :: others) [], []) := by
    simp [scan, step]
  have whole := scan_append (scan_append begins continues) quotes
  simpa using whole

/-- An escaped value is read up to the quotation mark behind it. -/
theorem scan_value (head : Head) (name : List Char) (value : List Char) :
    scan (.value head name []) (Text.escapeCharacters value ++ ['\x22']) =
      some (.inside (head.addAll [⟨String.ofList name, String.ofList value⟩]), []) := by
  have unquoted : ∀ character ∈ Text.escapeCharacters value, character ≠ '\x22' :=
    fun character member same =>
      Text.not_mem_escapeCharacters (by decide) (by decide) value (same ▸ member)
  have collected := scan_run (.value head name) (· ≠ '\x22')
    (fun read character other => by simp [step, other]) unquoted []
  have ended : scan (.value head name ([] ++ Text.escapeCharacters value)) ['\x22'] =
      some (.inside (head.addAll [⟨String.ofList name, String.ofList value⟩]), []) := by
    simp [scan, step, Head.add, Head.addAll, Text.unescape_escapeCharacters]
  exact scan_append collected ended

/-- A written attribute is scanned as that attribute. -/
theorem scan_attribute (head : Head) {named : Attribute} (isNamed : isName named.name = true) :
    scan (.inside head) named.characters = some (.inside (head.addAll [named]), []) := by
  have whole := scan_append (scan_attributeName head isNamed)
    (scan_value head named.name.toList named.value.toList)
  simpa [Attribute.characters] using whole

/-- Written attributes are scanned one after the other. -/
theorem scan_attributes (head : Head) {attributes : List Attribute}
    (named : ∀ pair ∈ attributes, isName pair.name = true) :
    scan (.inside head) (attributes.flatMap Attribute.characters) =
      some (.inside (head.addAll attributes), []) := by
  induction attributes generalizing head with
  | nil => simp [scan, Head.addAll]
  | cons first others inductionHypothesis =>
    have here := scan_attribute head (named first (by simp))
    have later := inductionHypothesis (head.addAll [first])
      (fun pair member => named pair (by simp [member]))
    have whole := scan_append here later
    simpa [Head.addAll] using whole

/-- Behind the name of a tag a character that ends the name is read as behind an
attribute. -/
theorem scan_tagName_ended {read : List Char} (notEmpty : read ≠ []) {character : Char}
    (ends : endsName character = true) (rest : List Char) :
    scan (.tagName read) (character :: rest) =
      scan (.inside ⟨String.ofList read, []⟩) (character :: rest) := by
  simp [scan, step, notEmpty, ends]

/-- A tag up to the character that ends it: the name and the attributes are
collected, and then that character is read. -/
theorem scan_tag {name : String} (named : isName name = true) {attributes : List Attribute}
    (attributesNamed : ∀ pair ∈ attributes, isName pair.name = true) {mark : Char}
    (ends : endsName mark = true) {rest : List Char} {result : Place × List Tag}
    (behind : scan (.inside ⟨name, attributes⟩) (mark :: rest) = some result) :
    scan .outside ('<' :: name.toList ++ attributes.flatMap Attribute.characters ++
      mark :: rest) = some result := by
  obtain ⟨notEmpty, letters⟩ := characters_of_isName named
  have headed : scan .outside ('<' :: name.toList) = some (.tagName name.toList, []) := by
    have collected := scan_run .tagName (fun character => character.isAlphanum = true)
      (fun read character letter => by
        simp [step, endsName, ne_of_isAlphanum ' ' (by decide) letter,
          ne_of_isAlphanum '/' (by decide) letter,
          ne_of_isAlphanum '>' (by decide) letter])
      letters []
    simp [scan, step, collected]
  have inside : scan (.inside ⟨name, []⟩)
      (attributes.flatMap Attribute.characters ++ mark :: rest) = some result := by
    have read := scan_attributes ⟨name, []⟩ attributesNamed
    exact scan_append read behind
  -- the first character behind the name is the blank of an attribute or the mark
  have ended : scan (.tagName name.toList)
      (attributes.flatMap Attribute.characters ++ mark :: rest) = some result := by
    cases attributes with
    | nil =>
      rw [List.flatMap_nil, List.nil_append] at inside ⊢
      rw [scan_tagName_ended notEmpty ends, String.ofList_toList]
      exact inside
    | cons first others =>
      rw [List.flatMap_cons, Attribute.characters] at inside ⊢
      simp only [List.cons_append] at inside ⊢
      rw [scan_tagName_ended notEmpty (by decide), String.ofList_toList]
      exact inside
  rw [List.append_assoc]
  exact scan_append headed ended

/-- The tag that closes an element. -/
theorem scan_closing {name : String} (named : isName name = true) :
    scan .outside ('<' :: '/' :: name.toList ++ ['>']) = some (.outside, [.closing name]) := by
  obtain ⟨_, letters⟩ := characters_of_isName named
  have collected := scan_run .closingName (· ≠ '>')
    (fun read character other => by simp [step, other])
    (fun character member => ne_of_isAlphanum '>' (by decide) (letters character member)) []
  have opened : scan .outside ('<' :: '/' :: name.toList) =
      some (.closingName name.toList, []) := by
    simp [scan, step, collected]
  have ended : scan (.closingName name.toList) ['>'] = some (.outside, [.closing name]) := by
    simp [scan, step]
  exact scan_append opened ended

mutual

/-- The tags of an element in the order in which they are written. -/
def elementTags : Element → List Tag
  | .mk name attributes [] => [.closed name attributes]
  | .mk name attributes (first :: others) =>
    .opening name attributes :: (elementTags first ++ contentTags others ++ [.closing name])

/-- The tags of some elements, one after the other. -/
def contentTags : List Element → List Tag
  | [] => []
  | first :: others => elementTags first ++ contentTags others

end

mutual

/-- All names in an element are names of letters and digits. -/
def WellNamed : Element → Prop
  | .mk name attributes content =>
    isName name = true ∧ (∀ pair ∈ attributes, isName pair.name = true) ∧ AllWellNamed content

/-- All names in some elements are names of letters and digits. -/
def AllWellNamed : List Element → Prop
  | [] => True
  | first :: others => WellNamed first ∧ AllWellNamed others

end

mutual

/-- The text of an element is scanned as its tags. -/
theorem scan_element (element : Element) (named : WellNamed element) :
    scan .outside element.characters = some (.outside, elementTags element) := by
  match element with
  | .mk name attributes [] =>
    obtain ⟨isName, attributesNamed, _⟩ := named
    have ended : scan (.inside ⟨name, attributes⟩) ['/', '>'] =
        some (.outside, [.closed name attributes]) := rfl
    rw [Element.characters, elementTags]
    exact scan_tag isName attributesNamed (by decide) ended
  | .mk name attributes (first :: others) =>
    obtain ⟨isName, attributesNamed, firstNamed, othersNamed⟩ := named
    have opened : scan .outside ('<' :: name.toList ++ attributes.flatMap Attribute.characters ++
        ['>']) = some (.outside, [.opening name attributes]) :=
      scan_tag isName attributesNamed (by decide) rfl
    have content := scan_append (scan_element first firstNamed)
      (scan_content others othersNamed)
    have whole := scan_append opened (scan_append content (scan_closing isName))
    rw [Element.characters, elementTags]
    simpa using whole

/-- The texts of some elements are scanned as their tags. -/
theorem scan_content (content : List Element) (named : AllWellNamed content) :
    scan .outside (Element.contentCharacters content) = some (.outside, contentTags content) := by
  match content with
  | [] => rfl
  | first :: others =>
    obtain ⟨firstNamed, othersNamed⟩ := named
    exact scan_append (scan_element first firstNamed) (scan_content others othersNamed)

end

/-- Written elements are split into their tags. -/
theorem tags?_contentCharacters (content : List Element) (named : AllWellNamed content) :
    tags? (Element.contentCharacters content) = some (contentTags content) := by
  simp [tags?, scan_content content named]

/-- An element that was opened, with the elements that stand before it. -/
structure Frame where
  head : Head
  before : List Element

/-- Puts tags together, given the open elements and what was read inside the
innermost one. -/
def nest? (frames : List Frame) (content : List Element) : List Tag → Option (List Element)
  | [] => if frames.isEmpty then some content else none
  | .closed name attributes :: rest =>
    nest? frames (content ++ [.mk name attributes []]) rest
  | .opening name attributes :: rest => nest? (⟨⟨name, attributes⟩, content⟩ :: frames) [] rest
  | .closing name :: rest =>
    match frames with
    | [] => none
    | innermost :: outer =>
      if innermost.head.name = name then
        nest? outer (innermost.before ++ [.mk name innermost.head.attributes content]) rest
      else none

/-- The elements of a text. -/
def elements? (text : List Char) : Option (List Element) := (tags? text).bind (nest? [] [])

mutual

/-- The tags of an element add the element to what was read. -/
theorem nest?_elementTags (element : Element) (frames : List Frame) (content : List Element)
    (rest : List Tag) :
    nest? frames content (elementTags element ++ rest) =
      nest? frames (content ++ [element]) rest := by
  match element with
  | .mk name attributes [] => simp [elementTags, nest?]
  | .mk name attributes (first :: others) =>
    simp [elementTags, nest?, nest?_elementTags first, nest?_contentTags others]

/-- The tags of some elements add the elements to what was read. -/
theorem nest?_contentTags (added : List Element) (frames : List Frame) (content : List Element)
    (rest : List Tag) :
    nest? frames content (contentTags added ++ rest) = nest? frames (content ++ added) rest := by
  match added with
  | [] => simp [contentTags]
  | first :: others =>
    simp [contentTags, nest?_elementTags first, nest?_contentTags others]

end

/-- Reading the text of some elements gives these elements. -/
theorem elements?_contentCharacters (content : List Element) (named : AllWellNamed content) :
    elements? (Element.contentCharacters content) = some content := by
  have nested := nest?_contentTags content [] [] []
  rw [List.append_nil, List.nil_append] at nested
  rw [elements?, tags?_contentCharacters content named, Option.bind_some, nested]
  simp [nest?]

end Drafting.Markup
