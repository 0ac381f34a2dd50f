import Drafting.Text.Escape

/-!
# Reading escaped text

A reader of markup replaces each of the five named entities by the character it
stands for and takes all other characters as they are. This undoes escaping. Of the
five characters that are escaped only the ampersand is found in an escaped text,
where it begins an entity, so nothing in it can end the value or begin a tag.

The main statement says so of every text. Escaping is there what the passes do
together: a text that holds entities already, or parts of them, is no exception.
-/

namespace Drafting.Text

/-- The text that a written value stands for. An ampersand that begins none of the
five entities stands for itself. -/
def unescape : List Char → List Char
  | '&' :: 'a' :: 'm' :: 'p' :: ';' :: rest => '&' :: unescape rest
  | '&' :: 'l' :: 't' :: ';' :: rest => '<' :: unescape rest
  | '&' :: 'g' :: 't' :: ';' :: rest => '>' :: unescape rest
  | '&' :: 'q' :: 'u' :: 'o' :: 't' :: ';' :: rest => '\x22' :: unescape rest
  | '&' :: 'a' :: 'p' :: 'o' :: 's' :: ';' :: rest => '\x27' :: unescape rest
  | character :: rest => character :: unescape rest
  | [] => []

/-- A character is written as the entity that stands for it, or as itself if there is none. -/
theorem escapeCharacter_cases (character : Char) :
    (∃ entity, (character, entity) ∈ entities ∧ escapeCharacter character = entity.toList) ∨
      (character ∉ entities.map Prod.fst ∧ escapeCharacter character = [character]) := by
  rw [escapeCharacter]
  cases found : entities.lookup character with
  | none =>
    refine .inr ⟨?_, rfl⟩
    intro member
    obtain ⟨pair, inside, rfl⟩ := List.mem_map.mp member
    simpa using List.lookup_eq_none_iff.mp found pair inside
  | some entity =>
    obtain ⟨before, after, split, _⟩ := List.lookup_eq_some_iff.mp found
    exact .inl ⟨entity, by simp [split], rfl⟩

/-- A character that is no ampersand is read as itself. -/
theorem unescape_cons {character : Char} (rest : List Char) (plain : character ≠ '&') :
    unescape (character :: rest) = character :: unescape rest := by
  rw [unescape] <;> simp [plain]

/-- An entity is read as the character it stands for. -/
theorem unescape_entity : ∀ pair ∈ entities, ∀ rest : List Char,
    unescape (pair.2.toList ++ rest) = pair.1 :: unescape rest := by
  simp [entities, unescape]

/-- The written form of a character is read as that character. -/
theorem unescape_escapeCharacter (character : Char) (rest : List Char) :
    unescape (escapeCharacter character ++ rest) = character :: unescape rest := by
  rcases escapeCharacter_cases character with ⟨entity, known, written⟩ | ⟨plain, itself⟩
  · rw [written, unescape_entity _ known]
  · have other : character ≠ '&' := by
      rintro rfl
      exact plain (by decide)
    rw [itself, List.singleton_append, unescape_cons rest other]

/-- Reading an escaped text gives the text back. -/
theorem unescape_escapeCharacters (text : List Char) : unescape (escapeCharacters text) = text := by
  rw [escapeCharacters_eq_flatMap]
  induction text with
  | nil => rfl
  | cons character rest inductionHypothesis =>
    rw [List.flatMap_cons, unescape_escapeCharacter, inductionHypothesis]

/-- The written form of a text begins with that of its first character. -/
theorem escapeCharacters_cons (character : Char) (rest : List Char) :
    escapeCharacters (character :: rest) = escapeCharacter character ++ escapeCharacters rest := by
  simp only [escapeCharacters_eq_flatMap, List.flatMap_cons]

/-- An entity is an ampersand with a name behind it, in which no character has a meaning. -/
theorem entity_shape : ∀ pair ∈ entities, pair.2.toList.head? = some '&' ∧
    ∀ marked ∈ entities.map Prod.fst, marked ∉ pair.2.toList.tail := by
  simp [entities]

/-- Of the characters with a meaning in markup only the ampersand is found in an escaped text. -/
theorem not_mem_escapeCharacters {marked : Char} (member : marked ∈ entities.map Prod.fst)
    (other : marked ≠ '&') (text : List Char) : marked ∉ escapeCharacters text := by
  rw [escapeCharacters_eq_flatMap]
  intro inside
  obtain ⟨character, _, written⟩ := List.mem_flatMap.mp inside
  rcases escapeCharacter_cases character with ⟨entity, known, same⟩ | ⟨plain, itself⟩
  · obtain ⟨begins, behind⟩ := entity_shape _ known
    obtain ⟨name, shape⟩ := List.head?_eq_some_iff.mp begins
    rw [shape] at behind
    rw [same, shape] at written
    exact (List.mem_cons.mp written).elim other (behind marked member)
  · rw [itself, List.mem_singleton] at written
    exact plain (written ▸ member)

/-- Every ampersand in an escaped text begins an entity. -/
theorem entity_of_ampersand {text before after : List Char}
    (split : escapeCharacters text = before ++ '&' :: after) :
    ∃ entity ∈ entities.map Prod.snd, entity.toList <+: '&' :: after := by
  induction text generalizing before with
  | nil =>
    have nothing : escapeCharacters [] = [] := rfl
    simp [nothing] at split
  | cons character rest inductionHypothesis =>
    rw [escapeCharacters_cons] at split
    rcases List.append_eq_append_iff.mp split with
      ⟨more, _, behind⟩ | ⟨more, written, behind⟩
    · exact inductionHypothesis behind
    · cases more with
      | nil =>
        have alone : escapeCharacters rest = [] ++ '&' :: after := behind.symm
        exact inductionHypothesis alone
      | cons mark more =>
        obtain ⟨rfl, rfl⟩ := List.cons.inj behind
        rcases escapeCharacter_cases character with ⟨entity, known, same⟩ | ⟨plain, itself⟩
        · rw [same] at written
          cases before with
          | nil => exact ⟨entity, List.mem_map.mpr ⟨_, known, rfl⟩, _, by rw [written]; rfl⟩
          | cons first others =>
            have inName : '&' ∈ entity.toList.tail := by simp [written]
            exact absurd inName ((entity_shape _ known).2 '&' (by decide))
        · have ampersand : '&' ∈ [character] := by simp [← itself, written]
          rw [List.mem_singleton] at ampersand
          exact absurd (ampersand ▸ by decide) plain

/-- Escaping replaces every character on its own, although its passes go over the whole text one
after the other. In an escaped text there is no angle bracket, no quotation mark and no apostrophe,
every ampersand begins an entity, and reading it gives the text back. So texts with the same
written form are the same. -/
theorem escape_substitutes :
    (∀ text : String,
      escape text = String.ofList (text.toList.flatMap escapeCharacter) ∧
      (∀ marked ∈ ['<', '>', '\x22', '\x27'], marked ∉ (escape text).toList) ∧
      (∀ before after, (escape text).toList = before ++ '&' :: after →
        ∃ entity ∈ ["&amp;", "&lt;", "&gt;", "&quot;", "&apos;"],
          entity.toList <+: '&' :: after) ∧
      String.ofList (unescape (escape text).toList) = text) ∧
    Function.Injective escape := by
  have written (text : String) : (escape text).toList = escapeCharacters text.toList :=
    String.toList_ofList
  have decoded (text : String) : String.ofList (unescape (escape text).toList) = text := by
    rw [written, unescape_escapeCharacters, String.ofList_toList]
  refine ⟨fun text => ⟨?_, ?_, ?_, decoded text⟩, ?_⟩
  · rw [escape, escapeCharacters_eq_flatMap]
  · intro marked member
    have known : marked ∈ entities.map Prod.fst := List.mem_cons_of_mem '&' member
    rw [written]
    exact not_mem_escapeCharacters known (by rintro rfl; exact absurd member (by decide)) _
  · intro before after split
    rw [written] at split
    exact entity_of_ampersand split
  · intro first second same
    rw [← decoded first, same, decoded]

/-- A text that holds an entity already is escaped like any other one: its ampersand begins an
entity again. -/
theorem escape_substitutes_written_entity :
    (escape "x&lt;").toList = ['x'] ++ '&' :: ['a', 'm', 'p', ';', 'l', 't', ';'] ∧
      ∃ entity ∈ ["&amp;", "&lt;", "&gt;", "&quot;", "&apos;"],
        entity.toList <+: '&' :: ['a', 'm', 'p', ';', 'l', 't', ';'] := by
  have written :
      (escape "x&lt;").toList = ['x'] ++ '&' :: ['a', 'm', 'p', ';', 'l', 't', ';'] := by
    decide +kernel
  obtain ⟨_, _, begun, _⟩ := escape_substitutes.1 "x&lt;"
  exact ⟨written, begun _ _ written⟩

end Drafting.Text
