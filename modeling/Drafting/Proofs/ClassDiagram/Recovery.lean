import Drafting.ClassDiagram.Reader
import Drafting.Proofs.Text.Lines
import Drafting.Proofs.Text.Scan

/-!
# Recovering printed classes

A class is printed as its declaration with an opening brace, the lines that show its
attributes and those that show its methods, and a closing brace. Its name may be any word, the
keywords of declarations included: what follows the name is a brace, so a name is never taken
for the keyword of a declaration behind `abstract`. A member begins with its sign, so whatever
its texts hold, its line neither closes the body nor is passed over; a second sign behind the
first one is part of the name.

The main statement is that printed classes are read as these classes, in order and with
nothing else.
-/

namespace Drafting

open Text

namespace ClassMember

/-- What may stand as the name or the type of a member: a trimmed text within one line and
without a colon, at which names and types are separated. -/
structure IsField (text : String) : Prop where
  trimmed : trim text.toList = text.toList
  noColon : ':' ∉ text.toList
  noLineFeed : '\n' ∉ text.toList

/-- A member that its line tells apart: it has one of the signs and a name, and it is a method
exactly if its name or its type holds an opening parenthesis. -/
structure IsPlain (member : ClassMember) : Prop where
  sign : ∃ sign, isVisibility sign = true ∧ member.visibility = String.singleton sign
  named : member.name.toList ≠ []
  name : IsField member.name
  type : IsField member.type
  method : member.isMethod = true ↔ '(' ∈ member.name.toList ∨ '(' ∈ member.type.toList

/-- The name of a member with its type behind it. -/
def content (member : ClassMember) : List Char :=
  member.name.toList ++ if member.type.isEmpty then [] else ": ".toList ++ member.type.toList

/-- The line of a member is its sign and, behind a blank, its content. -/
theorem toList_display {member : ClassMember} {sign : Char}
    (isSign : member.visibility = String.singleton sign) :
    member.display.toList = sign :: ' ' :: member.content := by
  have blank : " ".toList = [' '] := rfl
  rw [display, content, isSign, String.toList_append, String.toList_append,
    String.toList_append, String.toList_singleton, blank]
  split <;> simp

/-- The signs of visibility. -/
theorem sign_cases {sign : Char} (isSign : isVisibility sign = true) :
    sign = '+' ∨ sign = '-' ∨ sign = '#' ∨ sign = '~' := by
  simpa [isVisibility, or_assoc] using isSign

/-- Signs are visible. -/
theorem isBlank_of_isVisibility {sign : Char} (isSign : isVisibility sign = true) :
    isBlank sign = false := by
  rcases sign_cases isSign with rfl | rfl | rfl | rfl <;> decide

namespace IsPlain

variable {member : ClassMember}

/-- The content is the end of a trimmed text: it ends like the type or, without one, like the
name. -/
theorem content_trimmed (plain : member.IsPlain) : trim member.content = member.content := by
  rw [content]
  split
  · rw [List.append_nil]
    exact plain.name.trimmed
  · next typed =>
    cases name : member.name.toList with
    | nil => exact absurd name plain.named
    | cons first rest =>
      have visible : isBlank first = false := by
        have trimmed := plain.name.trimmed
        rw [name] at trimmed
        exact isBlank_of_trim_cons trimmed
      have nonempty : member.type.toList ≠ [] := by simpa using typed
      rw [List.cons_append, ← List.append_assoc]
      exact trim_cons_append visible _ nonempty plain.type.trimmed

/-- There is content, since there is a name. -/
theorem content_nonempty (plain : member.IsPlain) : member.content ≠ [] := by
  simp [content, plain.named]

/-- The content is separated into the name and the type. -/
theorem splitType_content (plain : member.IsPlain) :
    splitType member.content = (member.name.toList, member.type.toList) := by
  rw [content]
  split
  · next untyped =>
    have empty : member.type.toList = [] := by simpa using untyped
    rw [List.append_nil, splitType, split_of_not_mem plain.name.noColon, empty]
  · have colon : ": ".toList = ':' :: [' '] := rfl
    have noColon : ':' ∉ ' ' :: member.type.toList := by
      simpa using plain.type.noColon
    rw [colon, List.cons_append, List.singleton_append, splitType,
      split_append plain.name.noColon, split_of_not_mem noColon]
    simp only [trim_cons_of_blank (by decide : isBlank ' ' = true), plain.name.trimmed,
      plain.type.trimmed]

/-- The content holds an opening parenthesis exactly if the member is a method. -/
theorem contains_content (plain : member.IsPlain) :
    member.content.contains '(' = member.isMethod := by
  rw [Bool.eq_iff_iff, plain.method, List.contains_iff_mem, content, List.mem_append]
  split
  · next untyped =>
    have empty : member.type.toList = [] := by simpa using untyped
    rw [empty]
  · simp

/-- The line of a member is read as the member. -/
theorem ofLine_display (plain : member.IsPlain) : ofLine member.display = member := by
  obtain ⟨sign, isSign, visibility⟩ := plain.sign
  have parts : splitVisibility member.display.toList = (sign, ' ' :: member.content) := by
    rw [toList_display visibility, splitVisibility, if_pos isSign]
  have content : trim (' ' :: member.content) = member.content := by
    rw [trim_cons_of_blank (by decide), plain.content_trimmed]
  simp only [ofLine, parts, content, plain.splitType_content, plain.contains_content,
    String.ofList_toList, ← visibility]

/-- The content stands in one line. -/
theorem lineFeed_not_mem_content (plain : member.IsPlain) : '\n' ∉ member.content := by
  rw [content, List.mem_append, not_or]
  refine ⟨plain.name.noLineFeed, ?_⟩
  split
  · exact List.not_mem_nil
  · rw [List.mem_append, not_or]
    exact ⟨by decide, plain.type.noLineFeed⟩

/-- The line of a member is normal: it begins with the sign and ends like its content. -/
theorem isNormalLine_display (plain : member.IsPlain) : IsNormalLine member.display := by
  obtain ⟨sign, isSign, visibility⟩ := plain.sign
  have characters := toList_display visibility
  refine ⟨?_, ?_, ?_⟩
  · rw [characters]
    exact trim_cons_append (isBlank_of_isVisibility isSign) [' '] plain.content_nonempty
      plain.content_trimmed
  · have notSign : '\n' ≠ sign := by
      rcases sign_cases isSign with rfl | rfl | rfl | rfl <;> decide
    have notBlank : '\n' ≠ ' ' := by decide
    rw [characters, List.mem_cons, List.mem_cons, not_or, not_or]
    exact ⟨notSign, notBlank, plain.lineFeed_not_mem_content⟩
  · rw [characters]
    rcases sign_cases isSign with rfl | rfl | rfl | rfl <;> rfl

end IsPlain

end ClassMember

namespace ClassBox

/-- The line that begins a class. -/
def head (box : ClassBox) : String := box.kind.text ++ " " ++ box.name ++ " \x7b"

/-- The lines of a class. -/
def lines (box : ClassBox) : List String :=
  box.head :: (box.attributes.map ClassMember.display ++ box.methods.map ClassMember.display ++
    ["\x7d"])

/-- A class whose name is a word, with plain members of each sort. -/
structure IsPlain (box : ClassBox) : Prop where
  name : ∃ word : Word, word.text = box.name
  attributes : ∀ member ∈ box.attributes, member.IsPlain ∧ member.isMethod = false
  methods : ∀ member ∈ box.methods, member.IsPlain ∧ member.isMethod = true

/-- The characters of the line that begins a class with a given word as its name. -/
theorem toList_head {box : ClassBox} {word : Word} (named : word.text = box.name) :
    box.head.toList =
      box.kind.text.toList ++ (' ' :: (word.characters ++ " \x7b".toList)) := by
  have blank : " ".toList = [' '] := rfl
  rw [head, ← named, String.toList_append, String.toList_append, String.toList_append,
    word.toList_text, blank]
  simp

/-- Every word may stand as the name of a class. -/
theorem isNameCharacter_of_word (word : Word) :
    ∀ character ∈ word.characters, isNameCharacter character = true := by
  intro character member
  have notQuotation : character ≠ '\x22' := word.ne_of_mem (by decide) member
  have notBrace : character ≠ '\x7b' := word.ne_of_mem (by decide) member
  simp [isNameCharacter, notQuotation, notBrace, isBlank_of_isWord (word.letters _ member)]

/-- The blank before a word is skipped. -/
theorem skipBlanks?_word (word : Word) (rest : List Char) :
    skipBlanks? (' ' :: (word.characters ++ rest)) = some (word.characters ++ rest) := by
  rw [skipBlanks?, if_pos (by decide), word.dropBlanks_append]

/-- A word behind a blank is the name that is read. -/
theorem nameBehind?_word (word : Word) :
    nameBehind? (' ' :: (word.characters ++ " \x7b".toList)) = some word.characters := by
  have run : run? isNameCharacter (word.characters ++ " \x7b".toList) =
      some (word.characters, " \x7b".toList) :=
    run?_of_forced word.nonempty (isNameCharacter_of_word word) (refused_of_head? rfl (by decide))
  have unquoted := word.ne_of_head? (by decide : isWord '\x22' = false) " \x7b".toList
  rw [nameBehind?, skipBlanks?_word, Option.bind_eq_bind, Option.bind_some]
  split
  · next inner quoted => exact absurd rfl (unquoted '\x22' (by rw [quoted]; rfl))
  · simp only [run]
    rfl

/-- A keyword that is part of the name of a class has no name behind it: the name goes on,
or it ends and a brace follows. -/
theorem nameBehind?_rest {more : List Char}
    (letters : ∀ character ∈ more, isWord character = true) :
    nameBehind? (more ++ " \x7b".toList) = none := by
  cases more with
  | nil => rfl
  | cons character others =>
    have visible := isBlank_of_isWord (letters character List.mem_cons_self)
    simp [nameBehind?, skipBlanks?, visible]

/-- A name alone is no declaration, whatever keyword it begins with. -/
theorem declaredName?_word (word : Word) :
    declaredName? (word.characters ++ " \x7b".toList) = none := by
  rw [declaredName?]
  cases start : ClassKind.ofStart? (word.characters ++ " \x7b".toList) with
  | none => rfl
  | some found =>
    obtain ⟨kind, rest⟩ := found
    obtain ⟨own, _, begins⟩ := List.exists_of_findSome?_eq_some start
    obtain ⟨behind, expected, same⟩ := Option.map_eq_some_iff.mp begins
    obtain ⟨rfl, rfl⟩ := Prod.mk.inj same
    have split := List.isPrefixOf?_eq_some_iff_append_eq.mp expected
    have keyword : ∀ character ∈ own.text.toList, isWord character = true := by
      cases own <;> exact List.all_eq_true.mp (by decide)
    obtain ⟨more, whole⟩ := word.prefix_of_prefix_append keyword
      (refused_of_head? rfl (by decide)) ⟨behind, split⟩
    have rest : behind = more ++ " \x7b".toList := by
      rw [← whole, List.append_assoc] at split
      exact List.append_cancel_left split
    have letters : ∀ character ∈ more, isWord character = true := fun character member =>
      word.letters character (whole ▸ List.mem_append_right _ member)
    exact rest ▸ nameBehind?_rest letters

variable {box : ClassBox}

/-- The line that begins a class declares it, without its members, and opens its body. -/
theorem ofDeclaration?_head (plain : box.IsPlain) :
    ofDeclaration? box.head = some { name := box.name, kind := box.kind } := by
  obtain ⟨word, named⟩ := plain.name
  have start : ClassKind.ofStart? box.head.toList =
      some (box.kind, ' ' :: (word.characters ++ " \x7b".toList)) := by
    rw [toList_head named]
    cases box.kind <;> rfl
  have own : declaredName? box.head.toList = some word.characters := by
    rw [declaredName?, start]
    exact nameBehind?_word word
  have notBehind : (do
      let rest ← expect "abstract" box.head.toList
      declaredName? (← skipBlanks? rest)) = none := by
    rw [toList_head named]
    cases box.kind with
    | concrete => rfl
    | interface => rfl
    | enumeration => rfl
    | abstractClass =>
      rw [show ClassKind.abstractClass.text = "abstract" from rfl, expect_append,
        Option.bind_eq_bind, Option.bind_some, skipBlanks?_word]
      exact declaredName?_word word
  have name : name? box.head.toList = some word.characters := by
    rw [name?, notBehind, own]
  rw [ofDeclaration?, name, start]
  simp [← named, Word.text]

/-- The line that begins a class holds the brace that opens its body. -/
theorem opensBody_head (box : ClassBox) : opensBody box.head = true := by
  rw [opensBody, List.contains_iff_mem, head, String.toList_append]
  exact List.mem_append_right _ (by decide)

/-- The line of a member does not close a body. -/
theorem closesBody_display {member : ClassMember} (plain : member.IsPlain) :
    closesBody member.display = false := by
  obtain ⟨sign, isSign, visibility⟩ := plain.sign
  rw [closesBody, ClassMember.toList_display visibility]
  rcases ClassMember.sign_cases isSign with rfl | rfl | rfl | rfl <;> rfl

/-- The line of a member in a body is read as the member. -/
theorem addBodyLine_display (box : ClassBox) {member : ClassMember} (plain : member.IsPlain) :
    box.addBodyLine member.display = box.addMember member := by
  obtain ⟨sign, isSign, visibility⟩ := plain.sign
  have content : trimmed member.display = member.display := by
    rw [trimmed, plain.isNormalLine_display.trimmed, String.ofList_toList]
  have filled : member.display.isEmpty = false := by
    have nonempty : member.display.toList ≠ [] := by simp [ClassMember.toList_display visibility]
    simpa using nonempty
  have notBrace : (member.display == "\x7b") = false := by
    have other : member.display ≠ "\x7b" := by
      intro same
      have characters := ClassMember.toList_display visibility
      rw [same] at characters
      simp at characters
    simpa using other
  simp only [addBodyLine, content, filled, notBrace, Bool.or_self, Bool.false_eq_true, if_false,
    plain.ofLine_display]

/-- Attributes are added behind those of the class. -/
theorem foldl_attributes (box : ClassBox) {members : List ClassMember}
    (attributes : ∀ member ∈ members, member.isMethod = false) :
    members.foldl addMember box = { box with attributes := box.attributes ++ members } := by
  induction members generalizing box with
  | nil => simp
  | cons member others inductionHypothesis =>
    rw [List.foldl_cons, addMember, attributes member List.mem_cons_self]
    simpa using inductionHypothesis { box with attributes := box.attributes ++ [member] }
      fun other inside => attributes other (List.mem_cons_of_mem _ inside)

/-- Methods are added behind those of the class. -/
theorem foldl_methods (box : ClassBox) {members : List ClassMember}
    (methods : ∀ member ∈ members, member.isMethod = true) :
    members.foldl addMember box = { box with methods := box.methods ++ members } := by
  induction members generalizing box with
  | nil => simp
  | cons member others inductionHypothesis =>
    rw [List.foldl_cons, addMember, methods member List.mem_cons_self]
    simpa using inductionHypothesis { box with methods := box.methods ++ [member] }
      fun other inside => methods other (List.mem_cons_of_mem _ inside)

/-- The line that begins a class is normal: it begins with a keyword and ends in a brace. -/
theorem isNormalLine_head (plain : box.IsPlain) : IsNormalLine box.head := by
  obtain ⟨word, named⟩ := plain.name
  obtain ⟨first, rest, keyword, visible, noComment, noLineFeed⟩ : ∃ first rest,
      box.kind.text.toList = first :: rest ∧ isBlank first = false ∧ first ≠ commentMark ∧
        '\n' ∉ first :: rest := by
    cases box.kind <;> exact ⟨_, _, rfl, by decide, by decide, by decide⟩
  have characters : box.head.toList =
      first :: ((rest ++ (' ' :: (word.characters ++ [' ']))) ++ ['\x7b']) := by
    rw [toList_head named, keyword]
    simp
  refine ⟨?_, ?_, ?_⟩
  · rw [characters]
    exact trim_cons_append visible _ (by simp) (by decide)
  · have inWord : '\n' ∉ word.characters := word.not_mem (by decide)
    rw [toList_head named, keyword, List.mem_append, not_or]
    exact ⟨noLineFeed, by simp [inWord]⟩
  · rw [characters]
    simpa [carriesContent] using noComment

/-- The lines of a plain class are normal. -/
theorem isNormalLine_of_lines (plain : box.IsPlain) {line : String} (member : line ∈ box.lines) :
    IsNormalLine line := by
  have displays {members : List ClassMember} (each : ∀ member ∈ members, member.IsPlain)
      (inside : line ∈ members.map ClassMember.display) : IsNormalLine line := by
    obtain ⟨own, ownMember, rfl⟩ := List.mem_map.mp inside
    exact (each own ownMember).isNormalLine_display
  rw [lines, List.mem_cons, List.mem_append, List.mem_append, List.mem_singleton] at member
  rcases member with rfl | (isAttribute | isMethod) | rfl
  · exact isNormalLine_head plain
  · exact displays (fun own inside => (plain.attributes own inside).1) isAttribute
  · exact displays (fun own inside => (plain.methods own inside).1) isMethod
  · exact ⟨by decide, by decide, by decide⟩

end ClassBox

namespace ClassDiagram

/-- The line that begins a class opens it. -/
theorem readLine_head (diagram : ClassDiagram) {box : ClassBox} (plain : box.IsPlain) :
    Progress.readLine { diagram } box.head =
      { diagram, opened := some { name := box.name, kind := box.kind } } := by
  obtain ⟨word, named⟩ := plain.name
  have notIgnored : beginsWithAny ignored box.head.toList = false := by
    rw [ClassBox.toList_head named]
    cases box.kind <;> rfl
  have declares : beginsWithAny declarations box.head.toList = true := by
    rw [ClassBox.toList_head named]
    cases box.kind <;> rfl
  simp only [Progress.readLine, Progress.readTopLine, notIgnored, declares,
    ClassBox.ofDeclaration?_head plain, ClassBox.opensBody_head, Bool.false_eq_true, if_false,
    if_true]

/-- The lines of members add them to the class that is open. -/
theorem foldl_members (diagram : ClassDiagram) (box : ClassBox) {members : List ClassMember}
    (plain : ∀ member ∈ members, member.IsPlain) :
    (members.map ClassMember.display).foldl Progress.readLine { diagram, opened := some box } =
      { diagram, opened := some (members.foldl ClassBox.addMember box) } := by
  induction members generalizing box with
  | nil => rfl
  | cons member others inductionHypothesis =>
    have own := plain member List.mem_cons_self
    have read : Progress.readLine { diagram, opened := some box } member.display =
        { diagram, opened := some (box.addMember member) } := by
      simp only [Progress.readLine, ClassBox.closesBody_display own,
        ClassBox.addBodyLine_display box own, Bool.false_eq_true, if_false]
    rw [List.map_cons, List.foldl_cons, List.foldl_cons, read]
    exact inductionHypothesis _ fun other inside => plain other (List.mem_cons_of_mem _ inside)

/-- The lines of a class add it to the diagram and leave none open. -/
theorem foldl_lines (diagram : ClassDiagram) {box : ClassBox} (plain : box.IsPlain) :
    box.lines.foldl Progress.readLine { diagram } = { diagram := diagram.addClass box } := by
  have attributes := foldl_members diagram { name := box.name, kind := box.kind }
    fun member inside => (plain.attributes member inside).1
  have methods := foldl_members diagram
    { name := box.name, kind := box.kind, attributes := box.attributes }
    fun member inside => (plain.methods member inside).1
  rw [ClassBox.foldl_attributes _ fun member inside => (plain.attributes member inside).2]
    at attributes
  rw [ClassBox.foldl_methods _ fun member inside => (plain.methods member inside).2] at methods
  rw [ClassBox.lines, List.foldl_cons, readLine_head diagram plain, List.foldl_append,
    List.foldl_append, attributes, List.nil_append, methods, List.nil_append]
  rfl

/-- The lines of classes add them in order. -/
theorem foldl_classes (diagram : ClassDiagram) {classes : List ClassBox}
    (plain : ∀ box ∈ classes, box.IsPlain) :
    (classes.flatMap ClassBox.lines).foldl Progress.readLine { diagram } =
      { diagram := { diagram with classes := diagram.classes ++ classes } } := by
  induction classes generalizing diagram with
  | nil => simp
  | cons box others inductionHypothesis =>
    rw [List.flatMap_cons, List.foldl_append, foldl_lines diagram (plain box List.mem_cons_self),
      inductionHypothesis _ fun other inside => plain other (List.mem_cons_of_mem _ inside)]
    simp [addClass]

/-- Plain classes are read from their printed lines as they are, in order, without relations
and without actors. The lines may be given as a source text, too: normalizing it leaves them
as they are. -/
theorem printed_classes_recovered (classes : List ClassBox) (plain : ∀ box ∈ classes, box.IsPlain) :
    ofLines (classes.flatMap ClassBox.lines) =
        { classes := classes, relations := [], actors := [] } ∧
      normalizedLines (joinStrings "\n" (classes.flatMap ClassBox.lines)) =
        classes.flatMap ClassBox.lines := by
  constructor
  · rw [ofLines, foldl_classes {} plain]
    rfl
  · refine normalizedLines_joinStrings ?_
    intro line member
    obtain ⟨box, inside, isLine⟩ := List.mem_flatMap.mp member
    exact ClassBox.isNormalLine_of_lines (plain box inside) isLine

/-- Names may be keywords of declarations, and texts of members may hold signs and braces. -/
theorem printed_classes_recovered_keywords :
    let marked : ClassMember := { name := "+ x", type := "\x7b", visibility := "-" }
    let method : ClassMember :=
      { name := "run (a)", type := "", visibility := "#", isMethod := true }
    let brace : ClassMember := { name := "\x7d", type := "", visibility := "~" }
    let classes : List ClassBox :=
      [ { name := "class", kind := .abstractClass, attributes := [marked], methods := [method] },
        { name := "abstract", kind := .abstractClass },
        { name := "A_1", kind := .enumeration, attributes := [brace] } ]
    let lines := [ "abstract class \x7b", "- + x: \x7b", "# run (a)", "\x7d",
      "abstract abstract \x7b", "\x7d", "enum A_1 \x7b", "~ \x7d", "\x7d" ]
    (∀ box ∈ classes, box.IsPlain) ∧ classes.flatMap ClassBox.lines = lines ∧
      ofLines lines = { classes := classes, relations := [], actors := [] } ∧
      normalizedLines (joinStrings "\n" lines) = lines := by
  intro marked method brace classes lines
  have field {text : String} (checked : trim text.toList = text.toList ∧ ':' ∉ text.toList ∧
      '\n' ∉ text.toList) : ClassMember.IsField text :=
    ⟨checked.1, checked.2.1, checked.2.2⟩
  have markedPlain : marked.IsPlain :=
    ⟨⟨'-', by decide, by decide⟩, by decide, field (by decide), field (by decide), by decide⟩
  have methodPlain : method.IsPlain :=
    ⟨⟨'#', by decide, by decide⟩, by decide, field (by decide), field (by decide), by decide⟩
  have bracePlain : brace.IsPlain :=
    ⟨⟨'~', by decide, by decide⟩, by decide, field (by decide), field (by decide), by decide⟩
  have named {text : String} (nonempty : text.toList ≠ [])
      (letters : text.toList.all isWord = true) : ∃ word : Word, word.text = text :=
    ⟨.ofString text nonempty letters, String.ofList_toList⟩
  have plain : ∀ box ∈ classes, box.IsPlain := by
    simp only [classes, List.forall_mem_cons]
    refine ⟨⟨named (by decide) (by decide), ?_, ?_⟩, ⟨named (by decide) (by decide), ?_, ?_⟩,
      ⟨named (by decide) (by decide), ?_, ?_⟩, ?_⟩
    all_goals simp [markedPlain, methodPlain, bracePlain, marked, method, brace]
  have printed : classes.flatMap ClassBox.lines = lines := by decide
  obtain ⟨read, normal⟩ := printed_classes_recovered classes plain
  rw [printed] at read normal
  exact ⟨plain, printed, read, normal⟩

end ClassDiagram

end Drafting
