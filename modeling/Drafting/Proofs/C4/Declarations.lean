import Drafting.Proofs.C4.Blocks
import Drafting.Proofs.Text.Lines
import Drafting.Proofs.Text.Scan

/-!
# Printed declarations

A declaration is printed as a macro call with a name and one to three quoted texts. The
reader leaves the quotation marks out before it looks for parentheses and commas, so those
inside a text count as well as those around it. The arguments begin behind the last opening
parenthesis, and a comma ends an argument.

The main statement is that a printed declaration is read as the element it stands for exactly
if its texts hold no comma and no opening parenthesis, and that nothing is read exactly if one
of them holds an opening parenthesis. Other punctuation does no harm.
-/

namespace Drafting.C4

open Text

/-- A text as it may be quoted. The dollar sign is left to arguments that say what they
are. -/
structure QuotedText where
  characters : List Char
  nonempty : characters ≠ []
  trimmed : trim characters = characters
  unquoted : '\x22' ∉ characters
  unbroken : '\n' ∉ characters
  positional : characters.head? ≠ some '$'

/-- A quoted text as a string. -/
def QuotedText.text (quoted : QuotedText) : String := String.ofList quoted.characters

/-- A declaration: the kind of an element, its name and label, and behind the label the
technology and the description, as far as they are given. -/
structure Declaration where
  kind : String
  known : kind ∈ elementKinds
  name : Word
  label : QuotedText
  details : List QuotedText
  atMostTwo : details.length ≤ 2

namespace Declaration

/-- The quoted texts in their order. -/
def texts (declaration : Declaration) : List QuotedText := declaration.label :: declaration.details

/-- The arguments as they are printed. -/
def printedArguments (declaration : Declaration) : List Char :=
  declaration.name.characters ++
    declaration.texts.flatMap fun quoted => ", \x22".toList ++ (quoted.characters ++ ['\x22'])

/-- The arguments without their quotation marks. -/
def arguments (declaration : Declaration) : List Char :=
  declaration.name.characters ++
    declaration.texts.flatMap fun quoted => ", ".toList ++ quoted.characters

/-- The line of a declaration. -/
def line (declaration : Declaration) : String :=
  String.ofList (declaration.kind.toList ++ '(' :: (declaration.printedArguments ++ [')']))

/-- The element that a declaration stands for. -/
def element (declaration : Declaration) : Element where
  name := declaration.name.text
  label := declaration.label.text
  kind := declaration.kind
  technology := declaration.details[0]?.map QuotedText.text
  description := declaration.details[1]?.map QuotedText.text

end Declaration

/-- Every kind begins with one of three pairs of letters, with which no ignored line begins. -/
theorem kind_begins {kind : String} (known : kind ∈ elementKinds) :
    ∃ rest, kind.toList = "Pe".toList ++ rest ∨ kind.toList = "Sy".toList ++ rest ∨
      kind.toList = "Co".toList ++ rest := by
  have kinds : ∀ kind ∈ elementKinds, "Pe".toList <+: kind.toList ∨
      "Sy".toList <+: kind.toList ∨ "Co".toList <+: kind.toList := by
    decide
  rcases kinds kind known with ⟨rest, same⟩ | ⟨rest, same⟩ | ⟨rest, same⟩
  · exact ⟨rest, .inl same.symm⟩
  · exact ⟨rest, .inr (.inl same.symm)⟩
  · exact ⟨rest, .inr (.inr same.symm)⟩

/-- A line that begins with a kind is not passed over, and it closes no block. -/
theorem isIgnored_kind {kind : String} (known : kind ∈ elementKinds) (rest : List Char) :
    isIgnored (kind.toList ++ rest) = false ∧ expect "\x7d" (kind.toList ++ rest) = none := by
  obtain ⟨behind, same | same | same⟩ := kind_begins known <;> rw [same] <;> exact ⟨rfl, rfl⟩

/-- Every kind is a word. -/
theorem exists_word_of_kind {kind : String} (known : kind ∈ elementKinds) :
    ∃ word : Word, word.characters = kind.toList := by
  have kinds : ∀ kind ∈ elementKinds, kind.toList ≠ [] ∧ kind.toList.all isWord = true := by
    decide +kernel
  obtain ⟨nonempty, letters⟩ := kinds kind known
  exact ⟨.ofString kind nonempty letters, rfl⟩

/-- The arguments of a macro call stand between the last opening parenthesis and the closing one
at the end. -/
theorem macroCall?_append {run arguments : List Char}
    (inRun : ∀ character ∈ run, inLine character = true)
    (inArguments : ∀ character ∈ arguments, inLine character = true) (last : '(' ∉ arguments) :
    macroCall? (run ++ '(' :: (arguments ++ [')'])) = some (run, arguments) := by
  have closing : longest inLine (arguments ++ [')']) (expect ")") = some (arguments, []) := by
    refine longest_of_last inArguments rfl ?_
    intro character before behind split
    obtain ⟨_, nothing⟩ := List.cons.inj split
    obtain ⟨_, rfl⟩ := List.append_eq_nil_iff.mp nothing.symm
    rfl
  have opening : longest inLine (run ++ '(' :: (arguments ++ [')'])) (fun rest =>
      (expect "(" rest).bind fun rest => longest inLine rest (expect ")")) =
        some (run, arguments, []) := by
    refine longest_of_last inRun closing ?_
    intro character before behind split
    obtain ⟨_, later⟩ := List.cons.inj split
    have absent : '(' ∉ behind := by
      intro member
      have inside : '(' ∈ arguments ++ [')'] := later ▸ List.mem_append_right before member
      simp [last] at inside
    rw [expect_of_not_mem rfl absent, Option.bind_none]
  simp only [macroCall?, Option.bind_eq_bind]
  rw [opening]
  rfl

/-- A name that holds an opening parenthesis is no kind. -/
theorem element?_of_parenthesis {run arguments : List Char} (parent : Option String)
    (inRun : ∀ character ∈ run, inLine character = true)
    (inArguments : ∀ character ∈ arguments, inLine character = true) (last : '(' ∉ arguments)
    (member : '(' ∈ run) : element? parent (run ++ '(' :: (arguments ++ [')'])) = none := by
  have unknown : String.ofList (trim run) ∉ elementKinds := by
    intro known
    obtain ⟨word, same⟩ := exists_word_of_kind known
    rw [String.toList_ofList] at same
    exact word.not_mem (by decide) (same ▸ mem_trim member (by decide))
  rw [element?, macroCall?_append inRun inArguments last]
  simp [unknown]

/-- The texts of an element are among the arguments that it is made of. -/
theorem mem_of_elementOf? {kind : String} {arguments : List String} {parent : Option String}
    {element : Element} (made : elementOf? kind arguments parent = some element) :
    element.label ∈ arguments ∧ (∀ text ∈ element.technology, text ∈ arguments) ∧
      ∀ text ∈ element.description, text ∈ arguments := by
  cases arguments with
  | nil => contradiction
  | cons name others =>
    rw [elementOf?] at made
    split at made
    · contradiction
    · obtain rfl := Option.some.inj made
      have positional {position : Nat} {text : String}
          (found : ((name :: others).filter fun argument =>
            (expect "$" argument.toList).isNone)[position]? = some text) :
          text ∈ name :: others :=
        List.mem_of_mem_filter (List.mem_of_getElem? found)
      refine ⟨?_, fun _ found => positional found, fun _ found => positional found⟩
      cases others with
      | nil => simp
      | cons second further => by_cases empty : second.isEmpty = true <;> simp [empty]

/-- The texts of an element that was read hold no comma. -/
theorem comma_not_mem_of_element? {parent : Option String} {line : List Char} {element : Element}
    (read : element? parent line = some element) :
    ',' ∉ element.label.toList ∧ (∀ text ∈ element.technology, ',' ∉ text.toList) ∧
      ∀ text ∈ element.description, ',' ∉ text.toList := by
  obtain ⟨⟨name, arguments⟩, _, made⟩ := Option.bind_eq_some_iff.mp read
  obtain ⟨_, made⟩ := Option.ite_none_right_eq_some.mp made
  have apart : ∀ text ∈ (split ',' arguments).map fun argument => String.ofList (trim argument),
      ',' ∉ text.toList := by
    intro text member inside
    obtain ⟨piece, found, rfl⟩ := List.mem_map.mp member
    rw [String.toList_ofList] at inside
    exact not_mem_of_mem_split found ((trim_sublist piece).subset inside)
  obtain ⟨label, technology, description⟩ := mem_of_elementOf? made
  exact ⟨apart _ label, fun text given => apart text (technology text given),
    fun text given => apart text (description text given)⟩

namespace Declaration

variable (declaration : Declaration)

/-- The characters in the line of a declaration. -/
theorem toList_line : declaration.line.toList =
    declaration.kind.toList ++ '(' :: (declaration.printedArguments ++ [')']) :=
  String.toList_ofList

/-- The printed arguments hold no line feed. -/
theorem lineFeed_not_mem_printedArguments : '\n' ∉ declaration.printedArguments := by
  intro member
  rcases List.mem_append.mp member with inName | inTexts
  · exact declaration.name.not_mem (by decide) inName
  · obtain ⟨quoted, _, inside⟩ := List.mem_flatMap.mp inTexts
    simp [quoted.unbroken] at inside

/-- Without their quotation marks, the printed arguments are the arguments. -/
theorem filter_printedArguments :
    declaration.printedArguments.filter (· != '\x22') = declaration.arguments := by
  have name : declaration.name.characters.filter (· != '\x22') = declaration.name.characters :=
    List.filter_eq_self.mpr (bne_of_not_mem (declaration.name.not_mem (by decide)))
  have quoted (text : QuotedText) :
      (", \x22".toList ++ (text.characters ++ ['\x22'])).filter (· != '\x22') =
        ", ".toList ++ text.characters := by
    have kept : text.characters.filter (· != '\x22') = text.characters :=
      List.filter_eq_self.mpr (bne_of_not_mem text.unquoted)
    simp [kept]
  rw [printedArguments, List.filter_append, name, List.filter_flatMap, arguments]
  simp only [quoted]

/-- A declaration is one line. -/
theorem split_line : split '\n' declaration.line.toList = [declaration.line.toList] := by
  obtain ⟨kind, same⟩ := exists_word_of_kind declaration.known
  apply split_of_not_mem
  rw [toList_line, ← same]
  have inKind : '\n' ∉ kind.characters := kind.not_mem (by decide)
  simp [inKind, declaration.lineFeed_not_mem_printedArguments]

/-- The line as it is read. -/
theorem bareLine_line : bareLine declaration.line.toList =
    declaration.kind.toList ++ '(' :: (declaration.arguments ++ [')']) := by
  obtain ⟨kind, same⟩ := exists_word_of_kind declaration.known
  have unquoted : kind.characters.filter (· != '\x22') = kind.characters :=
    List.filter_eq_self.mpr (bne_of_not_mem (kind.not_mem (by decide)))
  have trimmed : trim declaration.line.toList = declaration.line.toList := by
    rw [toList_line, ← same]
    obtain ⟨characters, nonempty, letters⟩ := kind
    cases characters with
    | nil => contradiction
    | cons first others =>
      have closed : trim [')'] = [')'] := by decide
      have ends := trim_cons_append (isBlank_of_isWord (letters first (by simp)))
        (others ++ '(' :: declaration.printedArguments) (by simp) closed
      simpa using ends
  rw [bareLine, trimmed, toList_line, ← same]
  simp [unquoted, declaration.filter_printedArguments]

/-- Without commas in the texts, the arguments are the name and the texts. -/
theorem split_arguments (plain : ∀ quoted ∈ declaration.texts, ',' ∉ quoted.characters) :
    (split ',' declaration.arguments).map (fun argument => String.ofList (trim argument)) =
      declaration.name.text :: declaration.texts.map QuotedText.text := by
  have joined : declaration.arguments = join [','] (declaration.name.characters ::
      declaration.texts.map fun quoted => ' ' :: quoted.characters) := by
    rw [join_cons_eq_flatMap, List.flatMap_map]
    rfl
  have apart : ∀ piece ∈ declaration.name.characters ::
      declaration.texts.map fun quoted => ' ' :: quoted.characters, ',' ∉ piece := by
    intro piece member
    rcases List.mem_cons.mp member with rfl | inTexts
    · exact declaration.name.not_mem (by decide)
    · obtain ⟨quoted, given, rfl⟩ := List.mem_map.mp inTexts
      simpa using plain quoted given
  have blank : isBlank ' ' = true := by decide
  rw [joined, split_join (by simp) apart, List.map_cons, declaration.name.trim_characters,
    List.map_map]
  congr 1
  refine List.map_congr_left fun quoted _ => ?_
  rw [Function.comp_apply, trim_cons_of_blank blank, quoted.trimmed, QuotedText.text]

/-- No argument says what it is. -/
theorem positional_arguments :
    (declaration.name.text :: declaration.texts.map QuotedText.text).filter
        (fun argument => (expect "$" argument.toList).isNone) =
      declaration.name.text :: declaration.texts.map QuotedText.text := by
  refine List.filter_eq_self.mpr ?_
  intro argument member
  rw [Option.isNone_iff_eq_none]
  apply expect_eq_none rfl
  rcases List.mem_cons.mp member with rfl | inTexts
  · have head := declaration.name.ne_of_head? (by decide : isWord '$' = false) []
    rwa [List.append_nil, ← declaration.name.toList_text] at head
  · obtain ⟨quoted, _, rfl⟩ := List.mem_map.mp inTexts
    rw [QuotedText.text, String.toList_ofList]
    rintro character first rfl
    exact quoted.positional first

/-- The name and the texts are the arguments of the element that is meant. -/
theorem elementOf?_texts :
    elementOf? declaration.kind (declaration.name.text :: declaration.texts.map QuotedText.text)
      none = some declaration.element := by
  have named : declaration.name.text.isEmpty = false := by
    simpa [Word.text] using declaration.name.nonempty
  have labelled : declaration.label.text.isEmpty = false := by
    simpa [QuotedText.text] using declaration.label.nonempty
  rw [elementOf?, positional_arguments, named]
  simp [texts, element, labelled]

/-- No text is broken. -/
theorem inLine_arguments : ∀ character ∈ declaration.arguments, inLine character = true := by
  intro character member
  rw [← filter_printedArguments] at member
  apply inLine_of_ne
  rintro rfl
  exact declaration.lineFeed_not_mem_printedArguments (List.mem_of_mem_filter member)

/-- An opening parenthesis among the arguments belongs to one of the texts. -/
theorem parenthesis_mem_arguments_iff :
    '(' ∈ declaration.arguments ↔ ∃ quoted ∈ declaration.texts, '(' ∈ quoted.characters := by
  have inName : '(' ∉ declaration.name.characters := declaration.name.not_mem (by decide)
  simp [arguments, inName]

/-- Without opening parentheses in the texts, the kind and the arguments are found. -/
theorem element?_bareLine (plain : '(' ∉ declaration.arguments) :
    element? none (bareLine declaration.line.toList) =
      elementOf? declaration.kind
        ((split ',' declaration.arguments).map fun argument => String.ofList (trim argument))
        none := by
  obtain ⟨kind, same⟩ := exists_word_of_kind declaration.known
  have found : String.ofList (trim kind.characters) = declaration.kind := by
    rw [kind.trim_characters, same, String.ofList_toList]
  rw [bareLine_line, ← same, element?,
    macroCall?_append kind.inLine_of_mem declaration.inLine_arguments plain]
  simp [found, declaration.known]

/-- An opening parenthesis in a text is taken for that of the call. -/
theorem element?_bareLine_eq_none (member : '(' ∈ declaration.arguments) :
    element? none (bareLine declaration.line.toList) = none := by
  obtain ⟨kind, same⟩ := exists_word_of_kind declaration.known
  obtain ⟨before, after, split, last⟩ := exists_last_split member
  have inArguments := declaration.inLine_arguments
  rw [split] at inArguments
  have whole : bareLine declaration.line.toList =
      (kind.characters ++ '(' :: before) ++ '(' :: (after ++ [')']) := by
    rw [bareLine_line, split, same]
    simp
  rw [whole]
  apply element?_of_parenthesis none ?_ ?_ last (by simp)
  · intro character inRun
    rcases List.mem_append.mp inRun with inKind | behind
    · exact kind.inLine_of_mem character inKind
    · rcases List.mem_cons.mp behind with rfl | inBefore
      · rfl
      · exact inArguments character (by simp [inBefore])
  · exact fun character inAfter => inArguments character (by simp [inAfter])

/-- A source of one declaration has the element that is read in it. -/
theorem declarations_line : declarations declaration.line =
    (element? none (bareLine declaration.line.toList)).toList := by
  have kept := isIgnored_kind declaration.known ('(' :: (declaration.arguments ++ [')']))
  rw [← bareLine_line] at kept
  have closed : (bareLine declaration.line.toList).getLast? = some ')' := by
    rw [bareLine_line, List.append_cons, ← List.append_assoc, List.getLast?_concat]
  simp [declarations, split_line, Progress.readLine, kept, closed, Progress.parent]

end Declaration

/-- The forest of an element without a parent. -/
theorem forest_singleton {element : Element} (root : element.parent = none) :
    forest [element] = [.node element []] := by
  simp [forest, rootPositions, treeAt, childPositions, parentPosition?, root]

namespace Declaration

variable (declaration : Declaration)

/-- The forest of a declaration is the element that is read in its line. -/
theorem trees_line {element : Element}
    (read : element? none (bareLine declaration.line.toList) = some element) :
    trees declaration.line = [.node element []] := by
  have same := element?_parent none (bareLine declaration.line.toList)
  rw [read, Option.map_some] at same
  have root : element.parent = none := congrArg Element.parent (Option.some.inj same)
  rw [trees, declarations_line, read, Option.toList_some, forest_singleton root]

/-- Without opening parentheses in the texts, some element is read. -/
theorem exists_element (plain : '(' ∉ declaration.arguments) :
    ∃ element, element? none (bareLine declaration.line.toList) = some element := by
  have name : ',' ∉ declaration.name.characters := declaration.name.not_mem (by decide)
  have named : (String.ofList declaration.name.characters).isEmpty = false := by
    simpa using declaration.name.nonempty
  have pieces : split ',' declaration.arguments = declaration.name.characters ::
      split ',' (' ' :: (declaration.label.characters ++
        declaration.details.flatMap fun quoted => ", ".toList ++ quoted.characters)) := by
    rw [← split_append name]
    rfl
  rw [declaration.element?_bareLine plain, pieces, List.map_cons,
    declaration.name.trim_characters, elementOf?, named]
  exact ⟨_, rfl⟩

/-- Where the arguments are found, the element that is meant is read exactly if no text holds a
comma. -/
theorem element?_bareLine_eq_iff (plain : '(' ∉ declaration.arguments) :
    element? none (bareLine declaration.line.toList) = some declaration.element ↔
      ∀ quoted ∈ declaration.texts, ',' ∉ quoted.characters := by
  constructor
  · intro read quoted member
    obtain ⟨label, technology, description⟩ := comma_not_mem_of_element? read
    have characters : quoted.text.toList = quoted.characters := String.toList_ofList
    rw [← characters]
    rcases List.mem_cons.mp member with rfl | inDetails
    · exact label
    · obtain ⟨position, found⟩ := List.mem_iff_getElem?.mp inDetails
      have inRange := (List.getElem?_eq_some_iff.mp found).1
      have bound := declaration.atMostTwo
      obtain rfl | rfl : position = 0 ∨ position = 1 := by omega
      · exact technology quoted.text (by simp [element, found])
      · exact description quoted.text (by simp [element, found])
  · intro apart
    rw [declaration.element?_bareLine plain, declaration.split_arguments apart,
      declaration.elementOf?_texts]

end Declaration

/-- A printed declaration is read as the element that is meant exactly if its texts hold no
comma and no opening parenthesis. A comma cuts a text off, and an opening parenthesis drops the
element. -/
theorem trees_declaration_iff (declaration : Declaration) :
    (trees declaration.line = [.node declaration.element []] ↔
        ∀ quoted ∈ declaration.texts, ',' ∉ quoted.characters ∧ '(' ∉ quoted.characters) ∧
      (trees declaration.line = [] ↔
        ∃ quoted ∈ declaration.texts, '(' ∈ quoted.characters) := by
  rw [← declaration.parenthesis_mem_arguments_iff]
  by_cases opened : '(' ∈ declaration.arguments
  · have nothing : trees declaration.line = [] := by
      rw [trees, declaration.declarations_line, declaration.element?_bareLine_eq_none opened]
      rfl
    obtain ⟨quoted, member, inside⟩ := declaration.parenthesis_mem_arguments_iff.mp opened
    constructor
    · constructor
      · intro read
        simp [nothing] at read
      · intro plain
        exact absurd inside (plain quoted member).2
    · exact ⟨fun _ => opened, fun _ => nothing⟩
  · have absent : ∀ quoted ∈ declaration.texts, '(' ∉ quoted.characters := by
      intro quoted member inside
      exact opened (declaration.parenthesis_mem_arguments_iff.mpr ⟨quoted, member, inside⟩)
    obtain ⟨element, read⟩ := declaration.exists_element opened
    have forest := declaration.trees_line read
    have meant := declaration.element?_bareLine_eq_iff opened
    rw [read, Option.some.injEq] at meant
    rw [forest]
    constructor
    · constructor
      · intro same quoted member
        have equal : element = declaration.element := by simpa using same
        exact ⟨meant.mp equal quoted member, absent quoted member⟩
      · intro plain
        rw [meant.mpr fun quoted member => (plain quoted member).1]
    · simp [opened]

/-- Behind a comma, a label goes on as the technology, and a label with a remark in parentheses
is lost with its element. -/
theorem trees_declaration_punctuated :
    Tree.flattenAll 0 (trees "System(shop, \x22Shop, Basket\x22)") =
        [({ name := "shop", label := "Shop", kind := "System", technology := some "Basket" }, 0)] ∧
      Tree.flattenAll 0 (trees "System(shop, \x22Shop (old)\x22)") = [] := by
  decide +kernel

end Drafting.C4
