import Mathlib.Data.List.TakeWhile
import Drafting.ClassDiagram.RelationLine
import Drafting.Proofs.Text.Scan

/-!
# Labels of relations

A plain arrow stands between two words, and a label may stand behind the second. The forms of a
relation are searched in the whole line, each at every word, so a form that is tried before
that of the arrow may be found in the label; and a triangle in the label may be taken for the
head of the arrow itself.

The main statement is that a relation with a label is read as it was written exactly if neither
is the case.
-/

namespace Drafting

namespace Text

/-- Blanks before a text are skipped with those at its beginning. -/
theorem dropBlanks_replicate (blanks : Nat) (text : List Char) :
    dropBlanks (List.replicate blanks ' ' ++ text) = dropBlanks text := by
  apply List.dropWhile_append_of_pos
  intro character member
  rw [List.eq_of_mem_replicate member]
  decide

/-- Where a text begins inside a word, nothing is read at what is left of the word. -/
theorem searchWords_inside {α : Type} (reader : List Char → Option α) {run : List Char}
    (letters : ∀ character ∈ run, isWord character = true) (rest : List Char) :
    searchWords reader true (run ++ rest) = searchWords reader true rest := by
  induction run with
  | nil => rfl
  | cons character others inductionHypothesis =>
    rw [List.cons_append, searchWords, letters character List.mem_cons_self]
    exact inductionHypothesis fun other inOthers => letters other (List.mem_cons_of_mem _ inOthers)

/-- Nothing is read at what belongs to no word. -/
theorem searchWords_between {α : Type} (reader : List Char → Option α) (inWord : Bool)
    {gap : List Char} (nonempty : gap ≠ [])
    (marks : ∀ character ∈ gap, isWord character = false) (rest : List Char) :
    searchWords reader inWord (gap ++ rest) = searchWords reader false rest := by
  induction gap generalizing inWord with
  | nil => contradiction
  | cons character others inductionHypothesis =>
    have mark := marks character List.mem_cons_self
    rw [List.cons_append, searchWords, mark, Bool.and_false]
    cases others with
    | nil => rfl
    | cons next further =>
      exact inductionHypothesis false (by simp)
        fun other inOthers => marks other (List.mem_cons_of_mem _ inOthers)

/-- What is found in a line that begins with a word is found there or behind the word. -/
theorem Word.searchWords_append {α : Type} (word : Word) (reader : List Char → Option α)
    {gap : List Char} (nonempty : gap ≠ [])
    (marks : ∀ character ∈ gap, isWord character = false) (rest : List Char) :
    searchWords reader false (word.characters ++ (gap ++ rest)) =
      (reader (word.characters ++ (gap ++ rest))).or (searchWords reader false rest) := by
  obtain ⟨characters, wordNonempty, letters⟩ := word
  cases characters with
  | nil => contradiction
  | cons first others =>
    have inside : searchWords reader true (others ++ (gap ++ rest)) =
        searchWords reader false rest := by
      rw [searchWords_inside reader fun other inOthers =>
        letters other (List.mem_cons_of_mem _ inOthers),
        searchWords_between reader true nonempty marks]
    simp only [List.cons_append, searchWords, letters first List.mem_cons_self, Bool.not_false,
      Bool.and_self, if_true, inside]
    cases reader (first :: (others ++ (gap ++ rest))) <;> rfl

/-- Within a word nothing is read behind its beginning. -/
theorem Word.searchWords_characters {α : Type} (word : Word) (reader : List Char → Option α) :
    searchWords reader false word.characters = reader word.characters := by
  obtain ⟨characters, nonempty, letters⟩ := word
  cases characters with
  | nil => contradiction
  | cons first others =>
    have inside : searchWords reader true others = none := by
      have nothing := searchWords_inside reader
        (fun other inOthers => letters other (List.mem_cons_of_mem _ inOthers)) []
      rwa [List.append_nil] at nothing
    simp only [searchWords, letters first List.mem_cons_self, Bool.not_false, Bool.and_self,
      if_true, inside]
    cases reader (first :: others) <;> rfl

end Text

namespace Relation

open Text

/-- A label: a nonempty text in one line, without blanks at its ends. -/
structure Label where
  characters : List Char
  nonempty : characters ≠ []
  trimmed : trim characters = characters
  oneLine : ∀ character ∈ characters, inLine character = true

/-- The strokes of plain arrows. -/
inductive Stroke where
  | dash
  | dot
  deriving DecidableEq, Repr

/-- The character of a stroke. -/
def Stroke.mark : Stroke → Char
  | dash => '-'
  | dot => '.'

/-- The kind of relation for which an arrow of such strokes stands. -/
def Stroke.kind : Stroke → RelationKind
  | dash => .association
  | dot => .dependency

/-- The forms that are tried before that of an arrow of such strokes. -/
def Stroke.earlier : Stroke → List (List Char → Option Relation)
  | dash => forms.take 6
  | dot => forms.take 7

/-- The form of an arrow of such strokes. -/
def Stroke.form (stroke : Stroke) (text : List Char) : Option Relation :=
  (labelled? (headed? stroke.mark) text).map (withLabel stroke.kind)

/-- What is tried before an arrow are the shaped arrows, and before one of dots also one of
dashes. -/
theorem Stroke.mem_earlier {stroke : Stroke} {form : List Char → Option Relation}
    (member : form ∈ stroke.earlier) :
    form ∈ forms.take 6 ∨ stroke = dot ∧ form = dash.form := by
  cases stroke with
  | dash => exact .inl member
  | dot =>
    have split : dot.earlier = forms.take 6 ++ [dash.form] := rfl
    rw [split] at member
    rcases List.mem_append.mp member with shaped | last
    · exact .inl shaped
    · exact .inr ⟨rfl, List.mem_singleton.mp last⟩

/-- The form of an arrow is tried behind the earlier ones. -/
theorem Stroke.forms_eq (stroke : Stroke) :
    ∃ later, forms = stroke.earlier ++ stroke.form :: later := by
  cases stroke
  · exact ⟨_, rfl⟩
  · exact ⟨_, rfl⟩

/-- Shaped arrows stand for other kinds of relations than plain ones. -/
theorem kind_of_shaped {form : List Char → Option Relation} (member : form ∈ forms.take 6)
    {text : List Char} {found : Relation} (read : form text = some found) (stroke : Stroke) :
    found.kind ≠ stroke.kind := by
  simp only [forms, List.take_succ_cons, List.take_zero, List.mem_cons, List.not_mem_nil,
    or_false] at member
  rcases member with rfl | rfl | rfl | rfl | rfl | rfl <;>
  · obtain ⟨ends, _, rfl⟩ := Option.map_eq_some_iff.mp read
    cases stroke <;> simp [forward, backward, Stroke.kind]

/-- The forms that are tried before that of an arrow are of other kinds. -/
theorem Stroke.kind_of_earlier {stroke : Stroke} {form : List Char → Option Relation}
    (member : form ∈ stroke.earlier) {text : List Char} {found : Relation}
    (read : form text = some found) : found.kind ≠ stroke.kind := by
  rcases mem_earlier member with shaped | ⟨rfl, rfl⟩
  · exact kind_of_shaped shaped read stroke
  · obtain ⟨ends, _, rfl⟩ := Option.map_eq_some_iff.mp read
    simp [withLabel, forward, Stroke.kind]

namespace Stroke

variable (stroke : Stroke)

/-- Arrows are drawn of marks. -/
theorem isStroke_mark : isStroke stroke.mark = true := by cases stroke <;> decide

/-- No mark belongs to a word. -/
theorem isWord_mark : isWord stroke.mark = false := by cases stroke <;> decide

/-- No mark is blank. -/
theorem isBlank_mark : isBlank stroke.mark = false := by cases stroke <;> decide

/-- Strokes stand behind the blanks before them. -/
theorem dropBlanks_strokes (blanks more : Nat) (rest : List Char) :
    dropBlanks (List.replicate blanks ' ' ++ (List.replicate (more + 1) stroke.mark ++ rest)) =
      List.replicate (more + 1) stroke.mark ++ rest := by
  rw [dropBlanks_replicate, List.replicate_succ, List.cons_append,
    dropBlanks_cons_of_not_blank _ stroke.isBlank_mark]

/-- As many strokes are taken as there are. -/
theorem stroke?_strokes (more : Nat) {rest : List Char}
    (ended : ∀ character ∈ rest.head?, isStroke character = false) :
    stroke? (List.replicate (more + 1) stroke.mark ++ rest) = some rest := by
  have drawn : ∀ character ∈ List.replicate (more + 1) stroke.mark, isStroke character = true := by
    intro character member
    rw [List.eq_of_mem_replicate member]
    exact stroke.isStroke_mark
  rw [stroke?, run?_of_forced (by simp) drawn ended]
  rfl

/-- The head of an arrow is looked for when its strokes are taken. -/
theorem headed?_strokes (more : Nat) {rest : List Char}
    (ended : ∀ character ∈ rest.head?, isStroke character = false) :
    headed? stroke.mark (List.replicate (more + 1) stroke.mark ++ rest) = expect ">" rest := by
  have taken : ∀ character ∈ List.replicate (more + 1) stroke.mark,
      (character == stroke.mark) = true := by
    intro character member
    rw [List.eq_of_mem_replicate member]
    exact beq_self_eq_true _
  have other : ∀ character ∈ rest.head?, (character == stroke.mark) = false := by
    intro character first
    rw [beq_eq_false_iff_ne]
    rintro rfl
    exact absurd stroke.isStroke_mark (by simp [ended _ first])
  rw [headed?, run?_of_forced (by simp) taken other]
  rfl

end Stroke

/-- Two words with a plain arrow between them, and a label. The arrow has one stroke and
perhaps more. -/
structure LabelledArrow where
  source : Word
  target : Word
  stroke : Stroke
  more : Nat
  label : Label

namespace LabelledArrow

variable (arrow : LabelledArrow)

/-- What stands behind the second word. -/
def behindTarget : List Char := ' ' :: ':' :: ' ' :: arrow.label.characters

/-- What stands behind the strokes: the head, the second word and the label. -/
def behindStrokes : List Char := '>' :: ' ' :: (arrow.target.characters ++ arrow.behindTarget)

/-- What stands behind the first word. -/
def behindSource : List Char :=
  ' ' :: (List.replicate (arrow.more + 1) arrow.stroke.mark ++ arrow.behindStrokes)

/-- The line that is written. -/
def line : String := String.ofList (arrow.source.characters ++ arrow.behindSource)

/-- The relation for which it stands. -/
def relation : Relation :=
  { source := arrow.source.text, target := arrow.target.text, kind := arrow.stroke.kind,
    label := String.ofList arrow.label.characters }

/-- What is found in the line is found at one of its words or in the label. -/
theorem searchWords_line (reader : List Char → Option Relation) :
    searchWords reader false arrow.line.toList =
      (reader (arrow.source.characters ++ arrow.behindSource)).or
        ((reader (arrow.target.characters ++ arrow.behindTarget)).or
          (searchWords reader false arrow.label.characters)) := by
  have marks : ∀ character ∈ ' ' :: (List.replicate (arrow.more + 1) arrow.stroke.mark ++
      ['>', ' ']), isWord character = false := by
    intro character member
    simp only [List.mem_cons, List.mem_append, List.mem_replicate, List.not_mem_nil,
      or_false] at member
    rcases member with rfl | ⟨_, rfl⟩ | rfl | rfl
    · decide
    · exact arrow.stroke.isWord_mark
    · decide
    · decide
  have afterSource : arrow.behindSource =
      (' ' :: (List.replicate (arrow.more + 1) arrow.stroke.mark ++ ['>', ' '])) ++
        (arrow.target.characters ++ arrow.behindTarget) := by
    simp [behindSource, behindStrokes]
  have afterTarget : arrow.behindTarget = [' ', ':', ' '] ++ arrow.label.characters := rfl
  have colon : ∀ character ∈ [' ', ':', ' '], isWord character = false := by
    simp only [List.forall_mem_cons]
    exact ⟨by decide, by decide, by decide, fun _ member => absurd member List.not_mem_nil⟩
  rw [line, String.toList_ofList, afterSource, arrow.source.searchWords_append reader
    (List.cons_ne_nil _ _) marks, afterTarget, arrow.target.searchWords_append reader
    (List.cons_ne_nil _ _) colon]

end LabelledArrow

/-- A word is read up to a blank. -/
theorem word?_blank (word : Word) (rest : List Char) :
    word? (word.characters ++ ' ' :: rest) = some (word.characters, ' ' :: rest) :=
  run?_of_forced word.nonempty word.letters (by simp [show isWord ' ' = false by decide])

/-- No form fits at a word with a colon behind it. -/
theorem form_colon (word : Word) (rest : List Char) :
    ∀ form ∈ forms, form (word.characters ++ ' ' :: ':' :: rest) = none := by
  simp only [forms, List.forall_mem_cons, triangleLeft?, triangleRight?, filledDiamond?,
    openDiamond?, labelled?, word?_blank]
  refine ⟨rfl, rfl, rfl, rfl, rfl, rfl, rfl, rfl, rfl, ?_⟩
  simp

/-- Triangles are looked for behind what holds no part of one. -/
theorem wordBehindTriangle?_append {run : List Char} (absent : '|' ∉ run)
    (oneLine : ∀ character ∈ run, inLine character = true) (rest : List Char) :
    wordBehindTriangle? (run ++ rest) = wordBehindTriangle? rest := by
  induction run with
  | nil => rfl
  | cons character others inductionHypothesis =>
    rw [List.mem_cons, not_or] at absent
    have later := inductionHypothesis absent.2
      fun other inOthers => oneLine other (List.mem_cons_of_mem _ inOthers)
    have begins : "|>".toList.head? = some '|' := by decide
    have notHere : expect "|>" (character :: (others ++ rest)) = none :=
      expect_eq_none begins (by simpa using Ne.symm absent.1)
    rw [← later, List.cons_append, wordBehindTriangle?, wordBehindTriangle?, shortest.eq_def]
    simp only [notHere, oneLine character List.mem_cons_self, if_true, Option.bind_eq_bind,
      Option.bind_none, Option.pure_def]
    cases shortest inLine (others ++ rest) _ <;> rfl

namespace LabelledArrow

variable (arrow : LabelledArrow)

/-- A word behind a triangle is one of the label. -/
theorem wordBehindTriangle?_behindStrokes :
    wordBehindTriangle? arrow.behindStrokes = wordBehindTriangle? arrow.label.characters := by
  have split : arrow.behindStrokes =
      ('>' :: ' ' :: (arrow.target.characters ++ [' ', ':', ' '])) ++ arrow.label.characters := by
    simp [behindStrokes, behindTarget]
  rw [split]
  apply wordBehindTriangle?_append
  · have foreign := arrow.target.not_mem (show isWord '|' = false by decide)
    simp [foreign]
  · intro character member
    have other : character ≠ '\n' := by
      simp only [List.mem_cons, List.mem_append, List.not_mem_nil, or_false] at member
      rcases member with rfl | rfl | inTarget | rfl | rfl | rfl
      · decide
      · decide
      · exact arrow.target.ne_of_mem (by decide) inTarget
      · decide
      · decide
      · decide
    exact bne_iff_ne.mpr other

/-- There is one blank behind the first word. -/
theorem dropBlanks_behindSource :
    dropBlanks arrow.behindSource =
      List.replicate (arrow.more + 1) arrow.stroke.mark ++ arrow.behindStrokes :=
  arrow.stroke.dropBlanks_strokes 1 arrow.more arrow.behindStrokes

/-- The head stands behind the strokes. -/
theorem head?_behindStrokes :
    ∀ character ∈ arrow.behindStrokes.head?, isStroke character = false :=
  refused_of_head? rfl (by decide)

/-- As many strokes are taken as there are. -/
theorem stroke?_behindSource :
    stroke? (dropBlanks arrow.behindSource) = some arrow.behindStrokes := by
  rw [dropBlanks_behindSource, arrow.stroke.stroke?_strokes arrow.more arrow.head?_behindStrokes]

/-- Of dots two or more are taken as far as they go, and of dashes none. -/
theorem dotted?_behindSource :
    dotted? (dropBlanks arrow.behindSource) = none ∨
      dotted? (dropBlanks arrow.behindSource) = some arrow.behindStrokes := by
  rw [dropBlanks_behindSource]
  obtain ⟨source, target, stroke, more, label⟩ := arrow
  cases stroke with
  | dash => exact .inl rfl
  | dot =>
    cases more with
    | zero => exact .inl rfl
    | succ more =>
      right
      have dots : ∀ character ∈ List.replicate more '.', (character == '.') = true := by
        intro character member
        rw [List.eq_of_mem_replicate member, beq_self_eq_true]
      have two : ∀ rest, expect ".." ('.' :: '.' :: rest) = some rest := fun _ => rfl
      rw [List.replicate_succ, List.replicate_succ, List.cons_append, List.cons_append, dotted?,
        Stroke.mark, two]
      simp only [Option.bind_eq_bind, Option.bind_some, List.dropWhile_append_of_pos dots]
      rfl

/-- The first word is read up to the blank behind it. -/
theorem word?_source :
    word? (arrow.source.characters ++ arrow.behindSource) =
      some (arrow.source.characters, arrow.behindSource) :=
  word?_blank arrow.source _

/-- An arrow that ends in a triangle is found where the strokes are taken and the label has
a word behind a triangle. -/
theorem triangleRight?_source {line? : List Char → Option (List Char)}
    (taken : line? (dropBlanks arrow.behindSource) = some arrow.behindStrokes) :
    triangleRight? line? (arrow.source.characters ++ arrow.behindSource) =
      (wordBehindTriangle? arrow.label.characters).map (Ends.mk arrow.source.characters) := by
  rw [triangleRight?, word?_source]
  simp only [Option.bind_eq_bind, Option.bind_some, taken, wordBehindTriangle?_behindStrokes,
    Option.map_eq_bind]
  rfl

/-- No arrow that ends in two dots or more and a triangle is found if the label has no word
behind a triangle. -/
theorem triangleRight?_dotted?_source
    (noTriangle : wordBehindTriangle? arrow.label.characters = none) :
    triangleRight? dotted? (arrow.source.characters ++ arrow.behindSource) = none := by
  rcases arrow.dotted?_behindSource with notTaken | taken
  · rw [triangleRight?, word?_source]
    simp only [Option.bind_eq_bind, Option.bind_some, notTaken, Option.bind_none]
  · rw [arrow.triangleRight?_source taken, noTriangle, Option.map_none]

/-- No shaped arrow is found at the first word if the label has no word behind a triangle. -/
theorem shaped_source (noTriangle : wordBehindTriangle? arrow.label.characters = none) :
    ∀ form ∈ forms.take 6, form (arrow.source.characters ++ arrow.behindSource) = none := by
  have dotted := arrow.triangleRight?_dotted?_source noTriangle
  have drawn := arrow.triangleRight?_source arrow.stroke?_behindSource
  rw [noTriangle, Option.map_none] at drawn
  have word := arrow.word?_source
  obtain ⟨source, target, stroke, more, label⟩ := arrow
  simp only [forms, List.take_succ_cons, List.take_zero, List.forall_mem_cons, dotted, drawn,
    Option.map_none, triangleLeft?, filledDiamond?, openDiamond?, word]
  refine ⟨?_, trivial, ?_, trivial, ?_, ?_, fun _ member => absurd member List.not_mem_nil⟩ <;>
    cases stroke <;> rfl

/-- The forms that are tried before that of the arrow do not fit at the first word if the label
has no word behind a triangle. -/
theorem form_source (noTriangle : wordBehindTriangle? arrow.label.characters = none) :
    ∀ form ∈ arrow.stroke.earlier, form (arrow.source.characters ++ arrow.behindSource) = none := by
  intro form member
  rcases Stroke.mem_earlier member with shaped | ⟨dots, rfl⟩
  · exact arrow.shaped_source noTriangle form shaped
  · have word := arrow.word?_source
    obtain ⟨source, target, stroke, more, label⟩ := arrow
    obtain rfl : stroke = .dot := dots
    rw [Stroke.form, labelled?, word]
    rfl

/-- A triangle in the label with a word behind it is taken for the head of the arrow. -/
theorem triangle_of_earlier
    (absent : ∀ form ∈ arrow.stroke.earlier,
      form (arrow.source.characters ++ arrow.behindSource) = none) :
    wordBehindTriangle? arrow.label.characters = none := by
  have member : (fun text => (triangleRight? stroke? text).map (forward .inheritance)) ∈
      arrow.stroke.earlier := by
    cases arrow.stroke <;> simp [Stroke.earlier, forms]
  have notFound := absent _ member
  rw [arrow.triangleRight?_source arrow.stroke?_behindSource, Option.map_eq_none_iff,
    Option.map_eq_none_iff] at notFound
  exact notFound

/-- The label is read behind the colon. -/
theorem labelBehind_behindTarget :
    labelBehind arrow.behindTarget = arrow.label.characters := by
  have begins : dropBlanks arrow.label.characters = arrow.label.characters := by
    obtain ⟨first, others, characters⟩ := List.exists_cons_of_ne_nil arrow.label.nonempty
    have trimmed := arrow.label.trimmed
    rw [characters] at trimmed ⊢
    exact dropBlanks_cons_of_not_blank others (isBlank_of_trim_cons trimmed)
  have blank : dropBlanks (' ' :: arrow.label.characters) = arrow.label.characters := begins
  have colon : labelBehind arrow.behindTarget =
    trim ((dropBlanks (' ' :: arrow.label.characters)).takeWhile inLine) := rfl
  rw [colon, blank, List.takeWhile_eq_self_iff.mpr arrow.label.oneLine, arrow.label.trimmed]

/-- The form of the arrow fits at the first word. -/
theorem form_behindSource :
    arrow.stroke.form (arrow.source.characters ++ arrow.behindSource) = some arrow.relation := by
  have headed : headed? arrow.stroke.mark (dropBlanks arrow.behindSource) =
      some (' ' :: (arrow.target.characters ++ arrow.behindTarget)) := by
    rw [dropBlanks_behindSource,
      arrow.stroke.headed?_strokes arrow.more arrow.head?_behindStrokes]
    rfl
  have target : word? (dropBlanks (' ' :: (arrow.target.characters ++ arrow.behindTarget))) =
      some (arrow.target.characters, arrow.behindTarget) := by
    have blank : dropBlanks (' ' :: (arrow.target.characters ++ arrow.behindTarget)) =
        arrow.target.characters ++ arrow.behindTarget := arrow.target.dropBlanks_append _
    rw [blank]
    exact word?_blank arrow.target _
  rw [Stroke.form, labelled?, word?_source]
  simp only [Option.bind_eq_bind, Option.bind_some, headed, target, labelBehind_behindTarget]
  rfl

/-- No form fits at the second word. -/
theorem form_target {form : List Char → Option Relation} (member : form ∈ arrow.stroke.earlier) :
    form (arrow.target.characters ++ arrow.behindTarget) = none := by
  apply form_colon
  obtain ⟨later, order⟩ := arrow.stroke.forms_eq
  rw [order]
  exact List.mem_append_left _ member

/-- The earlier forms are found nowhere in the line exactly if they are not found in the label
and no triangle in the label has a word behind it. -/
theorem earlier_nowhere_iff :
    (∀ form ∈ arrow.stroke.earlier, searchWords form false arrow.line.toList = none) ↔
      wordBehindTriangle? arrow.label.characters = none ∧
        ∀ form ∈ arrow.stroke.earlier, searchWords form false arrow.label.characters = none := by
  have apart : ∀ form ∈ arrow.stroke.earlier,
      (searchWords form false arrow.line.toList = none ↔
        form (arrow.source.characters ++ arrow.behindSource) = none ∧
          searchWords form false arrow.label.characters = none) := by
    intro form member
    rw [arrow.searchWords_line, arrow.form_target member, Option.none_or, Option.or_eq_none_iff]
  constructor
  · intro nowhere
    constructor
    · apply arrow.triangle_of_earlier
      intro form member
      exact ((apart form member).mp (nowhere form member)).1
    · intro form member
      exact ((apart form member).mp (nowhere form member)).2
  · rintro ⟨noTriangle, absent⟩ form member
    exact (apart form member).mpr ⟨arrow.form_source noTriangle form member, absent form member⟩

/-- The relation is read exactly if no earlier form is found in the line: what such a form finds
is of another kind. -/
theorem ofLine?_eq_iff_nowhere :
    ofLine? arrow.line = some arrow.relation ↔
      ∀ form ∈ arrow.stroke.earlier, searchWords form false arrow.line.toList = none := by
  obtain ⟨later, order⟩ := arrow.stroke.forms_eq
  have own : searchWords arrow.stroke.form false arrow.line.toList = some arrow.relation := by
    rw [arrow.searchWords_line, arrow.form_behindSource, Option.some_or]
  rw [ofLine?, order, List.findSome?_append, List.findSome?_cons, own,
    ← List.findSome?_eq_none_iff]
  cases first : arrow.stroke.earlier.findSome? fun form =>
    searchWords form false arrow.line.toList with
  | none => simp
  | some found =>
    have other : found ≠ arrow.relation := by
      obtain ⟨form, isEarlier, foundThere⟩ := List.exists_of_findSome?_eq_some first
      obtain ⟨_, _, _, _, read⟩ := searchWords_split foundThere
      rintro rfl
      exact Stroke.kind_of_earlier isEarlier read rfl
    simp [other]

end LabelledArrow

/-- A relation with a label is read as it was written exactly if no triangle in the label has a
word behind it and none of the forms that are tried before that of the arrow is found in the
label. -/
theorem ofLine?_labelled_eq_iff (arrow : LabelledArrow) :
    ofLine? arrow.line = some arrow.relation ↔
      wordBehindTriangle? arrow.label.characters = none ∧
        ∀ form ∈ arrow.stroke.earlier, searchWords form false arrow.label.characters = none :=
  arrow.ofLine?_eq_iff_nowhere.trans arrow.earlier_nowhere_iff

/-- A hyphen in the label makes two words of it, with an arrow that begins with a diamond
between them. -/
theorem ofLine?_two_way :
    ofLine? "A --> B : two-way" =
      some { source := "tw", target := "way", kind := .aggregation } := by
  decide +kernel

end Relation

end Drafting
