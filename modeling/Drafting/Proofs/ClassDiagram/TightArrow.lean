import Drafting.Proofs.ClassDiagram.RelationLine

/-!
# Arrows without blanks around them

A plain arrow may be written with or without blanks between it and the two words. The mark of
an open diamond is a letter, so without a blank behind the first word the last letter of that
word may be taken for the mark of an arrow that begins with a diamond; and this form is tried
before those of the plain arrows.

The main statement is that blanks around a plain arrow do not matter exactly where this is not
the case: there is a blank behind the first word, or the word does not end in the mark with
letters before it.
-/

namespace Drafting

namespace Relation

open Text

/-- What is left behind dots is an end of the text. -/
theorem suffix_of_dotted? {line rest : List Char} (found : dotted? line = some rest) :
    rest <:+ line := by
  simp only [dotted?, Option.bind_eq_bind, Option.bind_eq_some_iff, Option.pure_def,
    Option.some.injEq] at found
  obtain ⟨behind, two, rfl⟩ := found
  exact (List.dropWhile_suffix _).trans (suffix_of_expect two)

/-- What is left behind strokes is an end of the text. -/
theorem suffix_of_stroke? {line rest : List Char} (found : stroke? line = some rest) :
    rest <:+ line := by
  simp only [stroke?, Option.bind_eq_bind, Option.bind_eq_some_iff, Option.pure_def,
    Option.some.injEq] at found
  obtain ⟨behind, run, rfl⟩ := found
  exact suffix_of_run? run

/-- An arrow that begins with a triangle is found only where there is its first mark. -/
theorem triangleLeft?_eq_none (line? : List Char → Option (List Char)) {text : List Char}
    (absent : '<' ∉ text) : triangleLeft? line? text = none := by
  rw [triangleLeft?]
  cases word : word? text with
  | none => rfl
  | some found =>
    have behind : dropBlanks found.2 <:+ text := (dropBlanks_suffix _).trans (suffix_of_run? word)
    have notFound : expect "<|" (dropBlanks found.2) = none :=
      expect_of_not_mem (by decide : _ = some '<') fun member => absent (behind.mem member)
    simp [notFound]

/-- An arrow that begins with a filled diamond is found only where there is its mark. -/
theorem filledDiamond?_eq_none {text : List Char} (absent : '*' ∉ text) :
    filledDiamond? text = none := by
  rw [filledDiamond?]
  cases word : word? text with
  | none => rfl
  | some found =>
    have behind : dropBlanks found.2 <:+ text := (dropBlanks_suffix _).trans (suffix_of_run? word)
    have notFound : expect "*" (dropBlanks found.2) = none :=
      expect_of_not_mem (by decide : _ = some '*') fun member => absent (behind.mem member)
    simp [notFound]

/-- No word behind a triangle is found where there is no bar. -/
theorem wordBehindTriangle?_eq_none {line : List Char} (absent : '|' ∉ line) :
    wordBehindTriangle? line = none := by
  rw [wordBehindTriangle?, shortest_eq_none]
  · rfl
  · intro behind isSuffix
    have notFound : expect "|>" behind = none :=
      expect_of_not_mem (by decide : _ = some '|') fun member => absent (isSuffix.mem member)
    simp [notFound]

/-- An arrow that ends in a triangle is found only where there is a bar. -/
theorem triangleRight?_eq_none {line? : List Char → Option (List Char)}
    (leaves : ∀ {line rest}, line? line = some rest → rest <:+ line) {text : List Char}
    (absent : '|' ∉ text) : triangleRight? line? text = none := by
  rw [triangleRight?]
  cases word : word? text with
  | none => rfl
  | some found =>
    have behind : dropBlanks found.2 <:+ text := (dropBlanks_suffix _).trans (suffix_of_run? word)
    cases drawn : line? (dropBlanks found.2) with
    | none => simp [drawn]
    | some rest =>
      have notFound : wordBehindTriangle? rest = none :=
        wordBehindTriangle?_eq_none fun member => absent (behind.mem ((leaves drawn).mem member))
      simp [drawn, notFound]

/-- No form fits at a word with nothing behind it. -/
theorem form_end (word : Word) : ∀ form ∈ forms, form word.characters = none := by
  have whole : word? word.characters = some (word.characters, []) :=
    run?_of_accepted word.nonempty word.letters
  simp only [forms, List.forall_mem_cons, triangleLeft?, triangleRight?, filledDiamond?,
    openDiamond?, labelled?, whole]
  refine ⟨rfl, rfl, rfl, rfl, rfl, rfl, rfl, rfl, rfl, ?_⟩
  simp

/-- The arrows that stand for a relation without a shape at their ends: one stroke or more with
a head, or two dashes. -/
inductive PlainArrow where
  | headed (stroke : Stroke) (more : Nat)
  | link
  deriving DecidableEq, Repr

namespace PlainArrow

/-- The stroke of which an arrow is made. -/
def stroke : PlainArrow → Stroke
  | headed stroke _ => stroke
  | link => .dash

/-- The number of strokes behind the first. -/
def more : PlainArrow → Nat
  | headed _ more => more
  | link => 1

/-- The strokes of an arrow. -/
def strokes (arrow : PlainArrow) : List Char := List.replicate (arrow.more + 1) arrow.stroke.mark

/-- What stands behind the strokes. -/
def head : PlainArrow → List Char
  | headed _ _ => ['>']
  | link => []

/-- The head of an arrow is one mark if there is one. -/
theorem eq_of_mem_head {arrow : PlainArrow} {character : Char} (member : character ∈ arrow.head) :
    character = '>' := by
  cases arrow with
  | headed stroke more => exact List.mem_singleton.mp member
  | link => contradiction

end PlainArrow

/-- The characters of which plain arrows and the blanks around them are made. -/
def IsGapMark (character : Char) : Prop :=
  character = ' ' ∨ character = '-' ∨ character = '.' ∨ character = '>'

/-- None of them belongs to a word. -/
theorem IsGapMark.not_word {character : Char} (mark : IsGapMark character) :
    isWord character = false := by
  rcases mark with rfl | rfl | rfl | rfl <;> decide

/-- A word ends in the mark of an open diamond and has letters before it. -/
def EndsInDiamond (word : Word) : Prop :=
  ∃ shorter : Word, word.characters = shorter.characters ++ ['o']

/-- The letters before the mark are found by its place at the end. -/
theorem endsInDiamond_iff (word : Word) :
    EndsInDiamond word ↔
      (1 < word.characters.length && word.characters.getLast? == some 'o') = true := by
  rw [Bool.and_eq_true, decide_eq_true_eq, beq_iff_eq]
  constructor
  · rintro ⟨shorter, same⟩
    have longer := List.length_pos_iff.mpr shorter.nonempty
    rw [same, List.length_append, List.getLast?_append]
    exact ⟨by simpa using longer, rfl⟩
  · rintro ⟨long, last⟩
    obtain ⟨letters, same⟩ := List.getLast?_eq_some_iff.mp last
    rw [same, List.length_append, List.length_singleton] at long
    refine ⟨⟨letters, List.length_pos_iff.mp (by omega), ?_⟩, same⟩
    intro character member
    exact word.letters character (same ▸ List.mem_append_left _ member)

/-- Two words with a plain arrow between them. -/
structure PlainLine where
  source : Word
  arrow : PlainArrow
  target : Word

namespace PlainLine

variable (line : PlainLine) (before after : Nat)

/-- What stands behind the strokes: the head, blanks and the second word. -/
def behindStrokes : List Char :=
  line.arrow.head ++ (List.replicate after ' ' ++ line.target.characters)

/-- What stands behind the first word: blanks, the arrow, blanks and the second word. -/
def behindSource : List Char :=
  List.replicate before ' ' ++ (line.arrow.strokes ++ line.behindStrokes after)

/-- The characters of the line with some blanks before the arrow and some behind it. -/
def characters : List Char := line.source.characters ++ line.behindSource before after

/-- The line itself. -/
def text : String := String.ofList (line.characters before after)

/-- The relation for which it stands. -/
def relation : Relation :=
  { source := line.source.text, target := line.target.text, kind := line.arrow.stroke.kind }

/-- What stands between the two words. -/
def gap : List Char :=
  List.replicate before ' ' ++
    (line.arrow.strokes ++ (line.arrow.head ++ List.replicate after ' '))

/-- The second word stands behind the gap. -/
theorem behindSource_eq :
    line.behindSource before after = line.gap before after ++ line.target.characters := by
  simp [behindSource, behindStrokes, gap]

/-- Between the words there are blanks and the marks of arrows. -/
theorem isGapMark_of_mem_gap {character : Char} (member : character ∈ line.gap before after) :
    IsGapMark character := by
  have mark : ∀ stroke : Stroke, IsGapMark stroke.mark
    | .dash => .inr (.inl rfl)
    | .dot => .inr (.inr (.inl rfl))
  simp only [gap, List.mem_append, PlainArrow.strokes, List.mem_replicate] at member
  rcases member with ⟨_, rfl⟩ | ⟨_, rfl⟩ | inHead | ⟨_, rfl⟩
  · exact .inl rfl
  · exact mark _
  · exact .inr (.inr (.inr (PlainArrow.eq_of_mem_head inHead)))
  · exact .inl rfl

/-- The marks of shaped arrows do not occur in the line. -/
theorem not_mem_characters {mark : Char} (foreign : isWord mark = false)
    (notBetween : ¬ IsGapMark mark) : mark ∉ line.characters before after := by
  rw [characters, behindSource_eq, List.mem_append, List.mem_append, not_or, not_or]
  exact ⟨line.source.not_mem foreign, fun member =>
    notBetween (line.isGapMark_of_mem_gap before after member), line.target.not_mem foreign⟩

/-- A form that is found in the line fits at its first word. -/
theorem searchWords_text {form : List Char → Option Relation} (member : form ∈ forms) :
    searchWords form false (line.text before after).toList =
      form (line.characters before after) := by
  have nonempty : line.gap before after ≠ [] := by simp [gap, PlainArrow.strokes]
  have marks : ∀ character ∈ line.gap before after, isWord character = false :=
    fun character inGap => (line.isGapMark_of_mem_gap before after inGap).not_word
  rw [text, String.toList_ofList, characters, behindSource_eq,
    line.source.searchWords_append form nonempty marks, line.target.searchWords_characters,
    form_end _ form member, Option.or_none]

/-- The line is read by the first form that fits at its first word. -/
theorem ofLine?_text :
    ofLine? (line.text before after) =
      forms.findSome? fun form => form (line.characters before after) := by
  have same : forms.map (fun form => searchWords form false (line.text before after).toList) =
      forms.map fun form => form (line.characters before after) :=
    List.map_congr_left fun _ member => line.searchWords_text before after member
  have first := congrArg (List.findSome? id) same
  rw [List.findSome?_map, List.findSome?_map] at first
  exact first

/-- The first word is read up to what stands between the words. -/
theorem word?_characters :
    word? (line.characters before after) =
      some (line.source.characters, line.behindSource before after) := by
  apply run?_of_forced line.source.nonempty line.source.letters
  intro character first
  have inGap : character ∈ line.gap before after := by
    rw [behindSource_eq, List.head?_append_of_ne_nil _ (by simp [gap, PlainArrow.strokes])] at first
    exact List.mem_of_head? (Option.mem_def.mp first)
  exact (line.isGapMark_of_mem_gap before after inGap).not_word

/-- The strokes stand behind the blanks. -/
theorem dropBlanks_behindSource :
    dropBlanks (line.behindSource before after) =
      line.arrow.strokes ++ line.behindStrokes after :=
  line.arrow.stroke.dropBlanks_strokes before line.arrow.more (line.behindStrokes after)

/-- No stroke stands behind the strokes. -/
theorem isStroke_of_mem_behindStrokes {character : Char}
    (member : character ∈ line.behindStrokes after) : isStroke character = false := by
  simp only [behindStrokes, List.mem_append, List.mem_replicate] at member
  rcases member with inHead | ⟨_, rfl⟩ | inTarget
  · rw [PlainArrow.eq_of_mem_head inHead]
    decide
  · decide
  · have notDash : character ≠ '-' := line.target.ne_of_mem (by decide) inTarget
    have notDot : character ≠ '.' := line.target.ne_of_mem (by decide) inTarget
    simp [isStroke, notDash, notDot]

/-- So what stands there does not begin with one. -/
theorem head?_behindStrokes :
    ∀ character ∈ (line.behindStrokes after).head?, isStroke character = false :=
  fun _ first => line.isStroke_of_mem_behindStrokes after (List.mem_of_head? first)

/-- The strokes are taken as far as they go. -/
theorem stroke?_strokes :
    stroke? (line.arrow.strokes ++ line.behindStrokes after) = some (line.behindStrokes after) :=
  line.arrow.stroke.stroke?_strokes line.arrow.more (line.head?_behindStrokes after)

/-- The second word is read up to the end of the line. -/
theorem word?_target :
    word? (dropBlanks (List.replicate after ' ' ++ line.target.characters)) =
      some (line.target.characters, []) := by
  rw [dropBlanks_replicate, line.target.dropBlanks_characters, word?,
    run?_of_accepted line.target.nonempty line.target.letters]

/-- The next word behind the strokes is the second one. -/
theorem nextWord?_behindStrokes :
    nextWord? (line.behindStrokes after) = some line.target.characters := by
  have passed : ∀ character ∈ line.arrow.head ++ List.replicate after ' ',
      (inLine character && !isWord character) = true := by
    intro character member
    rcases List.mem_append.mp member with inHead | blank
    · rw [PlainArrow.eq_of_mem_head inHead]
      decide
    · rw [List.eq_of_mem_replicate blank]
      decide
  have stops : line.target.characters.dropWhile
      (fun character => inLine character && !isWord character) = line.target.characters := by
    obtain ⟨first, begins, letter⟩ := line.target.head?_append []
    rw [List.append_nil] at begins
    obtain ⟨others, split⟩ := List.head?_eq_some_iff.mp begins
    rw [split, List.dropWhile_cons_of_neg (by simp [letter])]
  rw [nextWord?, behindStrokes, ← List.append_assoc, List.dropWhile_append_of_pos passed, stops,
    word?, run?_of_accepted line.target.nonempty line.target.letters]
  rfl

/-- Behind the blanks there is no mark of a diamond. -/
theorem expect_diamond :
    expect "o" (dropBlanks (line.behindSource before after)) = none := by
  rw [dropBlanks_behindSource]
  apply expect_eq_none (show _ = some 'o' by decide)
  intro character first
  rw [PlainArrow.strokes, List.replicate_succ, List.cons_append, List.head?_cons,
    Option.mem_some] at first
  rw [← first]
  cases line.arrow.stroke <;> decide

/-- Behind a blank no arrow is joined to the first word. -/
theorem openDiamond?_spaced :
    openDiamond? (line.characters (before + 1) after) = none := by
  rw [openDiamond?, word?_characters]
  -- The mark of a diamond would have to stand behind the blanks, and a joined arrow begins with
  -- a stroke where there is a blank.
  simp only [Option.bind_eq_bind, Option.bind_some, expect_diamond, Option.bind_none]
  rfl

/-- Without a blank the last letter of the first word may be taken for the mark of a
diamond. -/
theorem openDiamond?_tight :
    openDiamond? (line.characters 0 after) =
      if 1 < line.source.characters.length && line.source.characters.getLast? == some 'o' then
        some ⟨line.source.characters.dropLast, line.target.characters⟩
      else none := by
  have drawn : stroke? (line.behindSource 0 after) = some (line.behindStrokes after) :=
    line.stroke?_strokes after
  rw [openDiamond?, word?_characters]
  simp only [Option.bind_eq_bind, Option.bind_some, expect_diamond, Option.bind_none, drawn,
    nextWord?_behindStrokes]
  rfl

/-- An arrow that begins with a diamond is found in no other case. -/
theorem openDiamond?_eq_none (apart : before = 0 → ¬ EndsInDiamond line.source) :
    openDiamond? (line.characters before after) = none := by
  cases before with
  | zero =>
    have notMark := apart rfl
    rw [endsInDiamond_iff] at notMark
    rw [openDiamond?_tight, if_neg notMark]
  | succ before => exact line.openDiamond?_spaced before after

/-- Shaped arrows other than those that begin with an open diamond are found nowhere. -/
theorem shaped_eq_none :
    triangleLeft? dotted? (line.characters before after) = none ∧
      triangleRight? dotted? (line.characters before after) = none ∧
      triangleLeft? stroke? (line.characters before after) = none ∧
      triangleRight? stroke? (line.characters before after) = none ∧
      filledDiamond? (line.characters before after) = none := by
  have noAngle : '<' ∉ line.characters before after :=
    line.not_mem_characters before after (by decide) (by simp [IsGapMark])
  have noBar : '|' ∉ line.characters before after :=
    line.not_mem_characters before after (by decide) (by simp [IsGapMark])
  have noStar : '*' ∉ line.characters before after :=
    line.not_mem_characters before after (by decide) (by simp [IsGapMark])
  exact ⟨triangleLeft?_eq_none _ noAngle, triangleRight?_eq_none suffix_of_dotted? noBar,
    triangleLeft?_eq_none _ noAngle, triangleRight?_eq_none suffix_of_stroke? noBar,
    filledDiamond?_eq_none noStar⟩

/-- The forms of shaped arrows find nothing exactly if that of the open diamond does not. -/
theorem findSome?_shaped :
    ((forms.take 6).findSome? fun form => form (line.characters before after)) =
      (openDiamond? (line.characters before after)).map (forward .aggregation) := by
  obtain ⟨dottedLeft, dottedRight, left, right, filled⟩ := line.shaped_eq_none before after
  simp only [forms, List.take_succ_cons, List.take_zero, List.findSome?_cons, dottedLeft,
    dottedRight, left, right, filled, Option.map_none, List.findSome?_nil]
  cases openDiamond? (line.characters before after) <;> rfl

/-- A form with labels fits where it finds the arrow. -/
theorem labelled?_characters {arrow? : List Char → Option (List Char)}
    (found : arrow? (line.arrow.strokes ++ line.behindStrokes after) =
      some (List.replicate after ' ' ++ line.target.characters)) :
    labelled? arrow? (line.characters before after) =
      some (⟨line.source.characters, line.target.characters⟩, []) := by
  rw [labelled?, word?_characters]
  simp only [Option.bind_eq_bind, Option.bind_some, dropBlanks_behindSource, found, word?_target]
  rfl

/-- It does not fit where it finds none. -/
theorem labelled?_eq_none {arrow? : List Char → Option (List Char)}
    (notFound : arrow? (line.arrow.strokes ++ line.behindStrokes after) = none) :
    labelled? arrow? (line.characters before after) = none := by
  rw [labelled?, word?_characters]
  simp only [Option.bind_eq_bind, Option.bind_some, dropBlanks_behindSource, notFound,
    Option.bind_none]

/-- Of an arrow the head is left when its own strokes are taken. -/
theorem headed?_own :
    headed? line.arrow.stroke.mark (line.arrow.strokes ++ line.behindStrokes after) =
      expect ">" (line.behindStrokes after) :=
  line.arrow.stroke.headed?_strokes line.arrow.more (line.head?_behindStrokes after)

/-- Strokes of the other sort are not taken. -/
theorem headed?_other {stroke : Stroke} (other : stroke ≠ line.arrow.stroke) :
    headed? stroke.mark (line.arrow.strokes ++ line.behindStrokes after) = none := by
  have mark : (line.arrow.stroke.mark == stroke.mark) = false := by
    cases own : line.arrow.stroke <;> cases stroke <;> simp_all [Stroke.mark]
  rw [headed?, run?, PlainArrow.strokes, List.replicate_succ, List.cons_append,
    List.takeWhile_cons_of_neg (by simp [mark])]
  rfl

/-- The form of strokes of the other sort does not fit. -/
theorem form_other {stroke : Stroke} (other : stroke ≠ line.arrow.stroke) :
    stroke.form (line.characters before after) = none := by
  rw [Stroke.form, line.labelled?_eq_none before after (line.headed?_other after other),
    Option.map_none]

/-- The relation is what a form of its kind reads. -/
theorem relation_eq :
    line.relation = withLabel line.arrow.stroke.kind
      (⟨line.source.characters, line.target.characters⟩, []) := rfl

/-- The form of the strokes fits if there is a head. -/
theorem form_own {stroke : Stroke} {more : Nat} (same : line.arrow = .headed stroke more) :
    line.arrow.stroke.form (line.characters before after) = some line.relation := by
  have head : expect ">" (line.behindStrokes after) =
      some (List.replicate after ' ' ++ line.target.characters) := by
    rw [behindStrokes, same]
    rfl
  rw [Stroke.form, line.labelled?_characters before after ((line.headed?_own after).trans head),
    relation_eq, Option.map_some]

/-- It does not fit if there is none. -/
theorem form_own_link (same : line.arrow = .link) :
    line.arrow.stroke.form (line.characters before after) = none := by
  have noHead : expect ">" (line.behindStrokes after) = none := by
    have foreign := line.target.not_mem (show isWord '>' = false by decide)
    apply expect_of_not_mem (show _ = some '>' by decide)
    simp [behindStrokes, same, PlainArrow.head, foreign]
  rw [Stroke.form, line.labelled?_eq_none before after ((line.headed?_own after).trans noHead),
    Option.map_none]

/-- The forms of plain arrows find the relation. -/
theorem findSome?_plain :
    ((forms.drop 6).findSome? fun form => form (line.characters before after)) =
      some line.relation := by
  have order : forms.drop 6 = [Stroke.dash.form, Stroke.dot.form,
    fun text => (labelled? (expect "--") text).map (withLabel .association)] := rfl
  simp only [order, List.findSome?_cons]
  cases arrow : line.arrow with
  | headed stroke more =>
    have own := line.form_own before after arrow
    cases stroke with
    | dash =>
      rw [arrow, PlainArrow.stroke] at own
      rw [own]
    | dot =>
      have other : Stroke.dash ≠ line.arrow.stroke := by simp [arrow, PlainArrow.stroke]
      rw [arrow, PlainArrow.stroke] at own
      rw [line.form_other before after other, own]
  | link =>
    -- The form of dashes takes both and misses the head, so it is the last form that fits.
    have other : Stroke.dot ≠ line.arrow.stroke := by simp [arrow, PlainArrow.stroke]
    have noHead := line.form_own_link before after arrow
    rw [arrow, PlainArrow.stroke] at noHead
    have dashes : expect "--" (line.arrow.strokes ++ line.behindStrokes after) =
        some (List.replicate after ' ' ++ line.target.characters) := by
      rw [behindStrokes, arrow]
      rfl
    rw [noHead, line.form_other before after other,
      line.labelled?_characters before after dashes, relation_eq, arrow]
    rfl

/-- What is read from the line. -/
theorem ofLine?_text_eq :
    ofLine? (line.text before after) =
      ((openDiamond? (line.characters before after)).map (forward .aggregation)).or
        (some line.relation) := by
  rw [ofLine?_text, ← findSome?_plain, ← findSome?_shaped, ← List.findSome?_append,
    List.take_append_drop]

/-- The relation is read as it was written where no last letter is taken for a mark. -/
theorem ofLine?_of_apart (apart : before = 0 → ¬ EndsInDiamond line.source) :
    ofLine? (line.text before after) = some line.relation := by
  rw [ofLine?_text_eq, line.openDiamond?_eq_none before after apart, Option.map_none,
    Option.none_or]

/-- Otherwise an aggregation of the shorter word is read. -/
theorem ofLine?_of_shorter {shorter : Word}
    (same : line.source.characters = shorter.characters ++ ['o']) :
    ofLine? (line.text 0 after) =
      some { source := shorter.text, target := line.target.text, kind := .aggregation } := by
  have marked := (endsInDiamond_iff line.source).mp ⟨shorter, same⟩
  rw [ofLine?_text_eq, openDiamond?_tight, if_pos marked, same, List.dropLast_concat,
    Option.map_some, Option.some_or]
  rfl

end PlainLine

/-- A plain arrow is read alike whatever blanks stand around it, exactly if there is a blank
behind the first word or the word does not end in the mark of an open diamond with letters
before it. -/
theorem ofLine?_blanks_iff (line : PlainLine) (before after : Nat) :
    ofLine? (line.text before after) = ofLine? (line.text 1 1) ↔
      (before = 0 → ¬ EndsInDiamond line.source) := by
  have spaced : ofLine? (line.text 1 1) = some line.relation :=
    line.ofLine?_of_apart 1 1 fun none => absurd none Nat.one_ne_zero
  rw [spaced]
  constructor
  · rintro same rfl ⟨shorter, ends⟩
    rw [line.ofLine?_of_shorter after ends, Option.some.injEq] at same
    -- The relations differ in kind: no plain arrow stands for an aggregation.
    have kind := congrArg Relation.kind same
    simp only [PlainLine.relation] at kind
    cases stroke : line.arrow.stroke <;> simp [stroke, Stroke.kind] at kind
  · exact line.ofLine?_of_apart before after

/-- Without blanks the last letter of the first word is lost, and with it the kind of the
relation. -/
theorem ofLine?_tight_letter :
    ofLine? "foo->bar" = some { source := "fo", target := "bar", kind := .aggregation } ∧
      ofLine? "foo -> bar" = some { source := "foo", target := "bar", kind := .association } := by
  decide +kernel

end Relation

end Drafting
