import Drafting.ImageAddress.PlantUml
import Drafting.Proofs.Text.Lines
import Drafting.Proofs.Text.Scan

/-!
# Themes and the lines of a source

A theme is inserted by a search through the characters of a source: where a line begins, the mark
is looked for, and from there the nearest place where a line ends. On the lines of the source this
is simple. The first of them that begins with the mark gets a line behind it, and all others stay
as they are, whatever characters they hold.

A line that does not begin with the mark is passed over as a whole, since no line begins inside it.
So the induction is on the lines before the first one with the mark, or on all of them.

The main statement gives the lines of every source with a theme.
-/

namespace Drafting.ImageAddress.PlantUml

open Text

variable {theme : String} {line : List Char}

/-- What stands behind the first of some lines. -/
def furtherLines (others : List (List Char)) : List Char := others.flatMap ('\n' :: ·)

/-- Lines put together are the first one and what stands behind it. -/
theorem join_eq_append_furtherLines (line : List Char) (others : List (List Char)) :
    join ['\n'] (line :: others) = line ++ furtherLines others :=
  join_cons_eq_flatMap ['\n'] line others

/-- Further lines stand behind a line feed. -/
theorem furtherLines_cons (next : List Char) (others : List (List Char)) :
    furtherLines (next :: others) = '\n' :: join ['\n'] (next :: others) := by
  rw [join_eq_append_furtherLines]
  rfl

/-- The first of several lines is followed by a line feed and the others. -/
theorem join_cons_of_ne_nil (line : List Char) {others : List (List Char)}
    (nonempty : others ≠ []) :
    join ['\n'] (line :: others) = line ++ '\n' :: join ['\n'] others := by
  obtain ⟨next, further, rfl⟩ := List.exists_cons_of_ne_nil nonempty
  rw [join_eq_append_furtherLines, furtherLines_cons]

/-- A line ends where further lines or none stand behind it. -/
theorem lineEnd?_furtherLines (others : List (List Char)) :
    lineEnd? (furtherLines others) = some (furtherLines others) := by
  cases others <;> rfl

/-- The nearest end of a line is behind all of its characters. -/
theorem shortest_lineEnd? (single : '\n' ∉ line) (others : List (List Char)) :
    shortest inLine (line ++ furtherLines others) lineEnd? =
      some (line, furtherLines others) := by
  have within : ∀ character ∈ line, character ≠ '\n' := fun character member same =>
    single (same ▸ member)
  refine shortest_of_first ?_ (lineEnd?_furtherLines others) ?_
  · intro character member
    exact bne_iff_ne.mpr (within character member)
  · intro character member behind
    simp [lineEnd?, within character member]

/-- A line that begins with the mark is found as a whole. -/
theorem startLine?_of_begins (single : '\n' ∉ line) (begins : startMark.toList <+: line)
    (others : List (List Char)) :
    startLine? (line ++ furtherLines others) = some (line, furtherLines others) := by
  obtain ⟨more, rfl⟩ := begins
  have inMore : '\n' ∉ more := fun member => single (List.mem_append_right _ member)
  rw [startLine?, List.append_assoc, expect_append]
  simp [shortest_lineEnd? inMore]

/-- A mark without a line feed that stands where a line begins stands in that line. -/
theorem begins_of_begins_furtherLines {mark : List Char} (noLineFeed : '\n' ∉ mark)
    {others : List (List Char)} (begins : mark <+: line ++ furtherLines others) :
    mark <+: line := by
  obtain ⟨rest, split⟩ := begins
  rcases List.append_eq_append_iff.mp split with ⟨more, longer, _⟩ | ⟨more, whole, behind⟩
  · exact ⟨more, longer.symm⟩
  · cases more with
    | nil => exact ⟨[], by simpa using whole⟩
    | cons character rest =>
      cases others with
      | nil => simp [furtherLines] at behind
      | cons next further =>
        rw [furtherLines_cons, List.cons_append] at behind
        obtain ⟨same, _⟩ := List.cons.inj behind
        exact absurd (by simp [whole, ← same]) noLineFeed

/-- In a line that does not begin with the mark nothing is found. -/
theorem startLine?_eq_none (other : ¬ startMark.toList <+: line)
    (others : List (List Char)) : startLine? (line ++ furtherLines others) = none := by
  have absent : expect startMark (line ++ furtherLines others) = none := by
    cases found : expect startMark (line ++ furtherLines others) with
    | none => rfl
    | some rest =>
      have begins := List.isPrefixOf?_eq_some_iff_append_eq.mp found
      exact absurd (begins_of_begins_furtherLines (by decide) ⟨rest, begins⟩) other
  rw [startLine?, absent]
  rfl

/-- Where a line begins, the theme is inserted if the mark is found, and otherwise the search goes
on behind the first character, as it does inside a line. -/
theorem insertTheme?_true (text : List Char) :
    insertTheme? theme true text =
      match startLine? text with
      | some (line, others) => some (line ++ '\n' :: themeLine theme ++ others)
      | none => insertTheme? theme false text := by
  cases text with
  | nil => rfl
  | cons character rest => rfl

/-- Inside a line no line begins, so its rest is passed over. -/
theorem insertTheme?_false (single : '\n' ∉ line) (rest : List Char) :
    insertTheme? theme false (line ++ rest) = (insertTheme? theme false rest).map (line ++ ·) := by
  induction line with
  | nil => simp
  | cons character others inductionHypothesis =>
    obtain ⟨different, later⟩ := List.ne_and_not_mem_of_not_mem_cons single
    have inside : (character == '\n') = false := beq_false_of_ne different.symm
    simp [insertTheme?, inside, inductionHypothesis later, Option.map_map, Function.comp_def]

/-- The first line gets the theme behind it if it begins with the mark. -/
theorem insertTheme?_of_begins (single : '\n' ∉ line) (begins : startMark.toList <+: line)
    (others : List (List Char)) :
    insertTheme? theme true (join ['\n'] (line :: others)) =
      some (join ['\n'] (line :: themeLine theme :: others)) := by
  rw [join_eq_append_furtherLines, insertTheme?_true, startLine?_of_begins single begins,
    join_eq_append_furtherLines, furtherLines_cons, join_eq_append_furtherLines]
  simp

/-- A first line that does not begin with the mark is passed over. -/
theorem insertTheme?_of_other (single : '\n' ∉ line) (other : ¬ startMark.toList <+: line)
    {others : List (List Char)} (nonempty : others ≠ []) :
    insertTheme? theme true (join ['\n'] (line :: others)) =
      (insertTheme? theme true (join ['\n'] others)).map (line ++ '\n' :: ·) := by
  obtain ⟨next, further, rfl⟩ := List.exists_cons_of_ne_nil nonempty
  rw [join_eq_append_furtherLines, insertTheme?_true, startLine?_eq_none other,
    insertTheme?_false single, furtherLines_cons]
  simp [insertTheme?, Option.map_map, Function.comp_def]

/-- The theme is inserted behind the first line that begins with the mark. -/
theorem insertTheme?_join {before after : List (List Char)}
    (single : ∀ other ∈ before ++ line :: after, '\n' ∉ other)
    (begins : startMark.toList <+: line) (first : ∀ other ∈ before, ¬ startMark.toList <+: other) :
    insertTheme? theme true (join ['\n'] (before ++ line :: after)) =
      some (join ['\n'] (before ++ line :: themeLine theme :: after)) := by
  induction before with
  | nil => exact insertTheme?_of_begins (single line List.mem_cons_self) begins after
  | cons other others inductionHypothesis =>
    have later := inductionHypothesis (fun another member => single another (.tail _ member))
      fun another member => first another (.tail _ member)
    have nonempty (behind : List (List Char)) : others ++ line :: behind ≠ [] := by simp
    rw [List.cons_append, List.cons_append, insertTheme?_of_other (single other (.head _))
      (first other (.head _)) (nonempty after), later, join_cons_of_ne_nil other (nonempty _)]
    rfl

/-- Where no line begins with the mark, no theme is inserted. -/
theorem insertTheme?_join_eq_none {lines : List (List Char)} (single : ∀ line ∈ lines, '\n' ∉ line)
    (others : ∀ line ∈ lines, ¬ startMark.toList <+: line) :
    insertTheme? theme true (join ['\n'] lines) = none := by
  induction lines with
  | nil => rfl
  | cons line further inductionHypothesis =>
    by_cases last : further = []
    · subst last
      have absent := startLine?_eq_none (others line (.head _)) []
      rw [join_eq_append_furtherLines, insertTheme?_true, absent,
        insertTheme?_false (single line (.head _))]
      rfl
    · rw [insertTheme?_of_other (single line (.head _)) (others line (.head _)) last,
        inductionHypothesis (fun other member => single other (.tail _ member))
          fun other member => others other (.tail _ member)]
      rfl

/-- A source with a theme behind the first line that begins with the mark. -/
theorem toList_applyTheme_of_begins {text : String} {before after : List (List Char)}
    (lines : split '\n' text.toList = before ++ line :: after)
    (begins : startMark.toList <+: line) (first : ∀ other ∈ before, ¬ startMark.toList <+: other) :
    (applyTheme theme text).toList =
      join ['\n'] (before ++ line :: themeLine theme :: after) := by
  have single : ∀ other ∈ before ++ line :: after, '\n' ∉ other := fun other member =>
    not_mem_of_mem_split (lines ▸ member)
  have inserted : insertTheme? theme true text.toList =
      some (join ['\n'] (before ++ line :: themeLine theme :: after)) := by
    rw [← join_split '\n' text.toList, lines]
    exact insertTheme?_join single begins first
  rw [applyTheme, inserted, String.toList_ofList]

/-- A source in which no line begins with the mark, with lines around it. -/
theorem toList_applyTheme_of_others {text : String}
    (others : ∀ other ∈ split '\n' text.toList, ¬ startMark.toList <+: other) :
    (applyTheme theme text).toList =
      join ['\n'] (startMark.toList :: themeLine theme ::
        (split '\n' text.toList ++ ["@enduml".toList])) := by
  have absent : insertTheme? theme true text.toList = none := by
    rw [← join_split '\n' text.toList]
    exact insertTheme?_join_eq_none (fun _ member => not_mem_of_mem_split member) others
  obtain ⟨line, further, lines⟩ := List.exists_cons_of_ne_nil (split_ne_nil '\n' text.toList)
  have source : text.toList = line ++ furtherLines further := by
    rw [← join_eq_append_furtherLines, ← lines, join_split]
  rw [applyTheme, absent, lines, List.cons_append, join_cons_of_ne_nil _ (by simp),
    join_cons_of_ne_nil _ (by simp), join_eq_append_furtherLines]
  simp [source, startMark, themeLine, furtherLines]

/-- A source in which a line begins with the mark gets a line that names the theme directly behind
the first such line, and no other line changes. Any other source is put between lines that begin
and end it, with the line that names the theme behind the former. -/
theorem lines_applyTheme (text theme : String) (single : '\n' ∉ theme.toList) :
    ((∃ line ∈ split '\n' text.toList, "@startuml".toList <+: line) →
      ∃ before start after, split '\n' text.toList = before ++ start :: after ∧
        "@startuml".toList <+: start ∧ (∀ line ∈ before, ¬ "@startuml".toList <+: line) ∧
        split '\n' (applyTheme theme text).toList =
          before ++ start :: ("!theme " ++ theme).toList :: after) ∧
    ((∀ line ∈ split '\n' text.toList, ¬ "@startuml".toList <+: line) →
      split '\n' (applyTheme theme text).toList =
        "@startuml".toList :: ("!theme " ++ theme).toList ::
          (split '\n' text.toList ++ ["@enduml".toList])) := by
  have lineFeedFree : ∀ line ∈ split '\n' text.toList, '\n' ∉ line := fun _ member =>
    not_mem_of_mem_split member
  have themeSingle : '\n' ∉ themeLine theme := by
    simpa [themeLine] using single
  constructor
  · rintro ⟨line, member, begins⟩
    have present : ((split '\n' text.toList).find? (startMark.toList.isPrefixOf ·)).isSome :=
      List.find?_isSome.mpr ⟨line, member, List.isPrefixOf_iff_prefix.mpr begins⟩
    obtain ⟨start, found⟩ := Option.isSome_iff_exists.mp present
    obtain ⟨starts, before, after, lines, first⟩ := List.find?_eq_some_iff_append.mp found
    have startBegins : startMark.toList <+: start := List.isPrefixOf_iff_prefix.mp starts
    have noneBefore : ∀ other ∈ before, ¬ startMark.toList <+: other := by
      intro other inside otherBegins
      simpa [List.isPrefixOf_iff_prefix.mpr otherBegins] using first other inside
    refine ⟨before, start, after, lines, startBegins, noneBefore, ?_⟩
    rw [toList_applyTheme_of_begins lines startBegins noneBefore]
    refine split_join (by simp) ?_
    intro other inside
    have origin : other = themeLine theme ∨ other ∈ split '\n' text.toList := by
      rw [lines]
      grind
    rcases origin with rfl | own
    · exact themeSingle
    · exact lineFeedFree other own
  · intro others
    rw [toList_applyTheme_of_others others]
    refine split_join (by simp) ?_
    intro other inside
    have origin : other = startMark.toList ∨ other = themeLine theme ∨
        other ∈ split '\n' text.toList ∨ other = "@enduml".toList := by
      simpa only [List.mem_cons, List.mem_append, List.not_mem_nil, or_false] using inside
    rcases origin with rfl | rfl | own | rfl
    · decide
    · exact themeSingle
    · exact lineFeedFree other own
    · decide

/-- Of two lines that begin with the mark the first gets the theme. Carriage returns stay at the
ends of their lines, and backslashes in the text and in the name mean nothing. -/
theorem lines_applyTheme_two_marks :
    '\n' ∉ "to\\1y".toList ∧
      (∃ line ∈ split '\n' "\\0 @startuml\r\n@startuml \\1\r\n@startuml\r".toList,
        "@startuml".toList <+: line) ∧
      ∃ before start after,
        split '\n' "\\0 @startuml\r\n@startuml \\1\r\n@startuml\r".toList =
            before ++ start :: after ∧
          "@startuml".toList <+: start ∧ (∀ line ∈ before, ¬ "@startuml".toList <+: line) ∧
          split '\n'
              (applyTheme "to\\1y" "\\0 @startuml\r\n@startuml \\1\r\n@startuml\r").toList =
            before ++ start :: "!theme to\\1y".toList :: after :=
  have single : '\n' ∉ "to\\1y".toList := by decide
  have present : ∃ line ∈ split '\n' "\\0 @startuml\r\n@startuml \\1\r\n@startuml\r".toList,
      "@startuml".toList <+: line := by decide
  ⟨single, present, (lines_applyTheme _ _ single).1 present⟩

end Drafting.ImageAddress.PlantUml
