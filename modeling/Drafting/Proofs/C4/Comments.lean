import Drafting.Conversion
import Drafting.Proofs.C4.RelationSearch
import Drafting.Proofs.Text.Lines

/-!
# Comments

A line that begins with a comment mark is passed over where elements are read. Relations are
searched in the whole source, and there a comment counts like any other text.

The main statement is that a comment can be left out without a change to the forest, and without
a change to the relations exactly if it declares none.
-/

namespace Drafting.C4

open Text

/-- A source made of some lines. -/
def sourceOf (lines : List (List Char)) : String := String.ofList (join ['\n'] lines)

/-- The text of some lines, each with its line feed. -/
def closedLines (lines : List (List Char)) : List Char := lines.flatMap (· ++ ['\n'])

/-- A relation is spread over the place between two texts if it begins in the first one and goes
on in the second one. -/
def IsSpread (before behind : List Char) : Prop := 0 < overhang behind false 0 before

instance (before behind : List Char) : Decidable (IsSpread before behind) :=
  inferInstanceAs (Decidable (0 < overhang behind false 0 before))

/-- No relation is spread over a line and others: none begins before it and goes on in it or, when
it is left out, behind it, and none begins in it and goes on behind it. -/
structure StandsAlone (before : List (List Char)) (line : List Char) (after : List (List Char)) :
    Prop where
  entered : ¬IsSpread (closedLines before) (closedLines (line :: after))
  left : ¬IsSpread (closedLines [line]) (closedLines after)
  leftOut : ¬IsSpread (closedLines before) (closedLines after)

/-- The pieces between line feeds make up the text. -/
theorem sourceOf_split (text : String) : sourceOf (split '\n' text.toList) = text := by
  rw [sourceOf, join_split, String.ofList_toList]

/-- A source ends without a line feed of its own. -/
theorem join_concat_lineFeed {lines : List (List Char)} (nonempty : lines ≠ []) :
    join ['\n'] lines ++ ['\n'] = closedLines lines := by
  obtain ⟨first, others, rfl⟩ := List.exists_cons_of_ne_nil nonempty
  rw [join_cons_eq_flatMap]
  induction others generalizing first with
  | nil => simp [closedLines]
  | cons second further inductionHypothesis =>
    have later := inductionHypothesis second (by simp)
    simp only [closedLines, List.flatMap_cons] at later ⊢
    rw [← later]
    simp

/-- The relations in a source are those in its lines with all line feeds. -/
theorem relations_sourceOf (lines : List (List Char)) :
    relations (sourceOf lines) = relationsFrom false 0 (closedLines lines) := by
  rw [relations, sourceOf, String.toList_ofList]
  by_cases nonempty : lines = []
  · rw [nonempty]
    rfl
  · rw [← join_concat_lineFeed nonempty, relationsFrom_lineFeed]

/-- No word is open behind a line feed. -/
theorem endsInWord_closedLines (lines : List (List Char)) :
    endsInWord false (closedLines lines) = false := by
  rcases List.eq_nil_or_concat lines with rfl | ⟨before, last, rfl⟩
  · rfl
  · have ends : closedLines (before ++ [last]) = (closedLines before ++ last) ++ ['\n'] := by
      simp [closedLines]
    rw [List.concat_eq_append, ends, endsInWord, List.getLast?_concat]
    decide

/-- Where no relation is spread over the place between them, the relations in some lines and in
those behind them are found one after the other. -/
theorem relations_append {before after : List (List Char)}
    (apart : ¬IsSpread (closedLines before) (closedLines after)) :
    relations (sourceOf (before ++ after)) =
      relations (sourceOf before) ++ relations (sourceOf after) := by
  have whole : closedLines (before ++ after) = closedLines before ++ closedLines after :=
    List.flatMap_append
  rw [relations_sourceOf, relations_sourceOf, relations_sourceOf, whole,
    relationsFrom_append (Nat.eq_zero_of_not_pos apart), endsInWord_closedLines]

/-- A line that stands alone adds its own relations. -/
theorem StandsAlone.relations_eq {before after : List (List Char)} {line : List Char}
    (alone : StandsAlone before line after) :
    relations (sourceOf (before ++ line :: after)) =
      relations (sourceOf before) ++
        (relations (String.ofList line) ++ relations (sourceOf after)) := by
  have own : sourceOf [line] = String.ofList line := rfl
  rw [relations_append alone.entered, ← List.singleton_append, relations_append alone.left, own]

/-- The relations do not change exactly if a line that stands alone has none. -/
theorem StandsAlone.relations_eq_iff {before after : List (List Char)} {line : List Char}
    (alone : StandsAlone before line after) :
    relations (sourceOf (before ++ line :: after)) = relations (sourceOf (before ++ after)) ↔
      relations (String.ofList line) = [] := by
  rw [alone.relations_eq, relations_append alone.leftOut, List.append_cancel_left_eq,
    List.append_left_eq_self]

/-- A comment is passed over. -/
theorem readLine_comment (progress : Progress) {comment : List Char}
    (isComment : (trim comment).head? = some commentMark) :
    progress.readLine comment = progress := by
  have ignored : isIgnored (bareLine comment) = true := by
    cases trimmed : trim comment with
    | nil => simp [trimmed] at isComment
    | cons first rest =>
      obtain rfl : first = commentMark := by simpa [trimmed] using isComment
      rw [bareLine, trimmed]
      rfl
  exact if_pos ignored

/-- The elements in a source are read line by line. -/
theorem declarations_sourceOf {lines : List (List Char)} (unbroken : ∀ line ∈ lines, '\n' ∉ line) :
    declarations (sourceOf lines) = (lines.foldl Progress.readLine {}).elements := by
  rw [declarations, sourceOf, String.toList_ofList]
  by_cases nonempty : lines = []
  · rw [nonempty]
    rfl
  · rw [split_join nonempty unbroken]

/-- A comment declares no element, so leaving it out does not change the forest. It may declare
relations, since they are found anywhere in a source: where no relation is spread over the comment
and other lines, leaving it out does not change the relations exactly if it declares none, and then
the same is drawn. -/
theorem comment_left_out {text : String} {before after : List (List Char)} {comment : List Char}
    (lines : split '\n' text.toList = before ++ comment :: after)
    (isComment : (trim comment).head? = some commentMark) :
    trees text = trees (sourceOf (before ++ after)) ∧
      (StandsAlone before comment after →
        (relations text = relations (sourceOf (before ++ after)) ↔
          relations (String.ofList comment) = []) ∧
        (relations (String.ofList comment) = [] →
          ∀ stem, cells stem text = cells stem (sourceOf (before ++ after)))) := by
  have unbroken : ∀ line ∈ before ++ comment :: after, '\n' ∉ line :=
    fun line member => not_mem_of_mem_split (lines ▸ member)
  have others : ∀ line ∈ before ++ after, '\n' ∉ line := by
    intro line member
    apply unbroken line
    rcases List.mem_append.mp member with inBefore | inAfter
    · exact List.mem_append_left _ inBefore
    · exact List.mem_append_right _ (List.mem_cons_of_mem _ inAfter)
  obtain rfl : text = sourceOf (before ++ comment :: after) := by
    rw [← lines, sourceOf_split]
  have forest : trees (sourceOf (before ++ comment :: after)) =
      trees (sourceOf (before ++ after)) := by
    rw [trees, trees, declarations_sourceOf unbroken, declarations_sourceOf others,
      List.foldl_append, List.foldl_cons, readLine_comment _ isComment, List.foldl_append]
  refine ⟨forest, fun alone => ⟨alone.relations_eq_iff, ?_⟩⟩
  intro silent stem
  rw [cells, cells, forest, alone.relations_eq_iff.mpr silent]

/-- A shop and its user, who is greeted over two lines. -/
def greeting : List (List Char) :=
  ["System(shop, Shop)".toList, "Person(user, User)".toList, "Rel(shop, user,".toList,
    "  \x22greets\x22)".toList]

/-- A comment that holds the name of a macro. -/
def remark : List Char := "  \x27 Rel is \x22short\x22 (for relation)".toList

/-- A store. -/
def store : List Char := "System(store, Store)".toList

/-- Between the greeting and the store the remark stands alone and declares nothing, so it can be
left out. -/
theorem comment_left_out_greeting :
    split '\n' (sourceOf (greeting ++ [remark, store])).toList = greeting ++ remark :: [store] ∧
      (trim remark).head? = some commentMark ∧
      StandsAlone greeting remark [store] ∧
      relations (String.ofList remark) = [] ∧
      relations (sourceOf greeting) =
        [{ source := "shop", target := "user", label := "greets" }] ∧
      trees (sourceOf (greeting ++ [remark, store])) = trees (sourceOf (greeting ++ [store])) ∧
      relations (sourceOf (greeting ++ [remark, store])) =
        relations (sourceOf (greeting ++ [store])) ∧
      cells "page" (sourceOf (greeting ++ [remark, store])) =
        cells "page" (sourceOf (greeting ++ [store])) := by
  have lines : split '\n' (sourceOf (greeting ++ [remark, store])).toList =
      greeting ++ remark :: [store] := by
    decide +kernel
  have isComment : (trim remark).head? = some commentMark := by decide +kernel
  have alone : StandsAlone greeting remark [store] :=
    ⟨by decide +kernel, by decide +kernel, by decide +kernel⟩
  have silent : relations (String.ofList remark) = [] := by decide +kernel
  have greets : relations (sourceOf greeting) =
      [{ source := "shop", target := "user", label := "greets" }] := by
    decide +kernel
  obtain ⟨forest, drawn⟩ := comment_left_out lines isComment
  obtain ⟨unchanged, same⟩ := drawn alone
  exact ⟨lines, isComment, alone, silent, greets, forest, unchanged.mpr silent,
    same silent "page"⟩

/-- A relation in a comment counts. -/
theorem relations_commented_out :
    relations "System(shop, Shop)\nPerson(user, User)\n\x27 Rel(shop, user, \x22greets\x22)" =
        [{ source := "shop", target := "user", label := "greets" }] ∧
      relations "System(shop, Shop)\nPerson(user, User)" = [] := by
  decide +kernel

end Drafting.C4
