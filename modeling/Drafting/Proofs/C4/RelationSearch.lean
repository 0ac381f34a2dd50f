import Drafting.C4.RelationMacro
import Drafting.Proofs.Text.Reach

/-!
# Where relations are found

A relation is found from its macro to the quotation mark that it ends with. Nothing behind that
mark decides about it, apart from a comma and a further quoted text, and so the relations of two
texts that stand one behind the other are found one after the other, unless one of them begins in
the first text and goes on in the second.

The main statement is that such relations add up: the relations of a text are those of its first
part and then those of the rest.
-/

namespace Drafting.C4

open Text

/-- The direction that the name of a macro may end with, and the parenthesis behind it. -/
def directed? (text : List Char) : Option (List Char) :=
  (expect "_" text).bind fun rest => (word? rest).bind fun read => expect "(" (dropBlanks read.2)

/-- The macro is a fixed name, and then a direction or none. -/
theorem relationMacro?_eq (text : List Char) :
    relationMacro? text = (expect "Rel" ((expect "Bi" text).getD text)).bind fun rest =>
      directed? rest <|> expect "(" (dropBlanks rest) := rfl

/-- The fixed name may begin with a mark for both ways. -/
theorem name_local : SkipsLocally fun text => expect "Rel" ((expect "Bi" text).getD text) := by
  intro text rest found
  beta_reduce at found
  cases both : expect "Bi" text with
  | some behind =>
    rw [both, Option.getD_some] at found
    refine ⟨"BiRel".toList, ?_, fun _ => rfl⟩
    rw [← List.isPrefixOf?_eq_some_iff_append_eq.mp both,
      ← List.isPrefixOf?_eq_some_iff_append_eq.mp found]
    rfl
  | none =>
    rw [both, Option.getD_none] at found
    exact ⟨"Rel".toList, (List.isPrefixOf?_eq_some_iff_append_eq.mp found).symm, fun _ => rfl⟩

/-- What opens a parenthesis behind blanks begins with no word character. -/
theorem not_word_of_opening {text : List Char} (opens : (expect "(" (dropBlanks text)).isSome) :
    ∀ character ∈ text.head?, isWord character = false := by
  intro character member
  cases text with
  | nil => contradiction
  | cons first others =>
    obtain rfl : first = character := Option.some.inj member
    by_cases blank : isBlank first = true
    · apply Bool.eq_false_iff.mpr
      intro word
      have visible := isBlank_of_isWord word
      simp [blank] at visible
    · rw [dropBlanks_cons_of_not_blank others (Bool.eq_false_iff.mpr blank)] at opens
      obtain ⟨rest, found⟩ := Option.isSome_iff_exists.mp opens
      obtain ⟨rfl, _⟩ := List.cons.inj (eq_of_expect rfl found)
      decide

/-- The direction ends with its parenthesis. -/
theorem directed?_local : SkipsLocally directed? := by
  have opening : SkipsLocally fun text => expect "(" (dropBlanks text) :=
    .dropBlanks_expect rfl (by decide)
  have word : ReadsLocally fun text => (run? isWord text).bind fun read =>
      (expect "(" (dropBlanks read.2)).map ((), ·) :=
    .run (fun _ => .of_skips opening ()) fun _ text succeeds =>
      not_word_of_opening (by simpa using succeeds)
  have whole := (SkipsLocally.expect "_").bind word.skips
  simp only [Option.map_bind, Function.comp_def, Option.map_map, Option.map_id'] at whole
  exact whole

/-- The macro ends with its parenthesis. -/
theorem relationMacro?_local : SkipsLocally relationMacro? := by
  have opening : SkipsLocally fun text => expect "(" (dropBlanks text) :=
    .dropBlanks_expect rfl (by decide)
  have excludes : ∀ text, (expect "(" (dropBlanks text)).isSome → directed? text = none := by
    intro text opens
    have absent : expect "_" text = none := by
      apply expect_eq_none rfl
      rintro character first rfl
      have notWord := not_word_of_opening opens '_' first
      contradiction
    rw [directed?, absent, Option.bind_none]
  rw [funext relationMacro?_eq]
  exact name_local.bind (.orElse directed?_local opening excludes)

/-- A name ends with its comma. -/
theorem nameBeforeComma?_local : ReadsLocally nameBeforeComma? := by
  have named : ReadsLocally fun text => (run? isNameCharacter text).bind fun read =>
      (expect "," read.2).map (trim read.1, ·) := by
    refine .run (fun run => .of_skips (.expect ",") (trim run)) ?_
    intro _ text succeeds character first
    obtain ⟨rest, found⟩ := Option.isSome_iff_exists.mp (by simpa using succeeds)
    rw [eq_of_expect rfl found] at first
    obtain rfl : ',' = character := Option.some.inj first
    decide
  simp only [Option.map_eq_bind] at named
  exact named

/-- A quoted text ends with its quotation mark. -/
theorem quotedText?_local : ReadsLocally quotedText? := by
  have opening : SkipsLocally fun text => expect "\x22" (dropBlanks text) :=
    .dropBlanks_expect rfl (by decide)
  have content : ReadsLocally fun text =>
      (expect "\x22" (text.dropWhile (· != '\x22'))).map (text.takeWhile (· != '\x22'), ·) := by
    intro text found rest read
    obtain ⟨left, closed, same⟩ := Option.map_eq_some_iff.mp read
    obtain ⟨rfl, rfl⟩ := Prod.mk.inj same
    have split : text = text.takeWhile (· != '\x22') ++ '\x22' :: left := by
      have quotation : text.dropWhile (· != '\x22') = '\x22' :: left := eq_of_expect rfl closed
      rw [← quotation, List.takeWhile_append_dropWhile]
    have unquoted : '\x22' ∉ text.takeWhile (· != '\x22') := by
      intro member
      simpa using List.all_eq_true.mp List.all_takeWhile _ member
    refine ⟨text.takeWhile (· != '\x22') ++ ['\x22'], by simpa using split, ?_⟩
    intro behind
    have run : (text.takeWhile (· != '\x22') ++ '\x22' :: behind).takeWhile (· != '\x22') =
        text.takeWhile (· != '\x22') := takeWhile_bne_append unquoted behind
    have ends : (text.takeWhile (· != '\x22') ++ '\x22' :: behind).dropWhile (· != '\x22') =
        '\x22' :: behind := dropWhile_bne_append unquoted behind
    rw [List.append_assoc, List.singleton_append]
    simp only [run, ends]
    rfl
  simp only [Option.map_eq_bind] at content
  exact content.behind opening

/-- A further text ends like any quoted text. -/
theorem furtherText?_local : ReadsLocally furtherText? :=
  quotedText?_local.behind (.dropBlanks_expect rfl (by decide))

/-- What every relation has: the macro, two names and a label. -/
def relationHead? (text : List Char) :
    Option ((List Char × List Char × List Char) × List Char) :=
  (relationMacro? text).bind fun rest =>
    (nameBeforeComma? rest).bind fun source =>
      (nameBeforeComma? source.2).bind fun target =>
        (quotedText? target.2).map fun label => ((source.1, target.1, label.1), label.2)

/-- A relation is what every relation has, and then a description if there is one. -/
theorem relation?_eq (text : List Char) :
    relation? text = (relationHead? text).map fun head =>
      let further := (furtherText? head.2).getD ([], head.2)
      ({
        source := String.ofList head.1.1
        target := String.ofList head.1.2.1
        label := String.ofList (trim head.1.2.2)
        description := String.ofList (trim further.1) }, further.2) := by
  simp only [relationHead?, Option.map_eq_bind, Option.bind_assoc]
  rfl

/-- What every relation has ends with the quotation mark of the label. -/
theorem relationHead?_local : ReadsLocally relationHead? :=
  .behind (.bind nameBeforeComma?_local fun source =>
    .bind nameBeforeComma?_local fun target =>
      .map quotedText?_local fun label => (source, target, label)) relationMacro?_local

/-- A description ends at or before the end of what stands behind the label. -/
theorem length_furtherText?_le (text : List Char) :
    ((furtherText? text).getD ([], text)).2.length ≤ text.length := by
  cases further : furtherText? text with
  | none => exact Nat.le_refl _
  | some read =>
    obtain ⟨taken, rfl, _⟩ := furtherText?_local text read.1 read.2 further
    simp

/-- A relation that is found in a text without going beyond it is found there with something else
behind the text, too, if nothing goes beyond the text then. -/
theorem relation?_transfer {text behind other : List Char} {relation : Relation} {rest : List Char}
    (read : relation? (text ++ behind) = some (relation, rest))
    (stays : behind.length ≤ rest.length)
    (otherStays : ∀ relation rest, relation? (text ++ other) = some (relation, rest) →
      other.length ≤ rest.length) :
    ∃ left, rest = left ++ behind ∧ relation? (text ++ other) = some (relation, left ++ other) := by
  rw [relation?_eq] at read
  obtain ⟨⟨head, middle⟩, before, same⟩ := Option.map_eq_some_iff.mp read
  obtain ⟨rfl, rfl⟩ := Prod.mk.inj same
  have headStays : behind.length ≤ middle.length :=
    Nat.le_trans stays (length_furtherText?_le middle)
  obtain ⟨left, rfl, found⟩ := relationHead?_local.transfer before headStays
  simp only [relation?_eq, found, Option.map_some, Option.some.injEq, Prod.mk.injEq] at otherStays ⊢
  cases here : furtherText? (left ++ behind) with
  | some read =>
    rw [here] at stays
    obtain ⟨further, same, there⟩ := furtherText?_local.transfer here stays
    refine ⟨further, same, ?_⟩
    rw [there]
    exact ⟨rfl, rfl⟩
  | none =>
    -- a description that is found only there would go beyond the text
    have there : furtherText? (left ++ other) = none := by
      cases there : furtherText? (left ++ other) with
      | none => rfl
      | some read =>
        rw [there] at otherStays
        obtain ⟨_, _, back⟩ := furtherText?_local.transfer there (otherStays _ _ ⟨rfl, rfl⟩)
        rw [back behind] at here
        contradiction
    refine ⟨left, rfl, ?_⟩
    rw [there]
    exact ⟨rfl, rfl⟩

/-- Where no relation goes beyond a text, the relation at its beginning does not depend on what
stands behind the text. -/
theorem relation?_append {text behind : List Char}
    (stays : ∀ relation rest, relation? (text ++ behind) = some (relation, rest) →
      behind.length ≤ rest.length) :
    relation? (text ++ behind) =
      (relation? text).map fun read => (read.1, read.2 ++ behind) := by
  have alone : ∀ relation rest, relation? (text ++ []) = some (relation, rest) →
      ([] : List Char).length ≤ rest.length := fun _ _ _ => Nat.zero_le _
  cases whole : relation? (text ++ behind) with
  | some read =>
    obtain ⟨left, same, found⟩ := relation?_transfer whole (stays read.1 read.2 whole) alone
    rw [List.append_nil, List.append_nil] at found
    rw [found, Option.map_some, ← same]
  | none =>
    cases short : relation? text with
    | none => rfl
    | some read =>
      rw [← List.append_nil text] at short
      obtain ⟨_, _, found⟩ := relation?_transfer short (Nat.zero_le _) stays
      rw [found] at whole
      contradiction

/-- A quoted text ends with a quotation mark. -/
theorem quotedText?_ends {text content rest : List Char}
    (read : quotedText? text = some (content, rest)) : '\x22' :: rest <:+ text := by
  obtain ⟨opened, opens, read⟩ := Option.bind_eq_some_iff.mp read
  obtain ⟨left, closed, same⟩ := Option.bind_eq_some_iff.mp read
  obtain ⟨_, rfl⟩ := Prod.mk.inj (Option.some.inj same)
  have ends : opened.dropWhile (· != '\x22') = '\x22' :: left := eq_of_expect rfl closed
  rw [← ends]
  exact (List.dropWhile_suffix _).trans ((suffix_of_expect opens).trans (dropBlanks_suffix text))

/-- A relation ends with a quotation mark. -/
theorem relation?_ends {text : List Char} {relation : Relation} {rest : List Char}
    (read : relation? text = some (relation, rest)) : '\x22' :: rest <:+ text := by
  rw [relation?_eq] at read
  obtain ⟨⟨head, middle⟩, before, same⟩ := Option.map_eq_some_iff.mp read
  obtain ⟨_, rfl⟩ := Prod.mk.inj same
  cases further : furtherText? middle with
  | some read =>
    obtain ⟨opened, comma, read⟩ := Option.bind_eq_some_iff.mp further
    exact (quotedText?_ends read).trans ((suffix_of_expect comma).trans
      ((dropBlanks_suffix middle).trans (relationHead?_local.suffix before)))
  | none =>
    obtain ⟨opened, macroRead, before⟩ := Option.bind_eq_some_iff.mp before
    obtain ⟨source, sourceRead, before⟩ := Option.bind_eq_some_iff.mp before
    obtain ⟨target, targetRead, before⟩ := Option.bind_eq_some_iff.mp before
    obtain ⟨label, labelRead, same⟩ := Option.map_eq_some_iff.mp before
    obtain ⟨_, rfl⟩ := Prod.mk.inj same
    exact (quotedText?_ends labelRead).trans ((nameBeforeComma?_local.suffix targetRead).trans
      ((nameBeforeComma?_local.suffix sourceRead).trans (relationMacro?_local.suffix macroRead)))

/-- How many characters behind a text belong to a relation that begins in the text. The first
`skipped` characters of the text belong to a relation that was read already, and `inWord` tells
whether a word stands before the text. -/
def overhang (behind : List Char) (inWord : Bool) : Nat → List Char → Nat
  | skipped, [] => skipped
  | skipped + 1, character :: rest => overhang behind (isWord character) skipped rest
  | 0, character :: rest =>
    match if inWord then none else relation? (character :: (rest ++ behind)) with
    | some (_, left) =>
      overhang behind (isWord character) ((rest ++ behind).length - left.length) rest
    | none => overhang behind (isWord character) 0 rest

/-- Whether a text ends in a word that goes on behind it. -/
def endsInWord (inWord : Bool) (text : List Char) : Bool := (text.getLast?.map isWord).getD inWord

/-- What is skipped beyond a text stands behind it. -/
theorem le_length_of_overhang {behind text : List Char} {inWord : Bool} {skipped : Nat}
    (whole : overhang behind inWord skipped text = 0) : skipped ≤ text.length := by
  induction text generalizing inWord skipped with
  | nil => simpa [overhang] using Nat.le_of_eq whole
  | cons character rest inductionHypothesis =>
    cases skipped with
    | zero => exact Nat.zero_le _
    | succ skipped =>
      rw [overhang] at whole
      exact Nat.succ_le_succ (inductionHypothesis whole)

/-- Where no relation is spread over the end of a text, one at the beginning of the text does not
go beyond it. -/
theorem stays_of_overhang {behind rest : List Char} {character : Char}
    (whole : overhang behind false 0 (character :: rest) = 0) {relation : Relation}
    {left : List Char} (read : relation? (character :: rest ++ behind) = some (relation, left)) :
    behind.length ≤ left.length := by
  rw [overhang, if_neg Bool.false_ne_true, ← List.cons_append, read] at whole
  have bound := le_length_of_overhang whole
  rw [List.length_append] at bound
  omega

/-- Where no relation is spread over the end of a text, the relations of the text and of what
stands behind it are found one after the other. -/
theorem relationsFrom_append {behind text : List Char} {inWord : Bool} {skipped : Nat}
    (whole : overhang behind inWord skipped text = 0) :
    relationsFrom inWord skipped (text ++ behind) =
      relationsFrom inWord skipped text ++ relationsFrom (endsInWord inWord text) 0 behind := by
  induction text generalizing inWord skipped with
  | nil =>
    obtain rfl : skipped = 0 := whole
    cases behind <;> rfl
  | cons character rest inductionHypothesis =>
    have last : endsInWord inWord (character :: rest) = endsInWord (isWord character) rest := by
      rw [endsInWord, endsInWord, List.getLast?_cons]
      cases rest.getLast? <;> rfl
    rw [last]
    cases skipped with
    | succ skipped =>
      rw [overhang] at whole
      rw [List.cons_append, relationsFrom, relationsFrom, inductionHypothesis whole]
    | zero =>
      rw [List.cons_append, relationsFrom, relationsFrom]
      cases inWord with
      | true =>
        rw [overhang] at whole
        exact inductionHypothesis whole
      | false =>
        have appended := relation?_append fun _ _ read => stays_of_overhang whole read
        rw [List.cons_append] at appended
        rw [overhang, if_neg Bool.false_ne_true, appended] at whole
        rw [if_neg Bool.false_ne_true, if_neg Bool.false_ne_true, appended]
        cases read : relation? (character :: rest) with
        | none =>
          rw [read] at whole
          exact inductionHypothesis whole
        | some found =>
          have left : (rest ++ behind).length - (found.2 ++ behind).length =
              rest.length - found.2.length := by
            rw [List.length_append, List.length_append]
            omega
          rw [read] at whole
          simp only [Option.map_some, left] at whole ⊢
          rw [inductionHypothesis whole, List.cons_append]

/-- A relation leaves a line feed at the end. -/
theorem relation?_leaves_lineFeed {text left : List Char} {relation : Relation}
    (read : relation? (text ++ ['\n']) = some (relation, left)) : left ≠ [] := by
  rintro rfl
  have last := (relation?_ends read).getLast (by simp)
  simp at last

/-- No relation is spread over the place before a line feed at the end. -/
theorem overhang_lineFeed {text : List Char} {inWord : Bool} {skipped : Nat}
    (order : skipped ≤ text.length) : overhang ['\n'] inWord skipped text = 0 := by
  induction text generalizing inWord skipped with
  | nil => exact Nat.le_zero.mp order
  | cons character rest inductionHypothesis =>
    cases skipped with
    | succ skipped =>
      rw [overhang]
      exact inductionHypothesis (Nat.le_of_succ_le_succ order)
    | zero =>
      rw [overhang]
      split
      · next relation left read =>
        obtain ⟨_, read⟩ := Option.ite_none_left_eq_some.mp read
        rw [← List.cons_append] at read
        have nonempty := List.length_pos_iff.mpr (relation?_leaves_lineFeed read)
        apply inductionHypothesis
        rw [List.length_append, List.length_singleton]
        omega
      · exact inductionHypothesis (Nat.zero_le _)

/-- Nothing is found by a line feed more at the end of a text. -/
theorem relationsFrom_lineFeed (text : List Char) (inWord : Bool) :
    relationsFrom inWord 0 (text ++ ['\n']) = relationsFrom inWord 0 text := by
  have feed (inWord : Bool) : relationsFrom inWord 0 ['\n'] = [] := by
    cases inWord <;> rfl
  rw [relationsFrom_append (overhang_lineFeed (Nat.zero_le _)), feed, List.append_nil]

end Drafting.C4
