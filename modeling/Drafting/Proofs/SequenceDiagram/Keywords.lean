import Drafting.Proofs.Text.Keyword
import Drafting.SequenceDiagram.Reader

/-!
# Keywords of participants

The keyword of a declaration may be written in any case, and beyond ASCII two more letters
count as an `i` there: the dotted capital and the dotless small one. Neither has `i` as its
small form, so a keyword that is written with one of them is accepted as a keyword and then
stands for no kind of participant.

The main statement is that this is the only way in which reading a sequence diagram can
fail, and that it fails at the first such line outside of notes.
-/

namespace Drafting

namespace Text

/-- The letters that count as an `i` in a keyword and have another small form. -/
def isForeignI (character : Char) : Bool := character == '\u0130' || character == '\u0131'

/-- A letter of a keyword that holds no `s` and no `k` is written as one of its two ASCII
forms, unless it is one of the two foreign letters. -/
theorem lowerLetter_of_sameLetter {letter character : Char} (same : sameLetter letter character)
    (plain : letter.toNat < 128) (noS : letter ≠ 's') (noK : letter ≠ 'k')
    (own : isForeignI character = false) : lowerLetter character = [letter] := by
  simp only [isForeignI, Bool.or_eq_false_iff, beq_eq_false_iff_ne] at own
  have small : character.toLower = letter := by
    simpa [sameLetter, own.1, own.2, noS, noK] using same
  have notKelvin : character ≠ '\u212a' := by
    rintro rfl
    rw [← small] at plain
    exact absurd plain (by decide)
  simp [lowerLetter, own.1, notKelvin, small]

/-- A keyword without `s` and `k` in which no letter is foreign has itself as its small
form. -/
theorem lowerKeyword_of_own {letters written : List Char}
    (plain : ∀ letter ∈ letters, letter.toNat < 128 ∧ letter ≠ 's' ∧ letter ≠ 'k')
    (letterwise : List.Forall₂ (fun letter character => sameLetter letter character = true)
      letters written)
    (own : ∀ character ∈ written, isForeignI character = false) :
    lowerKeyword written = letters := by
  induction letterwise with
  | nil => rfl
  | cons same _ inductionHypothesis =>
    obtain ⟨ascii, noS, noK⟩ := plain _ List.mem_cons_self
    have tail := inductionHypothesis (fun letter member => plain letter (by simp [member]))
      fun character member => own character (by simp [member])
    have head := lowerLetter_of_sameLetter same ascii noS noK (own _ List.mem_cons_self)
    rw [lowerKeyword, List.flatMap_cons, head, ← lowerKeyword, tail, List.singleton_append]

/-- A foreign letter leaves a character beyond ASCII in the small form. -/
theorem lowerKeyword_of_foreign {written : List Char} {character : Char}
    (member : character ∈ written) (foreign : isForeignI character = true) :
    ∃ other ∈ lowerKeyword written, 128 ≤ other.toNat := by
  simp only [isForeignI, Bool.or_eq_true, beq_iff_eq] at foreign
  rcases foreign with rfl | rfl
  · exact ⟨'\u0307', List.mem_flatMap.mpr ⟨_, member, by decide⟩, by decide⟩
  · exact ⟨'\u0131', List.mem_flatMap.mpr ⟨_, member, by decide⟩, by decide⟩

end Text

namespace SequenceDiagram

open Text

/-- The lines that are read as statements, where `active` tells whether a note is open
before them. The lines of a note, its first and its last among them, are no statements. -/
def outsideNotes : Bool → List String → List String
  | _, [] => []
  | active, line :: others =>
    if (expect "note " line.toList).isSome then outsideNotes true others
    else if line == "end note" then outsideNotes false others
    else if active then outsideNotes true others
    else line :: outsideNotes false others

/-- The keyword of a line that declares a participant, as it is written. -/
def keyword? (line : String) : Option (List Char) :=
  match Statement.ofLine? line with
  | some (.declaration ..) =>
    (firstKeyword Statement.declarationKeywords line.toList).map Prod.fst
  | _ => none

/-- What is wrong with the keyword of a line: one of its letters is foreign. -/
def misspelt? (line : String) : Option UnknownWord :=
  match keyword? line with
  | some written =>
    if written.any isForeignI then
      some ⟨quoted (String.ofList (lowerKeyword written)), "ParticipantKind"⟩
    else none
  | none => none

/-- Only the two forms of a declaration make one, and both keep the keyword in its small
form. -/
theorem keyword_of_declaration {line keyword name label : String}
    (read : Statement.ofLine? line = some (.declaration keyword name label)) :
    ∃ written rest,
      firstKeyword Statement.declarationKeywords line.toList = some (written, rest) ∧
      keyword = String.ofList (lowerKeyword written) := by
  obtain ⟨form, member, found⟩ := List.exists_of_findSome?_eq_some read
  simp only [Statement.forms, List.mem_cons, List.not_mem_nil, or_false] at member
  rcases member with rfl | rfl | rfl | rfl | rfl | rfl | rfl
  · simp [Statement.group?, Option.bind_eq_some_iff] at found
  · simp [Statement.openAlternative?, Option.bind_eq_some_iff] at found
  · simp at found
  · simp at found
  · simp only [Statement.quotedDeclaration?, Option.bind_eq_bind, Option.bind_eq_some_iff,
      Prod.exists] at found
    obtain ⟨written, rest, keyword, found⟩ := found
    exact ⟨written, rest, keyword, by grind⟩
  · simp only [Statement.plainDeclaration?, Option.bind_eq_bind, Option.bind_eq_some_iff,
      Prod.exists] at found
    obtain ⟨written, rest, keyword, found⟩ := found
    exact ⟨written, rest, keyword, by grind⟩
  · simp [Statement.message?, Option.bind_eq_some_iff] at found

/-- A keyword stands for a kind of participant unless one of its letters is foreign. -/
theorem choose_keyword {line written rest : List Char}
    (read : firstKeyword Statement.declarationKeywords line = some (written, rest)) :
    let word := String.ofList (lowerKeyword written)
    let kind := choose "ParticipantKind" ParticipantKind.all ParticipantKind.text word
    if written.any isForeignI then kind = .error ⟨quoted word, "ParticipantKind"⟩
    else ∃ known, kind = .ok known := by
  intro word kind
  obtain ⟨keyword, member, spelled⟩ := List.exists_of_findSome?_eq_some read
  obtain ⟨_, letterwise⟩ := readLetters_some spelled
  split
  · next foreign =>
    obtain ⟨character, inside, isForeign⟩ := List.any_eq_true.mp foreign
    obtain ⟨other, inWord, beyond⟩ := lowerKeyword_of_foreign inside isForeign
    -- the names of the kinds are ASCII
    have different : ∀ known : ParticipantKind, known.text ≠ word := by
      intro known same
      have inName : other ∈ known.text.toList := by rw [same, String.toList_ofList]; exact inWord
      have ascii : known.text.toList.all (fun letter => letter.toNat < 128) = true := by
        cases known <;> decide
      have low := of_decide_eq_true (List.all_eq_true.mp ascii other inName)
      omega
    simp [kind, choose, choose?, ParticipantKind.all, different]
  · next own =>
    have letters : ∀ character ∈ written, isForeignI character = false := by simpa using own
    have plain : ∀ letter ∈ keyword.toList,
        letter.toNat < 128 ∧ letter ≠ 's' ∧ letter ≠ 'k' := by
      have checked : keyword.toList.all
          (fun letter => letter.toNat < 128 ∧ letter ≠ 's' ∧ letter ≠ 'k') = true := by
        simp only [Statement.declarationKeywords, List.mem_cons, List.not_mem_nil,
          or_false] at member
        rcases member with rfl | rfl <;> decide
      exact fun letter inside => of_decide_eq_true (List.all_eq_true.mp checked letter inside)
    have same : word = keyword := by
      rw [show word = String.ofList (lowerKeyword written) from rfl,
        lowerKeyword_of_own plain letterwise letters, String.ofList_toList]
    simp only [Statement.declarationKeywords, List.mem_cons, List.not_mem_nil, or_false] at member
    rcases member with rfl | rfl
    · refine ⟨.participant, ?_⟩
      simp only [kind, same]
      rfl
    · refine ⟨.actor, ?_⟩
      simp only [kind, same]
      rfl

namespace Progress

/-- Statements leave notes alone. -/
theorem apply_keepsNote {progress next : Progress} {statement : Statement}
    (applied : progress.apply statement = .ok next) : next.note = progress.note := by
  have registered (progress : Progress) (name label : String) (kind : ParticipantKind) :
      (progress.register name label kind).note = progress.note := by
    simp only [register]
    split <;> rfl
  cases statement with
  | group label => exact Except.ok.inj applied ▸ rfl
  | openAlternative label => exact Except.ok.inj applied ▸ rfl
  | otherwise =>
    rw [← Except.ok.inj applied, otherwise]
    split <;> rfl
  | close =>
    rw [← Except.ok.inj applied, close]
    split <;> rfl
  | declaration keyword name label =>
    rw [apply] at applied
    cases chosen : choose "ParticipantKind" ParticipantKind.all ParticipantKind.text keyword with
    | error unknown => simp [chosen, Except.map] at applied
    | ok kind =>
      simp only [chosen, Except.map, Except.ok.injEq] at applied
      rw [← applied, registered]
  | message line =>
    rw [← Except.ok.inj applied]
    simp only [addMessage, registered]

/-- A line that is read as a statement fails exactly if its keyword is misspelt. -/
theorem readLine_statement {progress : Progress} {line : String}
    (opensNoNote : (expect "note " line.toList).isSome = false)
    (closesNoNote : (line == "end note") = false) (outside : progress.note.active = false) :
    match misspelt? line with
    | some unknown => progress.readLine line = .error unknown
    | none => ∃ next, progress.readLine line = .ok next ∧ next.note.active = false := by
  have finished (next : Progress) (applied : progress.readLine line = .ok next)
      (statement : Statement) (same : progress.readLine line = progress.apply statement) :
      next.note.active = false := by
    rw [apply_keepsNote (same.symm.trans applied), outside]
  cases read : Statement.ofLine? line with
  | none =>
    have nothing : misspelt? line = none := by simp [misspelt?, keyword?, read]
    rw [nothing]
    exact ⟨progress, by simp [readLine, opensNoNote, closesNoNote, outside, read], outside⟩
  | some statement =>
    have step : progress.readLine line = progress.apply statement := by
      simp [readLine, opensNoNote, closesNoNote, outside, read]
    cases statement with
    | declaration keyword name label =>
      obtain ⟨written, rest, begins, rfl⟩ := keyword_of_declaration read
      have own : keyword? line = some written := by simp [keyword?, read, begins]
      have chosen := choose_keyword begins
      simp only [misspelt?, own]
      split at chosen
      · next foreign =>
        simp only [foreign, if_true, step, apply, chosen]
        rfl
      · next plain =>
        obtain ⟨kind, known⟩ := chosen
        have applied : progress.readLine line = .ok (progress.register name label kind) := by
          rw [step, apply, known]
          rfl
        simp only [plain]
        exact ⟨_, applied, finished _ applied _ step⟩
    | _ =>
      have nothing : misspelt? line = none := by simp [misspelt?, keyword?, read]
      rw [nothing]
      exact ⟨_, step, finished _ step _ step⟩

/-- Reading fails at the first misspelt keyword outside of notes, and only there. -/
theorem readLines_eq_error_iff (progress : Progress) (lines : List String)
    (unknown : UnknownWord) :
    progress.readLines lines = .error unknown ↔
      (outsideNotes progress.note.active lines).findSome? misspelt? = some unknown := by
  induction lines generalizing progress with
  | nil => simp [readLines, outsideNotes]
  | cons line others inductionHypothesis =>
    have goOn {next : Progress} (read : progress.readLine line = .ok next) :
        progress.readLines (line :: others) = next.readLines others := by
      rw [readLines, read]
    rw [outsideNotes]
    split
    · next opens =>
      have read : progress.readLine line = .ok { progress with note := Note.start line } := by
        simp [readLine, opens]
      rw [goOn read, inductionHypothesis]
      rfl
    · next opensNot =>
      split
      · next closes =>
        have read : progress.readLine line = .ok progress.attachNote := by
          simp [readLine, opensNot, closes]
        rw [goOn read, inductionHypothesis]
        rfl
      · next closesNot =>
        cases active : progress.note.active with
        | true =>
          have read : progress.readLine line =
              .ok { progress with note := progress.note.add line } := by
            simp [readLine, opensNot, closesNot, active]
          rw [goOn read, inductionHypothesis]
          simp [Note.add, active]
        | false =>
          have here := readLine_statement (by simpa using opensNot) (by simpa using closesNot)
            active
          rw [if_neg (by simp), List.findSome?_cons]
          cases wrong : misspelt? line with
          | some other =>
            rw [wrong] at here
            simp [readLines, here]
          | none =>
            rw [wrong] at here
            obtain ⟨next, read, outside⟩ := here
            rw [goOn read, inductionHypothesis, outside]

end Progress

end SequenceDiagram

end Drafting
