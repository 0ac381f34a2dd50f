import Drafting.Json.Access
import Drafting.Json.Reader
import Drafting.Json.Writer

/-!
# Reading what was written

A string may hold any character: those that would end it or are no part of a JSON text are
written as escapes, each of which is read as the character it stands for. The members of an
object are read in order, so they are found again if no name occurs twice.

The main statement is that strings, and objects whose values are read back, are read back from
their texts, whatever follows these texts.
-/

namespace Drafting.Json

/-- The number of a control character is written with two zeros and two more digits. -/
theorem hexDigits_control {number : Nat} (control : number < 0x20) :
    Text.hexDigits 4 number =
      ['0', '0', Nat.digitChar (number / 16), Nat.digitChar (number % 16)] := by
  have second : number / 16 % 16 = number / 16 := by omega
  have none : number / 16 / 16 = 0 := by omega
  simp [Text.hexDigits, second, none]

/-- The number of a control character is read from its digits. -/
theorem codeUnit?_control : ∀ number < 0x20,
    codeUnit? '0' '0' (Nat.digitChar (number / 16)) (Nat.digitChar (number % 16)) =
      some number := by
  decide

/-- An escape for a control character is read as this character. -/
theorem readString_control (opening : Nat) (read rest : List Char) {character : Char}
    (control : character.toNat < 0x20) (more : rest ≠ []) :
    readString opening 0 (some read)
        ('\\' :: 'u' :: Text.hexDigits 4 character.toNat ++ rest) =
      readString opening 0 (some (character :: read)) rest := by
  obtain ⟨next, others, rfl⟩ := List.exists_cons_of_ne_nil more
  have below : ¬ 0xD800 ≤ character.toNat := by omega
  have noHalf : (0xD800 ≤ character.toNat && character.toNat ≤ 0xDBFF) = false := by simp [below]
  have noPart : (0xD800 ≤ character.toNat && character.toNat ≤ 0xDFFF) = false := by simp [below]
  rw [hexDigits_control control]
  simp only [List.cons_append, List.nil_append]
  rw [readString]
  simp only [codeUnit?_control _ control, noHalf, characterOfUnit?, noPart, Char.ofNat_toNat,
    Bool.false_eq_true, if_false, Option.bind_some, Option.map_some, readString,
    show ('\\' == '\x22') = false from rfl, beq_self_eq_true, if_true]

/-- What is written for a character of a string is read as this character, if the string goes on
or is closed behind it. -/
theorem readString_stringCharacter (opening : Nat) (read : List Char) (character : Char)
    {rest : List Char} (more : rest ≠ []) :
    readString opening 0 (some read) (stringCharacter character ++ rest) =
      readString opening 0 (some (character :: read)) rest := by
  rw [stringCharacter.eq_def]
  split
  · rfl
  · rfl
  · rfl
  · rfl
  · rfl
  · rfl
  · rfl
  · next noMark noBackslash _ _ _ _ _ =>
    split
    · next control => exact readString_control opening read rest control more
    · next noControl =>
      have notMark : (character == '\x22') = false := beq_eq_false_iff_ne.mpr noMark
      have notBackslash : (character == '\\') = false := beq_eq_false_iff_ne.mpr noBackslash
      rw [List.singleton_append, readString.eq_def]
      simp only [notMark, notBackslash, noControl, Bool.false_eq_true, if_false, Option.map_some]

/-- A string is read up to the mark that closes it. -/
theorem readString_flatMap (opening : Nat) (read text rest : List Char) :
    readString opening 0 (some read) (text.flatMap stringCharacter ++ '\x22' :: rest) =
      .ok (some (String.ofList (read.reverse ++ text)), rest) := by
  induction text generalizing read with
  | nil => simp [readString]
  | cons character others inductionHypothesis =>
    rw [List.flatMap_cons, List.append_assoc,
      readString_stringCharacter opening read character (by simp), inductionHypothesis,
      List.reverse_cons, List.append_assoc, List.singleton_append]

/-- A written string is read up to the mark that closes it. -/
theorem readString_stringCharacters (opening : Nat) (text : String) (rest : List Char) :
    ∃ inner, stringCharacters text ++ rest = '\x22' :: inner ∧
      readString opening 0 (some []) inner = .ok (some text, rest) := by
  refine ⟨text.toList.flatMap stringCharacter ++ '\x22' :: rest, ?_, ?_⟩
  · simp [stringCharacters]
  · rw [readString_flatMap, List.reverse_nil, List.nil_append, String.ofList_toList]

/-- A member with a new name is put behind the others. -/
theorem setMember_of_notMem {name : String} (value : Json) {members : List (String × Json)}
    (new : name ∉ members.map Prod.fst) :
    setMember name value members = members ++ [(name, value)] := by
  induction members with
  | nil => rfl
  | cons first others inductionHypothesis =>
    rw [List.map_cons, List.mem_cons, not_or] at new
    rw [setMember, if_neg (Ne.symm new.1), inductionHypothesis new.2, List.cons_append]

/-- A value is read back from its text, whatever follows it: the text begins with a mark of its
own, and there is a step for each character. -/
structure IsReadBack (value : Json) : Prop where
  begins : ∃ mark others, value.characters = mark :: others ∧ isBlank mark = false ∧
    mark ≠ '\ufeff'
  read : ∀ fuel rest, value.characters.length ≤ fuel →
    readValue fuel (value.characters ++ rest) = .ok (value, rest)

/-- No blanks stand before a value that is read back. -/
theorem IsReadBack.dropBlanks_characters {value : Json} (readBack : IsReadBack value)
    (rest : List Char) :
    dropBlanks (value.characters ++ rest) = value.characters ++ rest := by
  obtain ⟨mark, others, begins, noBlank, -⟩ := readBack.begins
  rw [begins, List.cons_append, dropBlanks, List.dropWhile_cons_of_neg (by simp [noBlank])]

/-- Strings are read back. -/
theorem isReadBack_string (text : String) : IsReadBack (string text) := by
  constructor
  · exact ⟨'\x22', _, rfl, rfl, by decide⟩
  · intro fuel rest enough
    obtain ⟨inner, written, read⟩ :=
      readString_stringCharacters (stringCharacters text ++ rest).length text rest
    obtain ⟨left, rfl⟩ : ∃ left, fuel = left + 1 := by
      cases fuel with
      | zero => simp [characters, stringCharacters] at enough
      | succ left => exact ⟨left, rfl⟩
    rw [written] at read
    rw [characters, written, readValue]
    simp only [read]

/-- What is read behind a member: nothing behind the brace that closes the object, or the next
member behind a comma. -/
def readBehindMember (fuel : Nat) (members : List (String × Json)) (behind : List Char) :
    Except Failure (Json × List Char) :=
  match dropBlanks behind with
  | '\x7d' :: rest => .ok (object members, rest)
  | ',' :: rest => readMembers fuel (some members) (dropBlanks rest)
  | rest => .error ⟨.commaExpected, rest.length⟩

/-- One member is read, and what follows it decides how to go on. -/
theorem readMembers_member {before : List (String × Json)} {name : String} {value : Json}
    {fuel : Nat} (readBack : IsReadBack value) (new : name ∉ before.map Prod.fst)
    (enough : value.characters.length ≤ fuel) (behind : List Char) :
    readMembers (fuel + 1) (some before)
        (stringCharacters name ++ ':' :: (value.characters ++ behind)) =
      readBehindMember fuel (before ++ [(name, value)]) behind := by
  obtain ⟨inner, written, read⟩ := readString_stringCharacters
    (stringCharacters name ++ ':' :: (value.characters ++ behind)).length name
    (':' :: (value.characters ++ behind))
  have atColon : dropBlanks (':' :: (value.characters ++ behind)) =
      ':' :: (value.characters ++ behind) := rfl
  rw [written] at read ⊢
  rw [readMembers]
  simp only [read, atColon, readBack.dropBlanks_characters, readBack.read fuel behind enough,
    Option.bind_some, Option.map_some, setMember_of_notMem value new, Option.getD_some]
  rfl

/-- Behind a member stand a comma and the next one. -/
theorem dropBlanks_memberCharacters (name : String) (value : Json)
    (others : List (String × Json)) (rest : List Char) :
    dropBlanks (memberCharacters ((name, value) :: others) ++ rest) =
      ',' :: (stringCharacters name ++
        ':' :: (value.characters ++ (memberCharacters others ++ rest))) := by
  simp [memberCharacters, dropBlanks, isBlank]

/-- No blanks stand before a string. -/
theorem dropBlanks_stringCharacters (text : String) (rest : List Char) :
    dropBlanks (stringCharacters text ++ rest) = stringCharacters text ++ rest := rfl

/-- A name in front of others that are distinct is none of those before it. -/
theorem new_of_distinct {before others : List (String × Json)} {name : String} {value : Json}
    (distinct : ((before ++ (name, value) :: others).map Prod.fst).Nodup) :
    name ∉ before.map Prod.fst := by
  intro member
  rw [List.map_append, List.nodup_append] at distinct
  exact distinct.2.2 name member name List.mem_cons_self rfl

/-- The members of an object are read up to the brace that closes it, behind those already
read. -/
theorem readMembers_memberCharacters {before others : List (String × Json)} {name : String}
    {value : Json} {fuel : Nat} (rest : List Char)
    (readBack : ∀ member ∈ (name, value) :: others, IsReadBack member.2)
    (distinct : ((before ++ (name, value) :: others).map Prod.fst).Nodup)
    (enough : (value.characters ++ memberCharacters others).length ≤ fuel) :
    readMembers (fuel + 1) (some before)
        (stringCharacters name ++ ':' :: (value.characters ++ (memberCharacters others ++ rest))) =
      .ok (object (before ++ (name, value) :: others), rest) := by
  -- The members already read grow, so the statement is about any of them.
  induction others generalizing before name value fuel with
  | nil =>
    rw [List.length_append] at enough
    rw [readMembers_member (readBack (name, value) List.mem_cons_self) (new_of_distinct distinct)
      (Nat.le_of_add_right_le enough)]
    rfl
  | cons second others inductionHypothesis =>
    obtain ⟨secondName, secondValue⟩ := second
    have longer : (memberCharacters ((secondName, secondValue) :: others)).length =
        (stringCharacters secondName).length + 2 +
          (secondValue.characters ++ memberCharacters others).length := by
      simp [memberCharacters]
      omega
    rw [List.length_append, longer] at enough
    obtain ⟨left, rfl⟩ : ∃ left, fuel = left + 1 := Nat.exists_eq_succ_of_ne_zero (by omega)
    have distinctBehind : (((before ++ [(name, value)]) ++
        (secondName, secondValue) :: others).map Prod.fst).Nodup := by
      rwa [List.append_assoc, List.singleton_append]
    have further := inductionHypothesis
      (fun member isMember => readBack member (List.mem_cons_of_mem _ isMember))
      distinctBehind (show _ ≤ left by omega)
    rw [readMembers_member (readBack (name, value) List.mem_cons_self) (new_of_distinct distinct)
      (Nat.le_of_add_right_le enough), readBehindMember, dropBlanks_memberCharacters]
    simp only [dropBlanks_stringCharacters, further, List.append_assoc, List.singleton_append]

/-- An object is read back if its values are and no name occurs twice. -/
theorem isReadBack_object {members : List (String × Json)}
    (readBack : ∀ member ∈ members, IsReadBack member.2)
    (distinct : (members.map Prod.fst).Nodup) : IsReadBack (object members) := by
  rcases members with _ | ⟨⟨name, value⟩, others⟩
  · constructor
    · exact ⟨'\x7b', _, rfl, rfl, by decide⟩
    · intro fuel rest enough
      have positive : 2 ≤ fuel := enough
      obtain ⟨left, rfl⟩ : ∃ left, fuel = left + 1 := Nat.exists_eq_add_of_le' (by omega)
      rfl
  · have written : characters (object ((name, value) :: others)) =
        '\x7b' :: (stringCharacters name ++
          ':' :: (value.characters ++ memberCharacters others)) := by
      simp [characters]
    constructor
    · exact ⟨'\x7b', _, written, rfl, by decide⟩
    · intro fuel rest enough
      have shorter : (value.characters ++ memberCharacters others).length + 2 ≤ fuel := by
        rw [written, List.length_cons, List.length_append, List.length_cons] at enough
        omega
      obtain ⟨left, rfl⟩ : ∃ left, fuel = left + 2 := Nat.exists_eq_add_of_le' (by omega)
      have further := readMembers_memberCharacters rest readBack
        (by rwa [List.nil_append]) (show _ ≤ left by omega)
      rw [written, List.cons_append, List.append_assoc, List.cons_append, List.append_assoc,
        readValue, dropBlanks_stringCharacters]
      exact further

/-- The text of a value that is read back is a whole text. -/
theorem IsReadBack.ofText_text {value : Json} (readBack : IsReadBack value) :
    ofText value.text = .ok value := by
  have whole : readAll value.characters = .ok value := by
    obtain ⟨mark, others, begins, noBlank, noMark⟩ := readBack.begins
    have noneBefore := readBack.dropBlanks_characters []
    have read := readBack.read (2 * value.characters.length + 2) [] (by omega)
    rw [List.append_nil] at read noneBefore
    rw [readAll]
    · simp only [noneBefore, read]
      rfl
    · intro _ marked
      rw [begins] at marked
      exact noMark (List.head_eq_of_cons_eq marked)
  simp only [ofText, text, String.toList_ofList, whole]

end Drafting.Json
