import Drafting.Proofs.Text.Scan

/-!
# How far a reader looks

A reader that has to see where a text ends looks no further than at what it takes: whatever it
finds, it finds at the same place with something else behind it. Readers that are put together
from such readers are of the same kind.

The main statement is that such a reader, where it does not go beyond a text, finds the same
with everything that may stand behind the text.
-/

namespace Drafting.Text

variable {α β : Type}

/-- A reader that finds nothing but only moves on takes a fixed part of each text in which it
succeeds, whatever stands behind it. -/
def SkipsLocally (reader : List Char → Option (List Char)) : Prop :=
  ∀ text rest, reader text = some rest →
    ∃ taken, text = taken ++ rest ∧ ∀ behind, reader (taken ++ behind) = some behind

/-- What a reader finds, it finds in the part of the text that it takes, whatever stands behind
it. -/
def ReadsLocally (reader : List Char → Option (α × List Char)) : Prop :=
  ∀ text found rest, reader text = some (found, rest) →
    ∃ taken, text = taken ++ rest ∧ ∀ behind, reader (taken ++ behind) = some (found, behind)

namespace SkipsLocally

/-- A fixed text is taken as it is. -/
theorem expect (literal : String) : SkipsLocally (expect literal) := by
  intro text rest found
  exact ⟨literal.toList, (List.isPrefixOf?_eq_some_iff_append_eq.mp found).symm,
    expect_append literal⟩

/-- One reader goes on where another one stopped. -/
theorem bind {first second : List Char → Option (List Char)} (firstLocal : SkipsLocally first)
    (secondLocal : SkipsLocally second) : SkipsLocally fun text => (first text).bind second := by
  intro text rest found
  obtain ⟨middle, before, after⟩ := Option.bind_eq_some_iff.mp found
  obtain ⟨front, rfl, here⟩ := firstLocal text middle before
  obtain ⟨back, rfl, there⟩ := secondLocal middle rest after
  refine ⟨front ++ back, by rw [List.append_assoc], ?_⟩
  intro behind
  simp only [List.append_assoc, here, Option.bind_some, there]

/-- Blanks are skipped before a text that begins with a visible character. -/
theorem dropBlanks_expect {literal : String} {mark : Char}
    (begins : literal.toList.head? = some mark) (visible : isBlank mark = false) :
    SkipsLocally fun text => Text.expect literal (dropBlanks text) := by
  intro text rest found
  have split := List.isPrefixOf?_eq_some_iff_append_eq.mp found
  refine ⟨text.takeWhile isBlank ++ literal.toList, ?_, ?_⟩
  · rw [List.append_assoc, split, dropBlanks, List.takeWhile_append_dropWhile]
  · intro behind
    have blank : ∀ character ∈ text.takeWhile isBlank, isBlank character = true :=
      List.all_eq_true.mp List.all_takeWhile
    have stops : (literal.toList ++ behind).dropWhile isBlank = literal.toList ++ behind := by
      cases characters : literal.toList with
      | nil => simp [characters] at begins
      | cons first others =>
        obtain rfl : first = mark := by simpa [characters] using begins
        exact dropBlanks_cons_of_not_blank _ visible
    beta_reduce
    rw [List.append_assoc, dropBlanks, List.dropWhile_append_of_pos blank, stops]
    exact expect_append literal behind

/-- What is left is an end of the text. -/
theorem suffix {reader : List Char → Option (List Char)} (readerLocal : SkipsLocally reader)
    {text rest : List Char} (found : reader text = some rest) : rest <:+ text := by
  obtain ⟨taken, rfl, _⟩ := readerLocal text rest found
  exact List.suffix_append taken rest

/-- One reader is tried after another one that fails wherever it succeeds. -/
theorem orElse {first second : List Char → Option (List Char)} (firstLocal : SkipsLocally first)
    (secondLocal : SkipsLocally second)
    (excludes : ∀ text, (second text).isSome → first text = none) :
    SkipsLocally fun text => first text <|> second text := by
  intro text rest found
  cases read : first text with
  | some left =>
    obtain rfl : left = rest := by simpa [read] using found
    obtain ⟨taken, split, here⟩ := firstLocal text left read
    exact ⟨taken, split, fun behind => by simp [here]⟩
  | none =>
    have later : second text = some rest := by simpa [read] using found
    obtain ⟨taken, split, there⟩ := secondLocal text rest later
    refine ⟨taken, split, ?_⟩
    intro behind
    have fails := excludes (taken ++ behind) (by rw [there, Option.isSome_some])
    simp [fails, there]

end SkipsLocally

namespace ReadsLocally

/-- A reader that moves on has found whatever is made of that. -/
theorem of_skips {skip : List Char → Option (List Char)} (skipLocal : SkipsLocally skip)
    (value : α) : ReadsLocally fun text => (skip text).map (value, ·) := by
  intro text found rest read
  obtain ⟨left, before, same⟩ := Option.map_eq_some_iff.mp read
  obtain ⟨rfl, rfl⟩ := Prod.mk.inj same
  obtain ⟨taken, split, here⟩ := skipLocal text left before
  refine ⟨taken, split, ?_⟩
  intro behind
  simp only [here, Option.map_some]

/-- What was found need not be kept. -/
theorem skips {reader : List Char → Option (α × List Char)} (readerLocal : ReadsLocally reader) :
    SkipsLocally fun text => (reader text).map Prod.snd := by
  intro text rest read
  obtain ⟨⟨found, left⟩, before, rfl⟩ := Option.map_eq_some_iff.mp read
  obtain ⟨taken, split, here⟩ := readerLocal text found left before
  refine ⟨taken, split, ?_⟩
  intro behind
  simp only [here, Option.map_some]

/-- A reader goes on where another one moved to. -/
theorem behind {skip : List Char → Option (List Char)}
    {reader : List Char → Option (α × List Char)} (readerLocal : ReadsLocally reader)
    (skipLocal : SkipsLocally skip) : ReadsLocally fun text => (skip text).bind reader := by
  intro text found rest read
  obtain ⟨middle, before, after⟩ := Option.bind_eq_some_iff.mp read
  obtain ⟨front, rfl, here⟩ := skipLocal text middle before
  obtain ⟨back, rfl, there⟩ := readerLocal middle found rest after
  refine ⟨front ++ back, by rw [List.append_assoc], ?_⟩
  intro behind
  simp only [List.append_assoc, here, Option.bind_some, there]

/-- A reader goes on where another one stopped, with what that found. -/
theorem bind {first : List Char → Option (α × List Char)}
    {second : α → List Char → Option (β × List Char)} (firstLocal : ReadsLocally first)
    (secondLocal : ∀ found, ReadsLocally (second found)) :
    ReadsLocally fun text => (first text).bind fun read => second read.1 read.2 := by
  intro text found rest read
  obtain ⟨⟨value, middle⟩, before, after⟩ := Option.bind_eq_some_iff.mp read
  obtain ⟨front, rfl, here⟩ := firstLocal text value middle before
  obtain ⟨back, rfl, there⟩ := secondLocal value middle found rest after
  refine ⟨front ++ back, by rw [List.append_assoc], ?_⟩
  intro behind
  simp only [List.append_assoc, here, Option.bind_some, there]

/-- What was found is put into another form. -/
theorem map {reader : List Char → Option (α × List Char)} (readerLocal : ReadsLocally reader)
    (make : α → β) :
    ReadsLocally fun text => (reader text).map fun read => (make read.1, read.2) := by
  intro text found rest read
  obtain ⟨⟨value, left⟩, before, same⟩ := Option.map_eq_some_iff.mp read
  obtain ⟨rfl, rfl⟩ := Prod.mk.inj same
  obtain ⟨taken, split, here⟩ := readerLocal text value left before
  refine ⟨taken, split, ?_⟩
  intro behind
  simp only [here, Option.map_some]

/-- A run is taken as a whole where what goes on behind it begins with a character that it does
not accept. -/
theorem run {accepts : Char → Bool} {next : List Char → List Char → Option (β × List Char)}
    (nextLocal : ∀ run, ReadsLocally (next run))
    (refuses : ∀ run text, (next run text).isSome →
      ∀ character ∈ text.head?, accepts character = false) :
    ReadsLocally fun text => (run? accepts text).bind fun read => next read.1 read.2 := by
  intro text found rest read
  obtain ⟨⟨run, middle⟩, before, after⟩ := Option.bind_eq_some_iff.mp read
  obtain ⟨rfl, nonempty, accepted⟩ := split_of_run? before
  obtain ⟨back, rfl, there⟩ := nextLocal run middle found rest after
  refine ⟨run ++ back, by rw [List.append_assoc], ?_⟩
  intro behind
  have ended := refuses run (back ++ behind) (by rw [there, Option.isSome_some])
  simp only [List.append_assoc, run?_of_forced nonempty accepted ended, Option.bind_some, there]

/-- What is left is an end of the text. -/
theorem suffix {reader : List Char → Option (α × List Char)} (readerLocal : ReadsLocally reader)
    {text rest : List Char} {found : α} (read : reader text = some (found, rest)) :
    rest <:+ text := by
  obtain ⟨taken, rfl, _⟩ := readerLocal text found rest read
  exact List.suffix_append taken rest

/-- What is found in a text without going beyond it is found there with everything that may stand
behind the text. -/
theorem transfer {reader : List Char → Option (α × List Char)} (readerLocal : ReadsLocally reader)
    {text behind rest : List Char} {found : α} (read : reader (text ++ behind) = some (found, rest))
    (stays : behind.length ≤ rest.length) :
    ∃ left, rest = left ++ behind ∧ ∀ other, reader (text ++ other) = some (found, left ++ other) := by
  obtain ⟨taken, split, here⟩ := readerLocal (text ++ behind) found rest read
  rcases List.append_eq_append_iff.mp split with ⟨beyond, rfl, rfl⟩ | ⟨left, rfl, rfl⟩
  · rw [List.length_append] at stays
    obtain rfl : beyond = [] := List.eq_nil_of_length_eq_zero (by omega)
    refine ⟨[], rfl, ?_⟩
    intro other
    rw [List.append_nil] at here
    exact here other
  · refine ⟨left, rfl, ?_⟩
    intro other
    rw [List.append_assoc]
    exact here (left ++ other)

end ReadsLocally

end Drafting.Text
