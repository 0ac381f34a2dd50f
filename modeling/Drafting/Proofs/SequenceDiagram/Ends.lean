import Drafting.Proofs.Blocks
import Drafting.Proofs.Closings
import Drafting.Proofs.SequenceDiagram.Alternatives

/-!
# Where alternatives end

The reader of sequences knows alternatives and no other blocks. Between notes it keeps the open
ones on a stack, and every end takes the innermost one off. The label and the beginning of an
alternative never change, and one that is closed is not changed at all.

The main statement is that an alternative ends at the first end that finds the alternatives
around it open as they were at its opening.
-/

namespace Drafting.SequenceDiagram

open Text

/-- Whether a statement neither opens nor closes an alternative. -/
def Statement.isPlain : Statement → Bool
  | .openAlternative _ | .close => false
  | _ => true

/-- Whether a line has to do neither with notes nor with openings and ends of alternatives. -/
def isPlain (line : String) : Bool :=
  !(expect "note " line.toList).isSome && !(line == "end note") &&
    (Statement.ofLine? line).all Statement.isPlain

/-- The opening of an option, a loop or a parallel block is plain: it says nothing, or it is
read as a message. -/
theorem isPlain_ignored {keyword : String} (member : keyword ∈ ["opt ", "loop ", "par "])
    (text : String) : isPlain (keyword ++ text) := by
  have plain (statement : Statement) (read : Statement.ofLine? (keyword ++ text) = some statement) :
      statement.isPlain := by
    obtain ⟨form, isForm, found⟩ := List.exists_of_findSome?_eq_some read
    rw [String.toList_append] at found
    simp only [Statement.forms, List.mem_cons, List.not_mem_nil, or_false] at isForm member
    rcases isForm with rfl | rfl | rfl | rfl | rfl | rfl | rfl
    case inr.inr.inr.inr.inr.inr =>
      obtain ⟨_, _, message⟩ := Option.bind_eq_some_iff.mp found
      exact Option.some.inj message ▸ rfl
    all_goals
      rcases member with rfl | rfl | rfl
      all_goals exact absurd found.symm (Option.some_ne_none _)
  have begins : "end note".toList.head? = some 'e' := rfl
  have noNote : (expect "note " (keyword ++ text).toList).isSome = false ∧
      (keyword ++ text == "end note") = false := by
    simp only [List.mem_cons, List.not_mem_nil, or_false] at member
    rcases member with rfl | rfl | rfl
    all_goals
      refine ⟨?_, beq_eq_false_of_head? begins (by simp)⟩
      rw [String.toList_append]
      rfl
  rw [isPlain, noNote.1, noNote.2]
  cases read : Statement.ofLine? (keyword ++ text) with
  | none => rfl
  | some statement => exact plain statement read

namespace Progress

/-- Registering a participant leaves alternatives, open or not, as they are. -/
theorem register_alternatives (progress : Progress) (name label : String)
    (kind : ParticipantKind) :
    (progress.register name label kind).diagram.fragments = progress.diagram.fragments ∧
      (progress.register name label kind).alternatives = progress.alternatives := by
  rw [register]
  split <;> exact ⟨rfl, rfl⟩

/-- A plain statement leaves the open alternatives as they are. -/
theorem apply_alternatives {progress next : Progress} {statement : Statement}
    (plain : statement.isPlain) (applied : progress.apply statement = .ok next) :
    next.alternatives = progress.alternatives := by
  cases statement with
  | group label => exact Except.ok.inj applied ▸ rfl
  | openAlternative label => contradiction
  | otherwise =>
    rw [← Except.ok.inj applied, otherwise]
    split <;> rfl
  | close => contradiction
  | declaration keyword name label =>
    rw [apply] at applied
    cases chosen : choose "ParticipantKind" ParticipantKind.all ParticipantKind.text keyword with
    | error unknown => simp [chosen, Except.map] at applied
    | ok kind =>
      simp only [chosen, Except.map, Except.ok.injEq] at applied
      rw [← applied]
      exact (register_alternatives ..).2
  | message line =>
    rw [← Except.ok.inj applied]
    simp only [addMessage, register_alternatives]

/-- Outside of notes a plain line leaves notes and open alternatives as they are. -/
theorem feed_plain {progress : Progress} (outside : progress.note.active = false)
    {line : String} (plain : isPlain line) :
    (progress.feed line).note.active = false ∧
      (progress.feed line).alternatives = progress.alternatives := by
  simp only [isPlain, Bool.and_eq_true, Bool.not_eq_true'] at plain
  obtain ⟨⟨opensNot, closesNot⟩, keeps⟩ := plain
  cases read : Statement.ofLine? line with
  | none =>
    have same : progress.feed line = progress := by
      simp [feed, readLine, opensNot, closesNot, outside, read]
    rw [same]
    exact ⟨outside, rfl⟩
  | some statement =>
    have carried : progress.readLine line = progress.apply statement := by
      simp [readLine, opensNot, closesNot, outside, read]
    rw [read] at keeps
    cases applied : progress.apply statement with
    | error unknown =>
      have same : progress.feed line = progress := by rw [feed, carried, applied]
      rw [same]
      exact ⟨outside, rfl⟩
    | ok next =>
      have reached : progress.feed line = next := by rw [feed, carried, applied]
      rw [reached, apply_keepsNote applied, apply_alternatives keeps applied]
      exact ⟨outside, rfl⟩

/-- A line with the keyword of an alternative opens it. -/
theorem readLine_alternative {progress : Progress} (outside : progress.note.active = false)
    (condition : String) :
    progress.readLine ("alt " ++ condition) =
      .ok (progress.openAlternative (trimmed condition)) := by
  have opensNot : (expect "note " ("alt " ++ condition).toList).isSome = false := by
    rw [String.toList_append]
    rfl
  have begins : "end note".toList.head? = some 'e' := rfl
  have closesNot : ("alt " ++ condition == "end note") = false :=
    beq_eq_false_of_head? begins (by simp)
  have read : Statement.ofLine? ("alt " ++ condition) =
      some (.openAlternative (trimmed condition)) := by
    rw [Statement.ofLine?, String.toList_append]
    rfl
  rw [readLine, opensNot, closesNot, outside, read]
  rfl

end Progress

/-- The reader of sequences with the alternatives that are open. -/
def stackReader : StackReader Progress where
  read := Progress.feed
  stack := Progress.alternatives
  isReady progress := progress.note.active = false
  closing := "end"
  isPlain := isPlain
  isOpening line := (expect "alt " line.toList).isSome
  plain := fun outside plain => Progress.feed_plain outside plain
  opens := by
    intro progress line outside opening
    obtain ⟨condition, found⟩ := Option.isSome_iff_exists.mp opening
    have whole := List.isPrefixOf?_eq_some_iff_append_eq.mp found
    obtain rfl : line = "alt " ++ String.ofList condition := by
      rw [← String.toList_inj, ← whole, String.toList_append]
      exact congrArg ("alt ".toList ++ ·) String.toList_ofList.symm
    rw [Progress.feed, Progress.readLine_alternative outside]
    exact ⟨outside, _, rfl⟩
  closes := by
    intro progress outside
    rw [Progress.feed, Progress.readLine_close outside, Progress.close]
    cases alternatives : progress.alternatives with
    | nil => exact ⟨outside, alternatives⟩
    | cons innermost outer => exact ⟨outside, rfl⟩

namespace Progress

/-- Reading that does not fail is feeding all lines. -/
theorem run_of_readLines {progress final : Progress} {lines : List String}
    (read : progress.readLines lines = .ok final) : stackReader.run progress lines = final := by
  induction lines generalizing progress with
  | nil => exact Except.ok.inj read
  | cons line others inductionHypothesis =>
    rw [readLines] at read
    cases first : progress.readLine line with
    | error unknown => simp [first] at read
    | ok next =>
      rw [first] at read
      have fed : stackReader.read progress line = next := by
        rw [show stackReader.read progress line = progress.feed line from rfl, feed, first]
      rw [StackReader.run, List.foldl_cons, fed]
      exact inductionHypothesis read

/-- Lines one after the other are read one part behind the other. -/
theorem readLines_append {progress final : Progress} {before behind : List String}
    (read : progress.readLines (before ++ behind) = .ok final) :
    ∃ between, progress.readLines before = .ok between ∧
      between.readLines behind = .ok final := by
  induction before generalizing progress with
  | nil => exact ⟨progress, rfl, read⟩
  | cons line others inductionHypothesis =>
    rw [List.cons_append, readLines] at read
    cases first : progress.readLine line with
    | error unknown => simp [first] at read
    | ok next =>
      rw [first] at read
      obtain ⟨between, early, late⟩ := inductionHypothesis read
      refine ⟨between, ?_, late⟩
      rw [readLines, first]
      exact early

/-- What may happen to an alternative from one state to a later one: it keeps its label and its
beginning, and it stays as it is if it is no longer open. -/
def Follows (position : Nat) (fragment : Fragment) (progress next : Progress) : Prop :=
  (∃ current, next.diagram.fragments[position]? = some current ∧
    current.label = fragment.label ∧ current.startIndex = fragment.startIndex) ∧
  (position ∉ progress.alternatives →
    next.diagram.fragments[position]? = some fragment ∧ position ∉ next.alternatives)

/-- Nothing happens where alternatives stay as they are. -/
theorem Follows.of_same {position : Nat} {fragment : Fragment} {progress next : Progress}
    (found : progress.diagram.fragments[position]? = some fragment)
    (fragments : next.diagram.fragments = progress.diagram.fragments)
    (alternatives : next.alternatives = progress.alternatives) :
    Follows position fragment progress next := by
  rw [Follows, fragments, alternatives]
  exact ⟨⟨fragment, found, rfl, rfl⟩, fun closed => ⟨found, closed⟩⟩

/-- A change to an open alternative that leaves labels and beginnings. -/
theorem Follows.of_modify {position : Nat} {fragment : Fragment} {progress next : Progress}
    (found : progress.diagram.fragments[position]? = some fragment)
    {changed : Nat} (isOpen : changed ∈ progress.alternatives) {change : Fragment → Fragment}
    (fragments : next.diagram.fragments = progress.diagram.fragments.modify changed change)
    (alternatives : next.alternatives ⊆ progress.alternatives)
    (same : ∀ fragment, (change fragment).label = fragment.label ∧
      (change fragment).startIndex = fragment.startIndex) :
    Follows position fragment progress next := by
  rw [Follows, fragments]
  constructor
  · by_cases here : changed = position
    · exact ⟨change fragment, getElem?_modify_eq_some_iff.mpr ⟨fragment, found, if_pos here⟩,
        same fragment⟩
    · exact ⟨fragment, getElem?_modify_eq_some_iff.mpr ⟨fragment, found, if_neg here⟩, rfl, rfl⟩
  · intro closed
    have other : changed ≠ position := by
      rintro rfl
      exact closed isOpen
    exact ⟨getElem?_modify_eq_some_iff.mpr ⟨fragment, found, if_neg other⟩,
      fun member => closed (alternatives member)⟩

/-- This is all that one line can do to an alternative. -/
theorem follows_step {progress next : Progress} (step : Step progress next) {position : Nat}
    {fragment : Fragment} (found : progress.diagram.fragments[position]? = some fragment) :
    Follows position fragment progress next := by
  cases step with
  | note note => exact .of_same found rfl rfl
  | attachNote => exact .of_same found rfl rfl
  | group label => exact .of_same found rfl rfl
  | openAlternative label =>
    have old : (progress.openAlternative label).diagram.fragments[position]? = some fragment :=
      getElem?_concat_eq_some_iff.mpr (.inl found)
    have below := (List.getElem?_eq_some_iff.mp found).1
    refine ⟨⟨fragment, old, rfl, rfl⟩, fun closed => ⟨old, ?_⟩⟩
    exact List.not_mem_cons_of_ne_of_not_mem (Nat.ne_of_lt below) closed
  | otherwise =>
    rw [otherwise]
    split
    · exact .of_same found rfl rfl
    · next alternatives =>
      exact .of_modify found (by simp [alternatives]) rfl (List.Subset.refl _)
        fun _ => ⟨rfl, rfl⟩
  | close =>
    rw [close]
    split
    · exact .of_same found rfl rfl
    · next alternatives =>
      exact .of_modify found (by simp [alternatives]) rfl (by simp [alternatives])
        fun _ => ⟨rfl, rfl⟩
  | register name label kind =>
    obtain ⟨fragments, alternatives⟩ := progress.register_alternatives name label kind
    exact .of_same found fragments alternatives
  | addMessage line =>
    let sourced := progress.register line.source line.source .participant
    obtain ⟨first, firstOpen⟩ :=
      progress.register_alternatives line.source line.source .participant
    obtain ⟨second, secondOpen⟩ :=
      sourced.register_alternatives line.target line.target .participant
    exact .of_same found (second.trans first) (secondOpen.trans firstOpen)

/-- An alternative keeps its label and its beginning. -/
theorem readLines_keepsBeginning {progress final : Progress} {lines : List String}
    (read : progress.readLines lines = .ok final) {position : Nat} {fragment : Fragment}
    (found : progress.diagram.fragments[position]? = some fragment) :
    ∃ current, final.diagram.fragments[position]? = some current ∧
      current.label = fragment.label ∧ current.startIndex = fragment.startIndex := by
  have keeps : ∀ progress next : Progress, Step progress next →
      (∃ current, progress.diagram.fragments[position]? = some current ∧
        current.label = fragment.label ∧ current.startIndex = fragment.startIndex) →
      ∃ current, next.diagram.fragments[position]? = some current ∧
        current.label = fragment.label ∧ current.startIndex = fragment.startIndex := by
    rintro progress next step ⟨current, isCurrent, label, start⟩
    obtain ⟨later, isLater, sameLabel, sameStart⟩ := (follows_step step isCurrent).1
    exact ⟨later, isLater, sameLabel.trans label, sameStart.trans start⟩
  exact readLines_keeps keeps ⟨fragment, found, rfl, rfl⟩ read

/-- An alternative that is closed stays as it is. -/
theorem readLines_keepsClosed {progress final : Progress} {lines : List String}
    (read : progress.readLines lines = .ok final) {position : Nat} {fragment : Fragment}
    (found : progress.diagram.fragments[position]? = some fragment)
    (closed : position ∉ progress.alternatives) :
    final.diagram.fragments[position]? = some fragment := by
  have keeps : ∀ progress next : Progress, Step progress next →
      progress.diagram.fragments[position]? = some fragment ∧ position ∉ progress.alternatives →
      next.diagram.fragments[position]? = some fragment ∧ position ∉ next.alternatives := by
    rintro progress next step ⟨isThere, isClosed⟩
    exact (follows_step step isThere).2 isClosed
  exact (readLines_keeps keeps ⟨found, closed⟩ read).1

/-- The alternative that is opened in a state is in a later one with its label and its beginning,
and its end stands at the number of messages behind some lines that follow the opening. -/
def EndsBehind (progress final : Progress) (condition : String) (lines : List String) : Prop :=
  ∃ closing fragment, progress.readLines (("alt " ++ condition) :: lines) = .ok closing ∧
    final.diagram.fragments[progress.diagram.fragments.length]? = some fragment ∧
    fragment.label = trimmed condition ∧ fragment.startIndex = progress.count ∧
    fragment.endIndex = some closing.count

/-- An end that finds the alternatives around an alternative open as they were at its opening
closes it for good. -/
theorem endsBehind_of_closing {earlier : List String} {progress closing final : Progress}
    (reached : readLines {} earlier = .ok progress) {condition : String}
    {before behind : List String}
    (opens : progress.readLine ("alt " ++ condition) =
      .ok (progress.openAlternative (trimmed condition)))
    (toClosing : (progress.openAlternative (trimmed condition)).readLines before = .ok closing)
    (outside : closing.note.active = false)
    (stack : closing.alternatives =
      (progress.openAlternative (trimmed condition)).alternatives)
    (fromClosing : closing.readLines ("end" :: behind) = .ok final) :
    EndsBehind progress final condition before := by
  let opened := progress.openAlternative (trimmed condition)
  let position := progress.diagram.fragments.length
  have alternatives : closing.alternatives = position :: progress.alternatives := stack
  have nested : progress.Nested := readLines_keeps (fun _ _ => Nested.step) .empty reached
  have new : position ∉ progress.alternatives := by
    intro old
    obtain ⟨fragment, found, _⟩ := (nested.open_iff position).mp old
    exact Nat.lt_irrefl _ (List.getElem?_eq_some_iff.mp found).1
  have isThere : opened.diagram.fragments[position]? =
      some { label := trimmed condition, startIndex := progress.count } := by
    simp [opened, openAlternative, position]
  obtain ⟨current, found, label, start⟩ := readLines_keepsBeginning toClosing isThere
  have closed : closing.close.diagram.fragments[position]? =
      some { current with endIndex := some closing.count } := by
    rw [close, alternatives]
    exact getElem?_modify_eq_some_iff.mpr ⟨current, found, if_pos rfl⟩
  have outer : position ∉ closing.close.alternatives := by
    rw [close, alternatives]
    exact new
  rw [readLines, readLine_close outside] at fromClosing
  have kept := readLines_keepsClosed fromClosing closed outer
  refine ⟨closing, _, ?_, kept, label, start, rfl⟩
  rw [readLines, opens]
  exact toClosing

end Progress

end Drafting.SequenceDiagram
