import Mathlib.Data.List.Find
import Drafting.Conversion
import Drafting.Proofs.Text.LineEnds

/-!
# Sources with other line ends

The detection of architecture diagrams and the words of the dialect rules are looked for in
the text as it stands, while the line rules and all readers work on trimmed lines. Neither
depends on whether a line ends in a line feed alone or in a carriage return and a line feed.

The main statement is that a source which is no architecture diagram is converted to the same
document, or refused for the same reason, with both kinds of line ends.
-/

namespace Drafting

open Text

namespace C4

/-- The inclusion of macros stands within a line. -/
theorem isBlind_inclusion? : IsBlind inclusion? id := by
  have mark : IsBlind (fun text => shortest inLine text (expectAnyCase "c4"))
      (Prod.map id (Prod.map id widenLineEnds)) :=
    (isBlind_expectAnyCase (by decide)).shortest
  have inclusion : isUnbroken "!include" = true := by decide
  refine (isBlind_expectAnyCase inclusion).bind ?_
  rintro ⟨written, rest⟩
  have behind := mark.alike rest
  simp only [Prod.map_apply] at behind ⊢
  rw [behind]
  cases shortest inLine rest (expectAnyCase "c4") <;> rfl

/-- The parenthesis of a call may stand in a later line, but nothing but blanks is before it. -/
theorem isBlind_call? {name : String} (unbroken : isUnbroken name = true) :
    IsBlind (call? name) widenLineEnds := by
  refine (isBlind_expect unbroken).bind ?_
  intro rest
  rw [dropBlanks_widenLineEnds]
  exact (isBlind_expect (by decide)).alike _

/-- The names of the macros that are looked for hold no line ends. -/
theorem isUnbroken_knownMacros : ∀ name ∈ knownMacros, isUnbroken name = true := by decide

/-- Whether a source is an architecture diagram does not depend on its line ends. -/
theorem isC4_widened (text : String) : isC4 (widened text) = isC4 text := by
  rw [isC4, isC4, widened, String.toList_ofList, isBlind_inclusion?.isSome_search]
  congr 1
  rw [Bool.eq_iff_iff, List.any_eq_true, List.any_eq_true]
  apply exists_congr
  intro name
  apply and_congr_right
  intro known
  rw [(isBlind_call? (isUnbroken_knownMacros name known)).isSome_search]

end C4

namespace Dialect

/-- Two sources that the rules cannot tell apart: they mention the same words, hold the same
marks, and have the same lines. -/
structure Source.Alike (first second : Source) : Prop where
  mentions : ∀ words, isUnbroken words = true → first.mentions words = second.mentions words
  marks : ∀ mark, mark ≠ '\r' → first.characters.contains mark = second.characters.contains mark
  lines : first.lines = second.lines

/-- Every rule answers alike on sources that are alike. -/
theorem Source.Alike.rules {first second : Source} (alike : first.Alike second) :
    ∀ rule ∈ rules, rule.1 first = rule.1 second := by
  have mentions := alike.mentions
  simp only [Dialect.rules, List.forall_mem_cons, List.not_mem_nil, false_implies, implies_true,
    and_true]
  refine ⟨?_, ?_, ?_, ?_, ?_, ?_, ?_⟩
  · rw [isSequence, isSequence, alike.lines, mentions "participant " (by decide),
      mentions " -> " (by decide), mentions "actor " (by decide)]
  · rw [isUseCase, isUseCase, alike.lines, mentions "actor " (by decide),
      mentions "usecase " (by decide), mentions "rectangle " (by decide)]
  · rw [isActivity, isActivity, alike.lines, mentions "start" (by decide),
      mentions "stop" (by decide), alike.marks ':' (by decide), alike.marks ';' (by decide),
      mentions "if (" (by decide), mentions "endif" (by decide)]
  · rw [isState, isState, alike.lines, mentions "[*]" (by decide), mentions "state " (by decide)]
  · rw [isMindmap, isMindmap, mentions "@startmindmap" (by decide)]
  · rw [isEntities, isEntities, mentions "entity " (by decide), mentions "\x7d|" (by decide),
      mentions "|\x7b" (by decide)]
  · rw [isDeployment, isDeployment, mentions "database " (by decide),
      mentions "cloud " (by decide), mentions "artifact " (by decide)]

/-- No other character becomes a line feed when capitals are made small. -/
theorem toLower_ne_lineFeed {character : Char} (other : character ≠ '\n') :
    character.toLower ≠ '\n' := by
  unfold Char.toLower
  split
  · next capital =>
    have least : 65 ≤ character.val.toNat := UInt32.le_iff_toNat_le.mp capital.1
    have most : character.val.toNat ≤ 90 := UInt32.le_iff_toNat_le.mp capital.2
    intro same
    have value : (character.val.toNat + 32) % 2 ^ 32 = 10 :=
      congrArg (fun character => character.val.toNat) same
    omega
  · exact other

/-- Capitals are made small in both texts. -/
theorem lowerPlain_widenLineEnds (text : List Char) :
    lowerPlain (widenLineEnds text) = widenLineEnds (lowerPlain text) := by
  induction text with
  | nil => rfl
  | cons character rest inductionHypothesis =>
    by_cases lineFeed : character = '\n'
    · subst lineFeed
      exact congrArg (fun rest => '\r' :: '\n' :: rest) inductionHypothesis
    · rw [widenLineEnds_other lineFeed, lowerPlain, List.map_cons, lowerPlain, List.map_cons,
        widenLineEnds_other (toLower_ne_lineFeed lineFeed)]
      exact congrArg (character.toLower :: ·) inductionHypothesis

/-- A source is like the same source with other line ends. -/
theorem Source.alike_widened (text : String) (lines : List String) :
    (Source.of (widened text) lines).Alike (Source.of text lines) where
  mentions words unbroken := by
    rw [mentions, occursIn, Source.of, widened, String.toList_ofList, lowerPlain_widenLineEnds,
      (isBlind_expect unbroken).isSome_search]
    rfl
  marks mark other := by
    rw [Source.of, widened, String.toList_ofList, Bool.eq_iff_iff, List.contains_iff_mem,
      List.contains_iff_mem]
    exact mem_widenLineEnds_iff other text.toList
  lines := rfl

/-- The dialect of a source does not depend on its line ends. -/
theorem ofSource_widened (text : String) (lines : List String) :
    ofSource (widened text) lines = ofSource text lines := by
  have found := List.find?_congr (Source.alike_widened text lines).rules
  rw [ofSource, ofSource]
  rw [found]

end Dialect

/-- The diagram of a source does not depend on its line ends, nor does the word for which it is
refused. -/
theorem Diagram.ofText_widened (text : String) :
    Diagram.ofText (widened text) = Diagram.ofText text := by
  rw [Diagram.ofText, Diagram.ofText, normalizedLines_widened, Dialect.ofSource_widened]

/-- A source is trimmed at the same characters. -/
theorem Conversion.trimmed_widened (text : String) :
    trimmed (widened text) = widened (trimmed text) := by
  rw [trimmed, widened, String.toList_ofList, trim_widenLineEnds, widened, trimmed,
    String.toList_ofList]

/-- Only the empty string is widened to it. -/
theorem isEmpty_widened (text : String) : (widened text).isEmpty = text.isEmpty := by
  rw [Bool.eq_iff_iff, String.isEmpty_iff, String.isEmpty_iff, ← String.toList_eq_nil_iff, widened,
    String.toList_ofList, widenLineEnds_eq_nil_iff, String.toList_eq_nil_iff]

/-- A source that is no architecture diagram is converted to the same document with either kind
of line ends, or refused for the same reason. It may hold other carriage returns. -/
theorem conversion_ignores_line_ends (stamp : Stamp) (configuration : Configuration)
    (compressed : Option Bool) (text : String) (other : C4.isC4 (trimmed text) = false) :
    Conversion.ofText stamp configuration compressed (widened text) =
      Conversion.ofText stamp configuration compressed text := by
  have alsoOther : C4.isC4 (widened (trimmed text)) = false := by rw [C4.isC4_widened, other]
  rw [Conversion.ofText, Conversion.ofText, Conversion.trimmed_widened]
  simp only [isEmpty_widened, alsoOther, other, Conversion.ofDialectText, Diagram.ofText_widened,
    Bool.false_eq_true, if_false]

/-- A comment, an empty line and a message, with both line ends. -/
theorem conversion_ignores_line_ends_message :
    C4.isC4 (trimmed "' note\n\nActor A\nA -> B : hi\n") = false ∧
      Conversion.ofText ⟨"p", "now"⟩ {} none (widened "' note\n\nActor A\nA -> B : hi\n") =
        Conversion.ofText ⟨"p", "now"⟩ {} none "' note\n\nActor A\nA -> B : hi\n" :=
  have other : C4.isC4 (trimmed "' note\n\nActor A\nA -> B : hi\n") = false := by decide +kernel
  ⟨other, conversion_ignores_line_ends ⟨"p", "now"⟩ {} none _ other⟩

end Drafting
