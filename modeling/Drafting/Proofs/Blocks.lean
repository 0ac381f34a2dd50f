import Mathlib.Algebra.GroupWithZero.Nat
import Mathlib.Data.List.Basic

/-!
# Nested blocks and the stack of a reader

A source in which every block is closed is a tree. Some of its blocks a reader knows: it puts
them on a stack when they are opened. Others it does not know: their openings are lines without
meaning to it. The lines that close blocks look alike, so the reader takes the innermost block
off its stack at each of them.

The closing line of a block that was not known therefore closes a known one around it. The main
statements say what is left on the stack behind a tree, and that each missing entry was taken
off by one closing line within the tree.
-/

namespace Drafting

/-- A source in which every block is closed: plain lines, blocks that a reader knows, and
blocks that it ignores. -/
inductive Blocks where
  | done
  | line (text : String) (rest : Blocks)
  | known (opening : String) (body rest : Blocks)
  | ignored (opening : String) (body rest : Blocks)
  deriving DecidableEq, Repr

namespace Blocks

/-- The lines of a source in which blocks are closed by a given line. -/
def lines (closing : String) : Blocks → List String
  | done => []
  | line text rest => text :: rest.lines closing
  | known opening body rest => opening :: (body.lines closing ++ closing :: rest.lines closing)
  | ignored opening body rest => opening :: (body.lines closing ++ closing :: rest.lines closing)

/-- The number of ignored blocks at any depth. -/
def ignoredCount : Blocks → Nat
  | done => 0
  | line _ rest => rest.ignoredCount
  | known _ body rest => body.ignoredCount + rest.ignoredCount
  | ignored _ body rest => body.ignoredCount + 1 + rest.ignoredCount

/-- Whether known blocks are opened by openings and all other lines but the closing ones are
plain. -/
def isProper (isPlain isOpening : String → Bool) : Blocks → Bool
  | done => true
  | line text rest => isPlain text && rest.isProper isPlain isOpening
  | known opening body rest =>
    isOpening opening && body.isProper isPlain isOpening && rest.isProper isPlain isOpening
  | ignored opening body rest =>
    isPlain opening && body.isProper isPlain isOpening && rest.isProper isPlain isOpening

/-- A place within a source with ignored blocks open around it: for each of them the blocks
before it and its opening, from the outermost on, and then the blocks before the place. -/
structure Place where
  around : List (Blocks × String)
  before : Blocks

namespace Place

/-- The lines before a place. -/
def lines (closing : String) (place : Place) : List String :=
  place.around.flatMap (fun level => level.1.lines closing ++ [level.2]) ++
    place.before.lines closing

/-- The number of ignored blocks that are closed before a place. -/
def ignoredCount (place : Place) : Nat :=
  (place.around.map fun level => level.1.ignoredCount).sum + place.before.ignoredCount

/-- Whether the blocks before a place are proper and the openings around it plain. -/
def isProper (isPlain isOpening : String → Bool) (place : Place) : Bool :=
  (place.around.all fun level => level.1.isProper isPlain isOpening && isPlain level.2) &&
    place.before.isProper isPlain isOpening

end Place

end Blocks

/-- A reader that keeps open blocks on a stack. While it is ready, a plain line leaves the
stack as it is, an opening puts a block on it, and the closing line takes one off. -/
structure StackReader (State : Type) where
  read : State → String → State
  stack : State → List Nat
  isReady : State → Prop
  closing : String
  isPlain : String → Bool
  isOpening : String → Bool
  plain : ∀ {state : State} {line : String}, isReady state → isPlain line →
    isReady (read state line) ∧ stack (read state line) = stack state
  opens : ∀ {state : State} {line : String}, isReady state → isOpening line →
    isReady (read state line) ∧ ∃ block, stack (read state line) = block :: stack state
  closes : ∀ {state : State}, isReady state →
    isReady (read state closing) ∧ stack (read state closing) = (stack state).tail

namespace StackReader

variable {State : Type} (reader : StackReader State)

/-- The state behind some lines. -/
def run (state : State) (lines : List String) : State := lines.foldl reader.read state

/-- The lines of a tree as the reader takes them. -/
def linesOf (blocks : Blocks) : List String := blocks.lines reader.closing

/-- Whether the lines of a tree are of the kinds that the reader tells apart. -/
def accepts (blocks : Blocks) : Bool := blocks.isProper reader.isPlain reader.isOpening

/-- Behind some lines the reader is ready, and some blocks were taken off its stack. -/
def Pops (number : Nat) (lines : List String) : Prop :=
  ∀ state, reader.isReady state → reader.isReady (reader.run state lines) ∧
    reader.stack (reader.run state lines) = (reader.stack state).drop number

variable {reader}

/-- No lines take nothing off. -/
theorem pops_nil : reader.Pops 0 [] := fun _ ready => ⟨ready, rfl⟩

/-- Lines one after the other take off what each of them does. -/
theorem Pops.append {first second : Nat} {before behind : List String}
    (early : reader.Pops first before) (late : reader.Pops second behind) :
    reader.Pops (first + second) (before ++ behind) := by
  intro state ready
  obtain ⟨between, left⟩ := early state ready
  obtain ⟨after, rest⟩ := late _ between
  rw [run, List.foldl_append]
  refine ⟨after, ?_⟩
  rw [← run, ← run, rest, left, List.drop_drop]

/-- A plain line takes nothing off. -/
theorem Pops.plain {line : String} (isPlain : reader.isPlain line) : reader.Pops 0 [line] :=
  fun _ ready => reader.plain ready isPlain

/-- A closing line takes one block off. -/
theorem Pops.closes : reader.Pops 1 [reader.closing] := by
  intro state ready
  obtain ⟨after, left⟩ := reader.closes ready
  exact ⟨after, left.trans List.drop_one.symm⟩

/-- An opening hides what is on the stack from the first block that is taken off. -/
theorem Pops.opening {opening : String} (isOpening : reader.isOpening opening) {number : Nat}
    {lines : List String} (pops : reader.Pops (number + 1) lines) :
    reader.Pops number (opening :: lines) := by
  intro state ready
  obtain ⟨opened, block, stack⟩ := reader.opens ready isOpening
  obtain ⟨after, left⟩ := pops _ opened
  refine ⟨after, ?_⟩
  rw [run, List.foldl_cons, ← run, left, stack, List.drop_succ_cons]

/-- Behind a tree as many blocks were taken off as it holds ignored ones. -/
theorem pops_linesOf {blocks : Blocks} (accepted : reader.accepts blocks) :
    reader.Pops blocks.ignoredCount (reader.linesOf blocks) := by
  rw [accepts] at accepted
  induction blocks with
  | done => exact pops_nil
  | line text rest inRest =>
    simp only [Blocks.isProper, Bool.and_eq_true] at accepted
    have whole := (Pops.plain accepted.1).append (inRest accepted.2)
    rwa [Nat.zero_add] at whole
  | known opening body rest inBody inRest =>
    simp only [Blocks.isProper, Bool.and_eq_true] at accepted
    obtain ⟨⟨isOpening, isBody⟩, isRest⟩ := accepted
    have closed := (inBody isBody).append (Pops.closes.append (inRest isRest))
    have order : body.ignoredCount + (1 + rest.ignoredCount) =
        body.ignoredCount + rest.ignoredCount + 1 := by omega
    rw [order] at closed
    exact closed.opening isOpening
  | ignored opening body rest inBody inRest =>
    simp only [Blocks.isProper, Bool.and_eq_true] at accepted
    obtain ⟨⟨isPlain, isBody⟩, isRest⟩ := accepted
    have closed := (inBody isBody).append (Pops.closes.append (inRest isRest))
    have whole := (Pops.plain isPlain).append closed
    rwa [Nat.zero_add, ← Nat.add_assoc] at whole

/-- Before a place as many blocks were taken off as ignored ones are closed there. Those that are
still open do not count. -/
theorem pops_place {place : Blocks.Place}
    (accepted : place.isProper reader.isPlain reader.isOpening) :
    reader.Pops place.ignoredCount (place.lines reader.closing) := by
  obtain ⟨around, before⟩ := place
  simp only [Blocks.Place.isProper, Bool.and_eq_true] at accepted
  obtain ⟨isAround, isBefore⟩ := accepted
  induction around with
  | nil =>
    have whole := pops_linesOf isBefore
    rwa [← Nat.zero_add (before.ignoredCount)] at whole
  | cons level inner inductionHypothesis =>
    simp only [List.all_cons, Bool.and_eq_true] at isAround
    obtain ⟨⟨isLevel, isPlain⟩, isInner⟩ := isAround
    have whole := (pops_linesOf isLevel).append
      ((Pops.plain isPlain).append (inductionHypothesis isInner))
    rw [Nat.zero_add, Blocks.Place.ignoredCount, ← Nat.add_assoc] at whole
    simpa [Blocks.Place.lines, Blocks.Place.ignoredCount, linesOf] using whole

/-- A closing line among some lines takes the next block off when a number of them is gone. -/
def ClosesWithin (reader : StackReader State) (number : Nat) (lines : List String) : Prop :=
  ∃ before behind, lines = before ++ reader.closing :: behind ∧ reader.Pops number before

/-- It may be the first line behind those that took the others off. -/
theorem Pops.closesWithin {number : Nat} {before : List String}
    (pops : reader.Pops number before) (behind : List String) :
    reader.ClosesWithin number (before ++ reader.closing :: behind) :=
  ⟨before, behind, rfl, pops⟩

/-- More lines behind do not matter. -/
theorem ClosesWithin.append {number : Nat} {lines : List String}
    (closes : reader.ClosesWithin number lines) (more : List String) :
    reader.ClosesWithin number (lines ++ more) := by
  obtain ⟨before, behind, rfl, pops⟩ := closes
  rw [List.append_assoc, List.cons_append]
  exact pops.closesWithin _

/-- Lines before count with the blocks that they take off. -/
theorem ClosesWithin.behind {first number : Nat} {early lines : List String}
    (closes : reader.ClosesWithin number lines) (pops : reader.Pops first early) :
    reader.ClosesWithin (first + number) (early ++ lines) := by
  obtain ⟨before, behind, rfl, late⟩ := closes
  rw [← List.append_assoc]
  exact (pops.append late).closesWithin _

/-- Behind an opening it is the closing line that takes one block more off. -/
theorem ClosesWithin.opening {number : Nat} {lines : List String} {opening : String}
    (closes : reader.ClosesWithin (number + 1) lines) (isOpening : reader.isOpening opening) :
    reader.ClosesWithin number (opening :: lines) := by
  obtain ⟨before, behind, rfl, pops⟩ := closes
  exact (pops.opening isOpening).closesWithin behind

/-- Each block that a tree takes off is taken off by a closing line within it. -/
theorem closesWithin_linesOf {blocks : Blocks} (accepted : reader.accepts blocks) {number : Nat}
    (fewer : number < blocks.ignoredCount) :
    reader.ClosesWithin number (reader.linesOf blocks) := by
  -- the lines behind the opening of a block: its body, its end, and what follows
  have block {body rest : Blocks} (isBody : reader.accepts body)
      (inBody : ∀ number < body.ignoredCount,
        reader.ClosesWithin number (reader.linesOf body))
      (inRest : ∀ number < rest.ignoredCount,
        reader.ClosesWithin number (reader.linesOf rest))
      (number : Nat) (fewer : number < body.ignoredCount + 1 + rest.ignoredCount) :
      reader.ClosesWithin number
        (reader.linesOf body ++ reader.closing :: reader.linesOf rest) := by
    have whole := pops_linesOf isBody
    rcases Nat.lt_trichotomy number body.ignoredCount with inside | rfl | beyond
    · exact (inBody number inside).append _
    · exact whole.closesWithin _
    · have later := inRest (number - (body.ignoredCount + 1)) (by omega)
      have closed := later.behind (whole.append Pops.closes)
      rwa [Nat.add_sub_cancel' beyond, List.append_assoc, List.singleton_append] at closed
  rw [accepts] at accepted
  induction blocks generalizing number with
  | done => exact absurd fewer (Nat.not_lt_zero _)
  | line text rest inRest =>
    simp only [Blocks.isProper, Bool.and_eq_true] at accepted
    have later := (inRest accepted.2 fewer).behind (Pops.plain accepted.1)
    rwa [Nat.zero_add] at later
  | known opening body rest inBody inRest =>
    simp only [Blocks.isProper, Bool.and_eq_true] at accepted
    obtain ⟨⟨isOpening, isBody⟩, isRest⟩ := accepted
    rw [Blocks.ignoredCount] at fewer
    have within := block isBody (fun _ => inBody isBody) (fun _ => inRest isRest) (number + 1)
      (by omega)
    exact within.opening isOpening
  | ignored opening body rest inBody inRest =>
    simp only [Blocks.isProper, Bool.and_eq_true] at accepted
    obtain ⟨⟨isPlain, isBody⟩, isRest⟩ := accepted
    have within := (block isBody (fun _ => inBody isBody) (fun _ => inRest isRest) number
      fewer).behind (Pops.plain isPlain)
    rwa [Nat.zero_add] at within

/-- The closing line that takes off the block which was innermost before a tree stands behind
the tree exactly if no block in the tree is ignored. -/
theorem exists_own_closing {blocks : Blocks} (accepted : reader.accepts blocks) :
    ∃ before behind, reader.linesOf blocks ++ [reader.closing] =
        before ++ reader.closing :: behind ∧
      (behind = [] ↔ blocks.ignoredCount = 0) ∧ reader.Pops 0 before := by
  by_cases ignores : blocks.ignoredCount = 0
  · have whole := pops_linesOf accepted
    rw [ignores] at whole
    exact ⟨_, [], rfl, by simp [ignores], whole⟩
  · obtain ⟨before, behind, lines, pops⟩ :=
      closesWithin_linesOf accepted (Nat.pos_of_ne_zero ignores)
    exact ⟨before, behind ++ [reader.closing], by simp [lines], by simp [ignores], pops⟩

end StackReader

end Drafting
