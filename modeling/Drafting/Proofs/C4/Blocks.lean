import Drafting.C4.Reader
import Drafting.Proofs.C4.Walk
import Drafting.Proofs.Text.Word

/-!
# Blocks of a source

The lines of a source open and close blocks. Here, a block is known by the number of the
element whose line opened it, if that line declares one, and each element by the number of
the one whose block is innermost around it. Numbers keep elements of the same name apart,
which the reader does not.

The main statements are that the blocks make a nested forest of the elements, and that the
reader finds the same elements, each with the name of the one around it for a parent.
-/

namespace Drafting.C4

open Text

/-- The lines of a source as they are read. -/
def sourceLines (text : String) : List (List Char) := (split '\n' text.toList).map bareLine

/-- The element that a line declares. A line that is passed over declares none. -/
def declaration? (line : List Char) : Option Element :=
  if isIgnored line then none else element? none line

/-- The elements declared so far, each with the number of the one around it, and the open
blocks, innermost first, each with the number of the element that opened it. -/
structure Nesting where
  entries : List (Element × Option Nat) := []
  blocks : List (Option Nat) := []

namespace Nesting

/-- The number of the element that opened the innermost block, where blocks that were
opened by no element do not count. -/
def innermost (nesting : Nesting) : Option Nat := nesting.blocks.findSome? id

/-- Declares an element. -/
def declare (nesting : Nesting) (element : Element) : Nesting :=
  { nesting with entries := nesting.entries ++ [(element, nesting.innermost)] }

/-- Opens a block. -/
def enter (nesting : Nesting) (number : Option Nat) : Nesting :=
  { nesting with blocks := number :: nesting.blocks }

/-- Closes the innermost block, if one is open. -/
def leave (nesting : Nesting) : Nesting := { nesting with blocks := nesting.blocks.tail }

/-- Whether a line opens a block. -/
def opensBlock (line : List Char) : Bool := line.getLast? == some '\x7b'

/-- Whether a line closes a block. -/
def closesBlock (line : List Char) : Bool := (expect "\x7d" line).isSome

/-- One more line. -/
def readLine (nesting : Nesting) (line : List Char) : Nesting :=
  if isIgnored line then nesting
  else if closesBlock line then nesting.leave
  else
    match element? none line with
    | some element =>
      let declared := nesting.declare element
      if opensBlock line then declared.enter (some nesting.entries.length) else declared
    | none => if opensBlock line then nesting.enter none else nesting

/-- The elements and blocks of some lines. -/
def ofLines (lines : List (List Char)) : Nesting := lines.foldl readLine {}

/-- The elements declared so far. -/
def declared (nesting : Nesting) : List Element := nesting.entries.map Prod.fst

/-- The number of the element around the one at a position. -/
def around (nesting : Nesting) (position : Nat) : Option Nat :=
  nesting.entries[position]?.bind Prod.snd

/-- A declaration comes last. -/
@[simp] theorem declared_declare (nesting : Nesting) (element : Element) :
    (nesting.declare element).declared = nesting.declared ++ [element] := by
  simp [declared, declare]

/-- Opening a block declares nothing. -/
@[simp] theorem declared_enter (nesting : Nesting) (number : Option Nat) :
    (nesting.enter number).declared = nesting.declared := rfl

/-- Closing a block declares nothing. -/
@[simp] theorem declared_leave (nesting : Nesting) : nesting.leave.declared = nesting.declared :=
  rfl

/-- There are as many elements as entries. -/
@[simp] theorem length_declared (nesting : Nesting) :
    nesting.declared.length = nesting.entries.length := List.length_map _

/-- The elements with those around them. -/
def pairs (nesting : Nesting) : List (Element × Option Element) :=
  nesting.entries.map fun (element, around) => (element, around.bind (nesting.declared[·]?))

/-- The name of the element with a number. -/
def nameAt (elements : List Element) (number : Nat) : Option String :=
  elements[number]?.map Element.name

/-- The elements, each with the name of the one around it for a parent. -/
def elements (nesting : Nesting) : List Element :=
  nesting.entries.map fun (element, around) =>
    { element with parent := around.bind (nameAt nesting.declared) }

end Nesting

/-- The kind and the arguments do not depend on the parent. -/
theorem elementOf?_parent (kind : String) (arguments : List String) (parent : Option String) :
    elementOf? kind arguments parent =
      (elementOf? kind arguments none).map fun element => { element with parent } := by
  cases arguments with
  | nil => rfl
  | cons name others =>
    simp only [elementOf?]
    split <;> rfl

/-- A line declares the same element in every block, but for its parent. -/
theorem element?_parent (parent : Option String) (line : List Char) :
    element? parent line =
      (element? none line).map fun element => { element with parent } := by
  rw [element?, element?]
  cases macroCall? line with
  | none => rfl
  | some call =>
    simp only [Option.bind_eq_bind, Option.bind_some]
    split
    · exact elementOf?_parent _ _ parent
    · rfl

/-- A line that closes a block declares nothing. -/
theorem element?_of_closing {line : List Char} (closing : Nesting.closesBlock line = true) :
    element? none line = none := by
  obtain ⟨rest, found⟩ := Option.isSome_iff_exists.mp closing
  obtain rfl : line = '\x7d' :: rest :=
    (List.isPrefixOf?_eq_some_iff_append_eq.mp found).symm
  cases call : macroCall? ('\x7d' :: rest) with
  | none => rw [element?, call]; rfl
  | some found =>
    obtain ⟨name, arguments⟩ := found
    have begins : name.head? = some '\x7d' := by
      simp only [macroCall?, Option.bind_eq_bind, Option.bind_eq_some_iff] at call
      obtain ⟨⟨run, behind⟩, read, same⟩ := call
      obtain ⟨later, split, _, opened⟩ := longest_split read
      obtain rfl : run = name := by cases same; rfl
      cases run with
      | nil =>
        -- without a name, the line would begin with a parenthesis
        rw [List.nil_append] at split
        rw [← split] at opened
        cases opened
      | cons first others =>
        obtain ⟨same, _⟩ := List.cons.inj split
        rw [← same, List.head?_cons]
    have unknown : String.ofList (trim name) ∉ elementKinds := by
      have kinds : ∀ kind ∈ elementKinds, kind.toList.head? ≠ some '\x7d' := by decide
      cases name with
      | nil => cases begins
      | cons first others =>
        obtain rfl : first = '\x7d' := Option.some.inj begins
        have visible : isBlank '\x7d' = false := by decide
        have head := head?_trim_cons visible others
        intro member
        have other := kinds _ member
        rw [String.toList_ofList] at other
        exact other head
    rw [element?, call]
    simp [unknown]

namespace Nesting

/-- A line that declares nothing may close a block or open one, and a line that declares an
element may open one for it. -/
theorem readLine_cases (nesting : Nesting) (line : List Char) :
    (declaration? line = none ∧
      (nesting.readLine line = nesting ∨ nesting.readLine line = nesting.leave ∨
        nesting.readLine line = nesting.enter none)) ∨
    ∃ element, declaration? line = some element ∧
      (nesting.readLine line = nesting.declare element ∨
        nesting.readLine line =
          (nesting.declare element).enter (some nesting.entries.length)) := by
  by_cases passed : isIgnored line = true
  · exact .inl ⟨if_pos passed, .inl (if_pos passed)⟩
  have declares : declaration? line = element? none line := if_neg passed
  by_cases closing : closesBlock line = true
  · have leaves : nesting.readLine line = nesting.leave := by
      rw [readLine, if_neg passed, if_pos closing]
    exact .inl ⟨declares.trans (element?_of_closing closing), .inr (.inl leaves)⟩
  rw [declares, readLine, if_neg passed, if_neg closing]
  cases element? none line with
  | none =>
    refine .inl ⟨rfl, ?_⟩
    cases opensBlock line with
    | false => exact .inl rfl
    | true => exact .inr (.inr rfl)
  | some element =>
    refine .inr ⟨element, rfl, ?_⟩
    cases opensBlock line with
    | false => exact .inl rfl
    | true => exact .inr rfl

/-- One more line adds the element that it declares. -/
theorem declared_readLine (nesting : Nesting) (line : List Char) :
    (nesting.readLine line).declared = nesting.declared ++ (declaration? line).toList := by
  rcases nesting.readLine_cases line with
    ⟨declares, same | leaves | enters⟩ | ⟨element, declares, adds | adds⟩
  · simp [declares, same]
  · simp [declares, leaves]
  · simp [declares, enters]
  · simp [declares, adds]
  · simp [declares, adds]

/-- More lines add the elements that they declare. -/
theorem declared_foldl (nesting : Nesting) (lines : List (List Char)) :
    (lines.foldl readLine nesting).declared = nesting.declared ++ lines.filterMap declaration? := by
  induction lines generalizing nesting with
  | nil => simp
  | cons line others inductionHypothesis =>
    rw [List.foldl_cons, inductionHypothesis, declared_readLine, List.append_assoc,
      List.filterMap_cons]
    cases declaration? line <;> rfl

/-- The elements of some lines are those that the lines declare. -/
theorem declared_ofLines (lines : List (List Char)) :
    (ofLines lines).declared = lines.filterMap declaration? := by
  rw [ofLines, declared_foldl]
  rfl

/-- The elements that opened blocks are there, the later the further inside, and since one
of them was declared, all others were declared inside it. -/
structure Sound (nesting : Nesting) : Prop where
  opened : ∀ number, some number ∈ nesting.blocks → number < nesting.entries.length
  ordered : (nesting.blocks.filterMap id).Pairwise (· > ·)
  inner : ∀ upper, some upper ∈ nesting.blocks → ∀ between, upper < between →
    between < nesting.entries.length → ∃ other, nesting.around between = some other ∧ upper ≤ other
  earlier : Walk.Earlier nesting.around
  nested : Walk.Nested nesting.around

/-- The innermost number is that of a block. -/
theorem mem_blocks_of_innermost {nesting : Nesting} {number : Nat}
    (found : nesting.innermost = some number) : some number ∈ nesting.blocks := by
  obtain ⟨block, member, same⟩ := List.exists_of_findSome?_eq_some found
  exact same ▸ member

/-- While a block is open, the innermost number is not below that of the block. -/
theorem Sound.le_innermost {nesting : Nesting} (sound : nesting.Sound) {upper : Nat}
    (member : some upper ∈ nesting.blocks) :
    ∃ number, nesting.innermost = some number ∧ upper ≤ number := by
  have listed : upper ∈ nesting.blocks.filterMap id :=
    List.mem_filterMap.mpr ⟨some upper, member, rfl⟩
  have ordered := sound.ordered
  rw [innermost, ← List.head?_filterMap]
  cases numbers : nesting.blocks.filterMap id with
  | nil => exact absurd (numbers ▸ listed) List.not_mem_nil
  | cons first others =>
    rw [numbers] at listed ordered
    refine ⟨first, rfl, ?_⟩
    rcases List.mem_cons.mp listed with rfl | behind
    · exact Nat.le_refl upper
    · exact Nat.le_of_lt ((List.pairwise_cons.mp ordered).1 upper behind)

/-- What is around the elements before a new one does not change. -/
theorem around_declare_of_lt {nesting : Nesting} {element : Element} {position : Nat}
    (before : position < nesting.entries.length) :
    (nesting.declare element).around position = nesting.around position := by
  rw [around, around, declare, List.getElem?_append_left before]

/-- Around a new element is the innermost block. -/
theorem around_declare_length (nesting : Nesting) (element : Element) :
    (nesting.declare element).around nesting.entries.length = nesting.innermost := by
  simp [around, declare]

/-- Only elements that are there have something around them. -/
theorem lt_of_around {nesting : Nesting} {lower upper : Nat}
    (step : nesting.around lower = some upper) : lower < nesting.entries.length := by
  obtain ⟨entry, found, _⟩ := Option.bind_eq_some_iff.mp step
  exact (List.getElem?_eq_some_iff.mp found).1

/-- At the beginning, nothing is open. -/
theorem sound_empty : Sound {} where
  opened := by simp
  ordered := List.Pairwise.nil
  inner := by simp
  earlier := fun lower upper step => by simp [around] at step
  nested := fun lower upper step => by simp [around] at step

/-- A declaration is inside all open blocks. -/
theorem Sound.declare {nesting : Nesting} (sound : nesting.Sound) (element : Element) :
    (nesting.declare element).Sound := by
  have length : (nesting.declare element).entries.length = nesting.entries.length + 1 := by
    simp [Nesting.declare]
  have origin {lower upper : Nat} (step : (nesting.declare element).around lower = some upper) :
      (lower < nesting.entries.length ∧ nesting.around lower = some upper) ∨
      (lower = nesting.entries.length ∧ some upper ∈ nesting.blocks) := by
    have inRange := lt_of_around step
    rcases Nat.lt_or_ge lower nesting.entries.length with before | behind
    · exact .inl ⟨before, by rwa [around_declare_of_lt before] at step⟩
    · obtain rfl : lower = nesting.entries.length := by omega
      rw [around_declare_length] at step
      exact .inr ⟨rfl, mem_blocks_of_innermost step⟩
  have inner : ∀ upper, some upper ∈ nesting.blocks → ∀ between, upper < between →
      between < nesting.entries.length + 1 →
      ∃ other, (nesting.declare element).around between = some other ∧ upper ≤ other := by
    intro upper member between behind inRange
    rcases Nat.lt_or_ge between nesting.entries.length with before | last
    · rw [around_declare_of_lt before]
      exact sound.inner upper member between behind before
    · obtain rfl : between = nesting.entries.length := by omega
      rw [around_declare_length]
      exact sound.le_innermost member
  exact {
    opened := fun number member => by
      have before := sound.opened number member
      omega
    ordered := sound.ordered
    inner := fun upper member between behind inRange =>
      inner upper member between behind (by omega)
    earlier := fun lower upper step => by
      rcases origin step with ⟨_, step⟩ | ⟨rfl, member⟩
      · exact sound.earlier lower upper step
      · exact sound.opened upper member
    nested := fun lower upper step between behind before => by
      rcases origin step with ⟨inRange, step⟩ | ⟨rfl, member⟩
      · rw [around_declare_of_lt (by omega)]
        exact sound.nested lower upper step between behind before
      · exact inner upper member between behind (by omega) }

/-- A block may be opened by no element. -/
theorem Sound.enter_none {nesting : Nesting} (sound : nesting.Sound) :
    (nesting.enter none).Sound where
  opened := fun number member => sound.opened number (by simpa [enter] using member)
  ordered := sound.ordered
  inner := fun upper member => sound.inner upper (by simpa [enter] using member)
  earlier := sound.earlier
  nested := sound.nested

/-- A block may be opened by the element declared last. -/
theorem Sound.enter_declared {nesting : Nesting} (sound : nesting.Sound) (element : Element) :
    ((nesting.declare element).enter (some nesting.entries.length)).Sound := by
  have declared := sound.declare element
  have length : (nesting.declare element).entries.length = nesting.entries.length + 1 := by
    simp [Nesting.declare]
  have origin {number : Nat}
      (member : some number ∈ some nesting.entries.length :: nesting.blocks) :
      number = nesting.entries.length ∨ some number ∈ nesting.blocks :=
    (List.mem_cons.mp member).imp_left Option.some.inj
  exact {
    opened := fun number member => by
      rcases origin member with rfl | member
      · exact length ▸ Nat.lt_succ_self _
      · exact declared.opened number member
    ordered := by
      refine List.pairwise_cons.mpr ⟨?_, sound.ordered⟩
      intro number listed
      obtain ⟨block, member, same⟩ := List.mem_filterMap.mp listed
      exact sound.opened number (same ▸ member)
    inner := fun upper member between behind inRange => by
      rcases origin member with rfl | member
      · have inRange : between < nesting.entries.length + 1 := length ▸ inRange
        omega
      · exact declared.inner upper member between behind inRange
    earlier := declared.earlier
    nested := declared.nested }

/-- A block may be closed. -/
theorem Sound.leave {nesting : Nesting} (sound : nesting.Sound) : nesting.leave.Sound where
  opened := fun number member => sound.opened number (List.mem_of_mem_tail member)
  ordered := sound.ordered.sublist ((List.tail_sublist _).filterMap _)
  inner := fun upper member => sound.inner upper (List.mem_of_mem_tail member)
  earlier := sound.earlier
  nested := sound.nested

/-- The blocks stay sound over one line. -/
theorem Sound.readLine {nesting : Nesting} (sound : nesting.Sound) (line : List Char) :
    (nesting.readLine line).Sound := by
  rcases nesting.readLine_cases line with
    ⟨_, same | leaves | enters⟩ | ⟨element, _, adds | adds⟩
  · rwa [same]
  · rw [leaves]; exact sound.leave
  · rw [enters]; exact sound.enter_none
  · rw [adds]; exact sound.declare element
  · rw [adds]; exact sound.enter_declared element

/-- The blocks of a source are sound throughout. -/
theorem sound_ofLines (lines : List (List Char)) : (ofLines lines).Sound := by
  exact List.foldlRecOn (motive := Nesting.Sound) lines readLine sound_empty
    fun _ sound line _ => sound.readLine line

/-- The names by which the reader knows some blocks. A block that no element opened goes by
the name of the next one around it. -/
def blockNames (nameOf : Nat → Option String) : List (Option Nat) → List (Option String)
  | [] => []
  | block :: others =>
    ((block :: others).findSome? id).bind nameOf :: blockNames nameOf others

/-- The reader has found these elements and blocks, where the names of the elements are
given. -/
structure Represented (nameOf : Nat → Option String) (nesting : Nesting) (progress : Progress) :
    Prop where
  elements : progress.elements = nesting.entries.map fun (element, around) =>
    { element with parent := around.bind nameOf }
  blocks : progress.blocks = blockNames nameOf nesting.blocks

/-- The parent that the reader has at hand is the name of the innermost element. -/
theorem Represented.parent {nameOf : Nat → Option String} {nesting : Nesting}
    {progress : Progress} (represented : nesting.Represented nameOf progress) :
    progress.parent = nesting.innermost.bind nameOf := by
  rw [Progress.parent, represented.blocks, innermost]
  cases nesting.blocks with
  | nil => rfl
  | cons block others => simp [blockNames]

/-- The reader keeps up with the blocks over one line. -/
theorem Represented.readLine {nameOf : Nat → Option String} {nesting : Nesting}
    {progress : Progress} (represented : nesting.Represented nameOf progress) (raw : List Char)
    (named : ∀ element, declaration? (bareLine raw) = some element →
      nameOf nesting.entries.length = some element.name) :
    (nesting.readLine (bareLine raw)).Represented nameOf (progress.readLine raw) := by
  by_cases passed : isIgnored (bareLine raw) = true
  · have reader : progress.readLine raw = progress := if_pos passed
    have blocks : nesting.readLine (bareLine raw) = nesting := if_pos passed
    rwa [reader, blocks]
  by_cases closing : closesBlock (bareLine raw) = true
  · have reader : progress.readLine raw = { progress with blocks := progress.blocks.tail } := by
      rw [Progress.readLine, if_neg passed]
      exact if_pos closing
    have blocks : nesting.readLine (bareLine raw) = nesting.leave := by
      rw [Nesting.readLine, if_neg passed, if_pos closing]
    rw [reader, blocks]
    exact ⟨represented.elements, by
      rw [represented.blocks, leave]
      cases nesting.blocks <;> rfl⟩
  have reader : progress.readLine raw =
      { elements := progress.elements ++ (element? progress.parent (bareLine raw)).toList
        blocks :=
          if opensBlock (bareLine raw) then
            (match element? progress.parent (bareLine raw) with
              | some element => some element.name
              | none => progress.parent) :: progress.blocks
          else progress.blocks } := by
    rw [Progress.readLine, if_neg passed]
    exact if_neg closing
  rw [declaration?, if_neg passed] at named
  rw [reader, Nesting.readLine, if_neg passed, if_neg closing,
    element?_parent progress.parent, represented.parent, represented.elements, represented.blocks]
  cases found : element? none (bareLine raw) with
  | none =>
    cases opensBlock (bareLine raw) with
    | false => exact ⟨by simp, rfl⟩
    | true => exact ⟨by simp [enter], by simp [enter, blockNames, innermost]⟩
  | some element =>
    have name := named element found
    cases opensBlock (bareLine raw) with
    | false => exact ⟨by simp [declare], rfl⟩
    | true => exact ⟨by simp [declare, enter], by simp [declare, enter, blockNames, name]⟩

/-- The reader keeps up with the blocks over any number of lines. -/
theorem Represented.foldl {declared : List Element} {nesting : Nesting} {progress : Progress}
    {raws : List (List Char)}
    (whole : declared = nesting.declared ++
      (raws.map bareLine).filterMap declaration?)
    (represented : nesting.Represented (nameAt declared) progress) :
    ((raws.map bareLine).foldl Nesting.readLine nesting).Represented
      (nameAt declared)
      (raws.foldl Progress.readLine progress) := by
  induction raws generalizing nesting progress with
  | nil => exact represented
  | cons raw others inductionHypothesis =>
    have next : declared = nesting.declared ++
        ((declaration? (bareLine raw)).toList ++
          (others.map bareLine).filterMap declaration?) := by
      rw [whole, List.map_cons, List.filterMap_cons]
      cases declaration? (bareLine raw) <;> rfl
    refine inductionHypothesis ?_ (represented.readLine raw ?_)
    · rw [declared_readLine, List.append_assoc, next]
    · intro element declares
      rw [nameAt, next, declares, ← length_declared]
      simp

/-- The reader finds the declared elements, each with the name of the one around it. -/
theorem declarations_eq (text : String) :
    declarations text = (ofLines (sourceLines text)).elements := by
  have whole : (sourceLines text).filterMap declaration? =
      ({} : Nesting).declared ++ (sourceLines text).filterMap declaration? := rfl
  have start : Represented (nameAt ((sourceLines text).filterMap declaration?)) {} {} :=
    ⟨rfl, rfl⟩
  have run := Represented.foldl whole start
  rw [← declared_ofLines] at run
  exact run.elements

end Nesting

end Drafting.C4
