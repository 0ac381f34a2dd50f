import Drafting.Proofs.Diagram.Relations
import Drafting.Proofs.Position
import Drafting.Proofs.Text.Scan
import Drafting.StateDiagram.Reader

/-!
# Transitions and the states they name

The mark `[*]` is resolved twice: when a transition is read, the state at each end is added
under a key, and when it is drawn, both ends are looked up under keys that are made anew
from their names. The two agree, and since names are words the keys of the two pseudo
states are no names. So distinct keys mean one state for each name, and at most one first
and one last state.

Notes may be attached at any time. They change neither names nor kinds, so keys and numbers
stay as they are.

The main statement is that no transition is lost: in the drawing of whatever was read, each
has its link between the two states it names.
-/

namespace Drafting

open Text

namespace State

/-- A name is a word. -/
def IsWord (name : String) : Prop := ∃ word : Word, word.text = name

/-- What a transition may name is a word or the mark `[*]`. -/
def IsEnd (name : String) : Prop := name = pseudoName ∨ IsWord name

/-- The state that a transition names at one end: the pseudo state of that end by `[*]`, and
the ordinary state of a name by that name. -/
def Named (name : String) (pseudo : StateKind) (state : State) : Prop :=
  if name = pseudoName then state.kind = pseudo else state.kind = .state ∧ state.name = name

/-- A cell is the box of a state: it shows the label in the style of the kind. -/
def Depicts (state : State) (cell : Cell) : Prop :=
  cell.value = state.label ∧ cell.style = styleOf state.kind ∧ cell.parent = Cell.layerId

/-- A word is no text with a bracket. -/
theorem IsWord.ne_of_bracket {name other : String} (word : IsWord name)
    (bracket : '[' ∈ other.toList) : name ≠ other := by
  rintro rfl
  obtain ⟨letters, rfl⟩ := word
  rw [Word.toList_text] at bracket
  exact letters.not_mem (by decide) bracket

/-- The key of an end is that of the state which the end names, and of no other state. -/
theorem named_of_key {state : State} (ordinary : state.kind = .state → IsWord state.name)
    {name : String} (isEnd : IsEnd name) {isSource : Bool}
    (same : state.key = keyOf name isSource) :
    Named name (if isSource then .start else .stop) state := by
  rw [Named]
  by_cases mark : name = pseudoName
  · rw [if_pos mark]
    have pseudo : state.key = if isSource then startKey else stopKey := by
      rw [same, keyOf, mark, beq_self_eq_true, if_pos rfl]
    cases kind : state.kind with
    | state =>
      -- the key of an ordinary state is its name, a word, while pseudo keys hold a bracket
      have own : state.key = state.name := by rw [key, kind]
      have bracket : '[' ∈ (if isSource then startKey else stopKey).toList := by
        cases isSource <;> decide
      exact absurd (own.symm.trans pseudo) ((ordinary kind).ne_of_bracket bracket)
    | start =>
      rw [key, kind] at pseudo
      cases isSource with
      | true => rfl
      | false =>
        have collision : startKey = stopKey := pseudo
        exact absurd collision (by decide)
    | stop =>
      rw [key, kind] at pseudo
      cases isSource with
      | true =>
        have collision : stopKey = startKey := pseudo
        exact absurd collision (by decide)
      | false => rfl
  · rw [if_neg mark]
    have word : IsWord name := isEnd.resolve_left mark
    have own : state.key = name := by
      rw [same, keyOf, beq_false_of_ne mark]
      rfl
    cases kind : state.kind with
    | state =>
      rw [key, kind] at own
      exact ⟨rfl, own⟩
    | start =>
      rw [key, kind] at own
      have collision : startKey = name := own
      exact absurd collision.symm (word.ne_of_bracket (by decide))
    | stop =>
      rw [key, kind] at own
      have collision : stopKey = name := own
      exact absurd collision.symm (word.ne_of_bracket (by decide))

end State

namespace StateDiagram

namespace Statement

/-- What a statement names is spelled as a name of its place. -/
def IsSpelled : Statement → Prop
  | .declaration name _ => State.IsWord name
  | .transition source target _ => State.IsEnd source ∧ State.IsEnd target

/-- A name that is read as a word is one. -/
theorem isWord_of_word? {line name rest : List Char} (read : word? line = some (name, rest)) :
    State.IsWord (String.ofList name) := by
  obtain ⟨word, rfl⟩ := exists_word read
  exact ⟨word, rfl⟩

/-- The name of a state at one end of a transition is a word or the mark. -/
theorem isEnd_of_stateName? {line name rest : List Char}
    (read : stateName? line = some (name, rest)) : State.IsEnd (String.ofList name) := by
  rw [stateName?] at read
  split at read
  · left
    obtain ⟨rfl, _⟩ := Prod.mk.inj (Option.some.inj read)
    exact String.ofList_toList
  · right
    exact isWord_of_word? read

/-- A statement that is read from a line is spelled so. -/
theorem isSpelled_of_ofLine? {line : String} {statement : Statement}
    (read : ofLine? line = some statement) : statement.IsSpelled := by
  obtain ⟨form, member, found⟩ := List.exists_of_findSome?_eq_some read
  simp only [forms, List.mem_cons, List.not_mem_nil, or_false] at member
  rcases member with rfl | rfl | rfl
  · simp only [labelledState?, Option.bind_eq_bind, Option.bind_eq_some_iff, Prod.exists] at found
    obtain ⟨_, _, _, _, _, _, label, _, _, _, _, _, _, _, _, _, _, name, _, word, whole⟩ := found
    rw [← Option.some.inj whole]
    exact isWord_of_word? word
  · simp only [plainState?, Option.bind_eq_bind, Option.bind_eq_some_iff, Prod.exists] at found
    obtain ⟨_, _, _, _, name, _, word, whole⟩ := found
    obtain ⟨_, declared⟩ := Option.ite_none_right_eq_some.mp whole
    rw [← Option.some.inj declared]
    exact isWord_of_word? word
  · simp only [transition?, Option.bind_eq_bind, Option.bind_eq_some_iff, Prod.exists] at found
    obtain ⟨source, _, atSource, _, _, _, _, _, target, _, atTarget, _, _, whole⟩ := found
    rw [← Option.some.inj whole]
    exact ⟨isEnd_of_stateName? atSource, isEnd_of_stateName? atTarget⟩

end Statement

/-- The keys of the states. -/
def keys (diagram : StateDiagram) : List String := diagram.states.map State.key

/-- States are numbered and have distinct keys, ordinary ones are named by words, and both
ends of a transition are spelled as names and have states. -/
structure Sound (diagram : StateDiagram) : Prop where
  numbered : NumberedBy State.id diagram.states
  distinct : diagram.keys.Nodup
  words : ∀ state ∈ diagram.states, state.kind = .state → State.IsWord state.name
  spelled : ∀ transition ∈ diagram.transitions,
    State.IsEnd transition.source ∧ State.IsEnd transition.target
  known : ∀ transition ∈ diagram.transitions,
    State.keyOf transition.source true ∈ diagram.keys ∧
      State.keyOf transition.target false ∈ diagram.keys

namespace Sound

variable {progress : Progress}

/-- An empty diagram. -/
theorem empty : Sound {} where
  numbered := .nil
  distinct := List.nodup_nil
  words := by simp
  spelled := by simp
  known := by simp

/-- The keys after a state was added: those before, and its own. -/
theorem mem_keys_addState (progress : Progress) (name label : String) (kind : StateKind)
    (asked : String) :
    asked ∈ (progress.addState name label kind).diagram.keys ↔
      asked ∈ progress.diagram.keys ∨ asked = State.key ⟨0, name, label, kind, none⟩ := by
  rw [Progress.addState]
  split
  · next known =>
    obtain ⟨state, member, same⟩ := List.any_eq_true.mp known
    have inside := List.mem_map_of_mem (f := State.key) member
    rw [eq_of_beq same] at inside
    constructor
    · exact .inl
    · rintro (old | rfl)
      · exact old
      · exact inside
  · rw [keys, List.map_append, List.mem_append, List.map_singleton, List.mem_singleton]
    exact Iff.rfl

/-- Adding a state leaves the transitions as they are. -/
theorem addState_transitions (progress : Progress) (name label : String) (kind : StateKind) :
    (progress.addState name label kind).diagram.transitions = progress.diagram.transitions := by
  rw [Progress.addState]
  split <;> rfl

/-- A state is added only if its key is new. -/
theorem addState (sound : Sound progress.diagram) {name : String} (label : String)
    {kind : StateKind} (ordinary : kind = .state → State.IsWord name) :
    Sound (progress.addState name label kind).diagram := by
  have transitions := addState_transitions progress name label kind
  refine ⟨?_, ?_, ?_, transitions ▸ sound.spelled, ?_⟩
  · rw [Progress.addState]
    split
    · exact sound.numbered
    · exact sound.numbered.concat rfl
  · rw [Progress.addState]
    split
    · exact sound.distinct
    · next unknown =>
      refine nodup_map_concat sound.distinct ?_
      intro state inside same
      exact unknown (List.any_eq_true.mpr ⟨state, inside, beq_iff_eq.mpr same⟩)
  · rw [Progress.addState]
    split
    · exact sound.words
    · intro state member
      rcases List.mem_append.mp member with earlier | last
      · exact sound.words state earlier
      · rw [List.mem_singleton.mp last]
        exact ordinary
  · rw [transitions]
    intro transition member
    obtain ⟨source, target⟩ := sound.known transition member
    exact ⟨(mem_keys_addState ..).mpr (.inl source), (mem_keys_addState ..).mpr (.inl target)⟩

/-- The keys after the state of an end was added: those before, and that of the end. -/
theorem mem_keys_addEnd (progress : Progress) (name : String) (isSource : Bool)
    (asked : String) :
    asked ∈ (progress.addEnd name isSource).diagram.keys ↔
      asked ∈ progress.diagram.keys ∨ asked = State.keyOf name isSource := by
  rw [Progress.addEnd, State.keyOf]
  split
  · cases isSource <;> exact mem_keys_addState ..
  · exact mem_keys_addState ..

/-- The state of an end is a pseudo state, or its name is a word. -/
theorem addEnd (sound : Sound progress.diagram) {name : String} (isEnd : State.IsEnd name)
    (isSource : Bool) : Sound (progress.addEnd name isSource).diagram := by
  rw [Progress.addEnd]
  split
  · cases isSource with
    | true => exact sound.addState _ (by simp)
    | false => exact sound.addState _ (by simp)
  · next other =>
    have word : State.IsWord name := isEnd.resolve_left fun mark => other (beq_iff_eq.mpr mark)
    exact sound.addState name fun _ => word

/-- A transition is added together with the states at its ends. -/
theorem apply (sound : Sound progress.diagram) {statement : Statement}
    (spelled : statement.IsSpelled) : Sound (progress.apply statement).diagram := by
  cases statement with
  | declaration name label => exact sound.addState label fun _ => spelled
  | transition source target label =>
    obtain ⟨sourceSpelled, targetSpelled⟩ := spelled
    let named := (progress.addEnd source true).addEnd target false
    have both : Sound named.diagram := (sound.addEnd sourceSpelled true).addEnd targetSpelled false
    have fromSource : State.keyOf source true ∈ named.diagram.keys :=
      (mem_keys_addEnd ..).mpr (.inl ((mem_keys_addEnd ..).mpr (.inr rfl)))
    have toTarget : State.keyOf target false ∈ named.diagram.keys :=
      (mem_keys_addEnd ..).mpr (.inr rfl)
    refine ⟨both.numbered, both.distinct, both.words, ?_, ?_⟩
    · intro transition member
      rcases List.mem_append.mp member with earlier | last
      · exact both.spelled transition earlier
      · rw [List.mem_singleton.mp last]
        exact ⟨sourceSpelled, targetSpelled⟩
    · intro transition member
      rcases List.mem_append.mp member with earlier | last
      · exact both.known transition earlier
      · rw [List.mem_singleton.mp last]
        exact ⟨fromSource, toTarget⟩

/-- What a note cannot change of a state is the same after it was attached. -/
theorem map_attachNote {β : Type} (view : State → β)
    (blind : ∀ state note, view { state with note } = view state) (progress : Progress) :
    progress.attachNote.diagram.states.map view = progress.diagram.states.map view := by
  rw [Progress.attachNote, List.map_map]
  refine List.map_congr_left ?_
  intro state _
  rw [Function.comp_apply]
  split
  · exact blind state _
  · rfl

/-- A note changes neither numbers nor keys. -/
theorem attachNote (sound : Sound progress.diagram) : Sound progress.attachNote.diagram := by
  have keys : progress.attachNote.diagram.keys = progress.diagram.keys :=
    map_attachNote State.key (fun _ _ => rfl) progress
  refine ⟨?_, keys ▸ sound.distinct, ?_, sound.spelled, ?_⟩
  · exact sound.numbered.of_map_eq (map_attachNote State.id (fun _ _ => rfl) progress)
  · intro state member kind
    have mapped := List.mem_map_of_mem (f := fun state => (state.kind, state.name)) member
    rw [map_attachNote (fun state => (state.kind, state.name)) (fun _ _ => rfl)] at mapped
    obtain ⟨old, oldMember, same⟩ := List.mem_map.mp mapped
    obtain ⟨oldKind, oldName⟩ := Prod.mk.inj same
    exact oldName ▸ sound.words old oldMember (oldKind.trans kind)
  · rw [keys]
    exact sound.known

/-- Every line keeps a diagram sound. -/
theorem readLine (sound : Sound progress.diagram) (line : String) :
    Sound (progress.readLine line).diagram := by
  simp only [Progress.readLine]
  split
  · exact sound
  · split
    · exact sound.attachNote
    · split
      · exact sound
      · split
        · next statement read => exact sound.apply (Statement.isSpelled_of_ofLine? read)
        · exact sound

/-- Whatever lines are read, the diagram is sound. -/
theorem of_lines (lines : List String) : Sound (ofLines lines) := by
  exact List.foldlRecOn (motive := fun progress : Progress => Sound progress.diagram) _
    Progress.readLine empty fun _ sound line _ => sound.readLine line

/-- There is at most one state of each pseudo kind, since all of them have its key. -/
theorem length_pseudo {diagram : StateDiagram} (sound : Sound diagram) {kind : StateKind}
    (pseudo : kind ≠ .state) : (diagram.states.filter (·.kind = kind)).length ≤ 1 := by
  let own := diagram.states.filter (·.kind = kind)
  have distinct : (own.map State.key).Nodup :=
    (List.filter_sublist.map State.key).nodup sound.distinct
  have alike : own.map State.key =
      List.replicate own.length (State.key ⟨0, "", "", kind, none⟩) := by
    refine List.eq_replicate_iff.mpr ⟨List.length_map _, ?_⟩
    intro key member
    obtain ⟨state, inside, rfl⟩ := List.mem_map.mp member
    have isOwn : state.kind = kind := of_decide_eq_true (List.mem_filter.mp inside).2
    rw [State.key, State.key, isOwn]
    cases kind with
    | state => contradiction
    | start => rfl
    | stop => rfl
  rw [alike] at distinct
  exact List.nodup_replicate.mp distinct

/-- Ordinary states have distinct names, since these are their keys. -/
theorem nodup_names {diagram : StateDiagram} (sound : Sound diagram) :
    ((diagram.states.filter (·.kind = .state)).map State.name).Nodup := by
  let own := diagram.states.filter (·.kind = .state)
  have distinct : (own.map State.key).Nodup :=
    (List.filter_sublist.map State.key).nodup sound.distinct
  have names : own.map State.key = own.map State.name := by
    refine List.map_congr_left ?_
    intro state member
    have ordinary : state.kind = .state := of_decide_eq_true (List.mem_filter.mp member).2
    rw [State.key, ordinary]
  exact names ▸ distinct

end Sound

/-- A cell links the states that a transition names, from the first to the second. -/
def Joins (drawn : List (State × Cell)) (transition : Transition) (cell : Cell) : Prop :=
  ∃ source ∈ drawn, ∃ target ∈ drawn,
    source.1.Named transition.source .start ∧ target.1.Named transition.target .stop ∧
    cell.body = (transition.label, transitionStyle, Cell.layerId,
      .link source.2.id target.2.id)

/-- Whatever lines are read, states are numbered by their positions, there is at most one
first and one last state, and the others have distinct names. In the drawing every state
has its box, and the other cells are one link for each transition, in order and from the
box of the state that its source names to that of the state that its target names. -/
theorem transitions_drawn (stem : String) (lines : List String) :
    let diagram := ofLines lines
    let cells := (Diagram.state diagram).cells stem
    NumberedBy State.id diagram.states ∧
      (diagram.states.filter (·.kind = .start)).length ≤ 1 ∧
      (diagram.states.filter (·.kind = .stop)).length ≤ 1 ∧
      ((diagram.states.filter (·.kind = .state)).map State.name).Nodup ∧
      ∃ drawn : List (State × Cell), drawn.map Prod.fst = diagram.states ∧
        (drawn.map Prod.snd).Sublist (cells.filter Cell.isBox) ∧
        (∀ pair ∈ drawn, pair.1.Depicts pair.2) ∧
        List.Forall₂ (Joins drawn) diagram.transitions
          (cells.filter fun cell => !cell.isBox) := by
  intro diagram cells
  have sound : Sound diagram := Sound.of_lines lines
  have stateOf {key : String} (known : key ∈ diagram.keys) :
      ∃ state ∈ diagram.states, (stateNode state).key = .name key := by
    obtain ⟨state, member, rfl⟩ := List.mem_map.mp known
    exact ⟨state, member, rfl⟩
  have known : ∀ link ∈ diagram.network.links,
      (∃ state ∈ diagram.states, (stateNode state).key = link.source) ∧
        ∃ state ∈ diagram.states, (stateNode state).key = link.target := by
    intro link member
    obtain ⟨transition, inside, rfl⟩ := List.mem_map.mp member
    obtain ⟨source, target⟩ := sound.known transition inside
    exact ⟨stateOf source, stateOf target⟩
  obtain ⟨drawn, states, boxes, depicts, joined⟩ := (cellsOf_figures stem diagram).joined known
  have named {name : String} (isEnd : State.IsEnd name) {isSource : Bool}
      {pair : State × Cell} (member : pair ∈ drawn)
      (same : (stateNode pair.1).key = .name (State.keyOf name isSource)) :
      pair.1.Named name (if isSource then .start else .stop) := by
    have isState : pair.1 ∈ diagram.states := states ▸ List.mem_map_of_mem member
    exact State.named_of_key (sound.words pair.1 isState) isEnd (Key.name.inj same)
  refine ⟨sound.numbered, sound.length_pseudo (by decide), sound.length_pseudo (by decide),
    sound.nodup_names, drawn, states, boxes, depicts, ?_⟩
  -- a link is known by keys only; which state a key belongs to depends on the spelling of the end
  have each := (List.forall₂_and_left _ _).mpr
    ⟨sound.spelled, List.forall₂_map_left_iff.mp joined⟩
  refine each.imp ?_
  rintro transition cell ⟨⟨sourceEnd, targetEnd⟩, source, sourceDrawn, target, targetDrawn,
    sourceKey, targetKey, body⟩
  exact ⟨source, sourceDrawn, target, targetDrawn, named sourceEnd sourceDrawn sourceKey,
    named targetEnd targetDrawn targetKey, body⟩

end StateDiagram

end Drafting
