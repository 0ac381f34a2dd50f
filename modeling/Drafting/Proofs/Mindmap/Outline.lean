import Drafting.Mindmap.Reader
import Drafting.Proofs.Text.Scan

/-!
# Printed outlines

A forest of topics is printed in preorder, with one line for each topic. The line begins
with an asterisk for the topic and one more for each topic above it.

The reader does not see the forest. It hangs a node under the last node one level up, and
it never forgets the nodes of levels that were left. Those are not consulted: a topic is
followed by the topics below it, so that whenever a line of some depth is read, the last
node one level up is the topic it was printed under. The main statement is that the lines
of a forest are read as its nodes.
-/

namespace Drafting.Mindmap

open Text

/-- The text of a topic. It is visible at both ends, fills one line and does not go on with
the marks before it. -/
structure Caption where
  characters : List Char
  nonempty : characters ≠ []
  trimmed : trim characters = characters
  oneLine : '\n' ∉ characters
  unmarked : ∀ first ∈ characters.head?, isMark first = false

/-- A topic with its text and the topics below it. -/
inductive Topic where
  | branch (caption : Caption) (below : List Topic)

namespace Caption

/-- The marks of a topic with a number of topics above it. -/
def marks (depth : Nat) : List Char := List.replicate (depth + 1) '*'

/-- The line of a topic. -/
def line (caption : Caption) (depth : Nat) : String :=
  String.ofList (marks depth ++ ' ' :: caption.characters)

/-- The characters in the line of a topic. -/
theorem toList_line (caption : Caption) (depth : Nat) :
    (caption.line depth).toList = marks depth ++ ' ' :: caption.characters :=
  String.toList_ofList

/-- The node of a topic with its number and the number of the topic above it. -/
def node (caption : Caption) (parent : Option Int) (depth number : Nat) : MindmapNode where
  id := number
  text := String.ofList caption.characters
  level := depth + 1
  side := .left
  parent := parent

end Caption

namespace Topic

mutual

/-- The number of topics in a topic, itself among them. -/
def size : Topic → Nat
  | branch _ below => sizeAll below + 1

/-- The number of topics in several topics. -/
def sizeAll : List Topic → Nat
  | [] => 0
  | topic :: others => topic.size + sizeAll others

end

mutual

/-- The lines of a topic at a depth, its own before those of the topics below it. -/
def lines (depth : Nat) : Topic → List String
  | branch caption below => caption.line depth :: linesAll (depth + 1) below

/-- The lines of topics of one depth. -/
def linesAll (depth : Nat) : List Topic → List String
  | [] => []
  | topic :: others => topic.lines depth ++ linesAll depth others

end

mutual

/-- The nodes of a topic in preorder, from its own number on. The topics below it have that
number as their parent. -/
def nodes (parent : Option Int) (depth number : Nat) : Topic → List MindmapNode
  | branch caption below =>
    caption.node parent depth number ::
      nodesAll (some number) (depth + 1) (number + 1) below

/-- The nodes of topics with one parent, numbered one behind the other. -/
def nodesAll (parent : Option Int) (depth number : Nat) : List Topic → List MindmapNode
  | [] => []
  | topic :: others =>
    topic.nodes parent depth number ++ nodesAll parent depth (number + topic.size) others

end

mutual

/-- A topic has as many nodes as it has topics. -/
theorem length_nodes (parent : Option Int) (depth number : Nat) (topic : Topic) :
    (topic.nodes parent depth number).length = topic.size := by
  cases topic with
  | branch caption below => rw [nodes, size, List.length_cons, length_nodesAll]

/-- So have several. -/
theorem length_nodesAll (parent : Option Int) (depth number : Nat) (topics : List Topic) :
    (nodesAll parent depth number topics).length = sizeAll topics := by
  cases topics with
  | nil => rfl
  | cons topic others =>
    rw [nodesAll, sizeAll, List.length_append, length_nodes, length_nodesAll]

end

mutual

/-- The nodes of a topic are deeper than what stands above it. -/
theorem depth_lt_level {parent : Option Int} {depth number : Nat} {topic : Topic}
    {node : MindmapNode} (member : node ∈ topic.nodes parent depth number) :
    (depth : Int) < node.level := by
  cases topic with
  | branch caption below =>
    rw [nodes] at member
    rcases List.mem_cons.mp member with rfl | deeper
    · exact Int.lt_succ _
    · have lower := depth_lt_level_all deeper
      omega

/-- So are those of several topics. -/
theorem depth_lt_level_all {parent : Option Int} {depth number : Nat} {topics : List Topic}
    {node : MindmapNode} (member : node ∈ nodesAll parent depth number topics) :
    (depth : Int) < node.level := by
  cases topics with
  | nil => simp [nodesAll] at member
  | cons topic others =>
    rw [nodesAll] at member
    rcases List.mem_append.mp member with first | later
    · exact depth_lt_level first
    · exact depth_lt_level_all later

end

mutual

/-- Every line of a topic is that of some topic at some depth. -/
theorem exists_caption {depth : Nat} {topic : Topic} {line : String}
    (member : line ∈ topic.lines depth) :
    ∃ (caption : Caption) (deeper : Nat), line = caption.line deeper := by
  cases topic with
  | branch caption below =>
    rw [lines] at member
    rcases List.mem_cons.mp member with own | deeper
    · exact ⟨caption, depth, own⟩
    · exact exists_caption_all deeper

/-- So is every line of several topics. -/
theorem exists_caption_all {depth : Nat} {topics : List Topic} {line : String}
    (member : line ∈ linesAll depth topics) :
    ∃ (caption : Caption) (deeper : Nat), line = caption.line deeper := by
  cases topics with
  | nil => simp [linesAll] at member
  | cons topic others =>
    rw [linesAll] at member
    rcases List.mem_append.mp member with first | later
    · exact exists_caption first
    · exact exists_caption_all later

end

end Topic

namespace Caption

/-- Behind the marks of a topic and the blank after them, its text is the rest of the
line. -/
theorem anyBlanks_restOfLine (caption : Caption) :
    anyBlanks (' ' :: caption.characters) restOfLine? = some caption.characters := by
  have rest : restOfLine? caption.characters = some caption.characters := by
    have accepted : ∀ character ∈ caption.characters, inLine character = true := by
      intro character member
      apply inLine_of_ne
      rintro rfl
      exact caption.oneLine member
    rw [restOfLine?, run?_of_accepted caption.nonempty accepted]
    rfl
  have visible : ∀ first ∈ caption.characters.head?, isBlank first = false := by
    intro first begins
    obtain ⟨others, split⟩ : ∃ others, caption.characters = first :: others :=
      List.head?_eq_some_iff.mp begins
    exact isBlank_of_trim_cons (split ▸ caption.trimmed)
  have blank : ∀ character ∈ [' '], isBlank character = true := List.all_eq_true.mp (by decide)
  exact anyBlanks_of_forced blank visible rest

/-- The line of a topic is read with as many marks as were printed and with its text. -/
theorem ofLine?_line (caption : Caption) (depth : Nat) :
    Item.ofLine? (caption.line depth) = some ⟨marks depth, caption.characters⟩ := by
  have nonempty : marks depth ≠ [] := by simp [marks]
  have accepted : ∀ character ∈ marks depth, isMark character = true := by
    intro character member
    rw [List.eq_of_mem_replicate member]
    rfl
  have read : longest1 isMark (marks depth ++ ' ' :: caption.characters)
      (fun rest => anyBlanks rest restOfLine?) = some (marks depth, caption.characters) :=
    longest1_of_forced nonempty accepted (refused_of_head? rfl (by decide))
      caption.anyBlanks_restOfLine
  rw [Item.ofLine?, caption.toList_line, read]
  simp [caption.trimmed]

/-- The line of a topic is no directive. -/
theorem not_isDirective_line (caption : Caption) (depth : Nat) :
    isDirective directives (caption.line depth) = false := by
  have begins : (caption.line depth).toList =
      '*' :: (List.replicate depth '*' ++ ' ' :: caption.characters) :=
    caption.toList_line depth
  have nonempty : (caption.line depth).isEmpty = false := by
    rw [← Bool.not_eq_true, String.isEmpty_iff]
    intro empty
    simp [empty] at begins
  rw [isDirective, nonempty, begins]
  rfl

end Caption

/-- The node under which the next topic of a depth is hung: the last one a level up. -/
def above? (map : Mindmap) (depth : Nat) : Option Int :=
  if depth = 0 then none else map.lastOfLevel? depth

/-- Reading the line of a topic adds its node under the last one a level up. -/
theorem readLine_line (map : Mindmap) (caption : Caption) (depth : Nat) :
    map.readLine (caption.line depth) =
      ⟨map.nodes ++ [caption.node (map.above? depth) depth map.nodes.length]⟩ := by
  have level : ((Caption.marks depth).length : Int) = depth + 1 := by simp [Caption.marks]
  have left : (Caption.marks depth).contains '+' = false := by
    simp [Caption.marks, List.mem_replicate]
  have parent : (if (1 : Int) < depth + 1 then map.lastOfLevel? (depth + 1 - 1) else none) =
      map.above? depth := by
    rw [above?]
    by_cases root : depth = 0
    · simp [root]
    · rw [if_pos (by omega), if_neg root, Int.add_sub_cancel]
  rw [readLine, caption.ofLine?_line]
  simp only [addItem, level, left, parent]
  rfl

/-- What was added last at a level is found, and deeper nodes behind it do not hide it. -/
theorem lastOfLevel?_append (before added : List MindmapNode) (level : Int)
    (deeper : ∀ node ∈ added, level < node.level) :
    lastOfLevel? ⟨before ++ added⟩ level = lastOfLevel? ⟨before⟩ level := by
  have skipped : added.reverse.find? (fun node => node.level == level) = none := by
    refine List.find?_eq_none.mpr ?_
    intro node member
    have lower := deeper node (List.mem_reverse.mp member)
    simp only [beq_iff_eq]
    omega
  simp only [lastOfLevel?, List.reverse_append, List.find?_append, skipped, Option.none_or]

/-- Deeper nodes do not change where the next topic is hung. -/
theorem above?_append (before added : List MindmapNode) (depth : Nat)
    (deeper : ∀ node ∈ added, (depth : Int) < node.level) :
    above? ⟨before ++ added⟩ depth = above? ⟨before⟩ depth := by
  simp only [above?, lastOfLevel?_append before added depth deeper]

/-- Below a topic that was just added, topics are hung under it. -/
theorem above?_concat (before : List MindmapNode) (caption : Caption) (parent : Option Int)
    (depth number : Nat) :
    above? ⟨before ++ [caption.node parent depth number]⟩ (depth + 1) = some (number : Int) := by
  simp [above?, lastOfLevel?, Caption.node]

mutual

/-- Reading the lines of a topic adds its nodes, hung under the last one a level up. -/
theorem foldl_lines (map : Mindmap) (depth : Nat) (topic : Topic) :
    (topic.lines depth).foldl readLine map =
      ⟨map.nodes ++ topic.nodes (map.above? depth) depth map.nodes.length⟩ := by
  cases topic with
  | branch caption below =>
    have length : (map.nodes ++ [caption.node (map.above? depth) depth
        map.nodes.length]).length = map.nodes.length + 1 := by simp
    rw [Topic.lines, List.foldl_cons, readLine_line, foldl_linesAll, above?_concat, length,
      Topic.nodes, List.append_assoc, List.singleton_append]

/-- Reading the lines of topics of one depth adds their nodes, all with the same parent:
the nodes of each topic are deeper than that parent. -/
theorem foldl_linesAll (map : Mindmap) (depth : Nat) (topics : List Topic) :
    (Topic.linesAll depth topics).foldl readLine map =
      ⟨map.nodes ++ Topic.nodesAll (map.above? depth) depth map.nodes.length topics⟩ := by
  cases topics with
  | nil => simp [Topic.linesAll, Topic.nodesAll]
  | cons topic others =>
    have parent := above?_append map.nodes
      (topic.nodes (map.above? depth) depth map.nodes.length) depth
      fun node member => Topic.depth_lt_level member
    have length : (map.nodes ++ topic.nodes (map.above? depth) depth
        map.nodes.length).length = map.nodes.length + topic.size := by
      rw [List.length_append, Topic.length_nodes]
    rw [Topic.linesAll, List.foldl_append, foldl_lines, foldl_linesAll, parent, length,
      Topic.nodesAll, List.append_assoc]

end

/-- The lines of a forest are read as its nodes. -/
theorem ofLines_linesAll (topics : List Topic) :
    ofLines (Topic.linesAll 0 topics) = ⟨Topic.nodesAll none 0 0 topics⟩ := by
  have kept : ((Topic.linesAll 0 topics).filter fun line => !isDirective directives line) =
      Topic.linesAll 0 topics := by
    refine List.filter_eq_self.mpr ?_
    intro line member
    obtain ⟨caption, deeper, rfl⟩ := Topic.exists_caption_all member
    rw [caption.not_isDirective_line]
    rfl
  rw [ofLines, kept, foldl_linesAll]
  rfl

end Drafting.Mindmap
