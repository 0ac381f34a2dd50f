import Drafting.Mindmap.Reader
import Drafting.Proofs.Diagram.Overlaps

/-!
# Places of nodes

Nodes fan out from the middle of the page. How far a node stands from the middle depends on its
level, and how far down it stands on the nodes that were placed on its side before, whatever their
levels are. So two nodes on one side are apart by their heights, and two nodes on different sides
are apart since the middle lies between them. Roots lie around the middle and stay there as long
as their texts are short.

The main statement tells this for every mind map that is read: nodes below the roots are apart from
each other, and from every root of at most forty-two characters.
-/

namespace Drafting

namespace MindmapNode

/-- The rectangle of a node whose corner is given. -/
def frame (node : MindmapNode) (x y : Int) : Box := .ofInt x y node.width height

/-- A node has a positive width. -/
theorem width_bound (node : MindmapNode) : 100 ≤ node.width := by
  rw [width, textWidth]
  exact le_max_left _ _

/-- The width of a node with a short text. -/
theorem width_le_of_short {node : MindmapNode} (short : node.text.length ≤ 42) :
    node.width ≤ 356 := by
  rw [width, textWidth]
  omega

/-- A root stands in the middle. -/
theorem place_of_root {node : MindmapNode} (root : node.level = 1) (edges : Edges) :
    node.place edges = (400 - node.width / 2, 280, edges) := by
  rw [place, if_pos root]
  rfl

/-- A node on the right side stands at the edge of that side, and the edge moves on behind it. -/
theorem place_of_right {node : MindmapNode} (deep : 2 ≤ node.level) (side : node.side = .right)
    (edges : Edges) :
    node.place edges =
      (400 + (node.level - 1) * 180, edges.right, { edges with right := edges.right + 60 }) := by
  have notRoot : node.level ≠ 1 := by omega
  rw [place, if_neg notRoot, side]
  rfl

/-- So it is on the left side, where a node ends at the distance that its level asks for. -/
theorem place_of_left {node : MindmapNode} (deep : 2 ≤ node.level) (side : node.side = .left)
    (edges : Edges) :
    node.place edges =
      (400 - (node.level - 1) * 180 - node.width, edges.left,
        { edges with left := edges.left + 60 }) := by
  have notRoot : node.level ≠ 1 := by omega
  rw [place, if_neg notRoot, side]
  rfl

/-- Whether a node with a given corner stands on its side of the page, and not above the edge of
that side. -/
def StandsBehind (edges : Edges) (node : MindmapNode) (x y : Int) : Prop :=
  match node.side with
  | .right => 580 ≤ x ∧ edges.right ≤ y
  | .left => x + node.width ≤ 220 ∧ edges.left ≤ y

/-- No edge moves up. -/
theorem edges_le_place (node : MindmapNode) (edges : Edges) :
    edges.right ≤ (node.place edges).2.2.right ∧ edges.left ≤ (node.place edges).2.2.left := by
  rw [place]
  split
  · exact ⟨le_rfl, le_rfl⟩
  · cases node.side <;> simp

end MindmapNode

namespace Mindmap

open MindmapNode

/-- The nodes with their corners, given the edges at which they begin. -/
def stands (edges : Edges) : List MindmapNode → List (MindmapNode × Int × Int)
  | [] => []
  | node :: others =>
    let (x, y, edges) := node.place edges
    (node, x, y) :: stands edges others

/-- Every node stands somewhere. -/
theorem map_fst_stands (edges : Edges) (nodes : List MindmapNode) :
    (stands edges nodes).map Prod.fst = nodes := by
  induction nodes generalizing edges with
  | nil => rfl
  | cons node others inductionHypothesis =>
    rw [stands, List.map_cons, inductionHypothesis]

/-- The rectangles of the figures are those of the nodes. -/
theorem frames_figuresFrom (edges : Edges) (nodes : List MindmapNode) :
    (figuresFrom edges nodes).filterMap Figure.frame? =
      (stands edges nodes).map fun (node, x, y) => node.frame x y := by
  induction nodes generalizing edges with
  | nil => rfl
  | cons node others inductionHypothesis =>
    have own (x y : Int) : (node.figures x y).filterMap Figure.frame? = [node.frame x y] := by
      rw [MindmapNode.figures]
      cases node.parent <;> rfl
    rw [figuresFrom, stands, List.filterMap_append, own, inductionHypothesis]
    rfl

/-- A node stands where it is placed behind the nodes before it, by edges that have moved down. -/
theorem exists_edges {edges : Edges} {nodes : List MindmapNode} {node : MindmapNode} {x y : Int}
    (member : (node, x, y) ∈ stands edges nodes) :
    ∃ own : Edges, edges.right ≤ own.right ∧ edges.left ≤ own.left ∧
      (node.place own).1 = x ∧ (node.place own).2.1 = y := by
  induction nodes generalizing edges with
  | nil => contradiction
  | cons first others inductionHypothesis =>
    rw [stands] at member
    rcases List.mem_cons.mp member with here | later
    · obtain ⟨rfl, corner⟩ := Prod.mk.inj here
      obtain ⟨rfl, rfl⟩ := Prod.mk.inj corner
      exact ⟨edges, le_rfl, le_rfl, rfl, rfl⟩
    · obtain ⟨own, right, left, place⟩ := inductionHypothesis later
      obtain ⟨fromRight, fromLeft⟩ := first.edges_le_place edges
      exact ⟨own, fromRight.trans right, fromLeft.trans left, place⟩

variable {edges : Edges} {nodes : List MindmapNode} {node : MindmapNode} {x y : Int}

/-- Nodes below the roots stand beside the middle, behind the edges at which they begin. -/
theorem standsBehind_of_stands (member : (node, x, y) ∈ stands edges nodes)
    (deep : 2 ≤ node.level) : StandsBehind edges node x y := by
  obtain ⟨own, right, left, rfl, rfl⟩ := exists_edges member
  cases side : node.side with
  | right =>
    rw [StandsBehind, side, place_of_right deep side]
    exact ⟨by omega, right⟩
  | left =>
    rw [StandsBehind, side, place_of_left deep side]
    exact ⟨by omega, left⟩

/-- Roots stand around the middle. -/
theorem corner_of_root (member : (node, x, y) ∈ stands edges nodes) (root : node.level = 1) :
    x = 400 - node.width / 2 ∧ y = 280 := by
  obtain ⟨own, _, _, rfl, rfl⟩ := exists_edges member
  rw [place_of_root root]
  exact ⟨rfl, rfl⟩

/-- Two nodes are apart exactly if one lies beside, above or below the other. -/
theorem frame_apart_iff {first second : MindmapNode} {x' y' : Int} :
    (first.frame x y).Apart (second.frame x' y') ↔
      x + first.width < x' ∨ x' + second.width < x ∨ y + 40 < y' ∨ y' + 40 < y := by
  have firstWidth := first.width_bound
  have secondWidth := second.width_bound
  exact Box.apart_ofInt_iff (by omega) (by decide) (by omega) (by decide)

/-- A node that was placed is apart from those behind it: they stand on the other side of the
page, or behind the edge that it has moved down. -/
theorem apart_of_behind {own : Edges} {later : MindmapNode} {x' y' : Int} (deep : 2 ≤ node.level)
    (behind : StandsBehind (node.place own).2.2 later x' y') :
    (node.frame (node.place own).1 (node.place own).2.1).Apart (later.frame x' y') := by
  rw [frame_apart_iff]
  rw [StandsBehind] at behind
  cases side : node.side with
  | right =>
    simp only [place_of_right deep side] at behind ⊢
    cases other : later.side <;> simp only [other] at behind <;> omega
  | left =>
    simp only [place_of_left deep side] at behind ⊢
    cases other : later.side <;> simp only [other] at behind <;> omega

/-- Nodes below the roots are apart from each other. -/
theorem pairwise_apart (edges : Edges) (nodes : List MindmapNode) :
    (stands edges nodes).Pairwise fun (first, x, y) (second, x', y') =>
      2 ≤ first.level → 2 ≤ second.level → (first.frame x y).Apart (second.frame x' y') := by
  induction nodes generalizing edges with
  | nil => exact .nil
  | cons first others inductionHypothesis =>
    rw [stands]
    refine .cons ?_ (inductionHypothesis _)
    rintro ⟨second, x', y'⟩ later firstDeep secondDeep
    exact apart_of_behind firstDeep (standsBehind_of_stands later secondDeep)

/-- A root with a short text does not reach the nodes on either side. -/
theorem root_apart {root : MindmapNode} {rootX rootY : Int}
    (rootMember : (root, rootX, rootY) ∈ stands edges nodes) (isRoot : root.level = 1)
    (short : root.text.length ≤ 42) (member : (node, x, y) ∈ stands edges nodes)
    (deep : 2 ≤ node.level) : (root.frame rootX rootY).Apart (node.frame x y) := by
  obtain ⟨rfl, rfl⟩ := corner_of_root rootMember isRoot
  have narrow := width_le_of_short short
  have behind := standsBehind_of_stands member deep
  rw [StandsBehind] at behind
  rw [frame_apart_iff]
  cases side : node.side <;> simp only [side] at behind <;> omega

/-- The edges on a page without nodes. -/
def firstEdges : Edges := ⟨center.2 - 100, center.2 - 100⟩

/-- The nodes of a mind map with their rectangles. -/
def places (map : Mindmap) : List (MindmapNode × Box) :=
  (stands firstEdges map.nodes).map fun (node, x, y) => (node, node.frame x y)

/-- The frames of a mind map are the rectangles of its nodes. -/
theorem frames_mindmap (map : Mindmap) (stem : String) :
    (Diagram.mindmap map).frames stem = map.places.map Prod.snd := by
  refine (frames_cellsOf stem _).trans ?_
  rw [places, List.map_map]
  exact frames_figuresFrom firstEdges map.nodes

/-- Whatever lines are read: every node has its rectangle. Those of nodes below the roots are apart
from each other and from that of each root with at most forty-two characters. -/
theorem nodes_apart (stem : String) (lines : List String) :
    let map := ofLines lines
    ∃ places : List (MindmapNode × Box), places.map Prod.fst = map.nodes ∧
      places.map Prod.snd = (Diagram.mindmap map).frames stem ∧
      (places.Pairwise fun first second =>
        2 ≤ first.1.level → 2 ≤ second.1.level → first.2.Apart second.2) ∧
      ∀ root ∈ places, root.1.level = 1 → root.1.text.length ≤ 42 →
        ∀ node ∈ places, 2 ≤ node.1.level → root.2.Apart node.2 := by
  intro map
  refine ⟨map.places, ?_, (map.frames_mindmap stem).symm, ?_, ?_⟩
  · rw [places, List.map_map]
    exact map_fst_stands firstEdges map.nodes
  · exact List.pairwise_map.mpr (pairwise_apart firstEdges map.nodes)
  · simp only [places, List.forall_mem_map]
    rintro ⟨root, rootX, rootY⟩ rootMember isRoot short ⟨node, x, y⟩ member deep
    exact root_apart rootMember isRoot short member deep

end Mindmap

end Drafting
