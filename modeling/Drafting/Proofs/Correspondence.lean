import Mathlib.Data.List.Forall2

/-!
# Lists that correspond item by item

What is drawn for a list is known by a view of the drawn items, which is the list of what
is drawn for each of its items. From this the drawn items are given back to the items they
were drawn for: one for each, or a part of the list for each.
-/

namespace Drafting

variable {α β γ : Type} {items : List α} {members : List β} {view : β → γ}

/-- Where one view is drawn for every item, the members correspond to the items. -/
theorem forall₂_of_map_eq {result : α → γ} (same : members.map view = items.map result) :
    List.Forall₂ (fun item member => view member = result item) items members := by
  have equal : List.Forall₂ (fun left right => right = left) (items.map result)
      (members.map view) := by
    rw [same]
    exact List.forall₂_same.mpr fun _ _ => rfl
  exact List.forall₂_map_right_iff.mp (List.forall₂_map_left_iff.mp equal)

/-- Members that correspond to items have the views that belong to them. -/
theorem map_eq_of_forall₂ {result : α → γ}
    (related : List.Forall₂ (fun item member => view member = result item) items members) :
    members.map view = items.map result := by
  induction related with
  | nil => rfl
  | cons same _ inductionHypothesis => rw [List.map_cons, List.map_cons, same, inductionHypothesis]

/-- Where a member is selected for every item, the selected members correspond to the items. -/
theorem forall₂_filterMap {Related : α → β → Prop} {select : α → Option β}
    (each : ∀ item ∈ items, ∃ member, select item = some member ∧ Related item member) :
    List.Forall₂ Related items (items.filterMap select) := by
  induction items with
  | nil => exact .nil
  | cons item others inductionHypothesis =>
    obtain ⟨member, selected, related⟩ := each item List.mem_cons_self
    rw [List.filterMap_cons_some selected]
    exact .cons related (inductionHypothesis fun other later =>
      each other (List.mem_cons_of_mem item later))

/-- Items and the members that correspond to them, as pairs. -/
theorem exists_pairs {Related : α → β → Prop} (related : List.Forall₂ Related items members) :
    ∃ pairs : List (α × β), pairs.map Prod.fst = items ∧ pairs.map Prod.snd = members ∧
      ∀ pair ∈ pairs, Related pair.1 pair.2 := by
  obtain ⟨lengths, each⟩ := List.forall₂_iff_zip.mp related
  refine ⟨items.zip members, ?_, ?_, fun _ member => each member⟩
  · exact List.map_fst_zip (Nat.le_of_eq lengths)
  · exact List.map_snd_zip (Nat.le_of_eq lengths.symm)

/-- Where several views are drawn for every item, the members fall into parts that
correspond to the items. -/
theorem exists_parts {pieces : α → List γ} (same : members.map view = items.flatMap pieces) :
    ∃ parts : List (List β), parts.flatten = members ∧
      List.Forall₂ (fun item part => part.map view = pieces item) items parts := by
  induction items generalizing members with
  | nil => exact ⟨[], (List.map_eq_nil_iff.mp same).symm, .nil⟩
  | cons item others inductionHypothesis =>
    obtain ⟨part, rest, rfl, own, later⟩ := List.map_eq_append_iff.mp same
    obtain ⟨parts, rfl, each⟩ := inductionHypothesis later
    exact ⟨part :: parts, rfl, .cons own each⟩

end Drafting
