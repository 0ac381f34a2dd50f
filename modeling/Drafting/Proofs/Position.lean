import Drafting.Proofs.Split
import Mathlib.Data.List.Nodup

/-!
# Items numbered by their positions

The readers give each item of a diagram the number of items before it. Items are only
added at the end, and later changes leave their numbers alone, so the numbers remain the
positions. They increase along the list, and an item can be told from its number.

Where an item is added only if its key is new, the keys stay distinct, too.
-/

namespace Drafting

variable {α : Type} {number : α → Int} {items : List α}

/-- The items of a list are numbered zero, one, two and so on in their order. -/
def NumberedBy (number : α → Int) (items : List α) : Prop :=
  items.map number = (List.range items.length).map Int.ofNat

namespace NumberedBy

/-- No items are numbered. -/
theorem nil : NumberedBy number ([] : List α) := rfl

/-- An item that is added takes the number of items before it. -/
theorem concat (numbered : NumberedBy number items) {item : α}
    (next : number item = items.length) : NumberedBy number (items ++ [item]) := by
  rw [NumberedBy, List.map_append, numbered, List.length_append, List.length_singleton,
    List.range_succ, List.map_append]
  simp [next]

/-- Items with the same numbers in the same order are numbered too. -/
theorem of_map_eq (numbered : NumberedBy number items) {others : List α}
    (same : others.map number = items.map number) : NumberedBy number others := by
  have lengths : others.length = items.length := by
    simpa only [List.length_map] using congrArg List.length same
  rw [NumberedBy, same, lengths]
  exact numbered

/-- The number of an item is its position. -/
theorem number_of_getElem? (numbered : NumberedBy number items) {position : Nat} {item : α}
    (found : items[position]? = some item) : number item = position := by
  have mapped : (items.map number)[position]? = some (number item) := by
    rw [List.getElem?_map, found, Option.map_some]
  obtain ⟨inside, _⟩ := List.getElem?_eq_some_iff.mp found
  rw [numbered, List.getElem?_map, List.getElem?_range inside] at mapped
  exact (Option.some.inj mapped).symm

/-- The number of an item is less than the number of items. -/
theorem bounds (numbered : NumberedBy number items) {item : α} (member : item ∈ items) :
    0 ≤ number item ∧ number item < items.length := by
  obtain ⟨position, inside, rfl⟩ := List.mem_iff_getElem.mp member
  have own := numbered.number_of_getElem? (List.getElem?_eq_getElem inside)
  omega

/-- Items with the same number are the same. -/
theorem eq_of_number (numbered : NumberedBy number items) {first second : α}
    (firstMember : first ∈ items) (secondMember : second ∈ items)
    (same : number first = number second) : first = second := by
  obtain ⟨position, inside, rfl⟩ := List.mem_iff_getElem.mp firstMember
  obtain ⟨other, otherInside, rfl⟩ := List.mem_iff_getElem.mp secondMember
  have own := numbered.number_of_getElem? (List.getElem?_eq_getElem inside)
  have others := numbered.number_of_getElem? (List.getElem?_eq_getElem otherInside)
  obtain rfl : position = other := by omega
  rfl

/-- The items before a position have lower numbers. -/
theorem lt_of_mem_take (numbered : NumberedBy number items) {count : Nat} {item : α}
    (member : item ∈ items.take count) : number item < count := by
  obtain ⟨position, bound, rfl⟩ := List.mem_take_iff_getElem.mp member
  have inside : position < items.length := by omega
  have own := numbered.number_of_getElem? (List.getElem?_eq_getElem inside)
  omega

/-- Those from a position on do not. -/
theorem le_of_mem_drop (numbered : NumberedBy number items) {count : Nat} {item : α}
    (member : item ∈ items.drop count) : count ≤ number item := by
  obtain ⟨position, bound, rfl⟩ := List.mem_drop_iff_getElem.mp member
  have inside : count + position < items.length := by omega
  have own := numbered.number_of_getElem? (List.getElem?_eq_getElem inside)
  omega

/-- The numbers increase. -/
theorem increasing (numbered : NumberedBy number items) :
    items.Pairwise fun first second => number first < number second := by
  have numbers : (items.map number).Pairwise (· < ·) := by
    rw [numbered]
    exact List.pairwise_map.mpr (List.pairwise_lt_range.imp Int.ofNat_lt.mpr)
  exact List.pairwise_map.mp numbers

/-- What stands before an item has a lower number. -/
theorem lt_of_split (numbered : NumberedBy number items) {before after : List α}
    {item other : α} (split : items = before ++ item :: after) (member : other ∈ before) :
    number other < number item := by
  have ordered := numbered.increasing
  rw [split] at ordered
  exact (List.pairwise_append.mp ordered).2.2 other member item List.mem_cons_self

end NumberedBy

/-- Items with increasing numbers are cut at a bound. -/
theorem filter_lt_append_filter_le
    (increasing : items.Pairwise fun first second => number first < number second) (bound : Int) :
    items.filter (fun item => decide (number item < bound)) ++
      items.filter (fun item => decide (bound ≤ number item)) = items := by
  induction items with
  | nil => rfl
  | cons first others inductionHypothesis =>
    obtain ⟨least, later⟩ := List.pairwise_cons.mp increasing
    by_cases below : number first < bound
    · rw [List.filter_cons_of_pos (by simpa using below),
        List.filter_cons_of_neg (by simpa using below), List.cons_append, inductionHypothesis later]
    · have none : others.filter (fun item => decide (number item < bound)) = [] := by
        refine List.filter_eq_nil_iff.mpr ?_
        intro item member
        have := least item member
        simp only [decide_eq_true_eq]
        omega
      have all := inductionHypothesis later
      rw [none, List.nil_append] at all
      rw [List.filter_cons_of_neg (by simpa using below), none,
        List.filter_cons_of_pos (by simpa using below), all, List.nil_append]

/-- An item with a new key leaves the keys distinct. -/
theorem nodup_map_concat {β : Type} {key : α → β} (distinct : (items.map key).Nodup) {item : α}
    (fresh : ∀ known ∈ items, key known ≠ key item) : ((items ++ [item]).map key).Nodup := by
  rw [List.map_append, List.map_singleton, ← List.concat_eq_append]
  refine distinct.concat ?_
  intro member
  obtain ⟨known, inside, same⟩ := List.mem_map.mp member
  exact fresh known inside same

end Drafting
