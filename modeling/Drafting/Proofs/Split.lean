/-!
# Splitting a list at an item

Facts about an item and what stands before and behind it are stated for every way
to split a list there. When a list grows at its end, an item is the new one or
splits the list as before. A list is split at the first occurrence of an item if
the item is not among those before.
-/

namespace Drafting

/-- To split a list at an item when one more was added at the end is to split it at
the added item or to split the list as it was. -/
theorem split_of_concat {α : Type} {items before after : List α} {last item : α}
    (split : items ++ [last] = before ++ item :: after) :
    (items = before ∧ last = item ∧ after = []) ∨
      ∃ rest, after = rest ++ [last] ∧ items = before ++ item :: rest := by
  rcases List.eq_nil_or_concat after with rfl | ⟨rest, added, rfl⟩
  · obtain ⟨same, ends⟩ := List.append_inj' split rfl
    exact .inl ⟨same, by simpa using ends, rfl⟩
  · have longer : items ++ [last] = (before ++ item :: rest) ++ [added] := by simpa using split
    obtain ⟨same, ends⟩ := List.append_inj' longer rfl
    obtain rfl : last = added := by simpa using ends
    exact .inr ⟨rest, List.concat_eq_append, same⟩

/-- After an item was added at the end, an item is the added one or stands where it stood. -/
theorem getElem?_concat_eq_some_iff {α : Type} {items : List α} {index : Nat} {last item : α} :
    (items ++ [last])[index]? = some item ↔
      items[index]? = some item ∨ (index = items.length ∧ last = item) := by
  rcases Nat.lt_trichotomy index items.length with before | rfl | behind
  · rw [List.getElem?_append_left before]
    constructor
    · exact .inl
    · rintro (old | ⟨rfl, _⟩)
      · exact old
      · exact absurd before (Nat.lt_irrefl _)
  · simp
  · have longer : (items ++ [last]).length ≤ index := by
      rw [List.length_append]
      exact behind
    rw [List.getElem?_eq_none longer, List.getElem?_eq_none (Nat.le_of_lt behind)]
    constructor
    · intro found
      contradiction
    · rintro (found | ⟨rfl, _⟩)
      · contradiction
      · exact absurd behind (Nat.lt_irrefl _)

/-- After the item at one position was changed, an item is the changed one or stands where
it stood. -/
theorem getElem?_modify_eq_some_iff {α : Type} {items : List α} {position index : Nat}
    {change : α → α} {item : α} :
    (items.modify position change)[index]? = some item ↔
      ∃ original, items[index]? = some original ∧
        (if position = index then change original else original) = item := by
  rw [List.getElem?_modify]
  exact Option.map_eq_some_iff

/-- A list is split at the last of its items that are chosen. -/
theorem exists_last_chosen {α : Type} {items : List α} (chosen : α → Bool)
    (some : ∃ item ∈ items, chosen item = true) :
    ∃ before item after, items = before ++ item :: after ∧ chosen item = true ∧
      ∀ other ∈ after, chosen other = false := by
  induction items with
  | nil => simp at some
  | cons first others inductionHypothesis =>
    by_cases later : ∃ item ∈ others, chosen item = true
    · obtain ⟨before, item, after, split, isChosen, last⟩ := inductionHypothesis later
      exact ⟨first :: before, item, after, by rw [split, List.cons_append], isChosen, last⟩
    · simp only [not_exists, not_and, Bool.not_eq_true] at later
      obtain ⟨item, member, isChosen⟩ := some
      rcases List.mem_cons.mp member with rfl | inside
      · exact ⟨[], item, others, rfl, isChosen, later⟩
      · simp [later item inside] at isChosen

/-- A list is split at the last occurrence of an item that it holds. -/
theorem exists_last_split {α : Type} [DecidableEq α] {items : List α} {item : α}
    (member : item ∈ items) : ∃ before after, items = before ++ item :: after ∧ item ∉ after := by
  obtain ⟨before, own, after, split, same, last⟩ :=
    exists_last_chosen (· == item) ⟨item, member, beq_self_eq_true item⟩
  obtain rfl := eq_of_beq same
  exact ⟨before, after, split, fun later => by simpa using last own later⟩

/-- Where a list begins with another that does not hold an item of it, the other lies before
the item. -/
theorem exists_split_before {α : Type} {before after first rest : List α} {item : α}
    (absent : item ∉ first) (split : before ++ item :: after = first ++ rest) :
    ∃ more, before = first ++ more ∧ rest = more ++ item :: after := by
  rcases List.append_eq_append_iff.mp split with ⟨more, longer, behind⟩ | ⟨more, whole, behind⟩
  · cases more with
    | nil => exact ⟨[], by simp [longer], by simpa using behind.symm⟩
    | cons other others =>
      obtain ⟨rfl, _⟩ := List.cons.inj behind
      exact absurd (by simp [longer]) absent
  · exact ⟨more, whole, behind⟩

/-- The items of a list are others than one that it does not hold. -/
theorem bne_of_not_mem {α : Type} [DecidableEq α] {items : List α} {item : α}
    (absent : item ∉ items) : ∀ other ∈ items, (other != item) = true := by
  intro other member
  rw [bne_iff_ne]
  rintro rfl
  exact absent member

/-- A list is taken up to the first occurrence of an item. -/
theorem takeWhile_bne_append {α : Type} [DecidableEq α] {before : List α} {item : α}
    (absent : item ∉ before) (after : List α) :
    (before ++ item :: after).takeWhile (· != item) = before := by
  rw [List.takeWhile_append_of_pos (bne_of_not_mem absent), List.takeWhile_cons_of_neg (by simp),
    List.append_nil]

/-- A list goes on with an item behind everything before its first occurrence. -/
theorem dropWhile_bne_append {α : Type} [DecidableEq α] {before : List α} {item : α}
    (absent : item ∉ before) (after : List α) :
    (before ++ item :: after).dropWhile (· != item) = item :: after := by
  rw [List.dropWhile_append_of_pos (bne_of_not_mem absent), List.dropWhile_cons_of_neg (by simp)]

end Drafting
