import Drafting.Base64

/-!
# Reading base 64

Every group of three bytes is written as four values of six bits, and a last group of one or
two bytes as two or three. So the number of values never leaves a remainder of one by four,
and the padding that completes the last group is where reading stops. In an alphabet with a
character of its own for each value the form without padding is read as well.

The main statements are that reading gives back the bytes that were written, and that groups
are filled up with the fewest zero bytes.
-/

namespace Drafting.Base64

/-- Six bits hold the values below this. -/
def sextetLimit : Nat := 64

/-- Each value of six bits is written as a character of its own. None of these is the padding
mark, and all are ASCII. -/
theorem standard_character : ∀ value < sextetLimit,
    value? standard (character standard value) = some value ∧
      (character standard value == '=') = false ∧ (character standard value).toNat < 0x80 := by
  decide +kernel

/-- Bytes are cut into values of six bits. -/
theorem sextets_lt (bytes : List UInt8) : ∀ value ∈ sextets bytes, value < sextetLimit := by
  fun_induction sextets bytes with
  | case1 first second third rest inductionHypothesis =>
    have bounds := And.intro first.toNat_lt (And.intro second.toNat_lt third.toNat_lt)
    simp only [List.forall_mem_cons]
    refine ⟨?_, ?_, ?_, ?_, inductionHypothesis⟩ <;> simp only [sextetLimit] <;> omega
  | case2 first second =>
    have bounds := And.intro first.toNat_lt second.toNat_lt
    simp only [List.forall_mem_cons]
    refine ⟨?_, ?_, ?_, by simp⟩ <;> simp only [sextetLimit] <;> omega
  | case3 first =>
    have bound := first.toNat_lt
    simp only [List.forall_mem_cons]
    refine ⟨?_, ?_, by simp⟩ <;> simp only [sextetLimit] <;> omega
  | case4 => simp

/-- No group has just one value. -/
theorem length_sextets (bytes : List UInt8) : (sextets bytes).length % 4 ≠ 1 := by
  fun_induction sextets bytes with
  | case1 first second third rest inductionHypothesis =>
    simp only [List.length_cons]
    omega
  | case2 first second => simp
  | case3 first => simp
  | case4 => simp

/-- A number below 256 that agrees with a byte is the byte. -/
theorem ofNat_eq (byte : UInt8) {number : Nat} (same : number = byte.toNat) :
    UInt8.ofNat number = byte := by
  rw [same, UInt8.ofNat_toNat]

/-- The bytes are put together again from their values. -/
theorem bytesOfSextets_sextets (bytes : List UInt8) : bytesOfSextets (sextets bytes) = bytes := by
  fun_induction sextets bytes with
  | case1 first second third rest inductionHypothesis =>
    have bounds := And.intro first.toNat_lt (And.intro second.toNat_lt third.toNat_lt)
    rw [bytesOfSextets, inductionHypothesis, ofNat_eq first (by omega),
      ofNat_eq second (by omega), ofNat_eq third (by omega)]
  | case2 first second =>
    have bounds := And.intro first.toNat_lt second.toNat_lt
    rw [bytesOfSextets, ofNat_eq first (by omega), ofNat_eq second (by omega)]
  | case3 first =>
    have bound := first.toNat_lt
    rw [bytesOfSextets, ofNat_eq first (by omega)]
  | case4 => rfl

/-- Characters of the alphabet are read as their values, and the number of values read
before what follows grows by as many. -/
theorem readPadded_characters {values : List Nat} (small : ∀ value ∈ values, value < sextetLimit)
    (count : Nat) (rest : List Char) :
    readPadded count 0 (values.map (character standard) ++ rest) =
      (readPadded (count + values.length) 0 rest).map (values ++ ·) := by
  induction values generalizing count with
  | nil =>
    cases read : readPadded count 0 rest <;> simp [read, Except.map]
  | cons value others inductionHypothesis =>
    obtain ⟨own, notPadding, _⟩ := standard_character value (small value List.mem_cons_self)
    have later := inductionHypothesis
      (fun other inside => small other (List.mem_cons_of_mem _ inside)) (count + 1)
    have length : count + 1 + others.length = count + (value :: others).length := by
      rw [List.length_cons]
      omega
    rw [List.map_cons, List.cons_append, readPadded, notPadding, own, if_neg (by decide), later,
      length]
    cases readPadded (count + (value :: others).length) 0 rest <;> rfl

/-- The padding of whole groups ends a text. -/
theorem readPadded_padding {count : Nat} (group : count % 4 ≠ 1) :
    readPadded count 0 (List.replicate ((4 - count % 4) % 4) '=') = .ok [] := by
  have remainder : count % 4 = 0 ∨ count % 4 = 2 ∨ count % 4 = 3 := by omega
  rcases remainder with whole | two | three
  · simp [whole, readPadded]
  · simp [two, readPadded, List.replicate]
  · simp [three, readPadded]

/-- All characters of a padded text are ASCII. -/
theorem encodePadded_ascii (bytes : List UInt8) :
    (encodePadded standard bytes).all (fun character => character.toNat < 0x80) = true := by
  rw [List.all_eq_true, encodePadded, encodeBare]
  intro mark member
  rcases List.mem_append.mp member with inside | padding
  · obtain ⟨value, ofBytes, rfl⟩ := List.mem_map.mp inside
    exact decide_eq_true (standard_character value (sextets_lt bytes value ofBytes)).2.2
  · rw [List.eq_of_mem_replicate padding]
    rfl

/-- Reading the padded form of bytes gives them back. -/
theorem decodePadded_encodePadded (bytes : List UInt8) :
    decodePadded (encodePadded standard bytes) = .ok bytes := by
  have read := readPadded_characters (sextets_lt bytes) 0
    (List.replicate ((4 - (sextets bytes).length % 4) % 4) '=')
  rw [Nat.zero_add, readPadded_padding (length_sextets bytes)] at read
  rw [decodePadded, if_pos (encodePadded_ascii bytes), encodePadded, encodeBare, List.length_map,
    read]
  simp [Except.map, bytesOfSextets_sextets]

/-- Every value of six bits is read from the character it is written as. -/
def IsLegible (alphabet : Alphabet) : Prop :=
  ∀ value < sextetLimit, value? alphabet (character alphabet value) = some value

/-- The alphabet for addresses has a character for each value. -/
theorem isLegible_urlSafe : IsLegible urlSafe := by
  unfold IsLegible
  decide +kernel

/-- The alphabet that begins with the digits has a character for each value. -/
theorem isLegible_digitsFirst : IsLegible digitsFirst := by
  unfold IsLegible
  decide +kernel

/-- What a legible alphabet writes are its characters. -/
theorem mem_of_mem_encodeBare {alphabet : Alphabet} (legible : IsLegible alphabet)
    {bytes : List UInt8} {mark : Char} (written : mark ∈ encodeBare alphabet bytes) :
    mark ∈ alphabet := by
  obtain ⟨value, ofBytes, rfl⟩ := List.mem_map.mp written
  have own := legible value (sextets_lt bytes value ofBytes)
  by_cases present : character alphabet value ∈ alphabet
  · exact present
  · rw [value?, List.idxOf?_eq_none_iff.mpr present] at own
    contradiction

/-- Characters of a legible alphabet are read as their values. -/
theorem mapM_value? {alphabet : Alphabet} (legible : IsLegible alphabet) {values : List Nat}
    (small : ∀ value ∈ values, value < sextetLimit) :
    (values.map (character alphabet)).mapM (value? alphabet) = some values := by
  induction values with
  | nil => rfl
  | cons value others inductionHypothesis =>
    have own := legible value (small value List.mem_cons_self)
    have later := inductionHypothesis fun other inside =>
      small other (List.mem_cons_of_mem _ inside)
    rw [List.map_cons, List.mapM_cons, own, later]
    rfl

/-- Bytes written without padding in a legible alphabet are read back. -/
theorem decodeBare?_encodeBare {alphabet : Alphabet} (legible : IsLegible alphabet)
    (bytes : List UInt8) : decodeBare? alphabet (encodeBare alphabet bytes) = some bytes := by
  rw [decodeBare?, encodeBare, mapM_value? legible (sextets_lt bytes), Option.map_some,
    bytesOfSextets_sextets]

/-- A last group is filled up with as many zero bytes as it lacks. -/
theorem exists_fillGroups (bytes : List UInt8) :
    ∃ zeros < 3, fillGroups bytes = bytes ++ List.replicate zeros 0 ∧
      3 ∣ bytes.length + zeros := by
  fun_induction fillGroups bytes with
  | case1 first second third rest inductionHypothesis =>
    obtain ⟨zeros, few, filled, whole⟩ := inductionHypothesis
    refine ⟨zeros, few, by rw [filled]; rfl, ?_⟩
    simp only [List.length_cons]
    omega
  | case2 first second => exact ⟨1, by decide, rfl, by simp⟩
  | case3 first => exact ⟨2, by decide, rfl, by simp⟩
  | case4 => exact ⟨0, by decide, rfl, by simp⟩

end Drafting.Base64
