import Drafting.Proofs.Deflate.FixedCode

/-!
# Repetitions that are found

The tokens found so far stand for the bytes before the present position, and all places that
are known lie before it. A copy is only taken from a place whose bytes were compared one by
one, and what is compared can lie behind the present position: a copy that reaches into what it
writes itself is compared with the bytes it is going to write.

The main statement is `compress_eq_fixedStream`: the tokens found for some bytes can be written
and stand for them, so the stream in the fixed code passes the check whatever the bytes are, and it
is the one that is taken. Bytes are therefore compressed to a stream that inflates to them.
-/

namespace Drafting.Deflate

/-- The bytes before a position and the one there are the bytes before the next position. -/
theorem push_extract {bytes : Array UInt8} {position : Nat} {byte : UInt8}
    (here : bytes[position]? = some byte) :
    (bytes.extract 0 position).push byte = bytes.extract 0 (position + 1) := by
  obtain ⟨inside, rfl⟩ := Array.getElem?_eq_some_iff.mp here
  rw [Array.push_extract_getElem inside, Nat.zero_min]

/-- A copy of bytes that are equal to the next ones writes those. -/
theorem copyBytes_extract {bytes : Array UInt8} {position distance count : Nat}
    (positive : 0 < distance) (near : distance ≤ position) (inside : position + count ≤ bytes.size)
    (equal : ∀ offset < count, bytes[position - distance + offset]? = bytes[position + offset]?) :
    Token.copyBytes distance count (bytes.extract 0 position) =
      some (bytes.extract 0 (position + count)) := by
  induction count generalizing position with
  | zero => rfl
  | succ count inductionHypothesis =>
    have size : (bytes.extract 0 position).size = position := by
      rw [Array.size_extract]
      omega
    have here : bytes[position]? = some bytes[position] := Array.getElem?_eq_getElem (by omega)
    have copied : (bytes.extract 0 position)[position - distance]? = some bytes[position] := by
      rw [Array.getElem?_extract, if_pos (by omega), Nat.zero_add, ← here]
      exact equal 0 (Nat.succ_pos count)
    have later (offset : Nat) (less : offset < count) :
        bytes[position + 1 - distance + offset]? = bytes[position + 1 + offset]? := by
      have shifted : position + 1 - distance + offset = position - distance + (offset + 1) := by
        omega
      rw [shifted, Nat.add_right_comm, Nat.add_assoc]
      exact equal (offset + 1) (Nat.succ_lt_succ less)
    rw [Token.copyBytes, size, if_pos (by simp [positive, near]), copied]
    dsimp only
    rw [push_extract here, inductionHypothesis (by omega) (by omega) later, Nat.add_right_comm,
      Nat.add_assoc]

/-- Bytes are equal as far as their run goes, which ends with the last byte. -/
theorem equalRun_spec {bytes : Array UInt8} (earlier : Nat) {later : Nat}
    (inside : later ≤ bytes.size) (bound : Nat) :
    equalRun bytes earlier later bound ≤ bound ∧
      later + equalRun bytes earlier later bound ≤ bytes.size ∧
      ∀ offset < equalRun bytes earlier later bound,
        bytes[earlier + offset]? = bytes[later + offset]? := by
  fun_induction equalRun bytes earlier later bound with
  | case1 earlier later => exact ⟨Nat.le_refl 0, inside, by simp⟩
  | case2 earlier later bound first second isSecond isFirst same inductionHypothesis =>
    obtain ⟨within, _⟩ := Array.getElem?_eq_some_iff.mp isSecond
    obtain ⟨bounded, ends, equal⟩ := inductionHypothesis within
    refine ⟨Nat.succ_le_succ bounded, by omega, fun offset less => ?_⟩
    cases offset with
    | zero => rw [Nat.add_zero, Nat.add_zero, isFirst, isSecond, eq_of_beq same]
    | succ offset =>
      have next := equal offset (Nat.lt_of_succ_lt_succ less)
      rwa [Nat.add_assoc, Nat.add_comm 1, Nat.add_assoc, Nat.add_comm 1] at next
  | case3 earlier later => exact ⟨Nat.zero_le _, inside, by simp⟩
  | case4 earlier later => exact ⟨Nat.zero_le _, inside, by simp⟩

/-- A token stands for so many bytes at a position. -/
structure Token.StandsFor (bytes : Array UInt8) (position : Nat) (token : Token) (length : Nat) :
    Prop where
  writable : token.IsWritable
  positive : 0 < length
  inside : position + length ≤ bytes.size
  writes : write? (bytes.extract 0 position) token = some (bytes.extract 0 (position + length))

/-- A byte stands for itself. -/
theorem Token.literal_standsFor {bytes : Array UInt8} {position : Nat} {byte : UInt8}
    (here : bytes[position]? = some byte) : StandsFor bytes position (.literal byte) 1 where
  writable := trivial
  positive := Nat.one_pos
  inside := (Array.getElem?_eq_some_iff.mp here).1
  writes := congrArg some (push_extract here)

/-- The token at a position stands for the bytes there, as long as all known places lie before
the position. -/
theorem tokenAt_standsFor {bytes : Array UInt8} {places : Std.HashMap Nat Nat} {position : Nat}
    {byte : UInt8} (before : ∀ three place : Nat, places[three]? = some place → place < position)
    (here : bytes[position]? = some byte) :
    Token.StandsFor bytes position (tokenAt bytes places position byte).1
      (tokenAt bytes places position byte).2 := by
  have inside : position ≤ bytes.size := Nat.le_of_lt (Array.getElem?_eq_some_iff.mp here).1
  rw [tokenAt]
  split
  · exact Token.literal_standsFor here
  · next earlier known =>
    obtain ⟨three, _, isKnown⟩ := Option.bind_eq_some_iff.mp known
    have isEarlier := before three earlier isKnown
    obtain ⟨bounded, ends, equal⟩ := equalRun_spec earlier inside maxCopy
    dsimp only
    split
    · next isCopy =>
      obtain ⟨atLeast, near⟩ : 3 ≤ equalRun bytes earlier position maxCopy ∧
          position - earlier ≤ maxDistance := by simpa using isCopy
      have back : position - (position - earlier) = earlier := by omega
      exact {
        writable := ⟨atLeast, bounded, by omega, near⟩
        positive := by omega
        inside := ends
        writes := copyBytes_extract (by omega) (by omega) ends (by rwa [back]) }
    · exact Token.literal_standsFor here

/-- More tokens are expanded behind the bytes of the tokens before them. -/
theorem Token.expandFrom?_append {written next : Array UInt8} {tokens : List Token}
    (expands : expandFrom? written tokens = some next) (more : List Token) :
    expandFrom? written (tokens ++ more) = expandFrom? next more := by
  induction tokens generalizing written with
  | nil =>
    rw [expandFrom?, Option.some.injEq] at expands
    rw [expands, List.nil_append]
  | cons token others inductionHypothesis =>
    rw [List.cons_append, expandFrom?]
    rw [expandFrom?] at expands
    split at expands
    · exact inductionHypothesis expands
    · contradiction

/-- How far the search has come: the tokens found stand for the bytes before the position, and
the known places lie before it. -/
structure Progress (bytes : Array UInt8) (places : Std.HashMap Nat Nat) (position : Nat)
    (found : List Token) : Prop where
  inside : position ≤ bytes.size
  before : ∀ three place : Nat, places[three]? = some place → place < position
  writable : ∀ token ∈ found, token.IsWritable
  expands : Token.expandFrom? #[] found.reverse = some (bytes.extract 0 position)

/-- One more token. -/
theorem Progress.step {bytes : Array UInt8} {places : Std.HashMap Nat Nat} {position : Nat}
    {found : List Token} (progress : Progress bytes places position found) {token : Token}
    {length : Nat} (stands : token.StandsFor bytes position length) :
    Progress bytes
      (match threeBytes? bytes position with
        | some three => places.insert three position
        | none => places)
      (position + length) (token :: found) where
  inside := stands.inside
  before three place known := by
    have positive := stands.positive
    split at known
    · next here =>
      rw [Std.HashMap.getElem?_insert] at known
      split at known
      · cases known
        omega
      · have earlier := progress.before three place known
        omega
    · have earlier := progress.before three place known
      omega
  writable := List.forall_mem_cons.mpr ⟨stands.writable, progress.writable⟩
  expands := by
    rw [List.reverse_cons, Token.expandFrom?_append progress.expands, Token.expandFrom?,
      stands.writes]
    rfl

/-- The tokens that are found from a position on stand, behind those found before it, for all
bytes. -/
theorem tokensFrom_expands {bytes : Array UInt8} {fuel : Nat} {places : Std.HashMap Nat Nat}
    {position : Nat} {found : List Token} (progress : Progress bytes places position found)
    (enough : bytes.size < position + fuel) :
    (∀ token ∈ tokensFrom bytes fuel places position found, token.IsWritable) ∧
      Token.expandFrom? #[] (tokensFrom bytes fuel places position found) = some bytes := by
  induction fuel generalizing places position found with
  | zero => exact absurd progress.inside (by omega)
  | succ fuel inductionHypothesis =>
    rw [tokensFrom]
    cases here : bytes[position]? with
    | none =>
      have ended : position = bytes.size :=
        Nat.le_antisymm progress.inside (Array.getElem?_eq_none_iff.mp here)
      have whole := progress.expands
      rw [ended, Array.extract_size] at whole
      exact ⟨fun token member => progress.writable token (List.mem_reverse.mp member), whole⟩
    | some byte =>
      have stands := tokenAt_standsFor progress.before here
      have positive := stands.positive
      have later := inductionHypothesis (progress.step stands) (by omega)
      exact later

/-- The tokens for some bytes can be written and stand for them. -/
theorem expand?_tokensOf (bytes : List UInt8) :
    (∀ token ∈ tokensOf bytes, token.IsWritable) ∧ Token.expand? (tokensOf bytes) = some bytes := by
  have start : Progress bytes.toArray {} 0 [] :=
    { inside := Nat.zero_le _
      before := fun three place known => by simp at known
      writable := by simp
      expands := by simp [Token.expandFrom?] }
  have enough : bytes.toArray.size < 0 + (bytes.length + 1) := by simp
  obtain ⟨writable, expands⟩ := tokensFrom_expands start enough
  exact ⟨writable, by rw [Token.expand?, tokensOf, expands]; rfl⟩

/-- The stream in the fixed code is always the one that is taken: it passes the check, so the
plain form is never needed. -/
theorem compress_eq_fixedStream (bytes : List UInt8) :
    compress bytes = fixedStream (tokensOf bytes) := by
  obtain ⟨writable, expands⟩ := expand?_tokensOf bytes
  have checked : isStreamOf bytes (fixedStream (tokensOf bytes)) = true := by
    simp only [isStreamOf, inflate_fixedStream writable expands, beq_self_eq_true]
  exact if_pos checked

/-- What was compressed inflates to the same bytes. -/
theorem inflate_compress (bytes : List UInt8) : inflate (compress bytes) = .ok bytes := by
  obtain ⟨writable, expands⟩ := expand?_tokensOf bytes
  rw [compress_eq_fixedStream]
  exact inflate_fixedStream writable expands

end Drafting.Deflate
