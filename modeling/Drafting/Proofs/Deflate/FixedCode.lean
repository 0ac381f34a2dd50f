import Drafting.Deflate.Compress
import Drafting.Proofs.Deflate.Bits
import Mathlib.Data.List.Induction

/-!
# The fixed code

A token is written as the string of a symbol and the bits that tell it from the other tokens
of that symbol. No string begins another, so a symbol is read whatever follows it; the tables
leave no gap between the entries, so every length and every distance of a copy has a symbol.
-/

namespace Drafting.Deflate

/-- What is read at the beginning of some bits is also read if there are more of them. -/
theorem PrefixCode.symbolFrom?_append {symbols : Array Nat} {value first index : Nat}
    {counts : List Nat} {bits : Bits} {symbol : Nat} {left : Bits}
    (found : symbolFrom? symbols value first index counts bits = some (symbol, left))
    (rest : Bits) :
    symbolFrom? symbols value first index counts (bits ++ rest) = some (symbol, left ++ rest) := by
  induction counts generalizing value first index bits with
  | nil => simp [symbolFrom?] at found
  | cons count counts inductionHypothesis =>
    cases bits with
    | nil => simp [symbolFrom?] at found
    | cons bit bits =>
      rw [List.cons_append]
      rw [symbolFrom?] at found ⊢
      split
      · next inside =>
        rw [if_pos inside] at found
        obtain ⟨own, isOwn, same⟩ := Option.map_eq_some_iff.mp found
        cases same
        exact Option.map_eq_some_iff.mpr ⟨symbol, isOwn, rfl⟩
      · next outside =>
        rw [if_neg outside] at found
        exact inductionHypothesis found

/-- A string that a code reads as a symbol is read as it whatever follows. -/
theorem readSymbol_append {code : PrefixCode} {bits : Bits} {symbol : Nat}
    (found : code.symbol? bits = some (symbol, [])) (rest : Bits) :
    readSymbol code (bits ++ rest) = .ok (symbol, rest) := by
  rw [readSymbol, PrefixCode.symbol?, PrefixCode.symbolFrom?_append found]
  rfl

/-- The string of each symbol for bytes and lengths is read as this symbol. -/
theorem symbol?_literalBits : ∀ symbol < 286,
    fixedLiterals.symbol? (literalBits symbol) = some (symbol, []) := by
  decide +kernel

/-- The string of each symbol for distances is read as this symbol. -/
theorem symbol?_distanceBits : ∀ symbol < 30,
    fixedDistances.symbol? (bitsOfNumber 5 symbol).reverse = some (symbol, []) := by
  decide +kernel

/-- The entries of a table leave out no number from the least one up to a limit. -/
def Covers : Nat → Nat → List (Nat × Nat) → Prop
  | least, limit, [] => limit ≤ least
  | least, limit, (base, extra) :: rest => base ≤ least ∧ Covers (base + 2 ^ extra) limit rest

instance decidableCovers : ∀ least limit table, Decidable (Covers least limit table)
  | least, limit, [] => inferInstanceAs (Decidable (limit ≤ least))
  | least, limit, (base, extra) :: rest =>
    have := decidableCovers (base + 2 ^ extra) limit rest
    inferInstanceAs (Decidable (base ≤ least ∧ Covers (base + 2 ^ extra) limit rest))

/-- The last entry of a table reaches the limit, and the others reach the last one. -/
theorem covers_concat {least limit : Nat} {table : List (Nat × Nat)} {base extra : Nat}
    (covers : Covers least limit (table ++ [(base, extra)])) :
    Covers least base table ∧ limit ≤ base + 2 ^ extra := by
  induction table generalizing least with
  | nil => exact covers
  | cons entry rest inductionHypothesis =>
    obtain ⟨begins, continues⟩ := covers
    exact ⟨⟨begins, (inductionHypothesis continues).1⟩, (inductionHypothesis continues).2⟩

/-- The entry that is found for a number is the one that the number lies in. -/
theorem entryFor_of_covers {least limit : Nat} {table : List (Nat × Nat)}
    (covers : Covers least limit table) {number : Nat} (low : least ≤ number)
    (high : number < limit) :
    ∃ symbol base extra, entryFor table number = some (symbol, base, extra) ∧
      table[symbol]? = some (base, extra) ∧ base ≤ number ∧ number - base < 2 ^ extra := by
  induction table using List.reverseRecOn generalizing limit with
  | nil => exact absurd covers (by simp only [Covers]; omega)
  | append_singleton table entry inductionHypothesis =>
    obtain ⟨base, extra⟩ := entry
    obtain ⟨before, reaches⟩ := covers_concat covers
    have reversed : (table ++ [(base, extra)]).zipIdx.reverse =
        ((base, extra), table.length) :: table.zipIdx.reverse := by
      simp [List.zipIdx_append]
    by_cases own : base ≤ number
    · refine ⟨table.length, base, extra, ?_, by simp, own, by omega⟩
      rw [entryFor, reversed, List.find?_cons_of_pos (by simpa using own)]
      rfl
    · obtain ⟨symbol, base, extra, found, isEntry, inside⟩ := inductionHypothesis before (by omega)
      refine ⟨symbol, base, extra, ?_, ?_, inside⟩
      · rw [entryFor, reversed, List.find?_cons_of_neg (by simpa using own)]
        exact found
      · exact (List.getElem?_append_left (List.getElem?_eq_some_iff.mp isEntry).1).trans isEntry

/-- The symbols of lengths leave out no length of a copy. -/
theorem covers_lengthSymbols : Covers 3 (maxCopy + 1) Token.lengthSymbols := by
  decide

/-- The symbols of distances leave out no distance of a copy. -/
theorem covers_distanceSymbols : Covers 1 (maxDistance + 1) Token.distanceSymbols := by
  decide

/-- A number as a symbol and the bits behind it is read again, if the symbols can be. -/
theorem scaledBits_of_covers {least limit : Nat} {table : List (Nat × Nat)}
    (covers : Covers least limit table) (symbolBits : Nat → Bits) {number : Nat}
    (low : least ≤ number) (high : number < limit) :
    ∃ symbol < table.length, ∃ more,
      scaledBits table symbolBits number = symbolBits symbol ++ more ∧
      ∀ rest, readScaled table symbol (more ++ rest) = .ok (number, rest) := by
  obtain ⟨symbol, base, extra, found, isEntry, from_base, within⟩ :=
    entryFor_of_covers covers low high
  refine ⟨symbol, (List.getElem?_eq_some_iff.mp isEntry).1, bitsOfNumber extra (number - base),
    ?_, fun rest => ?_⟩
  · rw [scaledBits, found]
  · have whole : base + (number - base) = number := by omega
    rw [readScaled, isEntry]
    simp only [readNumber, number?_append extra (number - base) within rest, Except.map, whole]

/-- The tokens that can be written: a copy has at least three bytes, and neither its length nor
its distance is beyond what there are symbols for. -/
def Token.IsWritable : Token → Prop
  | .literal _ => True
  | .copy length distance => 3 ≤ length ∧ length ≤ maxCopy ∧ 0 < distance ∧ distance ≤ maxDistance

/-- A token is read as it was written. -/
theorem readToken_tokenBits {token : Token} (writable : token.IsWritable) (rest : Bits) :
    readToken fixedLiterals fixedDistances (tokenBits token ++ rest) = .ok (some token, rest) := by
  cases token with
  | literal byte =>
    have small : byte.toNat < Token.endSymbol := byte.toNat_lt
    have read := readSymbol_append
      (symbol?_literalBits byte.toNat (Nat.lt_of_lt_of_le small (by decide))) rest
    simp only [tokenBits, readToken, read, if_pos small, UInt8.ofNat_toNat]
  | copy length distance =>
    obtain ⟨atLeast, atMost, positive, near⟩ := writable
    obtain ⟨lengthSymbol, isLength, lengthMore, lengthBits, readLength⟩ :=
      scaledBits_of_covers covers_lengthSymbols (fun symbol => literalBits (symbol + 257)) atLeast
        (Nat.lt_succ_of_le atMost)
    obtain ⟨distanceSymbol, isDistance, distanceMore, distanceBits, readDistance⟩ :=
      scaledBits_of_covers covers_distanceSymbols (fun symbol => (bitsOfNumber 5 symbol).reverse)
        positive (Nat.lt_succ_of_le near)
    have fits : lengthSymbol + 257 < 286 := Nat.add_lt_add_right isLength 257
    have behind :
        ¬ lengthSymbol + 257 < Token.endSymbol ∧ lengthSymbol + 257 ≠ Token.endSymbol := by
      simp only [Token.endSymbol]
      omega
    rw [tokenBits, lengthBits, distanceBits, readToken]
    simp only [List.append_assoc, readSymbol_append (symbol?_literalBits _ fits), behind.1,
      behind.2, if_false, Nat.add_sub_cancel, readLength,
      readSymbol_append (symbol?_distanceBits distanceSymbol isDistance), readDistance]

/-- The symbol that ends a block is read as the end. -/
theorem readToken_end (rest : Bits) :
    readToken fixedLiterals fixedDistances (literalBits Token.endSymbol ++ rest) =
      .ok (none, rest) := by
  have read := readSymbol_append (symbol?_literalBits Token.endSymbol (by decide)) rest
  simp only [readToken, read, Nat.lt_irrefl, if_true, if_false]

/-- Tokens and the mark of their end are read as they were written. -/
theorem readTokens_flatMap {tokens : List Token} (writable : ∀ token ∈ tokens, token.IsWritable)
    {fuel : Nat} (enough : tokens.length < fuel) (before : List Token) (rest : Bits) :
    readTokens fixedLiterals fixedDistances fuel before
        (tokens.flatMap tokenBits ++ (literalBits Token.endSymbol ++ rest)) =
      .ok (tokens.reverse ++ before, rest) := by
  induction tokens generalizing fuel before with
  | nil =>
    obtain ⟨fuel, rfl⟩ := Nat.exists_eq_succ_of_ne_zero (Nat.ne_of_gt enough)
    rw [List.flatMap_nil, List.nil_append, readTokens, readToken_end]
    rfl
  | cons token others inductionHypothesis =>
    obtain ⟨fuel, rfl⟩ := Nat.exists_eq_succ_of_ne_zero (Nat.ne_zero_of_lt enough)
    rw [List.flatMap_cons, List.append_assoc, readTokens,
      readToken_tokenBits (writable token List.mem_cons_self)]
    dsimp only
    rw [inductionHypothesis (fun other inside => writable other (List.mem_cons_of_mem _ inside))
      (Nat.lt_of_succ_lt_succ enough), List.reverse_cons, List.append_assoc]
    rfl

/-- Every symbol for a byte or a length has a string of at least seven bits. -/
theorem seven_le_length_literalBits (symbol : Nat) : 7 ≤ (literalBits symbol).length := by
  rw [literalBits]
  split_ifs <;> simp [bitsOfNumber_length]

/-- Every token that can be written takes at least one bit. -/
theorem length_tokenBits_pos {token : Token} (writable : token.IsWritable) :
    0 < (tokenBits token).length := by
  cases token with
  | literal byte => exact Nat.lt_of_lt_of_le (by decide) (seven_le_length_literalBits byte.toNat)
  | copy length distance =>
    obtain ⟨atLeast, atMost, _⟩ := writable
    obtain ⟨symbol, _, more, lengthBits, _⟩ :=
      scaledBits_of_covers covers_lengthSymbols (fun symbol => literalBits (symbol + 257)) atLeast
        (Nat.lt_succ_of_le atMost)
    have seven := seven_le_length_literalBits (symbol + 257)
    rw [tokenBits, lengthBits, List.append_assoc, List.length_append]
    omega

/-- There are not more tokens than bits of them. -/
theorem length_le_length_flatMap {tokens : List Token}
    (writable : ∀ token ∈ tokens, token.IsWritable) :
    tokens.length ≤ (tokens.flatMap tokenBits).length := by
  induction tokens with
  | nil => simp
  | cons token others inductionHypothesis =>
    have own := length_tokenBits_pos (writable token List.mem_cons_self)
    have rest := inductionHypothesis fun other inside =>
      writable other (List.mem_cons_of_mem _ inside)
    rw [List.length_cons, List.flatMap_cons, List.length_append]
    omega

/-- A block in the fixed code is read as the tokens it was written for. -/
theorem readBlock_fixed {tokens : List Token} (writable : ∀ token ∈ tokens, token.IsWritable)
    {fuel : Nat} (enough : tokens.length < fuel) (before : List Token) (rest : Bits) :
    readBlock fuel before (bitsOfNumber 2 1 ++
        (tokens.flatMap tokenBits ++ (literalBits Token.endSymbol ++ rest))) =
      .ok (tokens.reverse ++ before, rest) := by
  simp only [readBlock, readNumber, number?_append 2 1 (by decide)]
  exact readTokens_flatMap writable enough before rest

/-- A stream in the fixed code inflates to the bytes that its tokens stand for. The zeros that
fill up its last byte stand behind the last block and are left. -/
theorem inflateBits_fixedStream {tokens : List Token}
    (writable : ∀ token ∈ tokens, token.IsWritable) {bytes : List UInt8}
    (expands : Token.expand? tokens = some bytes) :
    ∃ more < 8, inflateBits (bitsOfBytes (fixedStream tokens)) =
      .ok (bytes, List.replicate more false) := by
  obtain ⟨more, few, padded⟩ := bitsOfBytes_bytesOfBits
    (true :: bitsOfNumber 2 1 ++ tokens.flatMap tokenBits ++ literalBits Token.endSymbol)
  have stream : bitsOfBytes (fixedStream tokens) =
      true :: (bitsOfNumber 2 1 ++ (tokens.flatMap tokenBits ++
        (literalBits Token.endSymbol ++ List.replicate more false))) := by
    rw [fixedStream, padded]
    simp only [List.cons_append, List.append_assoc]
  have enough : tokens.length < (bitsOfBytes (fixedStream tokens)).length := by
    have atMost := length_le_length_flatMap writable
    simp only [stream, List.length_cons, List.length_append]
    omega
  have blocks : readBlocks ((bitsOfBytes (fixedStream tokens)).length + 1) []
      (bitsOfBytes (fixedStream tokens)) =
        .ok (tokens.reverse ++ [], List.replicate more false) := by
    generalize (bitsOfBytes (fixedStream tokens)).length = fuel at enough
    rw [stream, readBlocks, readBlock_fixed writable enough]
    rfl
  refine ⟨more, few, ?_⟩
  rw [inflateBits, blocks]
  simp only [List.append_nil, List.reverse_reverse, expands]

/-- What is left of a stream in the fixed code is ignored. -/
theorem inflate_fixedStream {tokens : List Token} (writable : ∀ token ∈ tokens, token.IsWritable)
    {bytes : List UInt8} (expands : Token.expand? tokens = some bytes) :
    inflate (fixedStream tokens) = .ok bytes := by
  obtain ⟨more, _, inflates⟩ := inflateBits_fixedStream writable expands
  rw [inflate, inflates]
  rfl

end Drafting.Deflate
