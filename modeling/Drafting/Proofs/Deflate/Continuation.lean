import Drafting.Deflate.Zlib
import Drafting.Proofs.Deflate.FixedCode
import Drafting.Proofs.Deflate.Matching

/-!
# What follows a stream

A stream says itself where it ends. Whatever is read at the beginning of some bits is also read
if whole bytes stand behind them, which are then left; they are whole bytes because plain blocks
begin at the next byte, and the place of the next byte is counted from the end. The numbers that
bound the loops grow with the bits that are left, and a larger bound changes nothing.

What follows may be a checksum. It begins at the byte behind the one in which the stream ends.
Fewer than eight bits are left of that byte, so they are what is passed over before the checksum
is compared.

The main statements are that what follows a stream does not change what it inflates to, and that
bytes compressed with header and checksum inflate to themselves.
-/

namespace Drafting.Deflate

variable {α β : Type}

/-- The second result is the first one with more bits left. Where the first one is an error
nothing is said about the second. -/
def Extends (more : Bits) (short long : Except StreamError (α × Bits)) : Prop :=
  ∀ value left, short = .ok (value, left) → long = .ok (value, left ++ more)

namespace Extends

variable {more : Bits} {short long : Except StreamError (α × Bits)}

/-- The same was found, and more is left. -/
theorem ok (more : Bits) (value : α) (left : Bits) :
    Extends more (.ok (value, left)) (.ok (value, left ++ more)) := by
  rintro _ _ ⟨⟩
  rfl

/-- Nothing is said about what follows an error. -/
theorem error (more : Bits) (error : StreamError) (long : Except StreamError (α × Bits)) :
    Extends more (.error error) long := by
  rintro _ _ ⟨⟩

/-- What holds where the first reading failed, and where both found the same, holds. -/
@[elab_as_elim]
theorem elim {motive : Except StreamError (α × Bits) → Except StreamError (α × Bits) → Prop}
    (extended : Extends more short long) (failed : ∀ error long, motive (.error error) long)
    (found : ∀ value left, motive (.ok (value, left)) (.ok (value, left ++ more))) :
    motive short long := by
  cases short with
  | error error => exact failed error long
  | ok read =>
    rw [extended read.1 read.2 rfl]
    exact found read.1 read.2

/-- What goes on behind both readings. -/
theorem bind {next further : α × Bits → Except StreamError (β × Bits)}
    (extended : Extends more short long)
    (goesOn : ∀ value left, Extends more (next (value, left)) (further (value, left ++ more))) :
    Extends more (short >>= next) (long >>= further) := by
  refine Extends.elim extended (fun error _ => ?_) fun value left => ?_
  · exact .error more error _
  · exact goesOn value left

/-- What is made of both readings. -/
theorem map (extended : Extends more short long) (make : α → β) :
    Extends more (short.map fun (value, left) => (make value, left))
      (long.map fun (value, left) => (make value, left)) := by
  refine Extends.elim extended (fun error _ => ?_) fun value left => ?_
  · exact .error more error _
  · exact .ok more (make value) left

/-- Both readings go on in the same way. -/
theorem ite {condition : Prop} [Decidable condition]
    {otherShort otherLong : Except StreamError (α × Bits)} (extended : Extends more short long)
    (other : Extends more otherShort otherLong) :
    Extends more (if condition then short else otherShort)
      (if condition then long else otherLong) := by
  by_cases holds : condition
  · rwa [if_pos holds, if_pos holds]
  · rwa [if_neg holds, if_neg holds]

end Extends

/-- A number is read from its own bits. -/
theorem number?_of_append {count : Nat} {bits : Bits} {number : Nat} {left : Bits}
    (found : number? count bits = some (number, left)) (more : Bits) :
    number? count (bits ++ more) = some (number, left ++ more) := by
  induction count generalizing bits number with
  | zero =>
    cases found
    rfl
  | succ count inductionHypothesis =>
    cases bits with
    | nil => contradiction
    | cons bit rest =>
      obtain ⟨⟨half, behind⟩, read, same⟩ := Option.map_eq_some_iff.mp found
      cases same
      rw [List.cons_append, number?, inductionHypothesis read]
      rfl

/-- A number is read again. -/
theorem extends_readNumber (count : Nat) (bits more : Bits) :
    Extends more (readNumber count bits) (readNumber count (bits ++ more)) := by
  rw [readNumber, readNumber]
  cases found : number? count bits with
  | none => exact .error more .truncated _
  | some read =>
    rw [number?_of_append found]
    exact .ok more read.1 read.2

/-- A symbol is read again. -/
theorem extends_readSymbol (code : PrefixCode) (bits more : Bits) :
    Extends more (readSymbol code bits) (readSymbol code (bits ++ more)) := by
  rw [readSymbol, readSymbol]
  cases found : code.symbol? bits with
  | none => exact .error more .badSymbol _
  | some read =>
    rw [PrefixCode.symbol?, PrefixCode.symbolFrom?_append found]
    exact .ok more read.1 read.2

/-- What a symbol and the bits behind it stand for is read again. -/
theorem extends_readScaled (table : List (Nat × Nat)) (symbol : Nat) (bits more : Bits) :
    Extends more (readScaled table symbol bits) (readScaled table symbol (bits ++ more)) := by
  rw [readScaled, readScaled]
  cases table[symbol]? with
  | none => exact .error more .badSymbol _
  | some entry => exact (extends_readNumber entry.2 bits more).map (entry.1 + ·)

/-- Plain bytes are read again. -/
theorem extends_readPlain (count : Nat) (tokens : List Token) (bits more : Bits) :
    Extends more (readPlain count tokens bits) (readPlain count tokens (bits ++ more)) := by
  induction count generalizing tokens bits with
  | zero => exact .ok more tokens bits
  | succ count inductionHypothesis =>
    rw [readPlain, readPlain]
    refine Extends.elim (extends_readNumber 8 bits more) (fun error _ => .error more error _)
      fun byte rest => ?_
    exact inductionHypothesis _ rest

/-- Whole bytes behind some bits do not move the place where the next byte begins. -/
theorem alignToByte_append (bits : Bits) {more : Bits} (whole : 8 ∣ more.length) :
    alignToByte (bits ++ more) = alignToByte bits ++ more := by
  have same : (bits ++ more).length % 8 = bits.length % 8 := by
    rw [List.length_append]
    omega
  rw [alignToByte, same, List.drop_append_of_le_length (Nat.mod_le _ 8), alignToByte]

/-- A block of plain bytes is read again. -/
theorem extends_readStored (tokens : List Token) (bits : Bits) {more : Bits}
    (whole : 8 ∣ more.length) :
    Extends more (readStored tokens bits) (readStored tokens (bits ++ more)) := by
  rw [readStored, readStored, alignToByte_append bits whole]
  refine Extends.elim (extends_readNumber 16 (alignToByte bits) more)
    (fun error _ => .error more error _) fun count rest => ?_
  dsimp only
  refine Extends.elim (extends_readNumber 16 rest more) (fun error _ => .error more error _)
    fun complement rest => ?_
  exact (extends_readPlain count tokens rest more).ite (.error more .lengthMismatch _)

/-- A token is read again. -/
theorem extends_readToken (literals distances : PrefixCode) (bits more : Bits) :
    Extends more (readToken literals distances bits)
      (readToken literals distances (bits ++ more)) := by
  rw [readToken, readToken]
  -- The tables do not matter here; spelled out they would be compared entry by entry.
  generalize Token.lengthSymbols = lengthTable, Token.distanceSymbols = distanceTable
  refine Extends.elim (extends_readSymbol literals bits more) (fun error _ => .error more error _)
    fun symbol rest => ?_
  dsimp only
  refine .ite (.ok more _ rest) (.ite (.ok more _ rest) ?_)
  refine Extends.elim (extends_readScaled lengthTable (symbol - 257) rest more)
    (fun error _ => .error more error _) fun length rest => ?_
  dsimp only
  refine Extends.elim (extends_readSymbol distances rest more) (fun error _ => .error more error _)
    fun symbol rest => ?_
  dsimp only
  refine Extends.elim (extends_readScaled distanceTable symbol rest more)
    (fun error _ => .error more error _) fun distance rest => ?_
  exact .ok more _ rest

/-- The tokens of a block are read again. -/
theorem extends_readTokens (literals distances : PrefixCode) {fuel larger : Nat}
    (enough : fuel ≤ larger) (tokens : List Token) (bits more : Bits) :
    Extends more (readTokens literals distances fuel tokens bits)
      (readTokens literals distances larger tokens (bits ++ more)) := by
  induction fuel generalizing larger tokens bits with
  | zero => exact .error more .truncated _
  | succ fuel inductionHypothesis =>
    obtain ⟨larger, rfl⟩ := Nat.exists_eq_succ_of_ne_zero (Nat.ne_zero_of_lt enough)
    rw [readTokens, readTokens]
    refine Extends.elim (extends_readToken literals distances bits more)
      (fun error _ => .error more error _) fun token rest => ?_
    cases token with
    | none => exact .ok more tokens rest
    | some token => exact inductionHypothesis (Nat.le_of_succ_le_succ enough) _ rest

/-- The lengths of the code for code lengths are read again. -/
theorem extends_readThrees (count : Nat) (bits more : Bits) :
    Extends more (readThrees count bits) (readThrees count (bits ++ more)) := by
  induction count generalizing bits with
  | zero => exact .ok more [] bits
  | succ count inductionHypothesis =>
    rw [readThrees, readThrees]
    refine Extends.elim (extends_readNumber 3 bits more) (fun error _ => .error more error _)
      fun number rest => ?_
    exact (inductionHypothesis rest).map (number :: ·)

/-- The lengths of the two codes of a block are read again. -/
theorem extends_readLengths (code : PrefixCode) (total : Nat) {fuel larger : Nat}
    (enough : fuel ≤ larger) (found : List Nat) (bits more : Bits) :
    Extends more (readLengths code total fuel found bits)
      (readLengths code total larger found (bits ++ more)) := by
  induction fuel generalizing larger found bits with
  | zero => exact .error more .truncated _
  | succ fuel inductionHypothesis =>
    obtain ⟨larger, rfl⟩ := Nat.exists_eq_succ_of_ne_zero (Nat.ne_zero_of_lt enough)
    rw [readLengths, readLengths]
    refine .ite (.ok more found bits) (.ite (.error more .badHeader _) ?_)
    refine Extends.elim (extends_readSymbol code bits more) (fun error _ => .error more error _)
      fun symbol rest => ?_
    dsimp only
    cases repetition? symbol found with
    | none => exact .error more .badHeader _
    | some repeated =>
      obtain ⟨length, least, extra⟩ := repeated
      dsimp only
      refine Extends.elim (extends_readNumber extra rest more) (fun error _ => .error more error _)
        fun further rest => ?_
      exact inductionHypothesis (Nat.le_of_succ_le_succ enough) _ rest

/-- A block with its own codes is read again. -/
theorem extends_readDynamic {fuel larger : Nat} (enough : fuel ≤ larger) (tokens : List Token)
    (bits more : Bits) :
    Extends more (readDynamic fuel tokens bits) (readDynamic larger tokens (bits ++ more)) := by
  rw [readDynamic, readDynamic]
  refine (extends_readNumber 5 bits more).bind fun literalCount rest => ?_
  refine (extends_readNumber 5 rest more).bind fun distanceCount rest => ?_
  refine (extends_readNumber 4 rest more).bind fun lengthCount rest => ?_
  refine .ite (.error more .badHeader _) ?_
  refine (extends_readThrees (lengthCount + 4) rest more).bind fun given rest => ?_
  refine .ite (.error more .badCode _) ?_
  refine (extends_readLengths _ _ enough [] rest more).bind fun lengths rest => ?_
  refine .ite (.error more .badCode _) (.ite (.error more .badCode _) ?_)
  refine .ite (.error more .badCode _) ?_
  exact extends_readTokens _ _ enough tokens rest more

/-- A block is read again. -/
theorem extends_readBlock {fuel larger : Nat} (enough : fuel ≤ larger) (tokens : List Token)
    (bits : Bits) {more : Bits} (whole : 8 ∣ more.length) :
    Extends more (readBlock fuel tokens bits) (readBlock larger tokens (bits ++ more)) := by
  rw [readBlock, readBlock]
  refine Extends.elim (extends_readNumber 2 bits more) (fun error _ => .error more error _)
    fun kind rest => ?_
  rcases kind with _ | _ | _ | kind
  · exact extends_readStored tokens rest whole
  · exact extends_readTokens fixedLiterals fixedDistances enough tokens rest more
  · exact extends_readDynamic enough tokens rest more
  · exact .error more .unknownBlock _

/-- The blocks up to the last one are read again. -/
theorem extends_readBlocks {fuel larger : Nat} (enough : fuel ≤ larger) (tokens : List Token)
    (bits : Bits) {more : Bits} (whole : 8 ∣ more.length) :
    Extends more (readBlocks fuel tokens bits) (readBlocks larger tokens (bits ++ more)) := by
  induction fuel generalizing larger tokens bits with
  | zero => exact .error more .truncated _
  | succ fuel inductionHypothesis =>
    obtain ⟨larger, rfl⟩ := Nat.exists_eq_succ_of_ne_zero (Nat.ne_zero_of_lt enough)
    have shorter : fuel ≤ larger := Nat.le_of_succ_le_succ enough
    cases bits with
    | nil => exact .error more .truncated _
    | cons isLast rest =>
      rw [List.cons_append, readBlocks, readBlocks]
      refine Extends.elim (extends_readBlock shorter tokens rest whole)
        (fun error _ => .error more error _) fun tokens rest => ?_
      exact .ite (.ok more tokens rest) (inductionHypothesis shorter tokens rest)

/-- A stream inflates to the same bytes if whole bytes follow it, and these are left. -/
theorem extends_inflateBits (bits : Bits) {more : Bits} (whole : 8 ∣ more.length) :
    Extends more (inflateBits bits) (inflateBits (bits ++ more)) := by
  have enough : bits.length + 1 ≤ (bits ++ more).length + 1 := by
    rw [List.length_append]
    omega
  rw [inflateBits, inflateBits]
  refine Extends.elim (extends_readBlocks enough [] bits whole) (fun error _ => .error more error _)
    fun tokens rest => ?_
  dsimp only
  cases Token.expand? tokens.reverse with
  | none => exact .error more .reachesTooFar _
  | some bytes => exact .ok more bytes rest

/-- What follows a stream is ignored. -/
theorem inflate_append {stream bytes : List UInt8} (inflates : inflate stream = .ok bytes)
    (more : List UInt8) : inflate (stream ++ more) = .ok bytes := by
  have whole : 8 ∣ (bitsOfBytes more).length := ⟨more.length, length_bitsOfBytes more⟩
  have split : bitsOfBytes (stream ++ more) = bitsOfBytes stream ++ bitsOfBytes more :=
    List.flatMap_append
  rw [inflate] at inflates ⊢
  rw [split]
  obtain ⟨found, read, same⟩ : ∃ found, inflateBits (bitsOfBytes stream) = .ok found ∧
      found.1 = bytes := by
    cases read : inflateBits (bitsOfBytes stream) with
    | error error => simp [read, Except.map] at inflates
    | ok found => exact ⟨found, rfl, by simpa [read, Except.map] using inflates⟩
  rw [extends_inflateBits (bitsOfBytes stream) whole found.1 found.2 read]
  exact congrArg Except.ok same

end Drafting.Deflate

namespace Drafting.Deflate.Zlib

/-- Bits that do not fill a byte are passed over. -/
theorem alignToByte_of_short {bits : Bits} (short : bits.length < 8) : alignToByte bits = [] := by
  rw [alignToByte, Nat.mod_eq_of_lt short, List.drop_length]

/-- A stream of which less than a byte is left inflates to the same bytes between its header
and the checksum of these bytes. -/
theorem inflate_framed {stream bytes : List UInt8} {left : Bits}
    (inflates : inflateBits (bitsOfBytes stream) = .ok (bytes, left)) (short : left.length < 8) :
    inflate ([0x78, 0x9C] ++ stream ++ fourBytes (checksum bytes)) = .ok bytes := by
  have framed : [0x78, 0x9C] ++ stream ++ fourBytes (checksum bytes) =
      0x78 :: 0x9C :: (stream ++ fourBytes (checksum bytes)) := rfl
  have split : bitsOfBytes (stream ++ fourBytes (checksum bytes)) =
      bitsOfBytes stream ++ bitsOfBytes (fourBytes (checksum bytes)) := List.flatMap_append
  have whole : 8 ∣ (bitsOfBytes (fourBytes (checksum bytes))).length := ⟨4, length_bitsOfBytes _⟩
  have further := extends_inflateBits (bitsOfBytes stream) whole bytes left inflates
  have sum : bytesOfBits (alignToByte (left ++ bitsOfBytes (fourBytes (checksum bytes)))) =
      fourBytes (checksum bytes) := by
    rw [alignToByte_append left whole, alignToByte_of_short short, List.nil_append,
      bytesOfBits_bitsOfBytes]
  have four : (fourBytes (checksum bytes)).take 4 = fourBytes (checksum bytes) := rfl
  rw [framed, inflate, if_pos (by decide), split, further]
  dsimp only
  rw [sum, four, if_pos (beq_iff_eq.mpr rfl)]

/-- What was compressed inflates to the same bytes. -/
theorem inflate_compress (bytes : List UInt8) : inflate (compress bytes) = .ok bytes := by
  obtain ⟨writable, expands⟩ := expand?_tokensOf bytes
  obtain ⟨more, few, inflates⟩ := inflateBits_fixedStream writable expands
  rw [compress, compress_eq_fixedStream]
  exact inflate_framed inflates (by rwa [List.length_replicate])

end Drafting.Deflate.Zlib
