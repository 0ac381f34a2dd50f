import Drafting.Deflate.PrefixCode
import Drafting.Deflate.Token

/-!
# Inflating

A stream is a list of blocks, the last of which is marked. A block holds plain
bytes, or tokens in one of two codes: a fixed one, or one that the block begins
with. The stream ends with its last block, whatever follows.

Every rule of the format is checked, so that a damaged stream is an error and
never wrong bytes.
-/

namespace Drafting.Deflate

/-- What is wrong with a stream. -/
inductive StreamError where
  | truncated
  | unknownBlock
  | lengthMismatch
  | badCode
  | badSymbol
  | badHeader
  | reachesTooFar
  | checksumMismatch
  deriving DecidableEq, Repr

/-- The tokens read so far, the last one first, and the rest of the stream. -/
abbrev Reading := Except StreamError (List Token × Bits)

/-- A number of so many bits. -/
def readNumber (count : Nat) (bits : Bits) : Except StreamError (Nat × Bits) :=
  match number? count bits with
  | some found => .ok found
  | none => .error .truncated

/-- A symbol of a code. A string that no symbol has and the end of the stream are
both errors. -/
def readSymbol (code : PrefixCode) (bits : Bits) : Except StreamError (Nat × Bits) :=
  match code.symbol? bits with
  | some found => .ok found
  | none => .error .badSymbol

/-- The number that a symbol of a table and the bits behind it stand for. -/
def readScaled (table : List (Nat × Nat)) (symbol : Nat) (bits : Bits) :
    Except StreamError (Nat × Bits) :=
  match table[symbol]? with
  | none => .error .badSymbol
  | some (base, extra) => (readNumber extra bits).map fun (more, rest) => (base + more, rest)

/-- Plain bytes. -/
def readPlain : Nat → List Token → Bits → Reading
  | 0, tokens, bits => .ok (tokens, bits)
  | count + 1, tokens, bits =>
    match readNumber 8 bits with
    | .ok (byte, rest) => readPlain count (.literal (UInt8.ofNat byte) :: tokens) rest
    | .error error => .error error

/-- A block of plain bytes: their number, its complement, and the bytes. -/
def readStored (tokens : List Token) (bits : Bits) : Reading :=
  match readNumber 16 (alignToByte bits) with
  | .error error => .error error
  | .ok (count, rest) =>
    match readNumber 16 rest with
    | .error error => .error error
    | .ok (complement, rest) =>
      if count + complement = 0xFFFF then readPlain count tokens rest else .error .lengthMismatch

/-- A token, or nothing where its symbol ends the block. -/
def readToken (literals distances : PrefixCode) (bits : Bits) :
    Except StreamError (Option Token × Bits) :=
  match readSymbol literals bits with
  | .error error => .error error
  | .ok (symbol, rest) =>
    if symbol < Token.endSymbol then .ok (some (.literal (UInt8.ofNat symbol)), rest)
    else if symbol = Token.endSymbol then .ok (none, rest)
    else
      match readScaled Token.lengthSymbols (symbol - 257) rest with
      | .error error => .error error
      | .ok (length, rest) =>
        match readSymbol distances rest with
        | .error error => .error error
        | .ok (symbol, rest) =>
          match readScaled Token.distanceSymbols symbol rest with
          | .error error => .error error
          | .ok (distance, rest) => .ok (some (.copy length distance), rest)

/-- Tokens up to the symbol that ends their block. Every symbol takes a bit, so
the number of bits left bounds their number. -/
def readTokens (literals distances : PrefixCode) : Nat → List Token → Bits → Reading
  | 0, _, _ => .error .truncated
  | fuel + 1, tokens, bits =>
    match readToken literals distances bits with
    | .error error => .error error
    | .ok (none, rest) => .ok (tokens, rest)
    | .ok (some token, rest) => readTokens literals distances fuel (token :: tokens) rest

/-- The lengths of the fixed code for bytes and lengths. -/
def fixedLiteralLengths : List Nat :=
  List.replicate 144 8 ++ List.replicate 112 9 ++ List.replicate 24 7 ++ List.replicate 8 8

/-- The fixed code for bytes and lengths. -/
def fixedLiterals : PrefixCode := .ofLengths fixedLiteralLengths

/-- The fixed code for distances. -/
def fixedDistances : PrefixCode := .ofLengths (List.replicate 32 5)

/-- The order in which the lengths of the code for code lengths are given. -/
def lengthOrder : List Nat :=
  [16, 17, 18, 0, 8, 7, 9, 6, 10, 5, 11, 4, 12, 3, 13, 2, 14, 1, 15]

/-- Some numbers of three bits. -/
def readThrees : Nat → Bits → Except StreamError (List Nat × Bits)
  | 0, bits => .ok ([], bits)
  | count + 1, bits =>
    match readNumber 3 bits with
    | .error error => .error error
    | .ok (number, rest) =>
      (readThrees count rest).map fun (numbers, rest) => (number :: numbers, rest)

/-- The code for code lengths, from as many numbers as are given of it. -/
def lengthCode (given : List Nat) : PrefixCode :=
  .ofLengths ((List.range 19).map fun symbol =>
    ((lengthOrder.zip given).lookup symbol).getD 0)

/-- What a symbol of the code for code lengths repeats: a length, how often at
least, and how many bits are added to that. The first of the three symbols that
repeat needs a length before it. -/
def repetition? (symbol : Nat) (before : List Nat) : Option (Nat × Nat × Nat) :=
  match symbol with
  | 16 => before.head?.map fun last => (last, 3, 2)
  | 17 => some (0, 3, 3)
  | 18 => some (0, 11, 7)
  | length => some (length, 1, 0)

/-- The lengths of the two codes of a block, the last one first. Every symbol takes
a bit. -/
def readLengths (code : PrefixCode) (total : Nat) :
    Nat → List Nat → Bits → Except StreamError (List Nat × Bits)
  | 0, _, _ => .error .truncated
  | fuel + 1, read, bits =>
    if read.length = total then .ok (read, bits)
    else if total < read.length then .error .badHeader
    else
      match readSymbol code bits with
      | .error error => .error error
      | .ok (symbol, rest) =>
        match repetition? symbol read with
        | none => .error .badHeader
        | some (length, least, extra) =>
          match readNumber extra rest with
          | .error error => .error error
          | .ok (more, rest) =>
            readLengths code total fuel (List.replicate (least + more) length ++ read) rest

/-- A block with its own codes, which are given first. -/
def readDynamic (fuel : Nat) (tokens : List Token) (bits : Bits) : Reading := do
  let (literalCount, bits) ← readNumber 5 bits
  let (distanceCount, bits) ← readNumber 5 bits
  let (lengthCount, bits) ← readNumber 4 bits
  let literalCount := literalCount + 257
  let distanceCount := distanceCount + 1
  if 286 < literalCount || 30 < distanceCount then throw .badHeader
  let (given, bits) ← readThrees (lengthCount + 4) bits
  let code := lengthCode given
  if !code.isComplete then throw .badCode
  let (read, bits) ← readLengths code (literalCount + distanceCount) fuel [] bits
  let lengths := read.reverse
  let literals := PrefixCode.ofLengths (lengths.take literalCount)
  let distances := PrefixCode.ofLengths (lengths.drop literalCount)
  if lengths[Token.endSymbol]? = some 0 then throw .badCode
  if !literals.isComplete && !literals.isSingle then throw .badCode
  if !distances.isComplete && !distances.isSingle then throw .badCode
  readTokens literals distances fuel tokens bits

/-- The block behind the mark of the last one. -/
def readBlock (fuel : Nat) (tokens : List Token) (bits : Bits) : Reading :=
  match readNumber 2 bits with
  | .error error => .error error
  | .ok (kind, rest) =>
    match kind with
    | 0 => readStored tokens rest
    | 1 => readTokens fixedLiterals fixedDistances fuel tokens rest
    | 2 => readDynamic fuel tokens rest
    | _ => .error .unknownBlock

/-- Blocks up to the last one. Every block takes a bit. -/
def readBlocks : Nat → List Token → Bits → Reading
  | 0, _, _ => .error .truncated
  | fuel + 1, tokens, bits =>
    match bits with
    | [] => .error .truncated
    | isLast :: rest =>
      match readBlock fuel tokens rest with
      | .error error => .error error
      | .ok (tokens, rest) => if isLast then .ok (tokens, rest) else readBlocks fuel tokens rest

/-- Inflates a stream and answers with the bytes and what follows it. -/
def inflateBits (bits : Bits) : Except StreamError (List UInt8 × Bits) :=
  match readBlocks (bits.length + 1) [] bits with
  | .error error => .error error
  | .ok (tokens, rest) =>
    match Token.expand? tokens.reverse with
    | some bytes => .ok (bytes, rest)
    | none => .error .reachesTooFar

/-- Inflates a stream. What follows it is ignored. -/
def inflate (bytes : List UInt8) : Except StreamError (List UInt8) :=
  (inflateBits (bitsOfBytes bytes)).map Prod.fst

end Drafting.Deflate
