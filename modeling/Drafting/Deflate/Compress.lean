import Drafting.Deflate.Inflate
import Drafting.Deflate.Matching

/-!
# Deflating

Bytes are written as one block in the fixed code, with repetitions as copies. The
stream is inflated again; should it not give the bytes back, they are written as
plain blocks instead, which need no search.

The main statement, `compress_eq_fixedStream`, is shown where the search for
repetitions is: the stream in the fixed code always passes.
-/

namespace Drafting.Deflate

/-- The string of a symbol in the fixed code for bytes and lengths, the most
significant bit first. -/
def literalBits (symbol : Nat) : Bits :=
  if symbol < 144 then (bitsOfNumber 8 (0x30 + symbol)).reverse
  else if symbol < 256 then (bitsOfNumber 9 (0x190 + (symbol - 144))).reverse
  else if symbol < 280 then (bitsOfNumber 7 (symbol - 256)).reverse
  else (bitsOfNumber 8 (0xC0 + (symbol - 280))).reverse

/-- The last entry of a table whose least value does not exceed a number, with its
position in the table. -/
def entryFor (table : List (Nat × Nat)) (number : Nat) : Option (Nat × Nat × Nat) :=
  (table.zipIdx.reverse.find? fun ((base, _), _) => base ≤ number).map
    fun ((base, extra), symbol) => (symbol, base, extra)

/-- A number as a symbol of a table and the bits behind it. -/
def scaledBits (table : List (Nat × Nat)) (symbolBits : Nat → Bits) (number : Nat) : Bits :=
  match entryFor table number with
  | some (symbol, base, extra) => symbolBits symbol ++ bitsOfNumber extra (number - base)
  | none => []

/-- The bits of a token. -/
def tokenBits : Token → Bits
  | .literal byte => literalBits byte.toNat
  | .copy length distance =>
    scaledBits Token.lengthSymbols (fun symbol => literalBits (symbol + 257)) length ++
      scaledBits Token.distanceSymbols (fun symbol => (bitsOfNumber 5 symbol).reverse) distance

/-- A stream of one block in the fixed code. -/
def fixedStream (tokens : List Token) : List UInt8 :=
  bytesOfBits (true :: bitsOfNumber 2 1 ++ tokens.flatMap tokenBits ++
    literalBits Token.endSymbol)

/-- The greatest number of bytes in a plain block. -/
def plainBlockSize : Nat := 0xFFFF

/-- A plain block. It begins at a byte, so its mark and its kind fill one. -/
def plainBlock (isLast : Bool) (bytes : List UInt8) : List UInt8 :=
  let count := bytes.length
  let complement := 0xFFFF - count
  UInt8.ofNat isLast.toNat :: UInt8.ofNat (count % 256) :: UInt8.ofNat (count / 256) ::
    UInt8.ofNat (complement % 256) :: UInt8.ofNat (complement / 256) :: bytes

/-- Plain blocks for some bytes, at most as many as given. -/
def plainBlocks : Nat → List UInt8 → List UInt8
  | 0, bytes => plainBlock true bytes
  | blocks + 1, bytes =>
    if bytes.length ≤ plainBlockSize then plainBlock true bytes
    else
      plainBlock false (bytes.take plainBlockSize) ++
        plainBlocks blocks (bytes.drop plainBlockSize)

/-- A stream of plain blocks. -/
def plainStream (bytes : List UInt8) : List UInt8 :=
  plainBlocks (bytes.length / plainBlockSize) bytes

/-- Whether a stream inflates to some bytes. -/
def isStreamOf (bytes stream : List UInt8) : Bool :=
  match inflate stream with
  | .ok inflated => inflated == bytes
  | .error _ => false

/-- Deflates some bytes. -/
def compress (bytes : List UInt8) : List UInt8 :=
  let stream := fixedStream (tokensOf bytes)
  if isStreamOf bytes stream then stream else plainStream bytes

end Drafting.Deflate
