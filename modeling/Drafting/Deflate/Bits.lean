/-!
# Bits and bytes

A compressed stream is read bit by bit, the least significant bit of each byte
first. Numbers in it begin with their least significant bit, codes with their
most significant one.

The main statement is that a byte has eight bits and is the number of them.
-/

namespace Drafting.Deflate

/-- A stream of bits. -/
abbrev Bits := List Bool

/-- The bits of a number, the least significant first. -/
def bitsOfNumber : Nat → Nat → Bits
  | 0, _ => []
  | count + 1, number => (number % 2 == 1) :: bitsOfNumber count (number / 2)

/-- The bits of a byte. -/
def bitsOfByte (byte : UInt8) : Bits := bitsOfNumber 8 byte.toNat

/-- The bits of some bytes. -/
def bitsOfBytes (bytes : List UInt8) : Bits := bytes.flatMap bitsOfByte

/-- The number that some bits stand for. -/
def numberOfBits : Bits → Nat
  | [] => 0
  | bit :: rest => bit.toNat + 2 * numberOfBits rest

/-- The bytes of some bits. The last byte is filled up with zeros. -/
def bytesOfBits : Bits → List UInt8
  | b0 :: b1 :: b2 :: b3 :: b4 :: b5 :: b6 :: b7 :: rest =>
    UInt8.ofNat (numberOfBits [b0, b1, b2, b3, b4, b5, b6, b7]) :: bytesOfBits rest
  | [] => []
  | bits => [UInt8.ofNat (numberOfBits bits)]

/-- A number of so many bits, and what follows it. -/
def number? : Nat → Bits → Option (Nat × Bits)
  | 0, bits => some (0, bits)
  | _ + 1, [] => none
  | count + 1, bit :: rest =>
    (number? count rest).map fun (number, rest) => (bit.toNat + 2 * number, rest)

/-- The bits before the next byte are left out. A stream ends with a whole byte, so
their number is known from what is left. -/
def alignToByte (bits : Bits) : Bits := bits.drop (bits.length % 8)

/-- So many bits are written as were asked for. -/
theorem bitsOfNumber_length (count number : Nat) :
    (bitsOfNumber count number).length = count := by
  induction count generalizing number with
  | zero => rfl
  | succ count inductionHypothesis => simp [bitsOfNumber, inductionHypothesis]

/-- The bits of a number that is not too large stand for it. -/
theorem numberOfBits_bitsOfNumber (count number : Nat) (bounded : number < Nat.pow 2 count) :
    numberOfBits (bitsOfNumber count number) = number := by
  induction count generalizing number with
  | zero =>
    have zero : number = 0 := by simpa using bounded
    simp [bitsOfNumber, numberOfBits, zero]
  | succ count inductionHypothesis =>
    have half : number / 2 < Nat.pow 2 count := by
      have doubled : number < Nat.pow 2 count * 2 := bounded
      omega
    rw [bitsOfNumber, numberOfBits, inductionHypothesis _ half]
    rcases Nat.mod_two_eq_zero_or_one number with even | odd
    · simp [even]
      omega
    · simp [odd]
      omega

/-- Reading a number gives back what was written, whatever follows. -/
theorem number?_append (count number : Nat) (bounded : number < Nat.pow 2 count) (rest : Bits) :
    number? count (bitsOfNumber count number ++ rest) = some (number, rest) := by
  induction count generalizing number with
  | zero =>
    have zero : number = 0 := by simpa using bounded
    simp [bitsOfNumber, number?, zero]
  | succ count inductionHypothesis =>
    have half : number / 2 < Nat.pow 2 count := by
      have doubled : number < Nat.pow 2 count * 2 := bounded
      omega
    rw [bitsOfNumber, List.cons_append, number?, inductionHypothesis _ half]
    rcases Nat.mod_two_eq_zero_or_one number with even | odd
    · simp [even]
      omega
    · simp [odd]
      omega

end Drafting.Deflate
