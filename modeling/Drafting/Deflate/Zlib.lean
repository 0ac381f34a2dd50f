import Drafting.Deflate.Compress

/-!
# Streams with a header and a checksum

Where a stream stands alone, two bytes before it tell the method and the size of
the window, and four bytes behind it hold a checksum of what it inflates to.
-/

namespace Drafting.Deflate.Zlib

/-- The modulus of the two sums of the checksum. -/
def checksumModulus : Nat := 65521

/-- The checksum: the sum of the bytes, begun at one, and the sum of those sums. -/
def checksum (bytes : List UInt8) : Nat :=
  let (first, second) := bytes.foldl
    (fun (first, second) byte =>
      let next := (first + byte.toNat) % checksumModulus
      (next, (second + next) % checksumModulus))
    (1, 0)
  second * 0x10000 + first

/-- The four bytes of a number, the most significant first. -/
def fourBytes (number : Nat) : List UInt8 :=
  [ UInt8.ofNat (number / 0x1000000), UInt8.ofNat (number / 0x10000), UInt8.ofNat (number / 0x100),
    UInt8.ofNat number ]

/-- Deflates some bytes and adds header and checksum. -/
def compress (bytes : List UInt8) : List UInt8 :=
  [0x78, 0x9C] ++ Deflate.compress bytes ++ fourBytes (checksum bytes)

/-- Whether two bytes are a header: the method is deflating, the window is not too
large, the two bytes are a multiple of thirty-one, and no dictionary is needed. -/
def isHeader (first second : UInt8) : Bool :=
  let method := first.toNat % 16
  let window := first.toNat / 16
  method == 8 && window ≤ 7 && (first.toNat * 256 + second.toNat) % 31 == 0 &&
    second.toNat / 32 % 2 == 0

/-- Inflates a stream with header and checksum. -/
def inflate (bytes : List UInt8) : Except StreamError (List UInt8) :=
  match bytes with
  | first :: second :: stream =>
    if isHeader first second then
      match inflateBits (bitsOfBytes stream) with
      | .error error => .error error
      | .ok (inflated, rest) =>
        let sum := bytesOfBits (alignToByte rest)
        if sum.take 4 == fourBytes (checksum inflated) then .ok inflated
        else .error .checksumMismatch
    else .error .badHeader
  | _ => .error .truncated

end Drafting.Deflate.Zlib
