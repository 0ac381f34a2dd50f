import Drafting.Deflate.Token
import Std.Data.HashMap

/-!
# Finding repetitions

The tokens for some bytes are found from the first byte to the last. Where the
next three bytes occurred before, the last such place is compared and as much as
possible is copied from there; otherwise the next byte stands for itself.

What is found here need not be trusted: the stream that is made from it is
inflated again before it is used.
-/

namespace Drafting.Deflate

/-- The greatest length of a copy. -/
def maxCopy : Nat := 258

/-- The greatest distance of a copy. -/
def maxDistance : Nat := 32768

/-- The next three bytes as one number, if there are so many. -/
def threeBytes? (bytes : Array UInt8) (position : Nat) : Option Nat := do
  let first ← bytes[position]?
  let second ← bytes[position + 1]?
  let third ← bytes[position + 2]?
  return (first.toNat * 256 + second.toNat) * 256 + third.toNat

/-- How many bytes are equal from two positions on, up to a bound. -/
def equalRun (bytes : Array UInt8) (earlier later : Nat) : Nat → Nat
  | 0 => 0
  | bound + 1 =>
    match bytes[earlier]?, bytes[later]? with
    | some first, some second =>
      if first == second then equalRun bytes (earlier + 1) (later + 1) bound + 1 else 0
    | _, _ => 0

/-- The token at a position, where `places` tells the last places of three bytes,
and the number of bytes it stands for. -/
def tokenAt (bytes : Array UInt8) (places : Std.HashMap Nat Nat) (position : Nat) (byte : UInt8) :
    Token × Nat :=
  match (threeBytes? bytes position).bind fun three => places[three]? with
  | none => (.literal byte, 1)
  | some earlier =>
    let length := equalRun bytes earlier position maxCopy
    if 3 ≤ length && position - earlier ≤ maxDistance then
      (.copy length (position - earlier), length)
    else (.literal byte, 1)

/-- The tokens from a position on. Every token stands for at least one byte. -/
def tokensFrom (bytes : Array UInt8) :
    Nat → Std.HashMap Nat Nat → Nat → List Token → List Token
  | 0, _, _, found => found.reverse
  | fuel + 1, places, position, found =>
    match bytes[position]? with
    | none => found.reverse
    | some byte =>
      let (token, length) := tokenAt bytes places position byte
      let places :=
        match threeBytes? bytes position with
        | some three => places.insert three position
        | none => places
      tokensFrom bytes fuel places (position + length) (token :: found)

/-- Tokens for some bytes. -/
def tokensOf (bytes : List UInt8) : List Token :=
  tokensFrom bytes.toArray (bytes.length + 1) {} 0 []

end Drafting.Deflate
