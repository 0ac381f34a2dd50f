/-!
# Base 64

Three bytes are written as four characters of an alphabet, each for six bits. The
three alphabets here differ in the characters and in how a last group of one or
two bytes is written: with padding marks, with nothing, or filled up with zero
bytes.

Reading the padded form passes over characters outside of the alphabet and stops
at the padding that completes a group; what is missing there is an error.
-/

namespace Drafting.Base64

/-- The characters for the values of six bits, in order. -/
abbrev Alphabet := List Char

/-- Capitals, small letters, digits and two marks. -/
def standard : Alphabet :=
  "ABCDEFGHIJKLMNOPQRSTUVWXYZabcdefghijklmnopqrstuvwxyz0123456789+/".toList

/-- The same with two other marks, which have no meaning in addresses. -/
def urlSafe : Alphabet :=
  "ABCDEFGHIJKLMNOPQRSTUVWXYZabcdefghijklmnopqrstuvwxyz0123456789-_".toList

/-- Digits, capitals, small letters and the same two marks. -/
def digitsFirst : Alphabet :=
  "0123456789ABCDEFGHIJKLMNOPQRSTUVWXYZabcdefghijklmnopqrstuvwxyz-_".toList

/-- The values of six bits in some bytes. A last group of one byte gives two
values, one of two bytes gives three. -/
def sextets : List UInt8 → List Nat
  | first :: second :: third :: rest =>
    first.toNat / 4 :: (first.toNat % 4 * 16 + second.toNat / 16) ::
      (second.toNat % 16 * 4 + third.toNat / 64) :: third.toNat % 64 :: sextets rest
  | [first, second] =>
    [first.toNat / 4, first.toNat % 4 * 16 + second.toNat / 16, second.toNat % 16 * 4]
  | [first] => [first.toNat / 4, first.toNat % 4 * 16]
  | [] => []

/-- The bytes of some values of six bits. Bits that do not fill a byte are
dropped. -/
def bytesOfSextets : List Nat → List UInt8
  | first :: second :: third :: fourth :: rest =>
    UInt8.ofNat (first * 4 + second / 16) :: UInt8.ofNat (second % 16 * 16 + third / 4) ::
      UInt8.ofNat (third % 4 * 64 + fourth) :: bytesOfSextets rest
  | [first, second, third] =>
    [UInt8.ofNat (first * 4 + second / 16), UInt8.ofNat (second % 16 * 16 + third / 4)]
  | [first, second] => [UInt8.ofNat (first * 4 + second / 16)]
  | _ => []

/-- The character for a value. -/
def character (alphabet : Alphabet) (value : Nat) : Char := alphabet.getD value 'A'

/-- The value of a character, if it is in the alphabet. -/
def value? (alphabet : Alphabet) (character : Char) : Option Nat := alphabet.idxOf? character

/-- Some bytes without padding. -/
def encodeBare (alphabet : Alphabet) (bytes : List UInt8) : List Char :=
  (sextets bytes).map (character alphabet)

/-- Some bytes, padded to whole groups. -/
def encodePadded (alphabet : Alphabet) (bytes : List UInt8) : List Char :=
  let bare := encodeBare alphabet bytes
  bare ++ List.replicate ((4 - bare.length % 4) % 4) '='

/-- The bytes with a last group of one or two filled up with zero bytes. -/
def fillGroups : List UInt8 → List UInt8
  | first :: second :: third :: rest => first :: second :: third :: fillGroups rest
  | [first, second] => [first, second, 0]
  | [first] => [first, 0, 0]
  | [] => []

/-- Some bytes, filled up with zero bytes to whole groups. -/
def encodeFilled (alphabet : Alphabet) (bytes : List UInt8) : List Char :=
  encodeBare alphabet (fillGroups bytes)

/-- The bytes of a text without padding, all of whose characters are in the
alphabet. -/
def decodeBare? (alphabet : Alphabet) (text : List Char) : Option (List UInt8) :=
  (text.mapM (value? alphabet)).map bytesOfSextets

/-- What is wrong with a padded text. -/
inductive Error where
  | notAscii
  | incomplete
  deriving DecidableEq, Repr

/-- The values in a padded text, where `count` values were read before it and
`pads` padding marks stand directly before it. Padding counts where the group has
two values already. -/
def readPadded : Nat → Nat → List Char → Except Error (List Nat)
  | count, _, [] => if count % 4 = 0 then .ok [] else .error .incomplete
  | count, pads, character :: rest =>
    if character == '=' then
      if 2 ≤ count % 4 then
        if 4 ≤ count % 4 + (pads + 1) then .ok [] else readPadded count (pads + 1) rest
      else readPadded count pads rest
    else
      match value? standard character with
      | some value => (readPadded (count + 1) 0 rest).map (value :: ·)
      | none => readPadded count pads rest

/-- The bytes of a padded text. -/
def decodePadded (text : List Char) : Except Error (List UInt8) :=
  if text.all fun character => character.toNat < 0x80 then
    (readPadded 0 0 text).map bytesOfSextets
  else .error .notAscii

end Drafting.Base64
