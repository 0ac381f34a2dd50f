import Drafting.Deflate.Bits

/-!
# Canonical codes

A code gives each symbol a string of bits, such that none begins another. It is
determined by the lengths of the strings: shorter ones come before longer ones,
and among strings of one length the order is that of the symbols. A length of
zero means that a symbol does not occur.
-/

namespace Drafting.Deflate

/-- A code: how many strings there are of each length from one on, and the symbols
in the order of their strings. -/
structure PrefixCode where
  counts : List Nat
  symbols : Array Nat

namespace PrefixCode

/-- The greatest length of a string. -/
def maxLength : Nat := 15

/-- The lengths of strings. -/
def lengths : List Nat := (List.range maxLength).map (· + 1)

/-- The code with the given lengths of its strings, symbol by symbol. -/
def ofLengths (given : List Nat) : PrefixCode :=
  let symbolsOf (length : Nat) : List Nat :=
    (given.zipIdx.filter fun (own, _) => own == length).map Prod.snd
  { counts := lengths.map given.count
    symbols := (lengths.flatMap symbolsOf).toArray }

/-- How many strings of the greatest length are unused, or nothing if there are
more strings than room for them. -/
def slack? : Nat → List Nat → Option Nat
  | room, [] => some room
  | room, count :: counts => if 2 * room < count then none else slack? (2 * room - count) counts

/-- Whether every long enough string of bits begins with the string of a symbol. -/
def isComplete (code : PrefixCode) : Bool := slack? 1 code.counts == some 0

/-- Whether there is at most one string, of one bit. Such a code is allowed
although it is not complete. -/
def isSingle (code : PrefixCode) : Bool :=
  match code.counts with
  | [] => true
  | ones :: others => ones ≤ 1 && others.all (· == 0)

/-- The symbol at the beginning of the bits, and what follows it. So far `value`
was read; strings of the present length begin with `first`, and `index` symbols
have shorter ones. -/
def symbolFrom? (symbols : Array Nat) (value first index : Nat) :
    List Nat → Bits → Option (Nat × Bits)
  | count :: counts, bit :: rest =>
    let value := value + bit.toNat
    if value < first + count then
      (symbols[index + (value - first)]?).map (·, rest)
    else symbolFrom? symbols (2 * value) (2 * (first + count)) (index + count) counts rest
  | _, _ => none

/-- The symbol at the beginning of the bits, and what follows it. -/
def symbol? (code : PrefixCode) (bits : Bits) : Option (Nat × Bits) :=
  symbolFrom? code.symbols 0 0 0 code.counts bits

end PrefixCode

end Drafting.Deflate
