/-!
# Tokens

Compressed data is a list of tokens: single bytes, and copies of what was written
shortly before. A copy may reach into what it writes itself.
-/

namespace Drafting.Deflate

/-- A byte, or a copy of `length` bytes from `distance` bytes before. -/
inductive Token where
  | literal (byte : UInt8)
  | copy (length distance : Nat)
  deriving DecidableEq, Repr

namespace Token

/-- Copies bytes one by one. -/
def copyBytes (distance : Nat) : Nat → Array UInt8 → Option (Array UInt8)
  | 0, written => some written
  | count + 1, written =>
    if 0 < distance && distance ≤ written.size then
      match written[written.size - distance]? with
      | some byte => copyBytes distance count (written.push byte)
      | none => none
    else none

/-- The bytes after one more token, if it does not reach back too far. -/
def write? (written : Array UInt8) : Token → Option (Array UInt8)
  | literal byte => some (written.push byte)
  | copy length distance => copyBytes distance length written

/-- The bytes after some more tokens. -/
def expandFrom? (written : Array UInt8) : List Token → Option (Array UInt8)
  | [] => some written
  | token :: others =>
    match write? written token with
    | some written => expandFrom? written others
    | none => none

/-- The bytes that some tokens stand for. -/
def expand? (tokens : List Token) : Option (List UInt8) :=
  (expandFrom? #[] tokens).map Array.toList

/-- The symbols of lengths from the first one on: the least length of each and how
many bits follow that are added to it. -/
def lengthSymbols : List (Nat × Nat) :=
  [ (3, 0), (4, 0), (5, 0), (6, 0), (7, 0), (8, 0), (9, 0), (10, 0), (11, 1), (13, 1), (15, 1),
    (17, 1), (19, 2), (23, 2), (27, 2), (31, 2), (35, 3), (43, 3), (51, 3), (59, 3), (67, 4),
    (83, 4), (99, 4), (115, 4), (131, 5), (163, 5), (195, 5), (227, 5), (258, 0) ]

/-- The symbols of distances in the same form. -/
def distanceSymbols : List (Nat × Nat) :=
  [ (1, 0), (2, 0), (3, 0), (4, 0), (5, 1), (7, 1), (9, 2), (13, 2), (17, 3), (25, 3), (33, 4),
    (49, 4), (65, 5), (97, 5), (129, 6), (193, 6), (257, 7), (385, 7), (513, 8), (769, 8),
    (1025, 9), (1537, 9), (2049, 10), (3073, 10), (4097, 11), (6145, 11), (8193, 12),
    (12289, 12), (16385, 13), (24577, 13) ]

/-- The symbol that ends a block. -/
def endSymbol : Nat := 256

end Token

end Drafting.Deflate
