import Drafting.Text.WordTable

/-!
# Word characters

Names in every dialect are words: runs of letters, digits and underscores, in
any script.
-/

namespace Drafting.Text

/-- A word character is an underscore, an ASCII letter or digit, or a letter or
numeric character of another script. ASCII is decided without the table. -/
def isWord (character : Char) : Bool :=
  character.isAlphanum || character == '_' ||
    (0x80 ≤ character.toNat &&
      wordRanges.any fun range => range.1 ≤ character.toNat && character.toNat ≤ range.2)

end Drafting.Text
