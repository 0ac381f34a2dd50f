import Drafting.Text.Hex
import Drafting.Text.PrintableTable

/-!
# Quoted texts in messages

A message that names a text shows it between quotation marks, so that blanks at
its ends and characters without a shape can be seen. Apostrophes are the marks,
unless the text holds an apostrophe and no double quotation mark.
-/

namespace Drafting.Text

/-- Whether a character is shown as itself. -/
def isPrintable (character : Char) : Bool :=
  let code := character.toNat
  (0x20 ≤ code && code ≤ 0x7E) ||
    (0x80 ≤ code && printableRanges.any fun range => range.1 ≤ code && code ≤ range.2)

/-- One character of a quoted text: the mark and the backslash are preceded by a
backslash, three controls have a letter, and what cannot be shown is given by
its code at the least of three widths. -/
def quoteCharacter (mark character : Char) : List Char :=
  let code := character.toNat
  if character == mark || character == '\\' then ['\\', character]
  else if character == '\t' then ['\\', 't']
  else if character == '\n' then ['\\', 'n']
  else if character == '\r' then ['\\', 'r']
  else if isPrintable character then [character]
  else if code ≤ 0xFF then '\\' :: 'x' :: hexDigits 2 code
  else if code ≤ 0xFFFF then '\\' :: 'u' :: hexDigits 4 code
  else '\\' :: 'U' :: hexDigits 8 code

/-- The mark that stands around a text. -/
def quotationMark (text : List Char) : Char :=
  if text.contains '\x27' && !text.contains '\x22' then '\x22' else '\x27'

/-- A text as it is shown in a message. -/
def quoted (text : String) : String :=
  let mark := quotationMark text.toList
  String.ofList (mark :: text.toList.flatMap (quoteCharacter mark) ++ [mark])

end Drafting.Text
