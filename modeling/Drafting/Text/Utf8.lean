/-!
# Bytes of a text

Texts are stored and sent as bytes in UTF-8. Bytes that are not the strict form
of any text are refused.
-/

namespace Drafting.Text

/-- The bytes of a text. -/
def utf8Bytes (text : String) : List UInt8 := text.toUTF8.data.toList

/-- The text of some bytes, if they are one. -/
def ofUtf8? (bytes : List UInt8) : Option String := String.fromUTF8? ⟨bytes.toArray⟩

/-- The bytes of a text are read back as that text. -/
theorem ofUtf8?_utf8Bytes (text : String) : ofUtf8? (utf8Bytes text) = some text := by
  have valid : String.fromUTF8? text.toUTF8 = some text := by
    simp only [String.fromUTF8?]
    split
    · rfl
    · next invalid => exact absurd text.isValidUTF8 (by simpa using invalid)
  simpa [ofUtf8?, utf8Bytes] using valid

end Drafting.Text
