import Drafting.ImageAddress.PlantUml
import Drafting.Proofs.Base64
import Drafting.Proofs.Deflate.Continuation
import Drafting.Proofs.Deflate.Matching
import Drafting.Proofs.Split

/-!
# Sources in addresses of PlantUML servers

A source is the last part of its address: what stands for it holds no slash, whatever server
and format stand before it. Bytes are filled up with zeros before they are written, so more is
read than was deflated; a stream tells where it ends, and the zeros behind it are ignored.

The main statements are that bytes are read back with the fewest zeros behind them, and that
the last part of an address is read as the source with its theme.
-/

namespace Drafting.ImageAddress

/-- The part of an address behind its last slash. -/
def behindLastSlash (address : List Char) : List Char :=
  (address.reverse.takeWhile (· != '/')).reverse

/-- The part behind the last slash is the one without slashes. -/
theorem behindLastSlash_append (before : List Char) {behind : List Char} (absent : '/' ∉ behind) :
    behindLastSlash (before ++ '/' :: behind) = behind := by
  have turned : (before ++ '/' :: behind).reverse = behind.reverse ++ '/' :: before.reverse := by
    simp
  have absentTurned : '/' ∉ behind.reverse := by rwa [List.mem_reverse]
  rw [behindLastSlash, turned, takeWhile_bne_append absentTurned, List.reverse_reverse]

namespace PlantUml

/-- Bytes in an address are read back, with a last group filled up. -/
theorem decodeBare?_encodeBytes (bytes : List UInt8) :
    Base64.decodeBare? Base64.digitsFirst (encodeBytes bytes) = some (Base64.fillGroups bytes) :=
  Base64.decodeBare?_encodeBare Base64.isLegible_digitsFirst (Base64.fillGroups bytes)

/-- No slash stands for bytes. -/
theorem slash_not_mem_encodeBytes (bytes : List UInt8) : '/' ∉ encodeBytes bytes := by
  intro member
  have ofAlphabet : '/' ∈ Base64.digitsFirst :=
    Base64.mem_of_mem_encodeBare Base64.isLegible_digitsFirst member
  exact absurd ofAlphabet (by decide)

/-- A source is read from any stream that inflates to its bytes: the zeros that fill up a last
group stand behind the stream. -/
theorem decodeSource?_encodeBytes {stream : List UInt8} {source : String}
    (inflates : Deflate.inflate stream = .ok (Text.utf8Bytes source)) :
    decodeSource? (encodeBytes stream) = some source := by
  obtain ⟨zeros, _, filled, _⟩ := Base64.exists_fillGroups stream
  have further := Deflate.inflate_append inflates (List.replicate zeros 0)
  simp only [decodeSource?, decodeBare?_encodeBytes, filled, further, Except.toOption,
    Option.bind_eq_bind, Option.bind_some, Text.ofUtf8?_utf8Bytes]

/-- The source that is drawn is the given one where no theme or an empty one is given. -/
theorem themedSource_eq (theme : Option String) (text : String) :
    themedSource theme text =
      if theme.getD "" = "" then text else applyTheme (theme.getD "") text := by
  simp only [themedSource, String.isEmpty_iff]

/-- The word for a format is one of the words that are accepted. -/
theorem contains_text (format : Format) : formatWords.contains format.text = true := by
  cases format <;> decide

/-- Bytes that are written for an address are read back group by group, with the fewest zero
bytes that make whole groups. Under every theme, format and server a source has an address,
whose last part is read as the source, with the theme if one is given; and so it is whatever
stream that inflates to the source stands there. -/
theorem address_holds_source :
    (∀ bytes, ∃ zeros,
      Base64.decodeBare? Base64.digitsFirst (encodeBytes bytes) =
          some (bytes ++ List.replicate zeros 0) ∧
        3 ∣ bytes.length + zeros ∧ ∀ fewer, 3 ∣ bytes.length + fewer → zeros ≤ fewer) ∧
    (∀ text theme (format : Format) server, ∃ url,
      address text theme format.text server = .ok url ∧
        decodeSource? (behindLastSlash url.toList) =
          some (if theme.getD "" = "" then text else applyTheme (theme.getD "") text)) ∧
    ∀ source stream, Deflate.inflate stream = .ok (Text.utf8Bytes source) →
      decodeSource? (encodeBytes stream) = some source := by
  refine ⟨?_, ?_, ?_⟩
  · intro bytes
    obtain ⟨zeros, few, filled, whole⟩ := Base64.exists_fillGroups bytes
    refine ⟨zeros, ?_, whole, ?_⟩
    · rw [decodeBare?_encodeBytes, filled]
    · intro fewer
      omega
  · intro text theme format server
    refine ⟨_, if_pos (contains_text format), ?_⟩
    rw [String.toList_ofList, encodeSource, behindLastSlash_append _ (slash_not_mem_encodeBytes _),
      ← themedSource_eq]
    exact decodeSource?_encodeBytes (Deflate.inflate_compress _)
  · intro source stream inflates
    exact decodeSource?_encodeBytes inflates

/-- A stream of a plain block stands for a source as well. -/
theorem address_holds_source_plain :
    Deflate.inflate (Deflate.plainStream (Text.utf8Bytes "A -> B")) =
        .ok (Text.utf8Bytes "A -> B") ∧
      decodeSource? (encodeBytes (Deflate.plainStream (Text.utf8Bytes "A -> B"))) =
        some "A -> B" :=
  have inflates : Deflate.inflate (Deflate.plainStream (Text.utf8Bytes "A -> B")) =
      .ok (Text.utf8Bytes "A -> B") := by decide +kernel
  ⟨inflates, address_holds_source.2.2 _ _ inflates⟩

end PlantUml

end Drafting.ImageAddress
