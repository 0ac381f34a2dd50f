import Drafting.ImageAddress.Mermaid
import Drafting.Json.Access
import Drafting.Json.Reader
import Drafting.Proofs.Base64
import Drafting.Proofs.Deflate.Continuation
import Drafting.Proofs.ImageAddress.PlantUml
import Drafting.Proofs.Json.Recovery
import Drafting.Proofs.Text.Scan

/-!
# Sources in addresses of Mermaid servers

A source is sent within a value. Neither the alphabet for addresses nor a query holds a slash,
so the encoded value is in the last part of its address, whatever base stands before it; and as
the alphabet holds no question mark, it ends where the query begins.

The main statement is that the value in an address is read back with the trimmed source and
the default theme.
-/

namespace Drafting.ImageAddress.Mermaid

/-- What stands before the encoded value in the last part of an address. -/
def Server.mark : Server → String
  | .mermaid => "pako:"
  | .kroki => ""

/-- The encoded value in an address: behind the last slash and the mark of the server, up to
the query. -/
def encodedPart (server : Server) (address : List Char) : List Char :=
  let behind := behindLastSlash address
  ((Text.expect server.mark behind).getD behind).takeWhile (· != '?')

/-- The character of the common alphabet for one of the alphabet for addresses. -/
def standardCharacter (character : Char) : Char :=
  if character = '-' then '+' else if character = '_' then '/' else character

/-- The value that was encoded: padded to whole groups, decoded, inflated and parsed. -/
def readPayload? (encoded : List Char) : Option Json := do
  let padded := encoded ++ List.replicate ((4 - encoded.length % 4) % 4) '='
  let stream ← (Base64.decodePadded (padded.map standardCharacter)).toOption
  let bytes ← (Deflate.Zlib.inflate stream).toOption
  let text ← Text.ofUtf8? bytes
  (Json.ofText text).toOption

/-- The two alphabets differ in two characters. -/
theorem standardCharacter_character : ∀ value < Base64.sextetLimit,
    standardCharacter (Base64.character Base64.urlSafe value) =
      Base64.character Base64.standard value := by
  decide +kernel

/-- Bytes written for an address are the padded form without its padding, but for the two
characters. -/
theorem map_standardCharacter (bytes : List UInt8) :
    (Base64.encodeBare Base64.urlSafe bytes ++
        List.replicate ((4 - (Base64.encodeBare Base64.urlSafe bytes).length % 4) % 4) '=').map
          standardCharacter =
      Base64.encodePadded Base64.standard bytes := by
  have bare : (Base64.encodeBare Base64.urlSafe bytes).map standardCharacter =
      Base64.encodeBare Base64.standard bytes := by
    rw [Base64.encodeBare, List.map_map]
    apply List.map_congr_left
    intro value ofBytes
    exact standardCharacter_character value (Base64.sextets_lt bytes value ofBytes)
  have length : (Base64.encodeBare Base64.urlSafe bytes).length =
      (Base64.encodeBare Base64.standard bytes).length := by
    rw [← bare, List.length_map]
  have padding : standardCharacter '=' = '=' := by decide
  rw [List.map_append, bare, List.map_replicate, padding, length, Base64.encodePadded]

/-- The value that is sent is read back from its text. -/
theorem isReadBack_payload (text : String) : (payload text).IsReadBack := by
  have theme : (Json.object [("theme", .string "default")]).IsReadBack := by
    apply Json.isReadBack_object
    · intro member isMember
      rw [List.mem_singleton.mp isMember]
      exact Json.isReadBack_string "default"
    · decide
  apply Json.isReadBack_object
  · intro member isMember
    rcases List.mem_cons.mp isMember with rfl | isSecond
    · exact Json.isReadBack_string (Text.trimmed text)
    · rw [List.mem_singleton.mp isSecond]
      exact theme
  · exact show ["code", "mermaid"].Nodup by decide

/-- A source in an address is read back as the value that was sent. -/
theorem readPayload?_encodeSource (text : String) :
    readPayload? (encodeSource text) = some (payload text) := by
  simp only [readPayload?, encodeSource, map_standardCharacter, Base64.decodePadded_encodePadded,
    Deflate.Zlib.inflate_compress, Text.ofUtf8?_utf8Bytes, (isReadBack_payload text).ofText_text,
    Except.toOption, Option.bind_eq_bind, Option.bind_some]

/-- Joined pieces hold no slash if neither the pieces nor the separator do. -/
theorem slash_not_mem_join {separator : List Char} {pieces : List (List Char)}
    (between : '/' ∉ separator) (inside : ∀ piece ∈ pieces, '/' ∉ piece) :
    '/' ∉ Text.join separator pieces := by
  fun_induction Text.join separator pieces with
  | case1 => exact List.not_mem_nil
  | case2 piece => exact inside piece List.mem_cons_self
  | case3 piece pieces _ inductionHypothesis =>
    have later := inductionHypothesis fun other member =>
      inside other (List.mem_cons_of_mem _ member)
    simp only [List.mem_append, not_or]
    exact ⟨⟨inside piece List.mem_cons_self, between⟩, later⟩

/-- An integer is written without slashes. -/
theorem slash_not_mem_integerText (number : Int) : '/' ∉ Number.integerText number := by
  have digits : '/' ∉ Number.naturalText number.natAbs := by
    intro member
    have digit := Nat.isDigit_of_mem_toDigits (by decide) (by decide) member
    exact absurd digit (by decide)
  rw [Number.integerText]
  split
  · rw [List.mem_cons, not_or]
    exact ⟨by decide, digits⟩
  · exact digits

/-- A query of fields without slashes holds none. -/
theorem slash_not_mem_queryText {fields : List (String × String)}
    (inside : ∀ field ∈ fields, '/' ∉ field.1.toList ∧ '/' ∉ field.2.toList) :
    '/' ∉ (queryText fields).toList := by
  rw [queryText, Text.joinStrings, String.toList_ofList]
  apply slash_not_mem_join (by decide)
  intro piece member
  obtain ⟨text, ofFields, rfl⟩ := List.mem_map.mp member
  obtain ⟨field, isField, rfl⟩ := List.mem_map.mp ofFields
  simpa using inside field isField

/-- The field for a measure, if it was asked for. -/
def measure (name : String) (value : Option Int) : List (String × String) :=
  match value with
  | none => []
  | some number => if number = 0 then [] else [(name, String.ofList (Number.integerText number))]

/-- The size is given by two measures. -/
theorem sizeQuery_eq (width height : Option Int) :
    sizeQuery width height = measure "width" width ++ measure "height" height := rfl

/-- A measure is written without slashes if its name is. -/
theorem slash_not_mem_measure {name : String} (slashless : '/' ∉ name.toList)
    (value : Option Int) :
    ∀ field ∈ measure name value, '/' ∉ field.1.toList ∧ '/' ∉ field.2.toList := by
  intro field isField
  cases value with
  | none => contradiction
  | some number =>
    by_cases zero : number = 0
    · simp [measure, zero] at isField
    · rw [measure, if_neg zero, List.mem_singleton] at isField
      rw [isField, String.toList_ofList]
      exact ⟨slashless, slash_not_mem_integerText number⟩

/-- The measures that were asked for are written without slashes. -/
theorem slash_not_mem_sizeQuery (width height : Option Int) :
    ∀ field ∈ sizeQuery width height, '/' ∉ field.1.toList ∧ '/' ∉ field.2.toList := by
  intro field isField
  rw [sizeQuery_eq] at isField
  rcases List.mem_append.mp isField with ofWidth | ofHeight
  · exact slash_not_mem_measure (by decide) width field ofWidth
  · exact slash_not_mem_measure (by decide) height field ofHeight

/-- What stands in front of a query, or of nothing, is found up to the question mark. -/
theorem takeWhile_question {encoded query : List Char} (noQuestion : '?' ∉ encoded)
    (isQuery : query = [] ∨ ∃ fields, query = '?' :: fields) :
    (encoded ++ query).takeWhile (· != '?') = encoded := by
  rcases isQuery with rfl | ⟨fields, rfl⟩
  · rw [List.takeWhile_append_of_pos (bne_of_not_mem noQuestion), List.takeWhile_nil,
      List.append_nil]
  · exact takeWhile_bne_append noQuestion fields

/-- One server takes the format from its query. -/
theorem request_mermaid (encoded : List Char) (format : String) (size : List (String × String)) :
    Server.mermaid.request encoded format size =
      "/img/pako:".toList ++ encoded ++ '?' :: (queryText (("type", format) :: size)).toList :=
  rfl

/-- The other server takes the format from the path, and is sent no empty query. -/
theorem request_kroki (encoded : List Char) (format : String) (size : List (String × String)) :
    Server.kroki.request encoded format size =
      "/mermaid/".toList ++ format.toList ++ '/' :: encoded ++
        if (queryText size).isEmpty then [] else '?' :: (queryText size).toList :=
  rfl

/-- What a server is asked for ends with its mark, the encoded value and the query, behind a
slash. -/
theorem exists_request (server : Server) (encoded : List Char) (format : Format)
    {size : List (String × String)}
    (inside : ∀ field ∈ size, '/' ∉ field.1.toList ∧ '/' ∉ field.2.toList) :
    ∃ path query, server.request encoded format.text size =
        path ++ '/' :: (server.mark.toList ++ (encoded ++ query)) ∧
      '/' ∉ query ∧ (query = [] ∨ ∃ fields, query = '?' :: fields) := by
  cases server with
  | mermaid =>
    have path : "/img/pako:".toList = "/img".toList ++ '/' :: "pako:".toList := by decide
    have formatSlashless : '/' ∉ "type".toList ∧ '/' ∉ format.text.toList := by
      cases format <;> decide
    have noSlash : '/' ∉ (queryText (("type", format.text) :: size)).toList :=
      slash_not_mem_queryText (List.forall_mem_cons.mpr ⟨formatSlashless, inside⟩)
    refine ⟨"/img".toList, '?' :: (queryText (("type", format.text) :: size)).toList, ?_, ?_,
      .inr ⟨_, rfl⟩⟩
    · rw [request_mermaid, path, Server.mark, List.append_assoc, List.append_assoc,
        List.cons_append]
    · rw [List.mem_cons, not_or]
      exact ⟨by decide, noSlash⟩
  | kroki =>
    have noSlash := slash_not_mem_queryText inside
    refine ⟨"/mermaid/".toList ++ format.text.toList,
      if (queryText size).isEmpty then [] else '?' :: (queryText size).toList, ?_, ?_, ?_⟩
    · have noMark : Server.kroki.mark.toList = [] := by decide
      rw [request_kroki, noMark, List.nil_append, List.append_assoc, List.cons_append]
    · split
      · exact List.not_mem_nil
      · rw [List.mem_cons, not_or]
        exact ⟨by decide, noSlash⟩
    · split
      · exact .inl rfl
      · exact .inr ⟨_, rfl⟩

/-- The encoded part of an address is what was encoded. -/
theorem encodedPart_request (server : Server) (base : List Char) {encoded : List Char}
    (ofAlphabet : ∀ character ∈ encoded, character ∈ Base64.urlSafe) (format : Format)
    {size : List (String × String)}
    (inside : ∀ field ∈ size, '/' ∉ field.1.toList ∧ '/' ∉ field.2.toList) :
    encodedPart server (base ++ server.request encoded format.text size) = encoded := by
  obtain ⟨path, query, ends, noSlash, isQuery⟩ := exists_request server encoded format inside
  have absent : '/' ∉ server.mark.toList ++ (encoded ++ query) := by
    simp only [List.mem_append, not_or]
    refine ⟨by cases server <;> decide, ?_, noSlash⟩
    intro member
    exact absurd (ofAlphabet _ member) (by decide)
  have noQuestion : '?' ∉ encoded := by
    intro member
    exact absurd (ofAlphabet _ member) (by decide)
  rw [encodedPart, ends, ← List.append_assoc, behindLastSlash_append _ absent]
  simp only [Text.expect_append, Option.getD_some, takeWhile_question noQuestion isQuery]

/-- The word for a format is one of the words that are accepted. -/
theorem contains_text (format : Format) : formatWords.contains format.text = true := by
  cases format <;> decide

/-- A server is chosen by its name. -/
theorem choose?_text (server : Server) :
    choose? Server.all Server.text server.text = some server := by
  cases server <;> decide

/-- Under every format, server, base and size a source has an address. -/
theorem exists_address (text : String) (format : Format) (server : Server)
    (base : Option String) (width height : Option Int) :
    ∃ start, address text format.text server.text base width height =
      .ok (String.ofList (start ++
        server.request (encodeSource text) format.text (sizeQuery width height))) := by
  rw [address, if_pos (contains_text format), choose?_text]
  exact ⟨_, rfl⟩

/-- Under every format, server, base and size a source has an address. Its encoded part is
written in the alphabet for addresses, and it is read back as a value that holds the trimmed
source and the default theme. -/
theorem address_holds_trimmed_source (text : String) (format : Format) (server : Server)
    (base : Option String) (width height : Option Int) :
    ∃ url, address text format.text server.text base width height = .ok url ∧
      (∀ character ∈ encodedPart server url.toList, character ∈ Base64.urlSafe) ∧
      ∃ value, readPayload? (encodedPart server url.toList) = some value ∧
        value.textAt? "code" = some (Text.trimmed text) ∧
        (value.field "mermaid").textAt? "theme" = some "default" := by
  obtain ⟨start, isAddress⟩ := exists_address text format server base width height
  have ofAlphabet : ∀ character ∈ encodeSource text, character ∈ Base64.urlSafe :=
    fun character member => Base64.mem_of_mem_encodeBare Base64.isLegible_urlSafe member
  refine ⟨_, isAddress, ?_⟩
  rw [String.toList_ofList, encodedPart_request server start ofAlphabet format
    (slash_not_mem_sizeQuery width height)]
  exact ⟨ofAlphabet, payload text, readPayload?_encodeSource text, rfl, rfl⟩

end Drafting.ImageAddress.Mermaid
