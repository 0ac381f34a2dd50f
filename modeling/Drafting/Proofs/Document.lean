import Drafting.Conversion
import Drafting.Proofs.Base64
import Drafting.Proofs.Deflate.Matching
import Drafting.Proofs.Text.Scan

/-!
# Compressed documents

A compressed page passes through three forms: the bytes of the text, the stream they are
deflated to, and the characters of that stream in base 64. Each form is read back on its own, so
a page is read back from its compressed form, whatever characters it holds.

The main statement is that the two documents of one source, the plain and the compressed one,
carry the same page, and that both are refused where one is.
-/

namespace Drafting

namespace Document

/-- A page is read from the base 64 of any stream that inflates to its bytes. -/
theorem decompressPage_of_inflates {page : String} {stream : List UInt8}
    (inflates : Deflate.inflate stream = .ok (Text.utf8Bytes page)) :
    decompressPage (String.ofList (Base64.encodePadded Base64.standard stream)) = .ok page := by
  simp only [decompressPage, String.toList_ofList, Base64.decodePadded_encodePadded, inflates,
    Text.ofUtf8?_utf8Bytes]

/-- Every page is read back from its compressed form. -/
theorem decompressPage_compressPage (page : String) :
    decompressPage (compressPage page) = .ok page :=
  decompressPage_of_inflates (Deflate.inflate_compress (Text.utf8Bytes page))

/-- What stands between the tags of the page in a document of a time. -/
def content? (modified document : String) : Option String := do
  let behind ← Text.expect (opening modified ++ Text.escape defaultName ++ "\">") document.toList
  let content ← Text.expect (String.ofList closing.toList.reverse) behind.reverse
  return String.ofList content.reverse

/-- The content of a document is what was embedded, in lines of its own if it is plain. -/
theorem content?_embed (modified body : String) (compressed : Bool) :
    content? modified (embed modified defaultName body compressed) =
      some (if compressed then body else "\n    " ++ body ++ "\n  ") := by
  have reversed (content : List Char) : (content ++ closing.toList).reverse =
      (String.ofList closing.toList.reverse).toList ++ content.reverse := by
    rw [List.reverse_append, String.toList_ofList]
  rw [content?, embed, String.toList_append, String.toList_append, List.append_assoc,
    Text.expect_append]
  simp only [Option.bind_eq_bind, Option.bind_some, reversed, Text.expect_append,
    List.reverse_reverse, String.ofList_toList, Option.pure_def]

end Document

namespace Conversion

/-- Two results carry one page: both are the same refusal, or the first document holds the page
as it is, in lines of its own, and the second one a text from which the page is unpacked. -/
inductive CarrySamePage (modified : String) :
    Except ConversionError String → Except ConversionError String → Prop where
  | refused (error : ConversionError) : CarrySamePage modified (.error error) (.error error)
  | converted {plain packed cells body : String}
      (embedded : Document.content? modified plain =
        some ("\n    " ++ Document.page cells ++ "\n  "))
      (compressed : Document.content? modified packed = some body)
      (unpacked : Document.decompressPage body = .ok (Document.page cells)) :
      CarrySamePage modified (.ok plain) (.ok packed)

/-- The two documents around the same cells. -/
theorem documentOf_carrySamePage (stamp : Stamp) (cells : List Cell) :
    CarrySamePage stamp.modified (documentOf stamp false cells) (documentOf stamp true cells) := by
  rw [documentOf, documentOf]
  cases markupOf cells with
  | error error => exact .refused _
  | ok markup =>
    exact .converted (Document.content?_embed _ _ false) (Document.content?_embed _ _ true)
      (Document.decompressPage_compressPage _)

end Conversion

/-- The plain and the compressed document of one source carry the same page, and every page is
read back from its compressed form, since the stream inside inflates to the bytes of the page. This
does not depend on how the stream was made: a page is read from any stream of its bytes. -/
theorem compressed_documents_carry_page :
    (∀ (stamp : Stamp) (configuration : Configuration) (text : String),
      Conversion.CarrySamePage stamp.modified
        (Conversion.ofText stamp configuration (some false) text)
        (Conversion.ofText stamp configuration (some true) text)) ∧
    (∀ page, Document.decompressPage (Document.compressPage page) = .ok page) ∧
    (∀ bytes, Deflate.inflate (Deflate.compress bytes) = .ok bytes) ∧
    ∀ page stream, Deflate.inflate stream = .ok (Text.utf8Bytes page) →
      Document.decompressPage (String.ofList (Base64.encodePadded Base64.standard stream)) =
        .ok page := by
  refine ⟨fun stamp configuration text => ?_, Document.decompressPage_compressPage,
    Deflate.inflate_compress, fun page stream => Document.decompressPage_of_inflates⟩
  simp only [Conversion.ofText]
  split
  · exact .refused _
  · split
    · exact Conversion.documentOf_carrySamePage stamp _
    · rw [Conversion.ofDialectText, Conversion.ofDialectText]
      split
      · exact Conversion.documentOf_carrySamePage stamp _
      · exact .refused _

/-- A page is read from a stream of a plain block as well. -/
theorem compressed_documents_carry_plain_block :
    Deflate.inflate (Deflate.plainStream (Text.utf8Bytes "<root/>")) =
        .ok (Text.utf8Bytes "<root/>") ∧
      Document.decompressPage (String.ofList (Base64.encodePadded Base64.standard
        (Deflate.plainStream (Text.utf8Bytes "<root/>")))) = .ok "<root/>" :=
  have inflates : Deflate.inflate (Deflate.plainStream (Text.utf8Bytes "<root/>")) =
      .ok (Text.utf8Bytes "<root/>") := by decide +kernel
  ⟨inflates, compressed_documents_carry_page.2.2.2 _ _ inflates⟩

example : (Conversion.ofText ⟨"p", "now"⟩ {} (some true) "class A\nA --> A").isOk = true := by
  decide +kernel

end Drafting
