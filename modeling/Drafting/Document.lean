import Drafting.Base64
import Drafting.Cell.Basic
import Drafting.Deflate.Compress
import Drafting.Text.Utf8

/-!
# Documents

A document holds one page with the cells of a drawing behind the root and the
layer. The page is embedded as it is or, to save room, deflated and written in
base 64.
-/

namespace Drafting

/-- What a document takes from outside of its drawing: the stem of the
identifiers and the time of the last change. -/
structure Stamp where
  stem : String
  modified : String
  deriving DecidableEq, Repr

/-- What can be wrong with an embedded page. -/
inductive PageError where
  | encoding (error : Base64.Error)
  | stream (error : Deflate.StreamError)
  | notText
  deriving DecidableEq, Repr

namespace Document

/-- The settings of the page. -/
def pageSettings : String :=
  "dx=\"1200\" dy=\"800\" grid=\"1\" gridSize=\"10\" guides=\"1\" tooltips=\"1\" connect=\"1\" " ++
  "arrows=\"1\" fold=\"1\" page=\"1\" pageScale=\"1\" pageWidth=\"1169\" pageHeight=\"826\" " ++
  "background=\"none\" math=\"0\" shadow=\"0\""

/-- The page around the markup of cells. -/
def page (cells : String) : String :=
  "<mxGraphModel " ++ pageSettings ++ "><root><mxCell id=\"" ++ Cell.rootId ++
  "\"/><mxCell id=\"" ++ Cell.layerId ++ "\" parent=\"" ++ Cell.rootId ++ "\"/>" ++ cells ++
  "</root></mxGraphModel>"

/-- The compressed form of a page. -/
def compressPage (page : String) : String :=
  String.ofList (Base64.encodePadded Base64.standard (Deflate.compress (Text.utf8Bytes page)))

/-- The page in a compressed form. -/
def decompressPage (data : String) : Except PageError String :=
  match Base64.decodePadded data.toList with
  | .error error => .error (.encoding error)
  | .ok stream =>
    match Deflate.inflate stream with
    | .error error => .error (.stream error)
    | .ok bytes =>
      match Text.ofUtf8? bytes with
      | some page => .ok page
      | none => .error .notText

/-- The text before the name of the page. -/
def opening (modified : String) : String :=
  "<?xml version=\"1.0\" encoding=\"UTF-8\"?>\n<mxfile host=\"app.diagrams.net\" modified=\"" ++
  modified ++ "\" agent=\"puml2drawio\" etag=\"plantuml2drawio\" version=\"21.6.5\" " ++
  "type=\"device\">\n  <diagram id=\"diagram-1\" name=\""

/-- The text behind the page. -/
def closing : String := "</diagram>\n</mxfile>"

/-- The document around a page, which stands on a line of its own if it is not
compressed. -/
def embed (modified name body : String) (compressed : Bool) : String :=
  opening modified ++ Text.escape name ++ "\">" ++
  (if compressed then body else "\n    " ++ body ++ "\n  ") ++ closing

/-- The name of a page that is not named. -/
def defaultName : String := "Page-1"

/-- The document around the markup of cells. -/
def wrap (modified cells : String) (compressed : Bool) (name : String := defaultName) : String :=
  let page := page cells
  embed modified name (if compressed then compressPage page else page) compressed

end Document

end Drafting
