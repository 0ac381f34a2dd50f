import Drafting.Base64
import Drafting.Choice
import Drafting.Deflate.Zlib
import Drafting.ImageAddress.PlantUml
import Drafting.Json.Writer
import Drafting.Text.Lines
import Drafting.Text.Utf8

/-!
# Image addresses of Mermaid servers

Two servers draw Mermaid sources. The source is sent as a JSON value with the
theme, deflated with header and checksum, and written in the alphabet for
addresses. One server takes the format and the size as a query, the other has
the format in the path.
-/

namespace Drafting.ImageAddress

namespace Mermaid

/-- The formats in which both servers draw. -/
inductive Format where
  | png
  | svg
  deriving DecidableEq, Repr

/-- Both formats. -/
def Format.all : List Format := [png, svg]

/-- The word for a format, which also is a part of the address. -/
def Format.text : Format → String
  | png => "png"
  | svg => "svg"

/-- The words for the formats. -/
def formatWords : List String := Format.all.map Format.text

/-- The two servers. -/
inductive Server where
  | mermaid
  | kroki
  deriving DecidableEq, Repr

/-- Both servers. -/
def Server.all : List Server := [mermaid, kroki]

/-- The name of a server. -/
def Server.text : Server → String
  | mermaid => "mermaid"
  | kroki => "kroki"

/-- The public address of a server. -/
def Server.publicAddress : Server → String
  | mermaid => "https://mermaid.ink"
  | kroki => "https://kroki.io"

/-- The value that is sent for a source. -/
def payload (text : String) : Json :=
  .object [ ("code", .string (Text.trimmed text)),
    ("mermaid", .object [("theme", .string "default")]) ]

/-- A source as it stands in an address. -/
def encodeSource (text : String) : List Char :=
  Base64.encodeBare Base64.urlSafe (Deflate.Zlib.compress (Text.utf8Bytes (payload text).text))

/-- The text of the value in an address. -/
def decodePayload? (encoded : List Char) : Option String := do
  let stream ← Base64.decodeBare? Base64.urlSafe encoded
  let bytes ← (Deflate.Zlib.inflate stream).toOption
  Text.ofUtf8? bytes

/-- The width and the height that were asked for. Zero means none. -/
def sizeQuery (width height : Option Int) : List (String × String) :=
  let measure (name : String) (value : Option Int) : List (String × String) :=
    match value with
    | none => []
    | some number =>
      if number = 0 then [] else [(name, String.ofList (Number.integerText number))]
  measure "width" width ++ measure "height" height

/-- A query of names and values. -/
def queryText (fields : List (String × String)) : String :=
  Text.joinStrings "&" (fields.map fun (name, value) => name ++ "=" ++ value)

/-- The path and the query for a source at a server. -/
def Server.request (server : Server) (encoded : List Char) (format : String)
    (size : List (String × String)) : List Char :=
  match server with
  | .kroki =>
    let query := queryText size
    "/mermaid/".toList ++ format.toList ++ '/' :: encoded ++
      if query.isEmpty then [] else '?' :: query.toList
  | .mermaid =>
    "/img/pako:".toList ++ encoded ++ '?' :: (queryText (("type", format) :: size)).toList

/-- The address under which a server draws a source. An empty base is the public
address of the server. The format is checked before the server. -/
def address (text format server : String) (base : Option String) (width height : Option Int) :
    Except AddressError String :=
  if formatWords.contains format then
    match choose? Server.all Server.text server with
    | some known =>
      let base := base.getD ""
      let base := serverBase (if base.isEmpty then known.publicAddress else base)
      .ok (String.ofList (base ++
        known.request (encodeSource text) format (sizeQuery width height)))
    | none => .error (.unknownMermaidServer server)
  else .error (.unknownMermaidFormat format)

end Mermaid

/-- The words for an error. -/
def AddressError.message : AddressError → String
  | .unknownPlantUmlFormat format =>
    "Unknown PlantUML format " ++ format ++ ", expected one of " ++
      Text.joinStrings ", " PlantUml.formatWords
  | .unknownMermaidFormat format =>
    "Unknown Mermaid format " ++ format ++ ", expected one of " ++
      Text.joinStrings ", " Mermaid.formatWords
  | .unknownMermaidServer server =>
    "Unknown Mermaid server " ++ server ++ ", expected mermaid or kroki"

end Drafting.ImageAddress
