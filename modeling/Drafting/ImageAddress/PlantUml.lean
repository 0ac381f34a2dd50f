import Drafting.Base64
import Drafting.Deflate.Compress
import Drafting.Text.Hex
import Drafting.Text.Scan
import Drafting.Text.Utf8

/-!
# Image addresses of PlantUML servers

A PlantUML server draws a source that is part of its address: deflated, without
header, and written in the alphabet that begins with the digits. A theme is a
line of the source behind the first line that begins it.
-/

namespace Drafting.ImageAddress

/-- Why there is no address. -/
inductive AddressError where
  | unknownPlantUmlFormat (format : String)
  | unknownMermaidFormat (format : String)
  | unknownMermaidServer (server : String)
  deriving DecidableEq, Repr

/-- The address of a server without slashes at its end. -/
def serverBase (server : String) : List Char :=
  (server.toList.reverse.dropWhile (· == '/')).reverse

namespace PlantUml

/-- The themes that a server knows, for a caller to choose from. A source may name any other. -/
def themes : List String :=
  [ "amiga", "aws-orange", "black-knight", "bluegray", "blueprint", "cerulean-outline",
    "cerulean", "crt-amber", "crt-green", "cyborg-outline", "cyborg", "hacker", "lightgray",
    "mars", "materia-outline", "materia", "metal", "mimeograph", "minty", "plain",
    "reddress-darkblue", "reddress-darkgreen", "reddress-darkorange", "reddress-darkred",
    "reddress-lightblue", "reddress-lightgreen", "reddress-lightorange", "reddress-lightred",
    "sandstone", "silver", "sketchy-outline", "sketchy", "spacelab", "spacelab-white",
    "superhero-outline", "superhero", "toy", "united", "vibrant" ]

/-- The formats in which a server draws. -/
inductive Format where
  | svg
  | png
  | txt
  | uml
  deriving DecidableEq, Repr

/-- All formats. -/
def Format.all : List Format := [svg, png, txt, uml]

/-- The word for a format, which also is a part of the address. -/
def Format.text : Format → String
  | svg => "svg"
  | png => "png"
  | txt => "txt"
  | uml => "uml"

/-- The words for the formats. -/
def formatWords : List String := Format.all.map Format.text

/-- The public server. -/
def publicServer : String := "https://www.plantuml.com/plantuml"

/-- The beginning of the line that begins a source. -/
def startMark : String := "@startuml"

/-- The line that names a theme. -/
def themeLine (theme : String) : List Char := ("!theme " ++ theme).toList

/-- What follows, if a line ends here. -/
def lineEnd? (rest : List Char) : Option (List Char) :=
  if rest.head?.all (· == '\n') then some rest else none

/-- The line that begins a source, from its mark up to the nearest place where a line
ends, and what follows it. -/
def startLine? (text : List Char) : Option (List Char × List Char) := do
  let behind ← Text.expect startMark text
  let (more, rest) ← Text.shortest Text.inLine behind lineEnd?
  return (startMark.toList ++ more, rest)

/-- The text with a theme on a line of its own behind the first line that begins
a source, if there is one. The flag tells whether a line begins here. -/
def insertTheme? (theme : String) (atLineStart : Bool) : List Char → Option (List Char)
  | [] => none
  | character :: rest =>
    match if atLineStart then startLine? (character :: rest) else none with
    | some (line, others) => some (line ++ '\n' :: themeLine theme ++ others)
    | none => (insertTheme? theme (character == '\n') rest).map (character :: ·)

/-- The source with a theme. Where no line begins it, lines that begin and end it
are put around it. -/
def applyTheme (theme text : String) : String :=
  match insertTheme? theme true text.toList with
  | some themed => String.ofList themed
  | none => "@startuml\n!theme " ++ theme ++ "\n" ++ text ++ "\n@enduml"

/-- A theme to choose from is one: its name is not empty, and it fills one line of the source. -/
theorem themes_single_lines : ∀ theme ∈ themes, theme.isEmpty = false ∧ '\n' ∉ themeLine theme := by
  decide +kernel

/-- Bytes as they stand in an address. -/
def encodeBytes (bytes : List UInt8) : List Char :=
  Base64.encodeFilled Base64.digitsFirst bytes

/-- A source as it stands in an address. -/
def encodeSource (text : String) : List Char :=
  encodeBytes (Deflate.compress (Text.utf8Bytes text))

/-- The source in its hexadecimal form, which also may stand in an address. -/
def encodeHex (text : String) : String :=
  "~h" ++ String.ofList ((Text.utf8Bytes text).flatMap fun byte =>
    (Text.hexDigits 2 byte.toNat).map Char.toUpper)

/-- The source that is drawn: with a theme, where one is given. -/
def themedSource (theme : Option String) (text : String) : String :=
  let theme := theme.getD ""
  if theme.isEmpty then text else applyTheme theme text

/-- The address under which a server draws a source. An empty server is the
public one. -/
def address (text : String) (theme : Option String) (format : String) (server : Option String) :
    Except AddressError String :=
  if formatWords.contains format then
    let server := server.getD ""
    let base := serverBase (if server.isEmpty then publicServer else server)
    .ok (String.ofList (base ++ '/' :: format.toList ++ '/' ::
      encodeSource (themedSource theme text)))
  else .error (.unknownPlantUmlFormat format)

/-- The source in an address, from the part behind its last slash. -/
def decodeSource? (encoded : List Char) : Option String := do
  let stream ← Base64.decodeBare? Base64.digitsFirst encoded
  let bytes ← (Deflate.inflate stream).toOption
  Text.ofUtf8? bytes

end PlantUml

end Drafting.ImageAddress
