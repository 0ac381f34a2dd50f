import Drafting.C4.Detection
import Drafting.C4.Drawing
import Drafting.C4.Reader
import Drafting.C4.RelationMacro
import Drafting.Configuration.Basic
import Drafting.Diagram.Drawing
import Drafting.Diagram.Reader
import Drafting.Document

/-!
# Converting a source to a document

A source is an architecture diagram or a diagram of one of the dialects. It is
read, drawn and embedded in a document.
-/

namespace Drafting

/-- Why a source cannot be converted. -/
inductive ConversionError where
  | emptySource
  | unknownWord (unknown : UnknownWord)
  | drawing (error : DrawingError)
  deriving DecidableEq, Repr

/-- The message for a source that holds nothing. -/
def ConversionError.emptySourceMessage : String := "PlantUML code is empty"

namespace C4

/-- The word for architecture diagrams. -/
def name : String := "c4"

/-- The cells of an architecture diagram. -/
def cells (stem : String) (text : String) : List Cell :=
  cellsOf stem (figures (layout (trees text)) (relations text))

end C4

namespace Conversion

/-- The document around some cells. -/
def documentOf (stamp : Stamp) (compressed : Bool) (cells : List Cell) :
    Except ConversionError String :=
  match markupOf cells with
  | .ok markup => .ok (Document.wrap stamp.modified markup compressed)
  | .error error => .error (.drawing error)

/-- The document of a diagram. Whether it is compressed follows from the
configuration where nothing else is asked for. -/
def ofDiagram (stamp : Stamp) (configuration : Configuration) (compressed : Option Bool)
    (diagram : Diagram) : Except ConversionError String :=
  documentOf stamp (compressed.getD configuration.compressed) (diagram.cells stamp.stem)

/-- The document of an architecture diagram. -/
def ofC4 (stamp : Stamp) (compressed : Bool) (text : String) : Except ConversionError String :=
  documentOf stamp compressed (C4.cells stamp.stem text)

/-- The document of a source in one of the dialects. -/
def ofDialectText (stamp : Stamp) (configuration : Configuration) (compressed : Option Bool)
    (text : String) : Except ConversionError String :=
  match Diagram.ofText text with
  | .ok diagram => ofDiagram stamp configuration compressed diagram
  | .error unknown => .error (.unknownWord unknown)

/-- The document of a source, which must hold more than blanks. An architecture
diagram is compressed only where that is asked for. -/
def ofText (stamp : Stamp) (configuration : Configuration) (compressed : Option Bool)
    (text : String) : Except ConversionError String :=
  let source := Text.trimmed text
  if source.isEmpty then .error .emptySource
  else if C4.isC4 source then ofC4 stamp (compressed.getD false) source
  else ofDialectText stamp configuration compressed source

end Conversion

end Drafting
