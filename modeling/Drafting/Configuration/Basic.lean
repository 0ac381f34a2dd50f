import Drafting.Configuration.Library
import Drafting.ImageAddress.Mermaid

/-!
# Configuration

The settings of the program. Each field has a type that allows only meaningful
values, and a default, so that an empty configuration is complete.

For the library that makes them, the settings are a declared class.
-/

namespace Drafting

/-- The settings of the program. -/
structure Configuration where
  compressed : Bool := false
  plantUmlServer : String := ImageAddress.PlantUml.publicServer
  plantUmlFormat : ImageAddress.PlantUml.Format := .svg
  plantUmlTheme : Option String := none
  mermaidServer : ImageAddress.Mermaid.Server := .mermaid
  mermaidBase : Option String := none
  mermaidFormat : ImageAddress.Mermaid.Format := .png
  requestTimeout : Int := 30
  deriving DecidableEq, Repr

namespace Configuration

/-- The fields. -/
inductive Field where
  | compressed
  | plantUmlServer
  | plantUmlFormat
  | plantUmlTheme
  | mermaidServer
  | mermaidBase
  | mermaidFormat
  | requestTimeout
  deriving DecidableEq, Repr

/-- All fields. -/
def Field.all : List Field :=
  [ .compressed, .plantUmlServer, .plantUmlFormat, .plantUmlTheme, .mermaidServer, .mermaidBase,
    .mermaidFormat, .requestTimeout ]

/-- The name of a field in a file. -/
def Field.text : Field → String
  | .compressed => "compressed"
  | .plantUmlServer => "plantuml_server"
  | .plantUmlFormat => "plantuml_format"
  | .plantUmlTheme => "plantuml_theme"
  | .mermaidServer => "mermaid_server"
  | .mermaidBase => "mermaid_base_url"
  | .mermaidFormat => "mermaid_format"
  | .requestTimeout => "request_timeout"

/-- The value of a field. -/
def value (configuration : Configuration) : Field → Json
  | .compressed => .boolean configuration.compressed
  | .plantUmlServer => .string configuration.plantUmlServer
  | .plantUmlFormat => .string configuration.plantUmlFormat.text
  | .plantUmlTheme => (configuration.plantUmlTheme.map Json.string).getD .null
  | .mermaidServer => .string configuration.mermaidServer.text
  | .mermaidBase => (configuration.mermaidBase.map Json.string).getD .null
  | .mermaidFormat => .string configuration.mermaidFormat.text
  | .requestTimeout => .integer configuration.requestTimeout

/-- The names and values of all fields. -/
def members (configuration : Configuration) : List (String × Json) :=
  Field.all.map fun field => (field.text, configuration.value field)

/-- The type of a field of the settings. -/
def Field.type : Field → SettingType
  | .compressed => .boolean
  | .plantUmlServer => .text
  | .plantUmlFormat => .oneOf ["svg", "png", "txt", "uml"]
  | .plantUmlTheme => .optionalText
  | .mermaidServer => .oneOf ["mermaid", "kroki"]
  | .mermaidBase => .optionalText
  | .mermaidFormat => .oneOf ["png", "svg"]
  | .requestTimeout => .integer

/-- A field of the settings, with the value that it has without being set. -/
def Field.declaration (field : Field) : FieldDeclaration where
  name := field.text
  type := field.type
  default := ({} : Configuration).value field

/-- The class of the settings. It allows its own fields only, and nothing but their values. -/
def declaration : ClassDeclaration where
  fields := Field.all.map Field.declaration
  forbidsOthers := true
  checksAssignments := true
  names_nodup := by decide
  names_public := by decide

end Configuration

end Drafting
