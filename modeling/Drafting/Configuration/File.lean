import Drafting.Configuration.Validation
import Drafting.FilePath
import Drafting.Json.Reader
import Drafting.Number.Shortest
import Drafting.Text.Lines
import Drafting.Yaml.Evaluation

/-!
# Configuration files

The ending of its name decides how a file is read: as YAML or, whatever the
ending is, as JSON. A file without a value describes the default configuration.
-/

namespace Drafting.Configuration

/-- Why there is no configuration. -/
inductive LoadError where
  | file (problem : FileProblem)
  | json (error : Json.ReadError)
  | yaml (problem : Yaml.Problem)
  | invalid (violations : List Violation)
  deriving DecidableEq, Repr

/-- The message for a file whose values are refused. -/
def invalidMessage : String := "Error parsing configuration file"

/-- The words for an error with the file of a given path. -/
def LoadError.message (path : String) : LoadError → String
  | .file problem => problem.message (FilePath.normal path)
  | .json error => error.message
  | .yaml problem => problem.message
  | .invalid _ => invalidMessage

/-- A scalar as an offer. What holds others is of no use for any field. -/
def Offer.ofYaml : Yaml.Value → Offer
  | .null => .null
  | .boolean value => .boolean value
  | .integer value => .integer value
  | .real value => .real value
  | .text value => .text value
  | .halfText => .halfText
  | _ => .other

/-- A scalar as a label. Truth values count as numbers, and numbers of more than
sixty-four bits are only shown. A text with half of a surrogate pair is no label. -/
def Label.ofYaml? : Yaml.Value → Option Label
  | .text value => some (.name value)
  | .integer value =>
    if -wordBound ≤ value && value < wordBound then some (.number value)
    else some (.other (String.ofList (Number.integerText value)))
  | .boolean value => some (.number value.toNat)
  | .real value => some (.other (Number.shortestText value))
  | .time value => some (.other value.shown)
  | .halfText => none
  | _ => some (.other "None")

/-- The configuration that a YAML value describes. -/
def ofYaml : Yaml.Value → Except (List Violation) Configuration
  | .null => .ok {}
  | .mapping members =>
    match members.mapM fun (name, value) => (Label.ofYaml? name).map (·, Offer.ofYaml value) with
    | some offers => ofOffers offers
    | none => .error [⟨[], .halfText⟩]
  | _ => .error [⟨[], .notMapping⟩]

/-- The endings of YAML files. -/
def yamlEndings : List String := [".yaml", ".yml"]

/-- Reads the content of a JSON file. -/
def ofJsonText (content : String) : Except LoadError Configuration :=
  match Json.ofText content with
  | .error error => .error (.json error)
  | .ok .null => .ok {}
  | .ok value =>
    match ofJson value with
    | .ok configuration => .ok configuration
    | .error violations => .error (.invalid violations)

/-- Reads the content of a YAML file. -/
def ofYamlText (content : String) : Except LoadError Configuration :=
  match Yaml.ofText content with
  | .error problem => .error (.yaml problem)
  | .ok value =>
    match ofYaml value with
    | .ok configuration => .ok configuration
    | .error violations => .error (.invalid violations)

/-- Reads the file with a given path from its content, if it can be opened. -/
def ofFile (path : String) : Except FileProblem String → Except LoadError Configuration
  | .error problem => .error (.file problem)
  | .ok content =>
    let text := String.ofList (Text.unifyLineEnds content.toList)
    if yamlEndings.contains (FilePath.ending path) then ofYamlText text else ofJsonText text

end Drafting.Configuration
