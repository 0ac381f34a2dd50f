import Drafting.Configuration.Basic
import Drafting.Configuration.Coercion
import Drafting.Text.Quoted

/-!
# Checked configurations

What is said about the settings holds for every library that does what is
documented. The program runs with one, `rules`: objects of declared classes are
made from names and values, and changed field by field. Every value is checked;
where one is refused, nothing is made or changed.

A configuration is what an object of these rules holds for its fields.
-/

namespace Drafting.Configuration

/-- The word of a list that is meant. -/
def toWord (words : List String) : Offer → Except Fault String
  | .text value => if words.contains value then .ok value else .error .notListed
  | .halfText => .error .halfText
  | _ => .error .notListed

/-- What a field of a type holds after a value was offered for it, or why it is refused. -/
def SettingType.coerce (type : SettingType) (offer : Offer) : Except Fault Json :=
  match type with
  | .boolean => (toBoolean offer).map .boolean
  | .text => (toText offer).map .string
  | .integer => (toInteger offer).map .integer
  | .optionalText => (toOptionalText offer).map fun text => (text.map Json.string).getD .null
  | .oneOf words => (toWord words offer).map .string

/-- What a value is given for: a name, a number, or something else, as it is
shown. Only names can name fields. -/
inductive Label where
  | name (text : String)
  | number (value : Int)
  | other (shown : String)
  deriving DecidableEq, Repr

/-- A label as it is shown. -/
def Label.text : Label → String
  | .name text => text
  | .number value => String.ofList (Number.integerText value)
  | .other shown => shown

/-- A fault and the labels that lead to it. -/
structure Violation where
  place : List Label
  fault : Fault
  deriving DecidableEq, Repr

/-- Why an assignment fails: the value or the name is refused, or the name is that
of something that can only be asked for. -/
inductive AssignmentError where
  | refused (violation : Violation)
  | readOnly (name : String)
  deriving DecidableEq, Repr

/-- The names of what can only be asked for. -/
def readOnlyNames : List String := ["model_extra", "model_fields_set", "__fields_set__"]

/-- The message for an assignment to a name that can only be asked for. -/
def readOnlyMessage (name : String) : String :=
  "property " ++ Text.quoted name ++ " of 'Configuration' object has no setter"

/-- Whether a label comes before another one, or is the same. Numbers come first, in
their order, and then texts in the order of their characters. -/
def Label.comesFirst (first second : Label) : Bool :=
  match first, second with
  | .number first, .number second => first ≤ second
  | .number _, _ => true
  | _, .number _ => false
  | first, second => first.text ≤ second.text

/-- Whether a violation comes before another one: the first different labels decide,
and then the faults. -/
def Violation.comesFirst (first second : Violation) : Bool :=
  go first.place second.place
where
  /-- Compares the labels one after the other. -/
  go : List Label → List Label → Bool
    | [], [] => first.fault.text ≤ second.fault.text
    | [], _ => true
    | _, [] => false
    | label :: labels, other :: others =>
      if label.comesFirst other && other.comesFirst label then go labels others
      else label.comesFirst other

/-- Violations in the order of their places. -/
def sorted (violations : List Violation) : List Violation :=
  violations.mergeSort Violation.comesFirst

/-- The value that a new object has for a field, from the values on offer. -/
def FieldDeclaration.initial (field : FieldDeclaration) (offers : List (Label × Offer)) : Json :=
  match (offers.lookup (.name field.name)).map field.type.coerce with
  | some (.ok held) => held
  | _ => field.default

namespace ClassDeclaration

variable (declaration : ClassDeclaration)

/-- The field of a name. -/
def field? (name : String) : Option FieldDeclaration :=
  declaration.fields.find? fun field => field.name == name

/-- Why an offer for a label cannot be taken, if it cannot. -/
def fault? : Label × Offer → Option Fault
  | (.name name, offer) =>
    match declaration.field? name with
    | some field =>
      match field.type.coerce offer with
      | .ok _ => none
      | .error fault => some fault
    | none => if declaration.forbidsOthers then some .unknownField else none
  | _ => if declaration.forbidsOthers then some .badName else none

/-- Everything that is wrong with the values on offer. -/
def violations (offers : List (Label × Offer)) : List Violation :=
  offers.filterMap fun offer => (declaration.fault? offer).map (⟨[offer.1], ·⟩)

/-- The object with the given values, or everything that is wrong with them. No label
may be given twice. -/
def create (offers : List (Label × Offer)) : Except (List Violation) Attributes :=
  match declaration.violations offers with
  | [] => .ok fun name => (declaration.field? name).map (·.initial offers)
  | violations => .error (sorted violations)

/-- What is held of an offer that is assigned to a name, or nothing if it is taken as it is.
So are the values for private names, which are set beside the fields. -/
def take (name : String) (offer : Offer) : Except AssignmentError (Option Json) :=
  match declaration.field? name with
  | some field =>
    if declaration.checksAssignments then
      match field.type.coerce offer with
      | .ok held => .ok (some held)
      | .error fault => .error (.refused ⟨[.name name], fault⟩)
    else .ok none
  | none =>
    if readOnlyNames.contains name then .error (.readOnly name)
    else if isPrivate name then .ok none
    else .error (.refused ⟨[.name name], .noSuchField⟩)

end ClassDeclaration

/-- The members of a JSON object, as they are offered. -/
def offers (members : List (String × Json)) : List (Label × Offer) :=
  members.map fun (name, value) => (.name name, .ofJson value)

/-- The library that follows these rules. -/
def rules : Library Fault (List Violation) AssignmentError where
  check type value := type.coerce (.ofJson value)
  refusal name fault := .refused ⟨[.name name], fault⟩
  create declaration members := declaration.create (offers members)
  assign declaration name value :=
    match declaration.take name (.ofJson value) with
    | .ok held => modify fun object => object.set name (held.getD value)
    | .error error => throw error
  dump declaration object :=
    declaration.fields.filterMap fun field => (object field.name).map (field.name, ·)

/-- Sets a field to one of its values. -/
def store (configuration : Configuration) (field : Field) (held : Json) : Configuration :=
  match field, held with
  | .compressed, .boolean value => { configuration with compressed := value }
  | .plantUmlServer, .string text => { configuration with plantUmlServer := text }
  | .plantUmlFormat, .string word =>
    match choose? ImageAddress.PlantUml.Format.all ImageAddress.PlantUml.Format.text word with
    | some format => { configuration with plantUmlFormat := format }
    | none => configuration
  | .plantUmlTheme, .null => { configuration with plantUmlTheme := none }
  | .plantUmlTheme, .string text => { configuration with plantUmlTheme := some text }
  | .mermaidServer, .string word =>
    match choose? ImageAddress.Mermaid.Server.all ImageAddress.Mermaid.Server.text word with
    | some server => { configuration with mermaidServer := server }
    | none => configuration
  | .mermaidBase, .null => { configuration with mermaidBase := none }
  | .mermaidBase, .string text => { configuration with mermaidBase := some text }
  | .mermaidFormat, .string word =>
    match choose? ImageAddress.Mermaid.Format.all ImageAddress.Mermaid.Format.text word with
    | some format => { configuration with mermaidFormat := format }
    | none => configuration
  | .requestTimeout, .integer number => { configuration with requestTimeout := number }
  | _, _ => configuration

/-- The field of a name. -/
def Field.ofText? (name : String) : Option Field := choose? Field.all Field.text name

/-- Sets the field of a name to what an object holds under it, if both are there. -/
def storeAt (configuration : Configuration) (name : String) (held? : Option Json) :
    Configuration :=
  match Field.ofText? name, held? with
  | some field, some held => configuration.store field held
  | _, _ => configuration

/-- The configuration that an object shows in its fields. -/
def ofAttributes (object : Attributes) : Configuration :=
  Field.all.foldl (fun configuration field => configuration.storeAt field.text (object field.text))
    {}

/-- Changes the field of a name. -/
def assign (configuration : Configuration) (name : String) (offer : Offer) :
    Except AssignmentError Configuration :=
  (declaration.take name offer).map (configuration.storeAt name)

/-- The configuration with the given values, or everything that is wrong with
them. No label may be given twice. -/
def ofOffers (offers : List (Label × Offer)) : Except (List Violation) Configuration :=
  (declaration.create offers).map ofAttributes

/-- The configuration that a JSON value describes. -/
def ofJson : Json → Except (List Violation) Configuration
  | .object members => ofOffers (offers members)
  | .halfNamed => .error [⟨[], .halfText⟩]
  | _ => .error [⟨[], .notMapping⟩]

end Drafting.Configuration
