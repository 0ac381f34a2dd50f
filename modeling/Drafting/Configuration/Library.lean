import Drafting.Json.Basic

/-!
# Declared classes and the library that makes their objects

A class of objects is declared by its fields: their names, types and defaults. It
can forbid other names than these, and ask that assigned values are checked like
given ones. The settings are such a class.

Its objects are made by a library. What this does is known from its documentation
only, so it is a parameter: its operations are the fields of one structure, and
what is documented of them, for every declared class, is a second one.

An assignment is a program that changes the object and may fail. A program that
fails leaves an object too, and nothing but the documentation says which.
-/

namespace Drafting.Configuration

/-- The types of fields. -/
inductive SettingType where
  | boolean
  | text
  | integer
  | optionalText
  | oneOf (words : List String)
  deriving DecidableEq, Repr

/-- The values of a type. -/
def SettingType.Admits : SettingType → Json → Prop
  | .boolean, held => ∃ value, held = .boolean value
  | .text, held => ∃ text, held = .string text
  | .integer, held => ∃ number, held = .integer number
  | .optionalText, held => held = .null ∨ ∃ text, held = .string text
  | .oneOf words, held => ∃ word ∈ words, held = .string word

/-- Whether a name is private: it begins with an underscore. -/
def isPrivate (name : String) : Bool := name.toList.head? == some '_'

/-- A field of a class. The default is not checked. -/
structure FieldDeclaration where
  name : String
  type : SettingType
  default : Json

/-- A class of objects. Its fields have different names, and none of them is private. -/
structure ClassDeclaration where
  fields : List FieldDeclaration
  /-- Whether names without a field are refused. -/
  forbidsOthers : Bool
  /-- Whether a value is checked when it is assigned. -/
  checksAssignments : Bool
  names_nodup : (fields.map FieldDeclaration.name).Nodup
  names_public : ∀ field ∈ fields, isPrivate field.name = false

/-- What an object holds under a name. -/
abbrev Attributes := String → Option Json

namespace Attributes

/-- Stores a value under a name. -/
def set (object : Attributes) (name : String) (value : Json) : Attributes :=
  fun other => if other = name then some value else object other

end Attributes

/-- A library for objects of declared classes. A value, the values of a new object and an
assignment can be refused, for different reasons. -/
structure Library (Fault Invalid Refusal : Type) where
  /-- What is held of a value that is given for a type. -/
  check : SettingType → Json → Except Fault Json
  /-- What is said about an assignment to a name whose value is refused. -/
  refusal : String → Fault → Refusal
  /-- Makes an object from names and values. -/
  create : ClassDeclaration → List (String × Json) → Except Invalid Attributes
  /-- Assigns a value to a name. -/
  assign : ClassDeclaration → String → Json → EStateM Refusal Attributes Unit
  /-- The names and values of the fields of an object. -/
  dump : ClassDeclaration → Attributes → List (String × Json)

namespace Library

variable {Fault Invalid Refusal : Type}

/-- What a field holds in a new object: what is held of the value that is given for it, or the
default. -/
def initial (library : Library Fault Invalid Refusal) (field : FieldDeclaration) :
    Option Json → Except Fault Json
  | some value => library.check field.type value
  | none => .ok field.default

/-- Checks a value for a field, and then stores what is held of it. -/
def store (library : Library Fault Invalid Refusal) (field : FieldDeclaration) (value : Json) :
    EStateM Refusal Attributes Unit :=
  match library.check field.type value with
  | .ok held => modify fun object => object.set field.name held
  | .error fault => throw (library.refusal field.name fault)

end Library

end Drafting.Configuration
