import Drafting.Proofs.Configuration.Rules

/-!
# Assignments to the fields of a configuration

Nothing is assumed of the library that makes the settings but what is documented, and this for
every declared class. What makes a class safe is then a matter of its declaration: it asks that
assignments are checked, it forbids other names, and its defaults, which nobody checks, are values
of their types. The settings are declared so.

An assignment to such an object fails and leaves it as it was, or it stores under the given name
what is held of the value, or the value itself if no field has this name. From this step follows
what any number of assignments keeps: each field holds a value of its type.

The way back, from the values of an object to a new one, needs that a type leaves its own values
alone. Otherwise a value that was changed once by the check could be changed again.

The main statement says this of the settings, for every such library. The library of
the rules is one it speaks of, and the configuration of the program shows the object of that
library after any number of assignments to both.
-/

namespace Drafting.Configuration

/-- An object holds for each field one of the values of its type. -/
def ClassDeclaration.Holds (declaration : ClassDeclaration) (object : Attributes) : Prop :=
  ∀ field ∈ declaration.fields, ∃ held, object field.name = some held ∧ field.type.Admits held

variable {Fault Invalid Refusal : Type} (library : Library Fault Invalid Refusal)
  (declaration : ClassDeclaration)

/-- The object after a value was assigned to a name, whether this failed or not. -/
def Library.after (object : Attributes) (assignment : String × Json) : Attributes :=
  match (library.assign declaration assignment.1 assignment.2).run object with
  | .ok _ left => left
  | .error _ left => left

variable {library declaration}

/-- The configuration after a value was assigned to a name. Where this is refused, it stays. -/
def after (configuration : Configuration) (assignment : String × Json) : Configuration :=
  match configuration.assign assignment.1 (.ofJson assignment.2) with
  | .ok changed => changed
  | .error _ => configuration

end Drafting.Configuration
