import CloudTemplate.Function.Math
import CloudTemplate.Function.Logic
import CloudTemplate.Function.Strings
import CloudTemplate.Function.Collection
import CloudTemplate.Function.Mapping

/-!
# Registries

A registry holds functions by their names, without the mark that calls put in front. A name is
registered once: a second registration fails and changes nothing. A group of functions is
registered one by one, up to the first that fails.

`Registry.standard` has the functions of all groups.
-/

set_option autoImplicit false

namespace CloudTemplate

/-- Functions by their names. -/
structure Registry where
  definitions : Entries Definition := []

namespace Registry

/-- The registry without functions. -/
def empty : Registry := {}

/-- The number of functions. -/
def size (registry : Registry) : Nat :=
  registry.definitions.length

/-- Whether there are no functions. -/
def isEmpty (registry : Registry) : Bool :=
  registry.definitions.isEmpty

/-- Whether there is a function with this name. -/
def contains (registry : Registry) (name : String) : Bool :=
  registry.definitions.contains name

/-- The function with this name. -/
def function? (registry : Registry) (name : String) : Option Function :=
  (registry.definitions.get? name).map Definition.function

/-- The description of the function with this name. -/
def signature? (registry : Registry) (name : String) : Option Signature :=
  (registry.definitions.get? name).map Definition.signature

/-- The help text of the function with this name. -/
def help? (registry : Registry) (name : String) : Option String :=
  (registry.signature? name).map Signature.help

/-- The descriptions of all functions, sorted by name. -/
def signatures (registry : Registry) : List Signature :=
  (registry.definitions.map fun entry => entry.2.signature).mergeSort fun one other =>
    one.name ≤ other.name

/-- The descriptions of the functions of a category, sorted by name. -/
def signaturesOf (registry : Registry) (category : Signature.Category) : List Signature :=
  registry.signatures.filter fun signature => signature.category = category

/-- A short text about the registry. -/
def summary (registry : Registry) : String :=
  "FunctionRegistry \x7b functions: " ++ toString registry.size ++ " \x7d"

/-! ## Registration -/

/-- Registers a function under a name, if the name is free. The description of the function may
have another name. -/
def registerAs (registry : Registry) (name : String) (definition : Definition) :
    Except Error Registry :=
  if registry.contains name then .error (.duplicateFunction name)
  else .ok ⟨registry.definitions.insert name definition⟩

/-- Registers a function under the name of its description, if the name is free. -/
def register (registry : Registry) (definition : Definition) : Except Error Registry :=
  registry.registerAs definition.signature.name definition

/-- Registers functions one after the other up to the first that fails, and tells why it did. -/
def registerAll (registry : Registry) : List Definition → Registry × Option Error
  | [] => (registry, none)
  | definition :: definitions =>
    match registry.register definition with
    | .ok registry => registry.registerAll definitions
    | .error error => (registry, some error)

/-- The functions of a group. -/
def group : Signature.Category → List Definition
  | .math => Math.definitions
  | .logic => Logic.definitions
  | .string => Strings.definitions
  | .collection => Collection.definitions
  | .mapping => Mapping.definitions

/-- The groups in the order of their registration. -/
def groups : List Signature.Category := [.math, .logic, .string, .collection, .mapping]

/-- Registers the functions of a group. -/
def registerGroup (registry : Registry) (category : Signature.Category) :
    Registry × Option Error :=
  registry.registerAll (group category)

/-- The registry with the functions of all groups. -/
def standard : Registry :=
  (empty.registerAll (groups.flatMap group)).1

end Registry

end CloudTemplate
