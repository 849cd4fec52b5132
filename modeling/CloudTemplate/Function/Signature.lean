import CloudTemplate.Function.Invocation

/-!
# Signatures

What users are told about a function: its name and category, what it does, its parameters, what
it gives, and examples of calls. A definition is a function with its signature.
-/

set_option autoImplicit false

namespace CloudTemplate

/-- What a function works on. -/
inductive Signature.Category where
  | math
  | logic
  | string
  | collection
  | mapping
  deriving Repr, DecidableEq

/-- A parameter of a function. -/
structure Signature.Parameter where
  name : String
  /-- The kind of value expected, if it matters. -/
  type : Option String
  description : String
  deriving Repr, DecidableEq

/-- The description of a function. -/
structure Signature where
  name : String
  category : Signature.Category
  description : String := ""
  parameters : List Signature.Parameter := []
  returnType : Option String := none
  examples : List String := []
  deriving Repr, DecidableEq

/-- A function with its description. -/
structure Definition where
  signature : Signature
  function : Function

namespace Signature

/-- A parameter as it stands in the heading of a help text. -/
def Parameter.heading (parameter : Parameter) : String :=
  match parameter.type with
  | some type => parameter.name ++ ": " ++ type
  | none => parameter.name

/-- The heading of a help text: a call with its parameters and the kind of its result. -/
def heading (signature : Signature) : String :=
  let result := match signature.returnType with
    | some type => " -> " ++ type
    | none => ""
  "Fn::" ++ signature.name ++ "(" ++
    String.intercalate ", " (signature.parameters.map Parameter.heading) ++ ")" ++ result

/-- The lines of a help text about the parameters. -/
def parameterLines (signature : Signature) : List String :=
  signature.parameters.map fun parameter => "  " ++ parameter.name ++ ": " ++ parameter.description

/-- The lines of a help text about the examples. -/
def exampleLines (signature : Signature) : List String :=
  if signature.examples = [] then []
  else "" :: "Examples:" :: signature.examples.map fun line => "  " ++ line

/-- The help text: the heading, the description, the parameters and the examples. -/
def help (signature : Signature) : String :=
  String.intercalate "\n"
    (signature.heading :: "" :: signature.description ::
      (signature.parameterLines ++ signature.exampleLines))

end Signature

end CloudTemplate
