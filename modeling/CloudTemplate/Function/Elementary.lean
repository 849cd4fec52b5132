import CloudTemplate.Function.Signature
import CloudTemplate.Value.Text

/-!
# Elementary functions

Functions that do one thing each. They are not registered by default: they serve to extend a
registry, and to see what a function is given.
-/

set_option autoImplicit false

namespace CloudTemplate.Elementary

/-- The arguments as they are written. -/
def raw : Function := fun call => pure call.arguments

/-- The resolved arguments. -/
def resolved : Function := fun call => Program.resolved call.arguments

/-- The call itself. -/
def unresolved : Function := fun call => call.keep

/-- The key and the name of the call. -/
def names : Function := fun call => pure (.list [.string call.key, .string call.name])

/-- Whether the arguments are or contain a call. -/
def containsCall : Function := fun call => pure (.bool (call.containsCall call.arguments))

/-- An error with the given reason. -/
def failing (reason : String) : Function := fun call => call.refuse (.other reason)

/-- The greatest length of a text that may grow. -/
def lengthLimit : Function := fun call =>
  pure (.int (Int64.ofNat call.scope.config.maxStringLength))

/-- The text of the value with the letters of ASCII in upper case. -/
def upper : Function := fun call =>
  call.known call.arguments fun value =>
    pure (.string (String.ofList (value.text.toList.map Char.toUpper)))

/-- The definition of `upper`. -/
def upperDefinition : Definition where
  signature := {
    name := "Upper"
    category := .string
    description := "Upper-cases the value's text"
    parameters := [⟨"value", none, "Value to convert"⟩]
    returnType := some "string"
    examples := ["\x7b\"Fn::Upper\": \"abc\"\x7d"] }
  function := upper

end CloudTemplate.Elementary
