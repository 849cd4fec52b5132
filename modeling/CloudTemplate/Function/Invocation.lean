import CloudTemplate.Function.Program
import CloudTemplate.Value.Call
import CloudTemplate.Config

/-!
# Invocations

An invocation is a call that is being carried out: which function, with which arguments, and in
which scope. A function that cannot give its result yet gives back the call unchanged
(`Invocation.node`).
-/

set_option autoImplicit false

namespace CloudTemplate

/-- Values by the names of parameters. -/
abbrev Parameters := Entries Value

/-- What the resolution of a value depends on besides the functions: the configuration, the
parameters, and the template in which sections are looked up. -/
structure Scope where
  config : Config
  parameters : Parameters
  template : Value

/-- A call that is being carried out. -/
structure Invocation where
  /-- The key of the call. -/
  key : String
  /-- The name of the function, which is the key without the mark of functions. -/
  name : String
  /-- The arguments as they are written. -/
  arguments : Value
  scope : Scope

/-- A function of the template language. -/
abbrev Function := Invocation → Program Value

namespace Invocation

/-- The call, unchanged. -/
def node (call : Invocation) : Value :=
  Value.ofCall call.key call.arguments

/-- Gives back the call, unchanged. -/
def keep (call : Invocation) : Program Value :=
  pure call.node

/-- Whether a value is a call. -/
def isCall (call : Invocation) (value : Value) : Bool :=
  value.isCall call.scope.config

/-- Whether a value is a call or holds one somewhere. -/
def containsCall (call : Invocation) (value : Value) : Bool :=
  value.containsCall call.scope.config

/-- Fails because of the arguments. -/
def refuse {α : Type} (call : Invocation) (fault : Error.ArgumentFault) : Program α :=
  .fail (.invalidArguments call.key fault)

/-- Fails because an argument is of another kind than expected. -/
def refuseType {α : Type} (call : Invocation) (argument expected : String) (actual : Value) :
    Program α :=
  .fail (.invalidType call.key argument expected actual.typeName)

/-! ## Arguments -/

/-- The list of arguments. -/
def argumentList (call : Invocation) : Program (List Value) :=
  match call.arguments with
  | .list arguments => pure arguments
  | other => call.refuseType "arguments" "a list" other

/-- The list of arguments, which must have at least `least` elements. -/
def atLeast (call : Invocation) (least : Nat) : Program (List Value) := do
  let arguments ← call.argumentList
  if arguments.length < least then call.refuse (.tooFew least arguments.length)
  else pure arguments

/-- The only argument. -/
def oneArgument (call : Invocation) : Program Value := do
  match ← call.argumentList with
  | [first] => pure first
  | arguments => call.refuse (.wrongCount 1 arguments.length)

/-- The two arguments. -/
def twoArguments (call : Invocation) : Program (Value × Value) := do
  match ← call.argumentList with
  | [first, second] => pure (first, second)
  | arguments => call.refuse (.wrongCount 2 arguments.length)

/-- The three arguments. -/
def threeArguments (call : Invocation) : Program (Value × Value × Value) := do
  match ← call.argumentList with
  | [first, second, third] => pure (first, second, third)
  | arguments => call.refuse (.wrongCount 3 arguments.length)

/-! ## Resolution of arguments -/

/-- Resolves a value and goes on with it, or gives back the call if it is not known yet. -/
def known (call : Invocation) (value : Value) (next : Value → Program Value) : Program Value := do
  let value ← Program.resolved value
  if call.isCall value then call.keep else next value

/-- Resolves values in their order and goes on with them, or gives back the call at the first
one that is not known yet. -/
def allKnown (call : Invocation) : List Value → (List Value → Program Value) → Program Value
  | [], next => next []
  | value :: values, next =>
    call.known value fun first => call.allKnown values fun others => next (first :: others)

/-- Resolves two values and goes on with them, if both are known. -/
def bothKnown (call : Invocation) (arguments : Value × Value)
    (next : Value → Value → Program Value) : Program Value :=
  call.known arguments.1 fun first => call.known arguments.2 fun second => next first second

/-- Gives back the call if the value is or contains a call, and goes on otherwise. -/
def unlessCall (call : Invocation) (value : Value) (next : Program Value) : Program Value :=
  if call.containsCall value then call.keep else next

/-- The text of an argument that must be one. -/
def expectText (call : Invocation) (argument : String) (value : Value) : Program String :=
  match value with
  | .string s => pure s
  | other => call.refuseType argument "a string" other

/-- The items of an argument that must be a list. -/
def expectList (call : Invocation) (argument : String) (value : Value) : Program (List Value) :=
  match value with
  | .list items => pure items
  | other => call.refuseType argument "a list" other

/-- The entries of an argument that must be a map. -/
def expectMap (call : Invocation) (argument : String) (value : Value) : Program (Entries Value) :=
  match value with
  | .map entries => pure entries
  | other => call.refuseType argument "a map" other

/-- The truth of a value that must have one. -/
def expectTruth (value : Value) : Program Bool :=
  Program.ofExcept value.toBool

end Invocation

end CloudTemplate
