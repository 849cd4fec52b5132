import CloudTemplate.Reference
import CloudTemplate.Registry

/-!
# Resolution of values

A value is resolved from the outside in: a call is handed to its function, which has its
arguments resolved as it needs them, and a list or a map is resolved child by child. Calls of
unknown functions are kept. Values are never changed, so a failure leaves nothing half done.

Every value that is resolved inside another one takes a level, and the levels are limited. The
number of levels left is what the recursion of `Resolver.resolve` goes down on.
-/

set_option autoImplicit false

namespace CloudTemplate.Resolver

/-- Resolves items in their order. -/
def resolveItems (resolve : Value → Tracked Value) : List Value → Tracked (List Value)
  | [] => pure []
  | item :: items => do
    let item ← resolve item
    let items ← resolveItems resolve items
    pure (item :: items)

/-- Resolves the values of entries in their order, and keeps the keys. -/
def resolveEntries (resolve : Value → Tracked Value) :
    List (String × Value) → Tracked (List (String × Value))
  | [] => pure []
  | (key, value) :: entries => do
    let value ← resolve value
    let entries ← resolveEntries resolve entries
    pure ((key, value) :: entries)

/-- Answers the requests of functions with the given resolution of values. -/
def handler (resolve : Value → Tracked Value) : Handler Trail where
  resolve := resolve
  compile := Trail.compile
  note := Trail.note .trace

/-- Carries out a call, or keeps it if there is no such function. -/
def invoke (registry : Registry) (call : Invocation) (resolve : Value → Tracked Value) :
    Tracked Value :=
  match registry.function? call.name with
  | some function => (function call).run (handler resolve)
  | none => do
    Trail.note .trace ("passing through unsupported function " ++ call.key)
    pure call.node

/-- Resolves a value, given the resolution of the values inside it. -/
def resolveNode (registry : Registry) (scope : Scope) (resolve : Value → Tracked Value)
    (value : Value) : Tracked Value :=
  match value.call? scope.config with
  | some (.reference target) => Reference.resolve scope value target
  | some (.function key name arguments) => invoke registry ⟨key, name, arguments, scope⟩ resolve
  | none =>
    match value with
    | .map entries => .map <$> resolveEntries resolve entries
    | .list items => .list <$> resolveItems resolve items
    | scalar => pure scalar

/-- Resolves a value with a number of levels. -/
def resolveWithin (registry : Registry) (scope : Scope) : (levels : Nat) → Value → Tracked Value
  | 0, _ => throw (.depthExceeded scope.config.maxDepth)
  | levels + 1, value => resolveNode registry scope (resolveWithin registry scope levels) value

/-- Resolves a value with as many levels as the configuration allows. -/
def resolve (registry : Registry) (scope : Scope) (value : Value) : Tracked Value :=
  resolveWithin registry scope scope.config.maxDepth value

end CloudTemplate.Resolver
