import CloudTemplate.Function.Signature
import CloudTemplate.Value.Equality

/-!
# Functions on truth

Conjunction and disjunction resolve their operands one after the other and stop at the first
that decides. A choice resolves the branch that it selects and no other. Comparisons use the
equality of values.
-/

set_option autoImplicit false

namespace CloudTemplate.Logic

/-- Goes through operands until one has the decisive truth. -/
def shortCircuit (call : Invocation) (decisive : Bool) : List Value → Program Value
  | [] => pure (.bool !decisive)
  | operand :: operands =>
    call.known operand fun value => do
      let truth ← Invocation.expectTruth value
      if truth = decisive then pure (.bool decisive) else shortCircuit call decisive operands

/-- True when every operand is true. -/
def and : Function := fun call => do
  let operands ← call.atLeast 1
  shortCircuit call false operands

/-- True when an operand is true. -/
def or : Function := fun call => do
  let operands ← call.atLeast 1
  shortCircuit call true operands

/-- True when the operand is false. -/
def not : Function := fun call => do
  let operand ← call.oneArgument
  call.known operand fun value => do
    let truth ← Invocation.expectTruth value
    pure (.bool !truth)

/-- Whether an item is true, going through the items until there is one. -/
def anyTrue : List Value → Except Error Bool
  | [] => .ok false
  | item :: items => do
    let truth ← item.toBool
    if truth then .ok true else anyTrue items

/-- True when an item of the list is true. -/
def any : Function := fun call => do
  let argument ← call.oneArgument
  call.known argument fun value => do
    let items ← call.expectList "values" value
    if items.any call.isCall then call.keep
    else do
      let truth ← Program.ofExcept (anyTrue items)
      pure (.bool truth)

/-- True when the list has an item equal to the value. -/
def contains : Function := fun call => do
  let arguments ← call.twoArguments
  call.bothKnown arguments fun list value => do
    let items ← call.expectList "list" list
    pure (.bool (items.any fun item => item == value))

/-- True when every item of the first list equals an item of the second. -/
def eachMemberIn : Function := fun call => do
  let arguments ← call.twoArguments
  call.bothKnown arguments fun members allowed => do
    let members ← call.expectList "members" members
    let candidates ← call.expectList "universe" allowed
    pure (.bool (members.all fun member => candidates.any fun candidate => candidate == member))

/-- True when the two values are equal. -/
def equals : Function := fun call => do
  let arguments ← call.twoArguments
  call.bothKnown arguments fun left right => pure (.bool (left == right))

/-- The truth of the condition of a choice. A text names a parameter, and there is none if that
parameter is not known. -/
def conditionTruth (call : Invocation) (condition : Value) : Program (Option Bool) :=
  match condition with
  | .bool truth => pure (some truth)
  | .string name =>
    match call.scope.parameters.get? name with
    | some value => do
      let truth ← Invocation.expectTruth value
      pure (some truth)
    | none =>
      Program.noting
        (call.key ++ ": condition " ++ Text.quoted name ++ " is not known yet") none
  | other => do
    let truth ← Invocation.expectTruth other
    pure (some truth)

/-- The second argument when the first is true, and the third otherwise. -/
def choose : Function := fun call => do
  let (condition, onTrue, onFalse) ← call.threeArguments
  call.known condition fun value => do
    match ← conditionTruth call value with
    | some truth => Program.resolved (if truth then onTrue else onFalse)
    | none => call.keep

/-- The functions on truth. -/
def definitions : List Definition := [
  { signature := {
      name := "And"
      category := .logic
      description := "True when every operand is true. Operands are evaluated left to right and " ++
        "evaluation stops at the first false one."
      parameters := [⟨"conditions", some "list<boolean>", "At least one operand"⟩]
      returnType := some "boolean"
      examples := [
        "\x7b\"Fn::And\": [true, " ++
          "\x7b\"Fn::Equals\": [\x7b\"Ref\": \"Env\"\x7d, \"prod\"]\x7d]\x7d"] }
    function := and },
  { signature := {
      name := "Or"
      category := .logic
      description := "True when any operand is true. Operands are evaluated left to right and " ++
        "evaluation stops at the first true one."
      parameters := [⟨"conditions", some "list<boolean>", "At least one operand"⟩]
      returnType := some "boolean"
      examples := ["\x7b\"Fn::Or\": [false, \"IsProd\"]\x7d"] }
    function := or },
  { signature := {
      name := "Not"
      category := .logic
      description := "Negates a single boolean operand"
      parameters := [⟨"condition", some "boolean", "Operand, wrapped in a one-element list"⟩]
      returnType := some "boolean"
      examples := [
        "\x7b\"Fn::Not\": [\x7b\"Fn::Equals\": [\x7b\"Ref\": \"Env\"\x7d, \"dev\"]\x7d]\x7d"] }
    function := not },
  { signature := {
      name := "Any"
      category := .logic
      description := "True when at least one element of the nested list is truthy"
      parameters := [⟨"values", some "list", "A list, wrapped in a one-element list"⟩]
      returnType := some "boolean"
      examples := ["\x7b\"Fn::Any\": [[false, \"true\"]]\x7d"] }
    function := any },
  { signature := {
      name := "Contains"
      category := .logic
      description := "True when the list holds an element structurally equal to the value"
      parameters := [
        ⟨"list", some "list", "List to search"⟩,
        ⟨"value", none, "Value to look for"⟩]
      returnType := some "boolean"
      examples := ["\x7b\"Fn::Contains\": [[\"a\", \"b\"], \"b\"]\x7d"] }
    function := contains },
  { signature := {
      name := "EachMemberIn"
      category := .logic
      description := "True when every element of the first list occurs in the second list. " ++
        "Vacuously true for an empty first list."
      parameters := [
        ⟨"members", some "list", "Elements to check"⟩,
        ⟨"universe", some "list", "Allowed elements"⟩]
      returnType := some "boolean"
      examples := ["\x7b\"Fn::EachMemberIn\": [[\"a\"], [\"a\", \"b\"]]\x7d"] }
    function := eachMemberIn },
  { signature := {
      name := "Equals"
      category := .logic
      description := "Structural equality of two values. Values of different kinds are never " ++
        "equal."
      parameters := [
        ⟨"left", none, "First value"⟩,
        ⟨"right", none, "Second value"⟩]
      returnType := some "boolean"
      examples := ["\x7b\"Fn::Equals\": [\x7b\"Ref\": \"Env\"\x7d, \"production\"]\x7d"] }
    function := equals },
  { signature := {
      name := "If"
      category := .logic
      description :=
        "Selects the second argument when the condition holds, otherwise the third. " ++
        "A string condition is looked up by name among parameters and resolved conditions. Only " ++
        "the selected branch is resolved."
      parameters := [
        ⟨"condition", some "boolean | string", "Boolean or condition name"⟩,
        ⟨"then", none, "Value when true"⟩,
        ⟨"else", none, "Value when false"⟩]
      returnType := some "any"
      examples := ["\x7b\"Fn::If\": [\"IsProd\", \"ecs.g6.large\", \"ecs.t5.small\"]\x7d"] }
    function := choose }]

end CloudTemplate.Logic
