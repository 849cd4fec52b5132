import CloudTemplate.Function.Signature
import CloudTemplate.Arithmetic.Evaluate

/-!
# Functions on numbers

Sum, mean, greatest and least of a list of numbers, and the value of an arithmetic expression.
They compute with binary numbers, and a whole result becomes an integer. An infinite or undefined
result is an error. A text that is no arithmetic expression may still name a variable, so its
call is kept.
-/

set_option autoImplicit false

namespace CloudTemplate.Math

/-- The sum of numbers. -/
def sum (numbers : List Float) : Float :=
  numbers.foldl (· + ·) 0.0

/-- The mean of numbers. -/
def mean (numbers : List Float) : Float :=
  sum numbers / Float.ofNat numbers.length

/-- The larger of two numbers. An undefined number is left out. -/
def larger (a b : Float) : Float :=
  if a.isNaN then b else if b.isNaN then a else if a < b then b else a

/-- The smaller of two numbers. An undefined number is left out. -/
def smaller (a b : Float) : Float :=
  if a.isNaN then b else if b.isNaN then a else if b < a then b else a

/-- The greatest of numbers. -/
def greatest (numbers : List Float) : Float :=
  numbers.foldl larger (-1.0 / 0.0)

/-- The least of numbers. -/
def least (numbers : List Float) : Float :=
  numbers.foldl smaller (1.0 / 0.0)

/-- The value of a computed number, which must be finite. -/
def finite (call : Invocation) (result : Float) : Program Value :=
  if Decimal.isFinite result then pure (Value.ofNumber result)
  else .fail (.nonFinite call.key result)

/-- The numbers among values, all of which must be numbers. -/
def numbers (call : Invocation) : List Value → Program (List Float)
  | [] => pure []
  | value :: values =>
    match value.asFloat? with
    | some number => do
      let others ← numbers call values
      pure (number :: others)
    | none => call.refuseType "element" "a number" value

/-- Folds the numbers of the argument list, of which there must be at least `fewest`. -/
def fold (fewest : Nat) (compute : List Float → Float) : Function := fun call => do
  let arguments ← call.atLeast fewest
  call.allKnown arguments fun values => do
    let numbers ← numbers call values
    finite call (compute numbers)

/-- The sum of at least two numbers. -/
def add : Function := fold 2 sum

/-- The mean of at least one number. -/
def avg : Function := fold 1 mean

/-- The greatest of at least one number. -/
def max : Function := fold 1 greatest

/-- The least of at least one number. -/
def min : Function := fold 1 least

/-- The value of an arithmetic expression. -/
def calculate : Function := fun call =>
  call.known call.arguments fun expression => do
    let text ← call.expectText "expression" expression
    match Arithmetic.evaluate text with
    | .ok result => finite call result
    | .error .divisionByZero => .fail .divisionByZero
    | .error .moduloByZero => .fail .moduloByZero
    | .error fault =>
      Program.noting
        (call.key ++ ": leaving " ++ Text.quoted text ++ " unresolved: " ++ fault.message)
        call.node

/-- The functions on numbers. -/
def definitions : List Definition := [
  { signature := {
      name := "Add"
      category := .math
      description := "Sums a list of at least two numbers"
      parameters := [⟨"values", some "list<number>", "Numbers to add"⟩]
      returnType := some "number"
      examples := [
        "\x7b\"Fn::Add\": [1, 2, 3]\x7d",
        "\x7b\"Fn::Add\": [\x7b\"Ref\": \"Count\"\x7d, 1]\x7d"] }
    function := add },
  { signature := {
      name := "Avg"
      category := .math
      description := "Arithmetic mean of a non-empty list of numbers"
      parameters := [⟨"values", some "list<number>", "Numbers to average"⟩]
      returnType := some "number"
      examples := ["\x7b\"Fn::Avg\": [1, 2, 6]\x7d"] }
    function := avg },
  { signature := {
      name := "Max"
      category := .math
      description := "Largest element of a non-empty list of numbers"
      parameters := [⟨"values", some "list<number>", "Numbers to compare"⟩]
      returnType := some "number"
      examples := ["\x7b\"Fn::Max\": [1, 7, 3]\x7d"] }
    function := max },
  { signature := {
      name := "Min"
      category := .math
      description := "Smallest element of a non-empty list of numbers"
      parameters := [⟨"values", some "list<number>", "Numbers to compare"⟩]
      returnType := some "number"
      examples := ["\x7b\"Fn::Min\": [4, 2.5, 9]\x7d"] }
    function := min },
  { signature := {
      name := "Calculate"
      category := .math
      description := "Evaluates an infix arithmetic expression supporting + - * / // % ** and " ++
        "parentheses. Expressions that are not purely numeric are left unresolved."
      parameters := [⟨"expression", some "string", "Arithmetic expression"⟩]
      returnType := some "number"
      examples := [
        "\x7b\"Fn::Calculate\": \"(10 + 5) * 2 ** 2\"\x7d",
        "\x7b\"Fn::Calculate\": \"7 // 2\"\x7d"] }
    function := calculate }]

end CloudTemplate.Math
