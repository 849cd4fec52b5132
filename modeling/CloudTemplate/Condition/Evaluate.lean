import CloudTemplate.Condition.Graph
import CloudTemplate.Resolver

/-!
# Evaluation of conditions

The conditions of a template are evaluated in the order of their references. Before a condition
is resolved, the names of conditions evaluated before are replaced by their truth in its
expression. The result must have a truth, and must not be a call any more.
-/

set_option autoImplicit false

namespace CloudTemplate.Condition

/-- The truth of the conditions evaluated so far, in the order of evaluation. -/
abbrev Results := Entries Bool

/-- The section of a template that declares its conditions. -/
def conditionsSection : String := "Conditions"

/-- The key of a map that names a condition. -/
def nameKey : String := "Condition"

/-- The result of the condition that a map names by having the name key and no other. -/
def namedResult? (results : Results) : List (String × Value) → Option Bool
  | [(key, .string name)] => if key = nameKey then results.get? name else none
  | _ => none

mutual
/-- Replaces the names of evaluated conditions by their truth: texts, and maps that do nothing
but name a condition. -/
def substitute (results : Results) : Value → Value
  | .string name =>
    match results.get? name with
    | some truth => .bool truth
    | none => .string name
  | .map entries =>
    match namedResult? results entries with
    | some truth => .bool truth
    | none => .map (substituteEntries results entries)
  | .list items => .list (substituteItems results items)
  | scalar => scalar

/-- Replaces the names of evaluated conditions in items. -/
def substituteItems (results : Results) : List Value → List Value
  | [] => []
  | item :: items => substitute results item :: substituteItems results items

/-- Replaces the names of evaluated conditions in the values of entries. -/
def substituteEntries (results : Results) : List (String × Value) → List (String × Value)
  | [] => []
  | (key, child) :: entries => (key, substitute results child) :: substituteEntries results entries
end

/-- Runs a computation and wraps its failure in the condition in which it arose. -/
def within {State α : Type} (name : String) (attempt : Attempt State α) : Attempt State α :=
  ExceptT.adapt (Error.condition name) attempt

/-- The truth of a condition, given which values are calls and what values resolve to. -/
def evaluate (isCall : Value → Bool) (resolve : Value → Tracked Value) (results : Results)
    (name : String) (expression : Value) : Tracked Bool := do
  let value ← within name (resolve (substitute results expression))
  if isCall value then throw (.unresolvableCondition name)
  else within name (Attempt.ofExcept value.toBool)

/-- Evaluates the conditions of the given names one after the other. -/
def evaluateInOrder (isCall : Value → Bool) (resolve : Value → Tracked Value)
    (conditions : Entries Value) (results : Results) : List String → Tracked Results
  | [] => pure results
  | name :: names =>
    match conditions.get? name with
    | none => evaluateInOrder isCall resolve conditions results names
    | some expression => do
      let truth ← evaluate isCall resolve results name expression
      Trail.note .debug ("condition " ++ name ++ " = " ++ toString truth)
      evaluateInOrder isCall resolve conditions (results.insert name truth) names

/-- Evaluates all conditions. -/
def evaluateAll (isCall : Value → Bool) (resolve : Value → Tracked Value)
    (conditions : Entries Value) : Tracked Results := do
  let order ← Attempt.ofExcept (Graph.ofConditions conditions).order
  Trail.note .debug
    ("evaluating " ++ toString order.length ++ " conditions in order " ++ Text.quotedList order)
  evaluateInOrder isCall resolve conditions [] order

end CloudTemplate.Condition
