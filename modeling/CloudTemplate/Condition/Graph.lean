import CloudTemplate.Error.Basic

/-!
# The order of conditions

A condition refers to another one by its name: every text inside its expression that is the name
of a declared condition counts, wherever it stands. A condition can be evaluated once all
conditions that it refers to have been.

`Graph.order` gives an order of evaluation. It keeps for every condition how many references it
still waits for. The conditions that wait for none are ready, first those that are ready from
the start, in the order of their declaration. Evaluating one makes others ready. If conditions
are left that are never ready, they refer to each other in a circle, or to such conditions.
-/

set_option autoImplicit false

namespace CloudTemplate.Condition

/-! ## References -/

mutual
/-- Adds to the names found so far those that occur as texts in a value and are declared. -/
def collect (declared : List String) (found : List String) : Value → List String
  | .string name => if name ∈ declared ∧ name ∉ found then found ++ [name] else found
  | .list items => collectItems declared found items
  | .map entries => collectEntries declared found entries
  | _ => found

/-- Adds the names that occur in items. -/
def collectItems (declared : List String) (found : List String) : List Value → List String
  | [] => found
  | item :: items => collectItems declared (collect declared found item) items

/-- Adds the names that occur in the values of entries. -/
def collectEntries (declared : List String) (found : List String) :
    List (String × Value) → List String
  | [] => found
  | (_, child) :: entries => collectEntries declared (collect declared found child) entries
end

/-- The declared conditions that an expression refers to, each once, in the order of their first
occurrence. -/
def references (conditions : Entries Value) (expression : Value) : List String :=
  collect conditions.keys [] expression

/-! ## Graphs -/

/-- The conditions in the order of their declaration, each with the conditions that it refers
to. -/
structure Graph where
  edges : Entries (List String)
  deriving Repr

namespace Graph

/-- The graph of the conditions of a template. -/
def ofConditions (conditions : Entries Value) : Graph :=
  ⟨conditions.map fun entry => (entry.1, references conditions entry.2)⟩

/-- The names of the conditions. -/
def names (graph : Graph) : List String :=
  graph.edges.keys

/-- The number of conditions. -/
def size (graph : Graph) : Nat :=
  graph.edges.length

/-- Whether there are no conditions. -/
def isEmpty (graph : Graph) : Bool :=
  graph.edges.isEmpty

/-- The conditions that refer to a declared condition. -/
def dependents (graph : Graph) (name : String) : List String :=
  if name ∈ graph.names then
    (graph.edges.filter fun edge => edge.2.contains name).map Prod.fst
  else []

/-- How many references each condition waits for at the start. -/
def inDegrees (graph : Graph) : Entries Nat :=
  graph.edges.map fun edge => (edge.1, edge.2.length)

/-! ## Order -/

/-- The work on an order: how many references each condition still waits for, which conditions
are ready, and which have been placed, the last one first. -/
structure Sorting where
  waiting : Entries Nat
  ready : List String
  placed : List String
  deriving Repr

namespace Sorting

/-- The start of the work. -/
def start (graph : Graph) : Sorting where
  waiting := graph.inDegrees
  ready := (graph.inDegrees.filter fun entry => entry.2 = 0).map Prod.fst
  placed := []

/-- One of the references of a condition has been placed. The condition becomes ready when it
was the last. -/
def release (sorting : Sorting) (name : String) : Sorting :=
  match sorting.waiting.get? name with
  | none => sorting
  | some count =>
    { sorting with
      waiting := sorting.waiting.insert name (count - 1)
      ready := if count = 1 then sorting.ready ++ [name] else sorting.ready }

/-- Places the first condition that is ready, as often as there is one and at most `limit`
times. -/
def run (graph : Graph) : (limit : Nat) → Sorting → Sorting
  | 0, sorting => sorting
  | limit + 1, sorting =>
    match sorting.ready with
    | [] => sorting
    | name :: ready =>
      let placed := { sorting with ready, placed := name :: sorting.placed }
      run graph limit ((graph.dependents name).foldl release placed)

end Sorting

/-- The conditions in an order in which they can be evaluated, or those that cannot. -/
def order (graph : Graph) : Except Error (List String) :=
  let sorting := Sorting.run graph graph.size (Sorting.start graph)
  if sorting.placed.length = graph.size then .ok sorting.placed.reverse
  else
    .error (.circularDependency
      ((sorting.waiting.filter fun entry => 0 < entry.2).map Prod.fst))

end Graph

end CloudTemplate.Condition
