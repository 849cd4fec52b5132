import CloudTemplate.Condition.Evaluate

/-!
# Pruning

Resources and outputs may name a condition. Those whose condition is false, or has not been
evaluated, are removed from the template. Entries that name no condition stay.
-/

set_option autoImplicit false

namespace CloudTemplate.Condition

/-- The sections whose entries may name a condition. -/
def conditionalSections : List String := ["Resources", "Outputs"]

/-- Whether an entry stays in the template. -/
def isKept (results : Results) (definition : Value) : Bool :=
  match definition.get? nameKey with
  | some (.string name) => results.get? name == some true
  | _ => true

/-- Removes entries of a section, noting each, and counts them. -/
def pruneEntries (results : Results) (name : String) :
    List (String × Value) → StateM Trail (List (String × Value) × Nat)
  | [] => pure ([], 0)
  | (key, definition) :: entries => do
    if isKept results definition then
      let (kept, removed) ← pruneEntries results name entries
      pure ((key, definition) :: kept, removed)
    else
      Trail.note .debug
        ("removing " ++ name ++ "." ++ key ++ ": condition is false or undeclared")
      let (kept, removed) ← pruneEntries results name entries
      pure (kept, removed + 1)

/-- Removes entries of a section of the template, if there is such a section and it is a map. -/
def pruneSection (results : Results) (template : Entries Value) (name : String) :
    StateM Trail (Entries Value × Nat) := do
  match template.get? name with
  | some (.map entries) =>
    let (kept, removed) ← pruneEntries results name entries
    pure (template.insert name (.map kept), removed)
  | _ => pure (template, 0)

/-- Removes entries of the given sections. -/
def pruneSections (results : Results) (template : Entries Value) :
    List String → StateM Trail (Entries Value × Nat)
  | [] => pure (template, 0)
  | name :: names => do
    let (template, removed) ← pruneSection results template name
    let (template, others) ← pruneSections results template names
    pure (template, removed + others)

/-- Removes the resources and outputs whose condition does not hold, and counts them. -/
def prune (results : Results) (template : Entries Value) : StateM Trail (Entries Value × Nat) :=
  pruneSections results template conditionalSections

end CloudTemplate.Condition
