import CloudTemplate.Function.Invocation
import CloudTemplate.Trail

/-!
# References

A reference to a parameter stands for its value. Everything else that a reference may name, a
resource or something unknown, is known later only, and the reference is kept.
-/

set_option autoImplicit false

namespace CloudTemplate.Reference

/-- The section of a template that declares its resources. -/
def resourcesSection : String := "Resources"

/-- Whether the template declares a resource with this name. -/
def isResource (template : Value) (name : String) : Bool :=
  match template.get? resourcesSection with
  | some (.map resources) => Entries.contains resources name
  | _ => false

/-- Why a reference is kept. -/
def reason (template : Value) (name : String) : String :=
  if isResource template name then "deferring Ref to resource " ++ name
  else "deferring unknown Ref " ++ name

/-- The value of the reference `node` to a target. -/
def resolve (scope : Scope) (node target : Value) : StateM Trail Value :=
  match target with
  | .string name =>
    match scope.parameters.get? name with
    | some value => pure value
    | none => do
      Trail.note .trace (reason scope.template name)
      pure node
  | other => do
    Trail.note .trace ("keeping Ref with non-string target " ++ other.typeName)
    pure node

end CloudTemplate.Reference
