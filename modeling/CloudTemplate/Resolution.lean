import CloudTemplate.Condition.Prune

/-!
# Resolution of templates

A template is resolved in one of two ways. `resolveFunctions` folds every call that can be
carried out. `resolveAll` evaluates the conditions first, removes what they rule out, and then
folds the calls, where the truth of the conditions is known by their names.

Neither way fails. After an error the template is given back as it stood after the last step
that succeeded, and the resolution is marked as incomplete.

Parameters are those given explicitly, completed by the values that the template declares
(`mergedParameters`).
-/

set_option autoImplicit false

namespace CloudTemplate

/-- What became of a template. -/
structure Resolution where
  template : Value
  /-- Whether no error occurred. Calls that only need what is known at run time are none. -/
  isComplete : Bool
  /-- The truth of the conditions, if they were evaluated without error. -/
  conditions : Option Condition.Results

namespace Resolution

/-- The section of a template that declares its parameters. -/
def parametersSection : String := "Parameters"

/-- Adds a parameter that is not known yet. -/
def complete (parameters : Parameters) (name : String) (value : Value) : Parameters :=
  if parameters.contains name then parameters else parameters.insert name value

/-- The explicit parameters, completed by the values that the template declares. -/
def mergedParameters (config : Config) (template : Value) (parameters : Parameters) :
    Parameters :=
  match template.get? parametersSection with
  | some (.map declared) =>
    declared.foldl
      (fun merged entry =>
        match entry.2.get? config.resolvedValueField with
        | some value => complete merged entry.1 value
        | none => merged)
      parameters
  | _ => parameters

/-- Carries on with the result, or with the error. -/
def recover {α β : Type} (attempt : Tracked α) (onError : Error → StateM Trail β)
    (next : α → StateM Trail β) : StateM Trail β := do
  match ← attempt.run with
  | .ok result => next result
  | .error error => onError error

/-- Warns of an error, with its code. -/
def warn (what : String) (error : Error) : StateM Trail Unit :=
  Trail.note .warn ("[" ++ error.code.text ++ "] " ++ what ++ ": " ++ error.message)

/-- Resolves a value that is the whole of a template, giving `fallback` back after an error. -/
def fold (attempt : Tracked Value) (what : String) (fallback : Value)
    (conditions : Option Condition.Results) : StateM Trail Resolution :=
  recover attempt
    (fun error => do
      warn what error
      pure ⟨fallback, false, conditions⟩)
    (fun resolved => pure ⟨resolved, true, conditions⟩)

/-- Folds every call of a template that can be carried out. -/
def resolveFunctions (registry : Registry) (config : Config) (template : Value)
    (parameters : Parameters) : StateM Trail Resolution :=
  let merged := mergedParameters config template parameters
  fold (Resolver.resolve registry ⟨config, merged, template⟩ template)
    "function resolution failed, returning template unresolved" template none

/-- Evaluates the conditions of a template with all parameters. -/
def conditionsOf (registry : Registry) (scope : Scope) : Tracked Condition.Results :=
  match scope.template.get? Condition.conditionsSection with
  | some (.map conditions) =>
    Condition.evaluateAll (Value.isCall scope.config) (Resolver.resolve registry scope) conditions
  | _ => pure []

/-- Evaluates the conditions of a template. -/
def resolveConditions (registry : Registry) (config : Config) (template : Value)
    (parameters : Parameters) : Tracked Condition.Results :=
  conditionsOf registry ⟨config, mergedParameters config template parameters, template⟩

/-- Resolves the sections of a template one by one, and keeps the conditions as they are. -/
def resolveSections (resolve : Value → Tracked Value) :
    List (String × Value) → Tracked (List (String × Value))
  | [] => pure []
  | (name, body) :: sections => do
    let body ← if name = Condition.conditionsSection then pure body else resolve body
    let sections ← resolveSections resolve sections
    pure ((name, body) :: sections)

/-- Folds the calls outside the conditions, which could not be evaluated. -/
def resolveWithoutConditions (registry : Registry) (scope : Scope) (document : Entries Value) :
    StateM Trail Resolution := do
  let attempt := .map <$> resolveSections (Resolver.resolve registry scope) document
  let resolution ←
    fold attempt "function resolution failed, returning template unresolved" scope.template none
  pure { resolution with isComplete := false }

/-- Removes what the conditions rule out, and folds the calls that are left. The conditions
hide parameters of the same names. -/
def resolvePruned (registry : Registry) (config : Config) (document : Entries Value)
    (parameters : Parameters) (results : Condition.Results) : StateM Trail Resolution := do
  let (pruned, removed) ←
    Condition.prune results (document.erase Condition.conditionsSection)
  Trail.note .debug ("pruned " ++ toString removed ++ " conditional entries")
  let known := parameters.merge (results.map fun result => (result.1, .bool result.2))
  let template := Value.map pruned
  fold (Resolver.resolve registry ⟨config, known, template⟩ template)
    "function resolution failed, returning pruned template" template (some results)

/-- Evaluates the conditions of a template, removes what they rule out, and folds every call
that can be carried out. -/
def resolveAll (registry : Registry) (config : Config) (template : Value)
    (parameters : Parameters) : StateM Trail Resolution :=
  match template with
  | .map document =>
    let merged := mergedParameters config template parameters
    let scope : Scope := ⟨config, merged, template⟩
    recover (conditionsOf registry scope)
      (fun error => do
        warn "condition resolution failed, keeping Conditions unevaluated" error
        resolveWithoutConditions registry scope document)
      (resolvePruned registry config document merged)
  | other => resolveFunctions registry config other parameters

end Resolution

end CloudTemplate
