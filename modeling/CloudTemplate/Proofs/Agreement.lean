import CloudTemplate.Proofs.Outcome

/-!
# What a resolution reads

A resolution looks at its scope in few places: the settings of the configuration, the values of
parameters under their names, and the entries of the tables of the template. Two scopes *agree*
when they are the same in these places (`Scope.Agrees`), in whatever order their parameters stand
and whatever else their templates hold.

A function that looks at nothing else *respects* agreement (`Function.Respects`). With functions
that do, a value resolves to the same result in scopes that agree
(`Resolver.outcome_eq_of_agrees`): resolution is a congruence for what it reads.

The configured maximum of levels is left out of the agreement, because functions have no business
with it. It shows in the error for want of levels only.
-/

set_option autoImplicit false

namespace CloudTemplate

/-- The scopes are the same in all that functions may look at: the settings but for the maximum of
levels, the values of parameters, and the entries of tables. -/
structure Scope.Agrees (scope other : Scope) : Prop where
  settings : ∃ depth, other.config = { scope.config with maxDepth := depth }
  parameters : ∀ name, other.parameters.get? name = scope.parameters.get? name
  tables : ∀ table outer inner, Mapping.entry? other.template table outer inner =
    Mapping.entry? scope.template table outer inner

/-- The invocation in another scope. -/
def Invocation.inScope (call : Invocation) (scope : Scope) : Invocation :=
  { call with scope }

/-- The function does the same in scopes that agree. -/
def Function.Respects (function : Function) : Prop :=
  ∀ call other, Scope.Agrees (Invocation.scope call) other →
    function (call.inScope other) = function call

/-- All functions of the registry do the same in scopes that agree. -/
def Registry.Respects (registry : Registry) : Prop :=
  ∀ name function, registry.function? name = some function → Function.Respects function

namespace Resolver

variable {scope other : Scope}

/-- Scopes that agree have the same calls. -/
theorem call?_eq_of_agrees (agrees : scope.Agrees other) (value : Value) :
    value.call? other.config = value.call? scope.config := by
  obtain ⟨depth, settings⟩ := agrees.settings
  rw [settings]
  rfl

theorem reference_outcome_eq_of_agrees (agrees : scope.Agrees other) (node target : Value) :
    Reference.outcome other node target = Reference.outcome scope node target := by
  cases target with
  | string name =>
    unfold Reference.outcome
    dsimp only
    rw [agrees.parameters name]
  | _ => rfl

/-- **A value resolves to the same result in scopes that agree.** -/
theorem outcome_eq_of_agrees {registry : Registry} (respects : registry.Respects)
    (agrees : scope.Agrees other) (same : other.config.maxDepth = scope.config.maxDepth)
    (levels : Nat) : outcome registry other levels = outcome registry scope levels := by
  induction levels with
  | zero =>
    funext value
    unfold outcome
    rw [same]
  | succ levels ih =>
    funext value
    unfold outcome
    rw [ih]
    unfold outcomeNode
    rw [call?_eq_of_agrees agrees value]
    cases value.call? scope.config with
    | none => rfl
    | some call =>
      cases call with
      | reference target =>
        dsimp only
        rw [reference_outcome_eq_of_agrees agrees value target]
      | function key name arguments =>
        dsimp only
        cases found : registry.function? name with
        | none => rfl
        | some function =>
          have step := respects name function found ⟨key, name, arguments, scope⟩ other agrees
          unfold Invocation.inScope at step
          dsimp only at step ⊢
          rw [step]

end Resolver

end CloudTemplate
