import CloudTemplate.Proofs.Compilation
import CloudTemplate.Proofs.Template.Outcome

/-!
# Which patterns a template has compiled

The conditions of a template are evaluated in their order, up to the first error, and the values
that are folded afterwards depend on their results. The texts that are compiled on the way are
computed along with the outcomes (`Condition.compilationsOfAll`,
`Resolution.compilationsOfTemplate`), and the resolution of a template compiles exactly these
(`Resolution.resolveAll_compiles`). Pruning and warnings compile nothing.
-/

set_option autoImplicit false

namespace CloudTemplate

open Trail

/-! ## Conditions -/

namespace Condition

/-- The texts that the evaluation of conditions one after the other has compiled. -/
def compilationsInOrder (isCall : Value → Bool) (answer : Value → Except Error Value)
    (inner : Value → List String) (conditions : Entries Value) (results : Results) :
    List String → List String
  | [] => []
  | name :: names =>
    match conditions.get? name with
    | none => compilationsInOrder isCall answer inner conditions results names
    | some expression =>
      inner (substitute results expression) ++
        afterwards (judge isCall answer results name expression) fun truth =>
          compilationsInOrder isCall answer inner conditions (results.insert name truth) names

/-- The texts that the evaluation of all conditions has compiled. -/
def compilationsOfAll (isCall : Value → Bool) (answer : Value → Except Error Value)
    (inner : Value → List String) (conditions : Entries Value) : List String :=
  afterwards (Graph.ofConditions conditions).order
    (compilationsInOrder isCall answer inner conditions [])

section Accounts

variable {isCall : Value → Bool} {resolve : Value → Tracked Value}
  {answer : Value → Except Error Value} {inner : Value → List String}
  (accounts : Resolver.Accounts resolve answer inner)
include accounts

theorem evaluate_compiles (results : Results) (name : String) (expression : Value) :
    Compiles (evaluate isCall resolve results name expression).run
      (inner (substitute results expression)) := by
  have resolved := Tracked.adapt_compiles (accounts.compiles (substitute results expression))
    (Error.condition name)
  have judged : ∀ value, Compiles
      (if isCall value then throw (.unresolvableCondition name)
        else within name (Attempt.ofExcept value.toBool) : Tracked Bool).run [] := by
    intro value
    cases isCall value with
    | true => exact .pure _
    | false => exact .pure _
  have whole := Tracked.bind_compiles ((accounts.yields _).adapt (Error.condition name)) resolved
    judged
  rw [afterwards_nil, List.append_nil] at whole
  exact whole

theorem evaluateInOrder_compiles (conditions : Entries Value) (results : Results)
    (names : List String) :
    Compiles (evaluateInOrder isCall resolve conditions results names).run
      (compilationsInOrder isCall answer inner conditions results names) := by
  induction names generalizing results with
  | nil => exact .pure _
  | cons name names ih =>
    unfold evaluateInOrder compilationsInOrder
    cases conditions.get? name with
    | none => exact ih results
    | some expression =>
      exact Tracked.bind_compiles (evaluate_yields accounts.yields results name expression)
        (evaluate_compiles accounts results name expression) fun truth =>
          Tracked.after_compiles (.note .debug _) (fun _ => rfl) (ih _)

theorem evaluateAll_compiles (conditions : Entries Value) :
    Compiles (evaluateAll isCall resolve conditions).run
      (compilationsOfAll isCall answer inner conditions) :=
  Tracked.bind_compiles (.ofExcept _) (.pure _) fun order =>
    Tracked.after_compiles (.note .debug _) (fun _ => rfl)
      (evaluateInOrder_compiles accounts conditions [] order)

end Accounts

/-! ## Pruning -/

theorem pruneEntries_compiles (results : Results) (name : String) (entries : Entries Value) :
    Compiles (pruneEntries results name entries) [] := by
  induction entries with
  | nil => exact .pure _
  | cons entry entries ih =>
    unfold pruneEntries
    cases isKept results entry.2 with
    | true => exact ih.bind_silent fun _ => .pure _
    | false => exact (Compiles.note .debug _).bind_silent fun _ => ih.bind_silent fun _ => .pure _

theorem pruneSection_compiles (results : Results) (template : Entries Value) (name : String) :
    Compiles (pruneSection results template name) [] := by
  unfold pruneSection
  cases template.get? name with
  | none => exact .pure _
  | some body =>
    cases body with
    | map entries => exact (pruneEntries_compiles results name entries).bind_silent fun _ => .pure _
    | _ => exact .pure _

theorem pruneSections_compiles (results : Results) (template : Entries Value)
    (names : List String) : Compiles (pruneSections results template names) [] := by
  induction names generalizing template with
  | nil => exact .pure _
  | cons name names ih =>
    exact (pruneSection_compiles results template name).bind_silent fun _ =>
      (ih _).bind_silent fun _ => .pure _

theorem prune_compiles (results : Results) (template : Entries Value) :
    Compiles (prune results template) [] :=
  pruneSections_compiles results template conditionalSections

end Condition

/-! ## Templates -/

namespace Resolution

/-- The texts that the conditions of a template have compiled. -/
def compilationsOfConditions (registry : Registry) (scope : Scope) : List String :=
  match scope.template.get? Condition.conditionsSection with
  | some (.map conditions) =>
    Condition.compilationsOfAll (Value.isCall scope.config)
      (Resolver.outcome registry scope scope.config.maxDepth)
      (Resolver.compilations registry scope) conditions
  | _ => []

/-- The texts that the sections of a template have compiled, but for the conditions. -/
def compilationsOfSections (registry : Registry) (scope : Scope) (document : Entries Value) :
    List String :=
  Resolver.compilationsOfAll (Resolver.outcome registry scope scope.config.maxDepth)
    (Resolver.compilations registry scope)
    ((document.erase Condition.conditionsSection).map Prod.snd)

/-- The texts that a template with known conditions has compiled. -/
def compilationsOfPruned (registry : Registry) (config : Config) (document : Entries Value)
    (parameters : Parameters) (results : Condition.Results) : List String :=
  let template :=
    Value.map (Condition.pruned results (document.erase Condition.conditionsSection))
  Resolver.compilations registry (scopeOfPruned config template parameters results) template

/-- The texts that a template has compiled. -/
def compilationsOfTemplate (registry : Registry) (config : Config) (template : Value)
    (parameters : Parameters) : List String :=
  let scope := scopeOf config template parameters
  match template with
  | .map document =>
    compilationsOfConditions registry scope ++
      match outcomeConditions registry scope with
      | .ok results => compilationsOfPruned registry config document scope.parameters results
      | .error _ => compilationsOfSections registry scope document
  | other => Resolver.compilations registry scope other

theorem conditionsOf_compiles (registry : Registry) (scope : Scope) :
    Compiles (conditionsOf registry scope).run (compilationsOfConditions registry scope) := by
  unfold conditionsOf compilationsOfConditions
  cases scope.template.get? Condition.conditionsSection with
  | none => exact .pure _
  | some body =>
    cases body with
    | map conditions =>
      exact Condition.evaluateAll_compiles (Resolver.resolve_accounts registry scope) conditions
    | _ => exact .pure _

/-- What comes after an attempt compiles what it does for the result of the attempt. -/
theorem recover_compiles {α β : Type} {attempt : Tracked α} {result : Except Error α}
    (yields : attempt.Yields result) {texts : List String} (first : Compiles attempt.run texts)
    {onError : Error → StateM Trail β} {next : α → StateM Trail β} {later : List String}
    (failed : ∀ error, result = .error error → Compiles (onError error) later)
    (passed : ∀ value, result = .ok value → Compiles (next value) later) :
    Compiles (recover attempt onError next) (texts ++ later) := by
  refine first.bind fun trail => ?_
  rw [show (attempt.run.run trail).1 = result from yields trail]
  cases result with
  | ok value => exact passed value rfl
  | error error => exact failed error rfl

theorem fold_compiles {attempt : Tracked Value} {result : Except Error Value}
    (yields : attempt.Yields result) {texts : List String} (first : Compiles attempt.run texts)
    (what : String) (fallback : Value) (conditions : Option Condition.Results) :
    Compiles (fold attempt what fallback conditions) texts := by
  have whole : Compiles (fold attempt what fallback conditions) (texts ++ []) := by
    refine recover_compiles yields first ?_ ?_
    · exact fun error _ => (Compiles.note .warn _).bind_silent fun _ => .pure _
    · exact fun value _ => .pure _
  rw [List.append_nil] at whole
  exact whole

/-- The conditions are kept as they are, so that they compile nothing. -/
theorem resolveSections_compiles {resolve : Value → Tracked Value}
    {answer : Value → Except Error Value} {inner : Value → List String}
    (accounts : Resolver.Accounts resolve answer inner) (document : Entries Value) :
    Compiles (resolveSections resolve document).run
      (Resolver.compilationsOfAll answer inner
        ((document.erase Condition.conditionsSection).map Prod.snd)) := by
  induction document with
  | nil => exact .pure _
  | cons entry document ih =>
    obtain ⟨name, body⟩ := entry
    rw [resolveSections, Entries.erase_cons]
    by_cases conditions : name = Condition.conditionsSection
    · rw [if_pos conditions, if_pos conditions, LawfulMonad.pure_bind]
      exact Tracked.bind_pure_compiles ih _
    · rw [if_neg conditions, if_neg conditions]
      exact Tracked.bind_compiles (accounts.yields body) (accounts.compiles body) fun _ =>
        Tracked.bind_pure_compiles ih _

theorem resolveWithoutConditions_compiles (registry : Registry) (scope : Scope)
    (document : Entries Value) :
    Compiles (resolveWithoutConditions registry scope document)
      (compilationsOfSections registry scope document) := by
  have accounts := Resolver.resolve_accounts registry scope
  have sections := fold_compiles
    ((resolveSections_yields accounts.yields document).map Value.map)
    (Tracked.map_compiles (resolveSections_compiles accounts document) Value.map)
    "function resolution failed, returning template unresolved" scope.template none
  exact sections.bind_silent fun _ => .pure _

theorem resolvePruned_compiles (registry : Registry) (config : Config) (document : Entries Value)
    (parameters : Parameters) (results : Condition.Results) :
    Compiles (resolvePruned registry config document parameters results)
      (compilationsOfPruned registry config document parameters results) := by
  refine (Condition.prune_compiles results _).bind fun trail => ?_
  refine (Compiles.note .debug _).bind fun _ => ?_
  rw [Condition.prune_run]
  exact fold_compiles (Resolver.resolve_yields registry _ _)
    ((Resolver.resolve_accounts registry _).compiles _) _ _ _

theorem resolveFunctions_compiles (registry : Registry) (config : Config) (template : Value)
    (parameters : Parameters) :
    Compiles (resolveFunctions registry config template parameters)
      (Resolver.compilations registry (scopeOf config template parameters) template) :=
  fold_compiles (Resolver.resolve_yields registry (scopeOf config template parameters) template)
    ((Resolver.resolve_accounts registry _).compiles template) _ _ _

theorem resolveConditions_compiles (registry : Registry) (config : Config) (template : Value)
    (parameters : Parameters) :
    Compiles (resolveConditions registry config template parameters).run
      (compilationsOfConditions registry (scopeOf config template parameters)) :=
  conditionsOf_compiles registry (scopeOf config template parameters)

/-- **The resolution of a template compiles its texts**, whatever cache it starts with. -/
theorem resolveAll_compiles (registry : Registry) (config : Config) (template : Value)
    (parameters : Parameters) :
    Compiles (resolveAll registry config template parameters)
      (compilationsOfTemplate registry config template parameters) := by
  unfold resolveAll compilationsOfTemplate
  cases template with
  | map document =>
    have yields := conditionsOf_yields registry (scopeOf config (.map document) parameters)
    refine recover_compiles yields (conditionsOf_compiles registry _) ?_ ?_
    · intro error failed
      rw [failed]
      exact (Compiles.note .warn _).bind fun _ =>
        resolveWithoutConditions_compiles registry _ document
    · intro results found
      rw [found]
      exact resolvePruned_compiles registry config document _ results
  | _ => exact resolveFunctions_compiles registry config _ parameters

end Resolution

end CloudTemplate
