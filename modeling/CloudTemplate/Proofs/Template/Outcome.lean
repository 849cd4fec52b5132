import CloudTemplate.Resolution
import CloudTemplate.Proofs.Condition.Declaration
import CloudTemplate.Proofs.Condition.Pruning

/-!
# Templates without trails

What becomes of a template does not depend on the trail that its resolution finds, and neither does
what its conditions are. Both can be computed without a state, from the outcomes of the values in
the template (`outcomeConditions`, `outcomeAll`), and the resolution of the template gives what is
computed (`resolveConditions_yields`, `resolveAll_run`).
-/

set_option autoImplicit false

namespace CloudTemplate.Resolution

/-! ## Conditions -/

/-- What the conditions of a template are. -/
def outcomeConditions (registry : Registry) (scope : Scope) : Except Error Condition.Results :=
  match scope.template.get? Condition.conditionsSection with
  | some (.map conditions) =>
    Condition.judgeAll (Value.isCall scope.config)
      (Resolver.outcome registry scope scope.config.maxDepth) conditions
  | _ => .ok []

theorem conditionsOf_yields (registry : Registry) (scope : Scope) :
    Attempt.Yields (conditionsOf registry scope) (outcomeConditions registry scope) := by
  unfold conditionsOf outcomeConditions
  cases scope.template.get? Condition.conditionsSection with
  | none => exact .pure _
  | some body =>
    cases body with
    | map conditions =>
      exact Condition.evaluateAll_yields_judgeAll (Resolver.resolve_yields registry scope)
        conditions
    | _ => exact .pure _

/-- The scope in which the values of a template are resolved. -/
def scopeOf (config : Config) (template : Value) (parameters : Parameters) : Scope :=
  ⟨config, mergedParameters config template parameters, template⟩

theorem resolveConditions_yields (registry : Registry) (config : Config) (template : Value)
    (parameters : Parameters) :
    Attempt.Yields (resolveConditions registry config template parameters)
      (outcomeConditions registry (scopeOf config template parameters)) :=
  conditionsOf_yields registry (scopeOf config template parameters)

/-! ## Templates -/

/-- What becomes of a template that resolves to a value, or not. -/
def folded (result : Except Error Value) (fallback : Value)
    (conditions : Option Condition.Results) : Resolution :=
  match result with
  | .ok resolved => ⟨resolved, true, conditions⟩
  | .error _ => ⟨fallback, false, conditions⟩

@[simp] theorem conditions_folded (result : Except Error Value) (fallback : Value)
    (conditions : Option Condition.Results) :
    (folded result fallback conditions).conditions = conditions := by
  cases result <;> rfl

/-- What becomes of a template whose calls are folded. -/
def outcomeFunctions (registry : Registry) (config : Config) (template : Value)
    (parameters : Parameters) : Resolution :=
  folded (Resolver.outcome registry (scopeOf config template parameters) config.maxDepth template)
    template none

/-- The sections of a template, resolved but for the conditions. -/
def outcomeSections (answer : Value → Except Error Value) (document : Entries Value) :
    Except Error (Entries Value) :=
  document.mapM fun entry => (entry.1, ·) <$>
    if entry.1 = Condition.conditionsSection then .ok entry.2 else answer entry.2

/-- What becomes of a template whose conditions cannot be evaluated. -/
def outcomeWithoutConditions (registry : Registry) (scope : Scope) (document : Entries Value) :
    Resolution :=
  let answer := Resolver.outcome registry scope scope.config.maxDepth
  { folded (.map <$> outcomeSections answer document) scope.template none with
    isComplete := false }

/-- The scope in which the values of a pruned template are resolved: the conditions hide parameters
of the same names. -/
def scopeOfPruned (config : Config) (template : Value) (parameters : Parameters)
    (results : Condition.Results) : Scope :=
  ⟨config, parameters.merge (results.map fun result => (result.1, .bool result.2)), template⟩

/-- What becomes of a template whose conditions are known. -/
def outcomePruned (registry : Registry) (config : Config) (document : Entries Value)
    (parameters : Parameters) (results : Condition.Results) : Resolution :=
  let template :=
    Value.map (Condition.pruned results (document.erase Condition.conditionsSection))
  folded
    (Resolver.outcome registry (scopeOfPruned config template parameters results) config.maxDepth
      template)
    template (some results)

/-- What becomes of a template. -/
def outcomeAll (registry : Registry) (config : Config) (template : Value)
    (parameters : Parameters) : Resolution :=
  match template with
  | .map document =>
    let scope := scopeOf config template parameters
    match outcomeConditions registry scope with
    | .ok results => outcomePruned registry config document scope.parameters results
    | .error _ => outcomeWithoutConditions registry scope document
  | other => outcomeFunctions registry config other parameters

/-- What comes after an attempt depends on its result, if not on the trail. -/
theorem recover_run {α β : Type} {attempt : Tracked α} {result : Except Error α}
    (yields : attempt.Yields result) {onError : Error → StateM Trail β} {next : α → StateM Trail β}
    {outcome : β}
    (failed : ∀ error, result = .error error → ∀ trail, ((onError error).run trail).1 = outcome)
    (passed : ∀ value, result = .ok value → ∀ trail, ((next value).run trail).1 = outcome)
    (trail : Trail) : ((recover attempt onError next).run trail).1 = outcome := by
  have found := yields trail
  unfold Attempt.resultFrom at found
  unfold recover
  rw [StateT.run_bind]
  generalize attempt.run.run trail = ended at found ⊢
  obtain ⟨answered, later⟩ := ended
  obtain rfl : answered = result := found
  cases answered with
  | ok value => exact passed value rfl later
  | error error => exact failed error rfl later

theorem fold_run {attempt : Tracked Value} {result : Except Error Value}
    (yields : attempt.Yields result) (what : String) (fallback : Value)
    (conditions : Option Condition.Results) (trail : Trail) :
    ((fold attempt what fallback conditions).run trail).1 = folded result fallback conditions := by
  refine recover_run yields ?_ ?_ trail
  · rintro error rfl trail
    rfl
  · rintro value rfl trail
    rfl

theorem resolveSections_yields {resolve : Value → Tracked Value}
    {answer : Value → Except Error Value}
    (answers : ∀ value, Attempt.Yields (resolve value) (answer value)) (document : Entries Value) :
    Attempt.Yields (resolveSections resolve document) (outcomeSections answer document) := by
  induction document with
  | nil => exact .pure []
  | cons entry document ih =>
    obtain ⟨name, body⟩ := entry
    have rest : ∀ first, Attempt.Yields
        (do
          let sections ← resolveSections resolve document
          pure ((name, first) :: sections))
        (do
          let sections ← outcomeSections answer document
          .ok ((name, first) :: sections)) :=
      fun first => ih.bind fun sections => .pure ((name, first) :: sections)
    rw [resolveSections, outcomeSections, List.mapM_cons, map_eq_pure_bind,
      LawfulMonad.bind_assoc]
    dsimp only
    by_cases conditions : name = Condition.conditionsSection
    · rw [if_pos conditions, if_pos conditions]
      exact (Attempt.Yields.pure body).bind rest
    · rw [if_neg conditions, if_neg conditions]
      exact (answers body).bind rest

theorem resolveFunctions_run (registry : Registry) (config : Config) (template : Value)
    (parameters : Parameters) (trail : Trail) :
    ((resolveFunctions registry config template parameters).run trail).1 =
      outcomeFunctions registry config template parameters :=
  fold_run (Resolver.resolve_yields registry (scopeOf config template parameters) template) _ _ _ _

theorem resolveWithoutConditions_run (registry : Registry) (scope : Scope)
    (document : Entries Value) (trail : Trail) :
    ((resolveWithoutConditions registry scope document).run trail).1 =
      outcomeWithoutConditions registry scope document := by
  have sections := (resolveSections_yields (Resolver.resolve_yields registry scope) document).map
    Value.map
  exact congrArg (fun resolution : Resolution => { resolution with isComplete := false })
    (fold_run sections _ _ _ trail)

theorem resolvePruned_run (registry : Registry) (config : Config) (document : Entries Value)
    (parameters : Parameters) (results : Condition.Results) (trail : Trail) :
    ((resolvePruned registry config document parameters results).run trail).1 =
      outcomePruned registry config document parameters results := by
  unfold resolvePruned outcomePruned
  rw [← Condition.prune_run results (document.erase Condition.conditionsSection) trail]
  exact fold_run (Resolver.resolve_yields registry (scopeOfPruned config _ parameters results) _)
    _ _ _ _

/-- **What becomes of a template** does not depend on the trail. -/
theorem resolveAll_run (registry : Registry) (config : Config) (template : Value)
    (parameters : Parameters) (trail : Trail) :
    ((resolveAll registry config template parameters).run trail).1 =
      outcomeAll registry config template parameters := by
  unfold resolveAll outcomeAll
  cases template with
  | map document =>
    refine recover_run (conditionsOf_yields registry (scopeOf config (.map document) parameters))
      ?_ ?_ trail
    · intro error failed later
      dsimp only
      rw [failed]
      exact resolveWithoutConditions_run registry _ document _
    · intro results found later
      dsimp only
      rw [found]
      exact resolvePruned_run registry config document _ results later
  | _ => exact resolveFunctions_run registry config _ parameters trail

end CloudTemplate.Resolution
