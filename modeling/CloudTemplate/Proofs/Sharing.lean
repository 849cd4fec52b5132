import CloudTemplate.Workspace
import CloudTemplate.Proofs.Substitution.TokenPattern
import CloudTemplate.Proofs.Template.Compilation

/-!
# Shared caches

Resolvers that share a cache compile patterns for each other, and none of them can tell. A session
is a sequence of tasks for the resolvers of a workspace (`Workspace.performAll`). Each task is
answered as if its resolver had a cache of its own that is empty (`performAll_fst`), and a cache is
only ever asked for the texts of the tasks of resolvers that use it (`performAll_caches`). So the
answers do not depend on who shares what, and at any point of the session a cache that was empty at
first holds the patterns that it was asked for so far, each once, where it will hold them forever
(`Workspace.performAll_shared`).
-/

set_option autoImplicit false

namespace CloudTemplate

/-- What a resolver can be asked for. -/
inductive Task where
  /-- The pattern of a text. -/
  | compile (text : String)
  | resolve (parameters : Parameters) (template value : Value)
  | conditions (parameters : Parameters) (template : Value)
  | functions (parameters : Parameters) (template : Value)
  | all (parameters : Parameters) (template : Value)

namespace Task

/-- The answer to a task. -/
inductive Answer where
  | pattern (compiled : Except Pattern.Fault Pattern)
  | value (resolved : Except Error Value)
  | conditions (results : Except Error Condition.Results)
  | resolution (resolution : Resolution)

variable (registry : Registry) (config : Config)

/-- How a resolver carries a task out. -/
def action : Task → StateM Trail Answer
  | .compile text => Answer.pattern <$> Trail.compile text
  | .resolve parameters template value =>
    Answer.value <$> (Resolver.resolve registry ⟨config, parameters, template⟩ value).run
  | .conditions parameters template =>
    Answer.conditions <$> (Resolution.resolveConditions registry config template parameters).run
  | .functions parameters template =>
    Answer.resolution <$> Resolution.resolveFunctions registry config template parameters
  | .all parameters template =>
    Answer.resolution <$> Resolution.resolveAll registry config template parameters

/-- The answer of a resolver that starts with an empty cache. -/
def answer (task : Task) : Answer :=
  ((task.action registry config).run {}).1

/-- The texts of the patterns that a task needs. -/
def compilations : Task → List String
  | .compile text => [text]
  | .resolve parameters template value =>
    Resolver.compilations registry ⟨config, parameters, template⟩ value
  | .conditions parameters template =>
    Resolution.compilationsOfConditions registry (Resolution.scopeOf config template parameters)
  | .functions parameters template =>
    Resolver.compilations registry (Resolution.scopeOf config template parameters) template
  | .all parameters template =>
    Resolution.compilationsOfTemplate registry config template parameters

/-- The answer to a task does not depend on the trail that it finds. -/
theorem action_run_fst (task : Task) (trail : Trail) :
    ((task.action registry config).run trail).1 = task.answer registry config := by
  unfold answer
  cases task with
  | compile text =>
    exact congrArg Answer.pattern
      ((trail.cache.get_fst text).trans (PatternCache.empty.get_fst text).symm)
  | resolve parameters template value =>
    have yields := Resolver.resolve_yields registry ⟨config, parameters, template⟩ value
    exact congrArg Answer.value ((yields trail).trans (yields {}).symm)
  | conditions parameters template =>
    have yields := Resolution.resolveConditions_yields registry config template parameters
    exact congrArg Answer.conditions ((yields trail).trans (yields {}).symm)
  | functions parameters template =>
    have run := Resolution.resolveFunctions_run registry config template parameters
    exact congrArg Answer.resolution ((run trail).trans (run {}).symm)
  | all parameters template =>
    have run := Resolution.resolveAll_run registry config template parameters
    exact congrArg Answer.resolution ((run trail).trans (run {}).symm)

/-- A task leaves the cache that it finds, asked for the texts that it needs. -/
theorem action_compiles (task : Task) :
    Trail.Compiles (task.action registry config) (task.compilations registry config) := by
  cases task with
  | compile text => exact (Trail.Compiles.compile text).map _
  | resolve parameters template value =>
    exact ((Resolver.resolve_accounts registry _).compiles value).map _
  | conditions parameters template =>
    exact (Resolution.resolveConditions_compiles registry config template parameters).map _
  | functions parameters template =>
    exact (Resolution.resolveFunctions_compiles registry config template parameters).map _
  | all parameters template =>
    exact (Resolution.resolveAll_compiles registry config template parameters).map _

end Task

/-- A substitution in a text alone has the pattern of tokens compiled, even if it is kept. -/
theorem Substitution.compilations_sub (key name text : String) (scope : Scope)
    {answer : Value → Except Error Value} (same : answer (.string text) = .ok (.string text))
    (inner : Value → List String) :
    (sub ⟨key, name, .string text, scope⟩).compilations answer inner =
      inner (.string text) ++ [tokenPattern] := by
  change inner (.string text) ++ afterwards (answer (.string text)) _ = _
  rw [same]
  change inner (.string text) ++ tokenPattern :: Program.compilations answer inner _ = _
  rw [compile_tokenPattern]
  dsimp only [Program.bind]
  cases substitute ⟨key, name, .string text, scope⟩ [] (pieces text.toList) <;> rfl

namespace Workspace

/-- Has a resolver carry a task out. -/
def perform (workspace : Workspace) (member : Member) (task : Task) : Task.Answer × Workspace :=
  workspace.withCache member (task.action (workspace.registryOf member) member.config)

/-- Has resolvers carry tasks out one after the other. -/
def performAll (workspace : Workspace) :
    List (Member × Task) → List Task.Answer × Workspace
  | [] => ([], workspace)
  | (member, task) :: steps =>
    let (answer, workspace) := workspace.perform member task
    let (answers, workspace) := workspace.performAll steps
    (answer :: answers, workspace)

/-- The answer to a step of a resolver that has an empty cache of its own. -/
def answerAlone (workspace : Workspace) (step : Member × Task) : Task.Answer :=
  step.2.answer (workspace.registryOf step.1) step.1.config

/-- The texts that the cache with a number is asked for in a step. -/
def requested (workspace : Workspace) (shared : Nat) (step : Member × Task) : List String :=
  if step.1.cache = shared then
    step.2.compilations (workspace.registryOf step.1) step.1.config
  else []

variable (workspace : Workspace)

/-! ## One step -/

theorem perform_fst (member : Member) (task : Task) :
    (workspace.perform member task).1 = workspace.answerAlone (member, task) :=
  task.action_run_fst (workspace.registryOf member) member.config _

theorem perform_registries (member : Member) (task : Task) :
    (workspace.perform member task).2.registries = workspace.registries := rfl

/-- In a step, one cache is asked for texts, and the others stay as they are. -/
theorem perform_caches (member : Member) (task : Task) (shared : Nat) :
    (workspace.perform member task).2.caches[shared]? =
      workspace.caches[shared]?.map (·.after (workspace.requested shared (member, task))) := by
  have step : (workspace.perform member task).2.caches =
      workspace.caches.set member.cache ((workspace.cacheOf member).after
        (task.compilations (workspace.registryOf member) member.config)) :=
    congrArg (workspace.caches.set member.cache)
      (task.action_compiles (workspace.registryOf member) member.config _)
  rw [step, List.getElem?_set]
  unfold requested
  by_cases used : member.cache = shared
  · subst used
    by_cases there : member.cache < workspace.caches.length
    · simp [there, cacheOf]
    · simp [there]
  · simp [used]

/-! ## Sessions -/

theorem answerAlone_congr {other : Workspace} (same : other.registries = workspace.registries) :
    other.answerAlone = workspace.answerAlone := by
  funext step
  unfold answerAlone registryOf
  rw [same]

theorem requested_congr {other : Workspace} (same : other.registries = workspace.registries)
    (shared : Nat) : other.requested shared = workspace.requested shared := by
  funext step
  unfold requested registryOf
  rw [same]

/-- Every task is answered as if its resolver had a cache of its own. -/
theorem performAll_fst (steps : List (Member × Task)) :
    (workspace.performAll steps).1 = steps.map workspace.answerAlone := by
  induction steps generalizing workspace with
  | nil => rfl
  | cons step steps ih =>
    obtain ⟨member, task⟩ := step
    have rest := ih (workspace.perform member task).2
    rw [answerAlone_congr workspace (workspace.perform_registries member task)] at rest
    rw [List.map_cons, ← rest, ← workspace.perform_fst member task]
    rfl

/-- A cache is asked for the texts of the tasks of resolvers that use it. -/
theorem performAll_caches (steps : List (Member × Task)) (shared : Nat) :
    (workspace.performAll steps).2.caches[shared]? =
      workspace.caches[shared]?.map (·.after (steps.flatMap (workspace.requested shared))) := by
  induction steps generalizing workspace with
  | nil => simp [performAll]
  | cons step steps ih =>
    obtain ⟨member, task⟩ := step
    have rest := ih (workspace.perform member task).2
    rw [requested_congr workspace (workspace.perform_registries member task),
      workspace.perform_caches, Option.map_map] at rest
    rw [List.flatMap_cons]
    refine rest.trans (congrArg (Option.map · _) ?_)
    funext cache
    exact (cache.after_append _ _).symm

/-- **Sharing a cache is invisible**: in a session each task is answered as with an empty cache. At
any point, a cache that was empty at first holds exactly the patterns of the texts that it was asked
for and that compile. It holds each text once, and all that it holds stays where it is. -/
theorem performAll_shared {shared : Nat} (unused : workspace.caches[shared]? = some .empty)
    (before after : List (Member × Task)) :
    (workspace.performAll (before ++ after)).1 = (before ++ after).map workspace.answerAlone ∧
      ∃ early late,
        (workspace.performAll before).2.caches[shared]? = some early ∧
        (workspace.performAll (before ++ after)).2.caches[shared]? = some late ∧
        early.patterns.Distinct ∧
        (∀ text pattern, early.patterns.get? text = some pattern ↔
          text ∈ before.flatMap (workspace.requested shared) ∧
            Pattern.compile text = .ok pattern) ∧
        early.patterns <+: late.patterns := by
  have kept : ∀ steps, (workspace.performAll steps).2.caches[shared]? =
      some (PatternCache.empty.after (steps.flatMap (workspace.requested shared))) := by
    intro steps
    rw [performAll_caches, unused]
    rfl
  refine ⟨workspace.performAll_fst _, _, _, kept before, kept (before ++ after), ?_, ?_, ?_⟩
  · exact PatternCache.empty.distinct_after List.nodup_nil _
  · intro text pattern
    exact (PatternCache.empty.get?_after _ text pattern).trans (or_iff_right nofun)
  · rw [List.flatMap_append, PatternCache.after_append]
    exact PatternCache.prefix_after _ _

/-- The configuration of a resolver whose calls look different. -/
def otherMarks : Config := { Config.standard with functionMark := "Call::" }

/-- A resolver of a workspace. -/
def owner : Member := ⟨Config.standard, 0, 0⟩

/-- Another resolver, which shares the cache of the first. -/
def guest : Member := ⟨otherMarks, 1, 0⟩

/-- The workspace of the two resolvers. -/
def pair : Workspace :=
  ((Workspace.create {} Config.standard).1.shareCache owner otherMarks).1

/-- A text that is no pattern is to be matched. -/
def unmatchable : Value :=
  .ofCall "Fn::MatchPattern" (.list [.string "(", .string "x"])

/-- A template with a name that is only known later. -/
def laterName : Value :=
  .map [("Name", .ofCall "Call::Sub" (.string "$\x7bLater\x7d"))]

theorem requested_laterName :
    pair.requested 0 (guest, .all [] laterName) = [Substitution.tokenPattern] := by
  let scope := Resolution.scopeOfPruned otherMarks laterName [] []
  have resolved : Resolver.outcome Registry.standard scope 510 (.string "$\x7bLater\x7d") =
      .ok (.string "$\x7bLater\x7d") := rfl
  have call := Substitution.compilations_sub "Call::Sub" "Sub" "$\x7bLater\x7d" scope resolved
    (Resolver.compilationsWithin Registry.standard scope 510)
  change (_ ++ afterwards _ fun _ => []) = _
  rw [afterwards_nil, List.append_nil]
  exact call

/-- One resolver fails to compile a pattern, and the other has the pattern of tokens compiled for a
call that it keeps. The first one finds this pattern in the cache and no other. -/
theorem performAll_shared_pair :
    let before := [(owner, Task.resolve [] .null unmatchable), (guest, Task.all [] laterName)]
    let after := [(owner, Task.compile Substitution.tokenPattern)]
    pair.caches[0]? = some .empty ∧
      (pair.performAll (before ++ after)).1 = (before ++ after).map pair.answerAlone ∧
      ∃ early late,
        (pair.performAll before).2.caches[0]? = some early ∧
        (pair.performAll (before ++ after)).2.caches[0]? = some late ∧
        early.patterns.get? "(" = none ∧
        early.patterns.get? Substitution.tokenPattern = some Substitution.tokens ∧
        early.patterns.Distinct ∧ early.patterns <+: late.patterns := by
  intro before after
  have unused : pair.caches[0]? = some .empty := rfl
  have first : pair.requested 0 (owner, .resolve [] .null unmatchable) = ["("] := rfl
  have asked : before.flatMap (pair.requested 0) = ["(", Substitution.tokenPattern] := by
    dsimp only [before]
    rw [List.flatMap_cons, List.flatMap_singleton, first, requested_laterName]
    rfl
  obtain ⟨answers, early, late, here, there, distinct, holds, kept⟩ :=
    pair.performAll_shared unused before after
  rw [asked] at holds
  refine ⟨unused, answers, early, late, here, there, ?_, ?_, distinct, kept⟩
  · refine Option.eq_none_iff_forall_ne_some.2 fun pattern found => ?_
    cases ((holds _ pattern).1 found).2
  · exact (holds _ _).2 ⟨by simp, Substitution.compile_tokenPattern⟩

end Workspace

end CloudTemplate
