import CloudTemplate.Proofs.Lines
import CloudTemplate.Proofs.Template.Outcome

/-!
# What the lines tell about a template

Besides the traces of its values, the resolution of a template leaves a line for the order of the
conditions and for the truth of each, for each entry that is removed and for their number, and for
each error. Which lines these are is determined by the results: conditions are told as they are
found (`Condition.evaluateAll_tells`), entries as they are removed (`Condition.prune_tells`), and
every error is warned of (`Resolution.fold_tells`). The lines for a template are those of its parts,
one after the other (`Resolution.resolveAll_tells`).
-/

set_option autoImplicit false

namespace CloudTemplate

open Trail

/-! ## Conditions -/

namespace Condition

/-- What is said of the order of evaluation. -/
def orderText (order : List String) : String :=
  "evaluating " ++ toString order.length ++ " conditions in order " ++ Text.quotedList order

def orderLine (order : List String) : LogLine :=
  ⟨.debug, orderText order⟩

/-- What is said of the truth of a condition. -/
def verdictText (verdict : String × Bool) : String :=
  "condition " ++ verdict.1 ++ " = " ++ toString verdict.2

def verdictLine (verdict : String × Bool) : LogLine :=
  ⟨.debug, verdictText verdict⟩

/-- The lines of an evaluation: the order, and then the truth of one condition after the other.
These are all results if there is no error. -/
def Reported (answered : Except Error Results) (told : List LogLine) : Prop :=
  ∃ (orders : List (List String)) (judged : Results),
    told = orders.map orderLine ++ judged.map verdictLine ∧
      ∀ results, answered = .ok results → results = judged

section Silent

variable {isCall : Value → Bool} {resolve : Value → Tracked Value}
  (silent : ∀ value, Silent (resolve value).run)
include silent

theorem evaluate_silent (results : Results) (name : String) (expression : Value) :
    Silent (evaluate isCall resolve results name expression).run := by
  have resolved := Tracked.adapt_silent (silent (substitute results expression))
    (Error.condition name)
  refine Tracked.bind_silent resolved fun value => ?_
  cases isCall value with
  | true => exact .pure _
  | false => exact .pure _

/-- The truth of each condition is told when it is found. -/
theorem evaluateInOrder_tells (conditions : Entries Value) (results : Results) (names : List String)
    (fresh : (results.keys ++ names).Nodup) :
    Tells (evaluateInOrder isCall resolve conditions results names).run fun answered told =>
      ∃ judged : Results, told = judged.map verdictLine ∧
        ∀ found, answered = .ok found → found = results ++ judged := by
  induction names generalizing results with
  | nil =>
    refine .pure ⟨[], rfl, fun found same => ?_⟩
    cases same
    exact (List.append_nil _).symm
  | cons name names ih =>
    unfold evaluateInOrder
    cases conditions.get? name with
    | none =>
      exact ih results (fresh.sublist ((List.sublist_cons_self name names).append_left _))
    | some expression =>
      refine Tracked.bind_tells (evaluate_silent silent results name expression) ?_ ?_
      · rintro error told rfl
        refine ⟨[], rfl, fun found same => ?_⟩
        cases same
      · rintro truth told rfl
        have new : name ∉ results.keys := fun known =>
          (List.nodup_append.1 fresh).2.2 name known name List.mem_cons_self rfl
        have inserted := Entries.insert_of_not_mem new truth
        have keys : (results.insert name truth).keys ++ names = results.keys ++ name :: names := by
          rw [Entries.keys_insert, if_neg new, List.append_assoc]
          rfl
        refine Tracked.noting_tells (by decide) ?_
        refine (ih (results.insert name truth) (keys ▸ fresh)).imp ?_
        rintro answered later ⟨judged, rfl, all⟩
        refine ⟨(name, truth) :: judged, rfl, fun found same => ?_⟩
        rw [all found same, inserted, List.append_assoc]
        rfl

theorem evaluateAll_tells {conditions : Entries Value} (distinct : conditions.Distinct) :
    Tells (evaluateAll isCall resolve conditions).run Reported := by
  have ordering : Tells (Attempt.ofExcept (Graph.ofConditions conditions).order : Tracked _).run
      fun answered told => answered = (Graph.ofConditions conditions).order ∧ told = [] :=
    .pure ⟨rfl, rfl⟩
  refine Tracked.bind_tells ordering ?_ ?_
  · rintro error told ⟨-, rfl⟩
    exact ⟨[], [], rfl, nofun⟩
  · rintro order told ⟨found, rfl⟩
    have nodup := (ordered_of_order distinct found.symm).nodup
    refine Tracked.noting_tells (by decide) ?_
    refine (evaluateInOrder_tells silent conditions [] order nodup).imp ?_
    rintro answered later ⟨judged, rfl, all⟩
    exact ⟨[order], judged, rfl, all⟩

end Silent

/-! ## Pruning -/

/-- The entries of a section that are removed. -/
def dropped (results : Results) (entries : Entries Value) : Entries Value :=
  entries.filter fun entry => !isKept results entry.2

/-- The entries of a section of a template, if there is such a section and it is a map. -/
def entriesAt (template : Entries Value) (name : String) : Entries Value :=
  match template.get? name with
  | some (.map entries) => entries
  | _ => []

/-- The entries that are removed from a section, with its name. -/
def removedAt (results : Results) (template : Entries Value) (name : String) :
    List (String × String) :=
  (dropped results (entriesAt template name)).map fun entry => (name, entry.1)

/-- What is said of an entry that is removed. -/
def removalText (place : String × String) : String :=
  "removing " ++ place.1 ++ "." ++ place.2 ++ ": condition is false or undeclared"

def removalLine (place : String × String) : LogLine :=
  ⟨.debug, removalText place⟩

theorem pruneEntries_tells (results : Results) (name : String) (entries : Entries Value) :
    Tells (pruneEntries results name entries) fun result told =>
      result = (kept results entries, (dropped results entries).length) ∧
        told = (dropped results entries).map fun entry => removalLine (name, entry.1) := by
  induction entries with
  | nil => exact .pure ⟨rfl, rfl⟩
  | cons entry entries ih =>
    obtain ⟨key, definition⟩ := entry
    unfold pruneEntries kept dropped
    rw [List.filter_cons, List.filter_cons]
    cases isKept results definition with
    | true =>
      simp only [if_true, Bool.not_true, Bool.false_eq_true, if_false]
      refine ih.bind fun result told holds => .pure ?_
      obtain ⟨rfl, rfl⟩ := holds
      exact ⟨rfl, List.append_nil _⟩
    | false =>
      simp only [if_true, Bool.not_false, Bool.false_eq_true, if_false]
      refine Tells.noting (by decide) (ih.bind fun result told holds => .pure ?_)
      obtain ⟨rfl, rfl⟩ := holds
      exact ⟨rfl, congrArg (_ :: ·) (List.append_nil _)⟩

theorem pruneSection_tells (results : Results) (template : Entries Value) (name : String) :
    Tells (pruneSection results template name) fun result told =>
      result = (prunedAt results template name, (removedAt results template name).length) ∧
        told = (removedAt results template name).map removalLine := by
  unfold pruneSection prunedAt removedAt entriesAt
  rw [List.length_map, List.map_map]
  cases template.get? name with
  | none => exact .pure ⟨rfl, rfl⟩
  | some body =>
    cases body with
    | map entries =>
      refine (pruneEntries_tells results name entries).bind fun result told holds => .pure ?_
      obtain ⟨rfl, rfl⟩ := holds
      exact ⟨rfl, List.append_nil _⟩
    | _ => exact .pure ⟨rfl, rfl⟩

/-- Pruning one section removes nothing from another. -/
theorem removedAt_prunedAt (results : Results) (template : Entries Value) {name other : String}
    (differ : other ≠ name) :
    removedAt results (prunedAt results template name) other =
      removedAt results template other := by
  unfold removedAt entriesAt
  rw [get?_prunedAt, if_neg differ]

theorem pruneSections_tells (results : Results) {names : List String} (nodup : names.Nodup)
    (template : Entries Value) :
    Tells (pruneSections results template names) fun result told =>
      result = (names.foldl (prunedAt results) template,
          (names.flatMap (removedAt results template)).length) ∧
        told = (names.flatMap (removedAt results template)).map removalLine := by
  induction names generalizing template with
  | nil => exact .pure ⟨rfl, rfl⟩
  | cons name names ih =>
    obtain ⟨absent, rest⟩ := List.nodup_cons.1 nodup
    have others : names.flatMap (removedAt results (prunedAt results template name)) =
        names.flatMap (removedAt results template) :=
      List.flatMap_congr fun other member =>
        removedAt_prunedAt results template fun same => absent (same ▸ member)
    refine (pruneSection_tells results template name).bind fun result told first => ?_
    obtain ⟨rfl, rfl⟩ := first
    refine (ih rest (prunedAt results template name)).bind fun result told holds => .pure ?_
    obtain ⟨rfl, rfl⟩ := holds
    rw [others, List.flatMap_cons, List.length_append, List.map_append, List.append_nil]
    exact ⟨rfl, rfl⟩

/-- The entries that are removed from a template. -/
def removals (results : Results) (template : Entries Value) : List (String × String) :=
  conditionalSections.flatMap (removedAt results template)

/-- **Each removed entry is told**, and they are counted. -/
theorem prune_tells (results : Results) (template : Entries Value) :
    Tells (prune results template) fun result told =>
      result = (pruned results template, (removals results template).length) ∧
        told = (removals results template).map removalLine :=
  pruneSections_tells results (by decide) template

end Condition

/-! ## Templates -/

namespace Resolution

/-- The line for an error. -/
def warning (what : String) (error : Error) : LogLine :=
  ⟨.warn, "[" ++ error.code.text ++ "] " ++ what ++ ": " ++ error.message⟩

/-- The lines for a result. -/
def complaints {α : Type} (what : String) : Except Error α → List LogLine
  | .ok _ => []
  | .error error => [warning what error]

@[simp] theorem complaints_map {α β : Type} (what : String) (f : α → β) (result : Except Error α) :
    complaints what (f <$> result) = complaints what result := by
  cases result <;> rfl

/-- Exactly an error is warned of. -/
theorem fold_tells {attempt : Tracked Value} (silent : Silent attempt.run)
    {result : Except Error Value} (yields : attempt.Yields result) (what : String)
    (fallback : Value) (conditions : Option Condition.Results) :
    Tells (fold attempt what fallback conditions) fun resolution told =>
      resolution = folded result fallback conditions ∧ told = complaints what result := by
  have answered : Tells attempt.run fun answered told => answered = result ∧ told = [] :=
    Tells.and_result silent yields
  refine Tells.bind answered fun value told holds => ?_
  obtain ⟨rfl, rfl⟩ := holds
  cases value with
  | ok resolved => exact .pure ⟨rfl, rfl⟩
  | error error =>
    exact Tells.noting (by decide) (.pure ⟨rfl, rfl⟩)

theorem resolveSections_silent {resolve : Value → Tracked Value}
    (silent : ∀ value, Silent (resolve value).run) (document : Entries Value) :
    Silent (resolveSections resolve document).run := by
  induction document with
  | nil => exact .pure _
  | cons entry document ih =>
    obtain ⟨name, body⟩ := entry
    unfold resolveSections
    have rest : ∀ first, Silent (do
        let sections ← resolveSections resolve document
        pure ((name, first) :: sections) : Tracked (Entries Value)).run :=
      fun _ => Tracked.bind_pure_silent ih _
    by_cases conditions : name = Condition.conditionsSection
    · rw [if_pos conditions]
      exact Tracked.bind_silent (.pure _) rest
    · rw [if_neg conditions]
      exact Tracked.bind_silent (silent body) rest

def failedFunctions : String := "function resolution failed, returning template unresolved"
def failedPruned : String := "function resolution failed, returning pruned template"
def failedConditions : String := "condition resolution failed, keeping Conditions unevaluated"

theorem resolveFunctions_tells (registry : Registry) (config : Config) (template : Value)
    (parameters : Parameters) :
    Tells (resolveFunctions registry config template parameters) fun resolution told =>
      let answered := Resolver.outcome registry (scopeOf config template parameters) config.maxDepth
        template
      resolution = folded answered template none ∧ told = complaints failedFunctions answered :=
  fold_tells (Resolver.resolve_silent registry _ template)
    (Resolver.resolve_yields registry (scopeOf config template parameters) template) _ _ _

theorem resolveWithoutConditions_tells (registry : Registry) (scope : Scope)
    (document : Entries Value) :
    Tells (resolveWithoutConditions registry scope document) fun resolution told =>
      resolution.isComplete = false ∧ resolution.conditions = none ∧
        told = complaints failedFunctions (outcomeSections
          (Resolver.outcome registry scope scope.config.maxDepth) document) := by
  have silent := resolveSections_silent (Resolver.resolve_silent registry scope) document
  have yields := resolveSections_yields (Resolver.resolve_yields registry scope) document
  refine (fold_tells (Tracked.map_silent silent Value.map) (yields.map Value.map)
    failedFunctions scope.template none).bind fun resolution told holds => .pure ?_
  obtain ⟨rfl, rfl⟩ := holds
  exact ⟨rfl, conditions_folded _ _ _, (List.append_nil _).trans (complaints_map _ _ _)⟩

theorem conditionsOf_tells (registry : Registry) {scope : Scope}
    (distinct : scope.template.DistinctKeys) :
    Tells (conditionsOf registry scope).run fun answered told =>
      answered = outcomeConditions registry scope ∧ Condition.Reported answered told := by
  refine Tells.and_result ?_ (conditionsOf_yields registry scope)
  unfold conditionsOf
  cases found : scope.template.get? Condition.conditionsSection with
  | none => exact .pure ⟨[], [], rfl, fun _ same => (Except.ok.inj same).symm⟩
  | some body =>
    cases body with
    | map conditions =>
      have once := Value.distinctKeys_of_within (Value.within_of_get? found) distinct
      exact Condition.evaluateAll_tells (Resolver.resolve_silent registry scope) once.1
    | _ => exact .pure ⟨[], [], rfl, fun _ same => (Except.ok.inj same).symm⟩

/-- What is said of the number of entries that are removed. -/
def countText (count : Nat) : String :=
  "pruned " ++ toString count ++ " conditional entries"

def countLine (count : Nat) : LogLine :=
  ⟨.debug, countText count⟩

/-- What a template resolves to after it has been pruned. -/
def answeredPruned (registry : Registry) (config : Config) (document : Entries Value)
    (parameters : Parameters) (results : Condition.Results) : Except Error Value :=
  let template :=
    Value.map (Condition.pruned results (document.erase Condition.conditionsSection))
  Resolver.outcome registry (scopeOfPruned config template parameters results) config.maxDepth
    template

/-- The lines for a template whose conditions are known. -/
def prunedLines (registry : Registry) (config : Config) (document : Entries Value)
    (parameters : Parameters) (results : Condition.Results) : List LogLine :=
  let removed := Condition.removals results (document.erase Condition.conditionsSection)
  removed.map Condition.removalLine ++ countLine removed.length ::
    complaints failedPruned (answeredPruned registry config document parameters results)

theorem resolvePruned_tells (registry : Registry) (config : Config) (document : Entries Value)
    (parameters : Parameters) (results : Condition.Results) :
    Tells (resolvePruned registry config document parameters results) fun resolution told =>
      resolution = outcomePruned registry config document parameters results ∧
        told = prunedLines registry config document parameters results := by
  refine (Condition.prune_tells results _).bind fun result told holds => ?_
  obtain ⟨rfl, rfl⟩ := holds
  refine Tells.noting (by decide) ?_
  refine (fold_tells (Resolver.resolve_silent registry _ _)
    (Resolver.resolve_yields registry (scopeOfPruned config _ parameters results) _) _ _ _).imp ?_
  rintro resolution told ⟨rfl, rfl⟩
  exact ⟨rfl, rfl⟩

/-- The lines for a template and what becomes of it. -/
inductive Told (registry : Registry) (config : Config) (document : Entries Value)
    (scope : Scope) : Resolution → List LogLine → Prop
  /-- The conditions are known, and the template is pruned. -/
  | pruned {results : Condition.Results} {reported : List LogLine}
      (known : outcomeConditions registry scope = .ok results)
      (report : Condition.Reported (.ok results) reported) :
      Told registry config document scope
        (outcomePruned registry config document scope.parameters results)
        (reported ++ prunedLines registry config document scope.parameters results)
  /-- The conditions cannot be evaluated, and nothing is pruned. -/
  | unpruned {error : Error} {reported : List LogLine} {resolution : Resolution}
      (failed : outcomeConditions registry scope = .error error)
      (report : Condition.Reported (.error error) reported)
      (incomplete : resolution.isComplete = false) (unknown : resolution.conditions = none) :
      Told registry config document scope resolution
        (reported ++ warning failedConditions error :: complaints failedFunctions
          (outcomeSections (Resolver.outcome registry scope scope.config.maxDepth) document))

/-- **What is told about a template** is determined by what becomes of it. -/
theorem resolveAll_tells (registry : Registry) (config : Config) {document : Entries Value}
    (distinct : (Value.map document).DistinctKeys) (parameters : Parameters) :
    Tells (resolveAll registry config (.map document) parameters)
      (Told registry config document (scopeOf config (.map document) parameters)) := by
  have evaluated :
      Tells (conditionsOf registry (scopeOf config (.map document) parameters)).run _ :=
    conditionsOf_tells registry distinct
  refine evaluated.bind fun answered reported holds => ?_
  obtain ⟨known, report⟩ := holds
  cases answered with
  | ok results =>
    refine (resolvePruned_tells registry config document _ results).imp ?_
    rintro resolution told ⟨rfl, rfl⟩
    exact .pruned known.symm report
  | error error =>
    refine Tells.noting (by decide) ?_
    refine (resolveWithoutConditions_tells registry _ document).imp ?_
    rintro resolution told ⟨incomplete, unknown, rfl⟩
    exact .unpruned known.symm report incomplete unknown

end Resolution

end CloudTemplate
