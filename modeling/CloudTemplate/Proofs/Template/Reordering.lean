import Mathlib.Data.List.Forall2
import CloudTemplate.Proofs.BuiltIn
import CloudTemplate.Proofs.Template.Parameters

/-!
# Templates with reordered conditions

Two templates may differ in nothing but the order in which their conditions are declared
(`Reordered`). Then they have the same parameters, and the scopes in which their values are resolved
agree (`Reordered.scopeOf_agrees`), because nothing is looked up among the conditions. So the
conditions have the same truth in both (`Reordered.outcomeConditions_alike`), the same entries are
removed, and what is left resolves to the same value (`outcomePruned_congr`). If the conditions have
no truth, the other sections still resolve to the same values (`outcomeSections_alike`).

All in all the same becomes of both templates (`resolveAll_reordered`): only where the conditions
are given back unevaluated do they stand in the order in which they were declared.
-/

set_option autoImplicit false

namespace CloudTemplate.Resolution

open Condition (conditionsSection Results)

/-- The sections are the same, but for the order of the conditions. -/
inductive SectionReordered : String × Value → String × Value → Prop
  | same (entry : String × Value) : SectionReordered entry entry
  | conditions {conditions others : Entries Value} (same : conditions.Perm others) :
      SectionReordered (conditionsSection, .map conditions) (conditionsSection, .map others)

/-- The templates are the same, but for the order of the conditions. -/
inductive Reordered : Value → Value → Prop
  | same (template : Value) : Reordered template template
  | sections {document other : Entries Value}
      (all : List.Forall₂ SectionReordered document other) : Reordered (.map document) (.map other)

/-- The truth of the conditions is not known for either template, or it is the same. -/
inductive SameTruth : Option Results → Option Results → Prop
  | unknown : SameTruth none none
  | known {results others : Results} (same : results.Perm others) :
      SameTruth (some results) (some others)

/-- A section of a well-formed template is well formed. -/
theorem distinct_of_get? {template : Value} (distinct : template.DistinctKeys) {name : String}
    {entries : Entries Value} (found : template.get? name = some (.map entries)) :
    entries.Distinct :=
  (Value.distinctKeys_of_within (Value.within_of_get? found) distinct).1

section Sections

variable {document other : Entries Value} (all : List.Forall₂ SectionReordered document other)
include all

/-- All sections but the conditions are the same. -/
theorem SectionReordered.get?_eq {name : String} (elsewhere : name ≠ conditionsSection) :
    document.get? name = other.get? name := by
  induction all with
  | nil => rfl
  | cons here _ ih =>
    rw [Entries.get?_cons, Entries.get?_cons, ih]
    cases here with
    | same => rfl
    | conditions same => rw [if_neg elsewhere.symm, if_neg elsewhere.symm]

/-- The conditions are the same, but for their order. -/
theorem SectionReordered.get?_conditions :
    document.get? conditionsSection = other.get? conditionsSection ∨
      ∃ conditions others, document.get? conditionsSection = some (.map conditions) ∧
        other.get? conditionsSection = some (.map others) ∧ conditions.Perm others := by
  induction all with
  | nil => exact .inl rfl
  | @cons entry _ _ _ here _ ih =>
    rw [Entries.get?_cons, Entries.get?_cons]
    cases here with
    | same =>
      by_cases named : entry.1 = conditionsSection
      · rw [if_pos named, if_pos named]
        exact .inl rfl
      · rw [if_neg named, if_neg named]
        exact ih
    | conditions same =>
      rw [if_pos rfl, if_pos rfl]
      exact .inr ⟨_, _, rfl, rfl, same⟩

/-- Without the conditions nothing differs. -/
theorem SectionReordered.erase_eq :
    document.erase conditionsSection = other.erase conditionsSection := by
  induction all with
  | nil => rfl
  | cons here _ ih =>
    rw [Entries.erase_cons, Entries.erase_cons, ih]
    cases here with
    | same => rfl
    | conditions same => rw [if_pos rfl, if_pos rfl]

end Sections

namespace Reordered

variable {template other : Value} (reordered : Reordered template other)
include reordered

theorem get?_eq {name : String} (elsewhere : name ≠ conditionsSection) :
    template.get? name = other.get? name := by
  cases reordered with
  | same => rfl
  | sections all => exact SectionReordered.get?_eq all elsewhere

theorem mergedParameters_eq (config : Config) (parameters : Parameters) :
    mergedParameters config other parameters = mergedParameters config template parameters :=
  mergedParameters_congr config (reordered.get?_eq (by decide)).symm parameters

/-- Values are resolved alike in both templates. -/
theorem scopeOf_agrees (config : Config) (parameters : Parameters) :
    (scopeOf config template parameters).Agrees (scopeOf config other parameters) :=
  scopeOf_agrees_of_sections config (reordered.get?_eq (by decide)).symm
    (reordered.get?_eq (by decide)).symm parameters

theorem get?_conditions :
    template.get? conditionsSection = other.get? conditionsSection ∨
      ∃ conditions others, template.get? conditionsSection = some (.map conditions) ∧
        other.get? conditionsSection = some (.map others) ∧ conditions.Perm others := by
  cases reordered with
  | same => exact .inl rfl
  | sections all => exact SectionReordered.get?_conditions all

/-- The conditions of both templates have the same truth. -/
theorem outcomeConditions_alike {registry : Registry} (respects : registry.Respects)
    (config : Config) (parameters : Parameters) (distinct : template.DistinctKeys) :
    Alike (fun found again : Results => found.Distinct ∧ found.Perm again)
      (outcomeConditions registry (scopeOf config template parameters))
      (outcomeConditions registry (scopeOf config other parameters)) := by
  have answers := Resolver.outcome_eq_of_agrees respects
    (reordered.scopeOf_agrees config parameters) rfl config.maxDepth
  unfold outcomeConditions
  dsimp only [scopeOf] at answers ⊢
  rw [answers]
  rcases reordered.get?_conditions with same | ⟨conditions, others, here, there, same⟩
  · rw [← same]
    cases declared : template.get? conditionsSection with
    | none => exact .found ⟨List.nodup_nil, .refl _⟩
    | some body =>
      cases body with
      | map conditions =>
        exact Condition.judgeAll_perm (distinct_of_get? distinct declared) (.refl _) _ _
      | _ => exact .found ⟨List.nodup_nil, .refl _⟩
  · rw [here, there]
    exact Condition.judgeAll_perm (distinct_of_get? distinct here) same _ _

end Reordered

/-! ## Conditions that have no truth -/

/-- The sections without the conditions resolve to the same values. -/
theorem outcomeSections_alike (answer : Value → Except Error Value) {document other : Entries Value}
    (all : List.Forall₂ SectionReordered document other) :
    Alike (List.Forall₂ SectionReordered) (outcomeSections answer document)
      (outcomeSections answer other) := by
  induction all with
  | nil => exact .found .nil
  | @cons entry last document other here _ ih =>
    unfold outcomeSections at ih ⊢
    rw [List.mapM_cons, List.mapM_cons]
    have first : Alike SectionReordered
        ((entry.1, ·) <$> if entry.1 = conditionsSection then .ok entry.2 else answer entry.2)
        ((last.1, ·) <$> if last.1 = conditionsSection then .ok last.2 else answer last.2) := by
      cases here with
      | same => exact .of_eq .same _
      | conditions same =>
        rw [if_pos rfl, if_pos rfl]
        exact .found (.conditions same)
    exact first.bind fun _ _ here => ih.bind fun _ _ rest => .found (.cons here rest)

/-- Templates whose conditions have no truth are given back with the conditions in their order. -/
theorem outcomeWithoutConditions_reordered {registry : Registry} {scope later : Scope}
    {document other : Entries Value} (all : List.Forall₂ SectionReordered document other)
    (here : scope.template = .map document) (there : later.template = .map other)
    (answers : Resolver.outcome registry later later.config.maxDepth =
      Resolver.outcome registry scope scope.config.maxDepth) :
    Reordered (outcomeWithoutConditions registry scope document).template
      (outcomeWithoutConditions registry later other).template := by
  unfold outcomeWithoutConditions
  rw [answers, here, there]
  dsimp only
  have alike := outcomeSections_alike (Resolver.outcome registry scope scope.config.maxDepth) all
  generalize outcomeSections _ document = first at alike ⊢
  generalize outcomeSections _ other = second at alike ⊢
  cases alike with
  | failed => exact .sections all
  | found rest => exact .sections rest

/-! ## Conditions that have a truth -/

/-- The values at names after merging the truth of conditions. -/
theorem get?_scopeOfPruned (config : Config) (template : Value) (parameters : Parameters)
    {results : Results} (once : results.Distinct) (name : String) :
    (scopeOfPruned config template parameters results).parameters.get? name =
      ((results.get? name).map Value.bool).or (parameters.get? name) := by
  have keys : Entries.Distinct (results.map fun result => (result.1, Value.bool result.2)) := by
    unfold Entries.Distinct Entries.keys
    rw [List.map_map]
    exact once
  unfold scopeOfPruned
  rw [Entries.get?_merge parameters keys, Entries.get?_map]

/-- Pruning with the same truth leaves the same template, which resolves to the same value. -/
theorem outcomePruned_congr {registry : Registry} (respects : registry.Respects) (config : Config)
    {document other : Entries Value} (parameters : Parameters) {results again : Results}
    (erased : document.erase conditionsSection = other.erase conditionsSection)
    (once : results.Distinct) (same : results.Perm again) :
    outcomePruned registry config other parameters again =
      { outcomePruned registry config document parameters results with
        conditions := some again } := by
  have truth := Entries.get?_eq_of_perm once same
  have agrees : ∀ template : Value, (scopeOfPruned config template parameters results).Agrees
      (scopeOfPruned config template parameters again) := by
    intro template
    refine ⟨⟨config.maxDepth, rfl⟩, fun name => ?_, fun _ _ _ => rfl⟩
    rw [get?_scopeOfPruned config template parameters once,
      get?_scopeOfPruned config template parameters (once.perm same), truth name]
  have answers := fun template =>
    Resolver.outcome_eq_of_agrees respects (agrees template) rfl config.maxDepth
  unfold outcomePruned
  rw [← erased, Condition.pruned_congr truth]
  dsimp only
  rw [answers]
  unfold folded
  split <;> rfl

/-! ## All in all -/

theorem SameTruth.refl (conditions : Option Results) : SameTruth conditions conditions := by
  cases conditions with
  | none => exact .unknown
  | some results => exact .known (.refl results)

/-- What becomes of templates that differ in the order of their conditions. -/
theorem outcomeAll_reordered {registry : Registry} (respects : registry.Respects) (config : Config)
    {template other : Value} (reordered : Reordered template other)
    (distinct : template.DistinctKeys) (parameters : Parameters) :
    let first := outcomeAll registry config template parameters
    let second := outcomeAll registry config other parameters
    first.isComplete = second.isComplete ∧ SameTruth first.conditions second.conditions ∧
      Reordered first.template second.template ∧
      (first.conditions ≠ none → first.template = second.template) := by
  have alike := reordered.outcomeConditions_alike respects config parameters distinct
  have declared : (scopeOf config other parameters).parameters =
      (scopeOf config template parameters).parameters :=
    reordered.mergedParameters_eq config parameters
  have answers := Resolver.outcome_eq_of_agrees respects
    (reordered.scopeOf_agrees config parameters) rfl config.maxDepth
  intro first second
  cases reordered with
  | same => exact ⟨rfl, .refl _, .same _, fun _ => rfl⟩
  | @sections document others all =>
    dsimp only [first, second, outcomeAll]
    generalize outcomeConditions registry (scopeOf config (.map document) parameters) = here
      at alike ⊢
    generalize outcomeConditions registry (scopeOf config (.map others) parameters) = there
      at alike ⊢
    cases alike with
    | failed =>
      have unknown : ∀ scope sections,
          (outcomeWithoutConditions registry scope sections).conditions = none :=
        fun _ _ => conditions_folded _ _ _
      dsimp only
      rw [unknown, unknown]
      exact ⟨rfl, .unknown, outcomeWithoutConditions_reordered all rfl rfl answers, fun known =>
        absurd rfl known⟩
    | @found results again equal =>
      have known : (outcomePruned registry config document
          (scopeOf config (.map document) parameters).parameters results).conditions =
            some results := conditions_folded _ _ _
      dsimp only
      have erased := SectionReordered.erase_eq all
      rw [declared, outcomePruned_congr respects config _ erased equal.1 equal.2]
      refine ⟨rfl, ?_, .same _, fun _ => rfl⟩
      rw [known]
      exact .known equal.2

/-- **The order in which conditions are declared does not matter**: the same becomes of templates
that differ in nothing else. Either the resolution of both is complete or of none, and the
conditions have no truth in both or the same in both. The templates given back are the same too:
those whose conditions could not be evaluated but for the order of these, and all others as they
stand. -/
theorem resolveAll_reordered {registry : Registry} (builtIn : registry.BuiltIn) (config : Config)
    {template other : Value} (reordered : Reordered template other)
    (distinct : template.DistinctKeys) (parameters : Parameters) (trail later : Trail) :
    let first := ((resolveAll registry config template parameters).run trail).1
    let second := ((resolveAll registry config other parameters).run later).1
    first.isComplete = second.isComplete ∧ SameTruth first.conditions second.conditions ∧
      Reordered first.template second.template ∧
      (first.conditions ≠ none → first.template = second.template) ∧
      ((∃ results,
          (resolveConditions registry config template parameters).resultFrom trail = .ok results) ↔
        ∃ results,
          (resolveConditions registry config other parameters).resultFrom later = .ok results) := by
  have conditions := reordered.outcomeConditions_alike builtIn.respects config parameters distinct
  rw [resolveAll_run, resolveAll_run, resolveConditions_yields registry config template parameters,
    resolveConditions_yields registry config other parameters]
  obtain ⟨complete, truth, templates, equal⟩ :=
    outcomeAll_reordered builtIn.respects config reordered distinct parameters
  exact ⟨complete, truth, templates, equal, conditions.exists_ok_iff⟩

/-- A template with the given conditions, whose only resource needs one of them. -/
def conditional (conditions : Entries Value) : Value :=
  .map [(conditionsSection, .map conditions),
    ("Resources", .map [("Kept", .map [(Condition.nameKey, .string "Other")])])]

/-- A condition may be declared before the one that it negates, or after it. -/
theorem resolveAll_reordered_negated :
    Reordered (conditional Condition.negated) (conditional Condition.negated.reverse) ∧
      (conditional Condition.negated).DistinctKeys ∧
      SameTruth (some [("One", false), ("Other", true)])
        ((resolveAll Registry.standard Config.standard (conditional Condition.negated.reverse)
          [("Size", .string "large")]).run {}).1.conditions := by
  have reordered : Reordered (conditional Condition.negated)
      (conditional Condition.negated.reverse) :=
    .sections (.cons (.conditions (List.reverse_perm _).symm) (.cons (.same _) .nil))
  have distinct : (conditional Condition.negated).DistinctKeys := by
    simp [conditional, Condition.negated, Value.DistinctKeys, Value.DistinctKeysOfEntries,
      Value.DistinctKeysOfItems, Entries.Distinct, Entries.keys, conditionsSection]
  have known : ((resolveAll Registry.standard Config.standard (conditional Condition.negated)
      [("Size", .string "large")]).run {}).1.conditions =
        some [("One", false), ("Other", true)] := by
    rw [resolveAll_run]
    rfl
  refine ⟨reordered, distinct, ?_⟩
  rw [← known]
  exact (resolveAll_reordered Registry.standard_builtIn Config.standard reordered distinct
    [("Size", .string "large")] {} {}).2.1

end CloudTemplate.Resolution
