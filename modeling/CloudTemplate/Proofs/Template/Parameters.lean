import CloudTemplate.Proofs.Agreement
import CloudTemplate.Proofs.Template.Outcome

/-!
# The parameters of a template

The parameters under which a template is resolved are those given explicitly, and those that the
template declares with a value. An explicit one comes first, whatever the order in which the others
are declared (`get?_mergedParameters`). Of a template, resolution looks at the declarations and at
the tables only, and templates that have the same ones are resolved in scopes that agree
(`scopeOf_agrees_of_sections`).
-/

set_option autoImplicit false

namespace CloudTemplate.Resolution

/-- The value that a template declares for a parameter. -/
def declared? (config : Config) (template : Value) (name : String) : Option Value := do
  let declarations ← template.get? parametersSection
  let declaration ← declarations.get? name
  declaration.get? config.resolvedValueField

/-- A parameter is added under a name that is free. -/
theorem get?_complete (parameters : Parameters) (name wanted : String) (value : Value) :
    (complete parameters name value).get? wanted =
      (parameters.get? wanted).or (if name = wanted then some value else none) := by
  unfold complete
  by_cases known : parameters.contains name
  · rw [if_pos known]
    by_cases same : name = wanted
    · subst same
      obtain ⟨first, found⟩ := Option.isSome_iff_exists.1 known
      rw [found]
      rfl
    · rw [if_neg same, Option.or_none]
  · rw [if_neg known, Entries.get?_insert]
    by_cases same : name = wanted
    · subst same
      have absent : parameters.get? name = none := Option.not_isSome_iff_eq_none.1 known
      rw [if_pos rfl, if_pos rfl, absent]
      rfl
    · rw [if_neg same, if_neg same, Option.or_none]

/-- Declarations are added one after the other, each under its own name. -/
theorem get?_foldl_complete (config : Config) {declared : Entries Value}
    (distinct : declared.Distinct) (parameters : Parameters) (wanted : String) :
    Entries.get? (declared.foldl
        (fun merged entry =>
          match entry.2.get? config.resolvedValueField with
          | some value => complete merged entry.1 value
          | none => merged)
        parameters) wanted =
      (parameters.get? wanted).or
        ((declared.get? wanted).bind (·.get? config.resolvedValueField)) := by
  induction declared generalizing parameters with
  | nil => simp
  | cons entry declared ih =>
    obtain ⟨absent, rest⟩ : entry.1 ∉ Entries.keys declared ∧ Entries.Distinct declared :=
      List.nodup_cons.1 distinct
    rw [List.foldl_cons, ih rest, Entries.get?_cons]
    by_cases here : entry.1 = wanted
    · have elsewhere := (Entries.get?_eq_none_iff declared wanted).2 (here ▸ absent)
      rw [if_pos here, elsewhere, Option.bind_some, Option.bind_none, Option.or_none]
      cases entry.2.get? config.resolvedValueField with
      | some value => rw [get?_complete, if_pos here]
      | none => rw [Option.or_none]
    · rw [if_neg here]
      cases entry.2.get? config.resolvedValueField with
      | some value => rw [get?_complete, if_neg here, Option.or_none]
      | none => rfl

/-- **An explicit parameter comes before the value that the template declares for it.** -/
theorem get?_mergedParameters (config : Config) {template : Value}
    (distinct : template.DistinctKeys) (parameters : Parameters) (name : String) :
    (mergedParameters config template parameters).get? name =
      (parameters.get? name).or (declared? config template name) := by
  unfold mergedParameters declared?
  cases found : template.get? parametersSection with
  | none => simp
  | some declarations =>
    cases declarations with
    | map declared =>
      have once : Entries.Distinct declared :=
        (Value.distinctKeys_of_within (Value.within_of_get? found) distinct).1
      exact get?_foldl_complete config once parameters name
    | _ => simp [Value.get?]

/-- Templates that declare the same have the same parameters. -/
theorem mergedParameters_congr (config : Config) {template other : Value}
    (same : other.get? parametersSection = template.get? parametersSection)
    (parameters : Parameters) :
    mergedParameters config other parameters = mergedParameters config template parameters := by
  unfold mergedParameters
  rw [same]

/-- Templates that have the same parameters and tables are resolved in scopes that agree. -/
theorem scopeOf_agrees_of_sections (config : Config) {template other : Value}
    (declared : other.get? parametersSection = template.get? parametersSection)
    (tables : other.get? Mapping.tablesSection = template.get? Mapping.tablesSection)
    (parameters : Parameters) :
    (scopeOf config template parameters).Agrees (scopeOf config other parameters) := by
  refine ⟨⟨config.maxDepth, rfl⟩, fun name => ?_, fun table outer inner => ?_⟩
  · unfold scopeOf
    rw [mergedParameters_congr config declared]
  · unfold scopeOf Mapping.entry?
    rw [tables]

end CloudTemplate.Resolution
