import CloudTemplate.Proofs.Shape
import CloudTemplate.Proofs.Template.Outcome

/-!
# Which resources and outputs a resolution leaves

Resolving calls changes what stands at the entries of a section, but not which entries there are
(`keys_of_outcome`). Only pruning removes entries. So the entries of a conditional section are
settled by the truth of the conditions, whatever else happens to the template: all of them are left
if that truth is not known, and those whose condition holds if it is, in the order in which the
template declares them (`resolveAll_keeps_entries`). A failure afterwards does not bring back what
was removed.
-/

set_option autoImplicit false

namespace CloudTemplate.Resolution

open Condition (conditionsSection conditionalSections nameKey kept pruned Results)

section Resolved

variable {registry : Registry} {scope : Scope} {levels : Nat}

/-- A map that is no call keeps its keys. -/
theorem keys_of_outcome {entries : Entries Value} {result : Value}
    (data : (Value.map entries).isCall scope.config = false)
    (found : Resolver.outcome registry scope levels (.map entries) = .ok result) :
    ∃ left : Entries Value, result = .map left ∧ left.keys = entries.keys := by
  cases levels with
  | zero => cases found
  | succ levels =>
    obtain ⟨left, rfl, all⟩ := (Resolver.outcome_map_eq_ok_iff data).1 found
    exact ⟨left, rfl, (EntryRel.keys_eq all).symm⟩

/-- The sections of a resolved map keep their keys, if neither the map nor the section is a call. -/
theorem keys_section_of_outcome {document entries : Entries Value} {resolved : Value}
    {name : String} (declared : document.get? name = some (.map entries))
    (plain : (Value.map document).isCall scope.config = false)
    (data : (Value.map entries).isCall scope.config = false)
    (found : Resolver.outcome registry scope levels (.map document) = .ok resolved) :
    ∃ left : Entries Value, resolved.get? name = some (.map left) ∧ left.keys = entries.keys := by
  cases levels with
  | zero => cases found
  | succ levels =>
    obtain ⟨sections, rfl, all⟩ := (Resolver.outcome_map_eq_ok_iff plain).1 found
    obtain ⟨body, here, answered⟩ := EntryRel.get? all declared
    obtain ⟨left, rfl, keys⟩ := keys_of_outcome data answered
    exact ⟨left, here, keys⟩

/-- The sections that are resolved one by one keep their keys, if they are no calls. -/
theorem keys_section_of_outcomeSections {document entries sections : Entries Value} {name : String}
    (declared : document.get? name = some (.map entries))
    (data : (Value.map entries).isCall scope.config = false)
    (found : outcomeSections (Resolver.outcome registry scope levels) document = .ok sections) :
    ∃ left : Entries Value, sections.get? name = some (.map left) ∧ left.keys = entries.keys := by
  have all : List.Forall₂ (EntryRel fun before after => after = before ∨
      Resolver.outcome registry scope levels before = .ok after) document sections := by
    refine (mapM_eq_ok_iff.1 found).imp fun before after resolved => ?_
    obtain ⟨body, here, rfl⟩ := map_eq_ok_iff.1 resolved
    refine ⟨rfl, ?_⟩
    by_cases conditions : before.1 = conditionsSection
    · rw [if_pos conditions] at here
      exact .inl (Except.ok.inj here).symm
    · rw [if_neg conditions] at here
      exact .inr here
  obtain ⟨body, here, same | answered⟩ := EntryRel.get? all declared
  · exact ⟨entries, same ▸ here, rfl⟩
  · obtain ⟨left, rfl, keys⟩ := keys_of_outcome data answered
    exact ⟨left, here, keys⟩

end Resolved

/-! ## Entries that stay -/

/-- An entry stays when the condition that it names holds, or if it names none. -/
theorem isKept_iff {results : Results} {definition : Value} :
    Condition.isKept results definition = true ↔
      ∀ condition, definition.get? nameKey = some (.string condition) →
        results.get? condition = some true := by
  unfold Condition.isKept
  split
  · next condition named =>
    rw [beq_iff_eq]
    constructor
    · intro holds other same
      rw [named] at same
      cases same
      exact holds
    · exact fun holds => holds condition named
  · next unnamed =>
    exact ⟨fun _ condition named => absurd named (unnamed condition), fun _ => rfl⟩

/-- The entries that stay are those whose conditions hold. -/
theorem mem_keys_kept_iff (results : Results) {entries : Entries Value}
    (distinct : entries.Distinct) {key : String} {definition : Value}
    (found : entries.get? key = some definition) :
    key ∈ (kept results entries).keys ↔
      ∀ condition, definition.get? nameKey = some (.string condition) →
        results.get? condition = some true := by
  unfold kept
  rw [Entries.mem_keys_filter_iff distinct, ← isKept_iff]
  constructor
  · rintro ⟨value, here, stays⟩
    rw [found] at here
    cases here
    exact stays
  · exact fun stays => ⟨definition, found, stays⟩

/-! ## All in all -/

/-- Where the conditions are not known, the entries of a section stay as they are. -/
theorem keys_outcomeWithoutConditions {registry : Registry} {scope : Scope}
    {document entries : Entries Value} {name : String} (whole : scope.template = .map document)
    (declared : document.get? name = some (.map entries))
    (data : (Value.map entries).isCall scope.config = false) :
    ∃ left : Entries Value,
      (outcomeWithoutConditions registry scope document).template.get? name = some (.map left) ∧
        left.keys = entries.keys := by
  unfold outcomeWithoutConditions
  dsimp only
  cases found : outcomeSections (Resolver.outcome registry scope scope.config.maxDepth)
      document with
  | ok sections => exact keys_section_of_outcomeSections declared data found
  | error error => exact ⟨entries, (congrArg (Value.get? · name) whole).trans declared, rfl⟩

/-- Where the conditions are known, the entries of a section are those that pruning leaves. -/
theorem keys_outcomePruned (registry : Registry) {config : Config}
    {document entries : Entries Value} (parameters : Parameters) {results : Results} {name : String}
    (distinct : document.Distinct) (conditional : name ∈ conditionalSections)
    (declared : document.get? name = some (.map entries))
    (plain : (Value.map (document.erase conditionsSection)).isCall config = false)
    (data : (Value.map (kept results entries)).isCall config = false) :
    ∃ left : Entries Value,
      (outcomePruned registry config document parameters results).template.get? name =
        some (.map left) ∧ left.keys = (kept results entries).keys := by
  have other : name ≠ conditionsSection := by
    rintro rfl
    exact absurd conditional (by decide)
  have here : (pruned results (document.erase conditionsSection)).get? name =
      some (.map (kept results entries)) := by
    rw [Condition.get?_pruned, if_pos conditional, Entries.get?_erase, if_neg other, declared]
    rfl
  have still : (Value.map (pruned results (document.erase conditionsSection))).isCall config =
      false := by
    rw [Value.isCall_eq_of_keys_eq
      (Condition.keys_pruned results (distinct.erase conditionsSection))]
    exact plain
  unfold outcomePruned
  dsimp only
  generalize found : Resolver.outcome registry _ config.maxDepth _ = resolved
  cases resolved with
  | ok template => exact keys_section_of_outcome here still data found
  | error error => exact ⟨kept results entries, here, rfl⟩

/-- **No resource is lost and none comes back.** If the truth of the conditions is not known, a
conditional section has all its entries. If it is, the section has those entries whose condition
holds or that name none. The order is that of the template. -/
theorem resolveAll_keeps_entries (registry : Registry) (config : Config)
    {document entries : Entries Value} (distinct : (Value.map document).DistinctKeys)
    (parameters : Parameters) (trail : Trail) {name : String}
    (conditional : name ∈ conditionalSections)
    (declared : document.get? name = some (.map entries)) :
    let whole := ((resolveAll registry config (.map document) parameters).run trail).1
    (whole.conditions = none → (Value.map entries).isCall config = false →
      ∃ left : Entries Value, whole.template.get? name = some (.map left) ∧
        left.keys = entries.keys) ∧
    (∀ results, whole.conditions = some results →
      (Value.map (document.erase conditionsSection)).isCall config = false →
      (Value.map (kept results entries)).isCall config = false →
      ∃ left : Entries Value, whole.template.get? name = some (.map left) ∧
        left.keys.Sublist entries.keys ∧
        ∀ key definition, entries.get? key = some definition →
          (key ∈ left.keys ↔ ∀ condition, definition.get? nameKey = some (.string condition) →
            results.get? condition = some true)) := by
  intro whole
  have resolved : whole = outcomeAll registry config (.map document) parameters :=
    resolveAll_run registry config _ parameters trail
  rw [resolved]
  unfold outcomeAll
  dsimp only
  cases outcomeConditions registry (scopeOf config (.map document) parameters) with
  | error error =>
    dsimp only
    refine ⟨fun _ data => keys_outcomeWithoutConditions rfl declared data, fun results known => ?_⟩
    exact absurd (known.symm.trans (conditions_folded _ _ _)) nofun
  | ok truth =>
    dsimp only
    refine ⟨fun unknown => absurd (unknown.symm.trans (conditions_folded _ _ _)) nofun, ?_⟩
    intro results known plain data
    obtain rfl : truth = results :=
      Option.some.inj ((conditions_folded _ _ _).symm.trans known)
    have inside : (Value.map entries).Within (.map document) :=
      .child (Entries.mem_of_get?_eq_some declared) (.self _)
    have once : Entries.Distinct entries := (Value.distinctKeys_of_within inside distinct).1
    obtain ⟨left, here, keys⟩ := keys_outcomePruned registry
      (scopeOf config (.map document) parameters).parameters distinct.1 conditional declared plain
      data
    refine ⟨left, here, ?_, fun key definition found => ?_⟩
    · rw [keys]
      exact Entries.keys_filter_sublist entries _
    · rw [keys]
      exact mem_keys_kept_iff truth once found

/-- Resources with a condition, with another one that is not declared, and with none. -/
def selective : Entries Value :=
  [("Needed", .map [(nameKey, .string "IsProd")]), ("Stray", .map [(nameKey, .string "IsTest")]),
    ("Free", .map [("Type", .string "A")])]

/-- The template of these resources, with the given condition. -/
def selecting (condition : Value) : Entries Value :=
  [(conditionsSection, .map [("IsProd", condition)]), ("Resources", .map selective)]

/-- All resources are left while the condition has no truth, and two of them once it holds. -/
theorem resolveAll_keeps_entries_selective :
    let resolve := resolveAll Registry.standard Config.standard
    let unknown := ((resolve (.map (selecting (.string "maybe"))) []).run {}).1
    let known := ((resolve (.map (selecting (.bool true))) []).run {}).1
    unknown.conditions = none ∧ known.conditions = some [("IsProd", true)] ∧
      (∃ left : Entries Value, unknown.template.get? "Resources" = some (.map left) ∧
        left.keys = ["Needed", "Stray", "Free"]) ∧
      ∃ left : Entries Value, known.template.get? "Resources" = some (.map left) ∧
        left.keys.Sublist ["Needed", "Stray", "Free"] ∧
        "Needed" ∈ left.keys ∧ "Stray" ∉ left.keys ∧ "Free" ∈ left.keys := by
  intro resolve unknown known
  have distinct : ∀ condition : Value, condition.DistinctKeys →
      (Value.map (selecting condition)).DistinctKeys := by
    intro condition plain
    simp [selecting, selective, Value.DistinctKeys, Value.DistinctKeysOfEntries, Entries.Distinct,
      Entries.keys, conditionsSection, nameKey, plain]
  have listed : "Resources" ∈ conditionalSections := by decide
  have failed : unknown.conditions = none := by
    dsimp only [unknown, resolve]
    rw [resolveAll_run]
    decide
  have held : known.conditions = some [("IsProd", true)] := by
    dsimp only [known, resolve]
    rw [resolveAll_run]
    decide
  obtain ⟨all, -⟩ := resolveAll_keeps_entries Registry.standard Config.standard
    (distinct (.string "maybe") trivial) [] {} listed rfl
  obtain ⟨-, some_stay⟩ := resolveAll_keeps_entries Registry.standard Config.standard
    (distinct (.bool true) trivial) [] {} listed rfl
  obtain ⟨left, here, ordered, stays⟩ := some_stay _ held (by decide) (by decide)
  have needed : "Needed" ∈ left.keys := by
    refine (stays "Needed" _ rfl).2 fun condition named => ?_
    cases named
    rfl
  have stray : "Stray" ∉ left.keys := by
    intro member
    exact absurd ((stays "Stray" _ rfl).1 member "IsTest" rfl) (by decide)
  have free : "Free" ∈ left.keys := by
    refine (stays "Free" _ rfl).2 fun condition named => ?_
    cases named
  exact ⟨failed, held, all failed (by decide), left, here, ordered, needed, stray, free⟩

end CloudTemplate.Resolution
