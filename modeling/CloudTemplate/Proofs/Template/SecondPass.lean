import CloudTemplate.Proofs.Shape
import CloudTemplate.Proofs.Template.Outcome

/-!
# Templates resolved twice

A template that has been resolved can be resolved again. The first pass has removed the conditions
with what they rule out, but the entries that stay still name their conditions. In the second pass
these names are unknown, and their entries are removed although the first pass kept them
(`not_resolveAll_again_released`).

In templates whose pruning leaves no calls nothing else happens: the second pass gives the template
back exactly when no entry that the first one kept names a condition (`resolveAll_again_iff`).
-/

set_option autoImplicit false

namespace CloudTemplate.Resolution

open Condition (conditionsSection conditionalSections pruned Results)

/-- However the conditions turn out, what pruning leaves of the template has no calls. -/
def PrunesToData (config : Config) (document : Entries Value) : Prop :=
  ∀ results, (Value.map (pruned results (document.erase conditionsSection))).containsCall config =
    false

/-! ## Templates that prune to data -/

/-- A map with this key and no other is a call. -/
def MarksCall (config : Config) (key : String) : Prop :=
  (Value.ofCall key .null).isCall config = true

/-- A map whose keys make no call is none. -/
theorem isCall_eq_false_of_keys {config : Config} {entries : Entries Value}
    (unmarked : ∀ key ∈ entries.keys, ¬MarksCall config key) :
    (Value.map entries).isCall config = false := by
  match entries, unmarked with
  | [], _ => rfl
  | [(key, value)], unmarked =>
    have same : Entries.keys [(key, value)] = Entries.keys [(key, Value.null)] := rfl
    rw [Value.isCall_eq_of_keys_eq same]
    exact Bool.eq_false_iff.2 (unmarked key List.mem_cons_self)
  | _ :: _ :: _, _ => rfl

theorem containsCall_prunedBody {config : Config} (results : Results) {body : Value}
    (plain : body.containsCall config = false)
    (names : ∀ entries, body = .map entries → ∀ key ∈ Entries.keys entries,
      ¬MarksCall config key) : (Condition.prunedBody results body).containsCall config = false := by
  cases body with
  | map entries =>
    rw [Value.containsCall, Bool.or_eq_false_iff, Value.entriesContainCall_eq_any,
      List.any_eq_false] at plain
    unfold Condition.prunedBody
    rw [Value.containsCall, Bool.or_eq_false_iff, Value.entriesContainCall_eq_any,
      List.any_eq_false]
    refine ⟨isCall_eq_false_of_keys fun key member => ?_, fun entry stays => ?_⟩
    · exact names entries rfl key ((Entries.keys_filter_sublist entries _).subset member)
    · exact plain.2 entry (List.mem_of_mem_filter stays)
  | _ => exact plain

/-- Pruning leaves no calls if there are none outside the conditions, and no section and no entry of
a conditional section is named like one. -/
theorem prunesToData_of_keys {config : Config} {document : Entries Value}
    (distinct : document.Distinct) (names : ∀ key ∈ document.keys, ¬MarksCall config key)
    (plain : ∀ entry ∈ document, entry.1 ≠ conditionsSection →
      entry.2.containsCall config = false ∧ (entry.1 ∈ conditionalSections → ∀ entries,
        entry.2 = .map entries → ∀ key ∈ Entries.keys entries, ¬MarksCall config key)) :
    PrunesToData config document := by
  intro results
  have rest : (document.erase conditionsSection).Distinct := distinct.erase conditionsSection
  rw [Value.containsCall, Bool.or_eq_false_iff, Value.entriesContainCall_eq_any, List.any_eq_false]
  constructor
  · refine isCall_eq_false_of_keys fun key member => ?_
    rw [Condition.keys_pruned results rest] at member
    exact names key ((Entries.keys_filter_sublist document _).subset member)
  · rw [Condition.pruned_eq_map results rest]
    intro pair listed
    obtain ⟨entry, left, rfl⟩ := List.mem_map.1 listed
    obtain ⟨member, other⟩ := List.mem_filter.1 left
    obtain ⟨data, unmarked⟩ := plain entry member (of_decide_eq_true other)
    rw [Bool.not_eq_true]
    dsimp only
    split
    · next conditional => exact containsCall_prunedBody results data (unmarked conditional)
    · exact data

/-! ## The second pass -/

/-- A template without calls is given back, with its calls folded or not. -/
theorem template_folded {registry : Registry} (builtIn : registry.BuiltIn) {scope : Scope}
    (levels : Nat) {template : Value} (plain : template.containsCall scope.config = false)
    (conditions : Option Results) :
    (folded (Resolver.outcome registry scope levels template) template conditions).template =
      template := by
  cases found : Resolver.outcome registry scope levels template with
  | error error => rfl
  | ok resolved =>
    have here : Resolver.Resolves registry scope template resolved := ⟨levels, found⟩
    exact here.unique builtIn.ignoresDepth (Resolver.resolves_of_containsCall_eq_false plain)

/-- What is left of a template once its conditions are known. -/
theorem template_outcomePruned {registry : Registry} (builtIn : registry.BuiltIn) {config : Config}
    {document : Entries Value} (parameters : Parameters) {results : Results}
    (plain : (Value.map (pruned results (document.erase conditionsSection))).containsCall config =
      false) :
    (outcomePruned registry config document parameters results).template =
      .map (pruned results (document.erase conditionsSection)) :=
  template_folded builtIn config.maxDepth plain (some results)

/-- A resolution that is complete knows the conditions. -/
theorem exists_results_of_isComplete {registry : Registry} {config : Config}
    {document : Entries Value} {parameters : Parameters}
    (complete : (outcomeAll registry config (.map document) parameters).isComplete = true) :
    ∃ results, outcomeAll registry config (.map document) parameters =
      outcomePruned registry config document
        (scopeOf config (.map document) parameters).parameters results := by
  unfold outcomeAll at complete ⊢
  dsimp only at complete ⊢
  cases known : outcomeConditions registry (scopeOf config (.map document) parameters) with
  | ok results => exact ⟨results, rfl⟩
  | error error =>
    rw [known] at complete
    cases complete

/-- A template without conditions is pruned without results. -/
theorem outcomeAll_of_not_mem (registry : Registry) (config : Config) {document : Entries Value}
    (absent : conditionsSection ∉ document.keys) (parameters : Parameters) :
    outcomeAll registry config (.map document) parameters =
      outcomePruned registry config document
        (scopeOf config (.map document) parameters).parameters [] := by
  have none : document.get? conditionsSection = none :=
    (Entries.get?_eq_none_iff document conditionsSection).2 absent
  have known : outcomeConditions registry (scopeOf config (.map document) parameters) = .ok [] := by
    unfold outcomeConditions scopeOf Value.get?
    dsimp only
    rw [none]
  unfold outcomeAll
  dsimp only
  rw [known]

/-- **A second pass gives the template back** exactly when no entry that the first one kept names
a condition. -/
theorem resolveAll_again_iff {registry : Registry} (builtIn : registry.BuiltIn) {config : Config}
    {document : Entries Value} (distinct : document.Distinct) (data : PrunesToData config document)
    (parameters : Parameters) (trail later : Trail)
    (complete :
      ((resolveAll registry config (.map document) parameters).run trail).1.isComplete = true) :
    let first := ((resolveAll registry config (.map document) parameters).run trail).1.template
    ((resolveAll registry config first parameters).run later).1.template = first ↔
      ∀ name ∈ conditionalSections, ∀ entries, first.get? name = some (.map entries) →
        ∀ entry ∈ entries, Condition.Unconditional entry.2 := by
  intro first
  rw [resolveAll_run] at complete
  obtain ⟨results, known⟩ := exists_results_of_isComplete complete
  have rest : (document.erase conditionsSection).Distinct := distinct.erase conditionsSection
  have left : first = .map (pruned results (document.erase conditionsSection)) := by
    dsimp only [first]
    rw [resolveAll_run, known]
    exact template_outcomePruned builtIn _ (data results)
  have absent : conditionsSection ∉
      (pruned results (document.erase conditionsSection)).keys := by
    rw [Condition.keys_pruned results rest, ← Entries.get?_eq_none_iff, Entries.get?_erase,
      if_pos rfl]
  have plain := data []
  rw [← Condition.pruned_nil_pruned results rest] at plain
  have again : ((resolveAll registry config first parameters).run later).1.template =
      .map (pruned [] (pruned results (document.erase conditionsSection))) := by
    rw [resolveAll_run, left, outcomeAll_of_not_mem registry config absent,
      template_outcomePruned builtIn, Entries.erase_of_not_mem absent]
    rw [Entries.erase_of_not_mem absent]
    exact plain
  rw [again, left, Value.map.injEq]
  exact Condition.pruned_nil_eq_self_iff (Condition.distinct_pruned results rest)

/-- A template with a condition that does not hold, and a resource that needs it. -/
def restricted : Entries Value :=
  [(conditionsSection, .map [("IsProd", .bool false)]),
    ("Resources", .map [("Kept", .map [("Type", .string "A")]),
      ("Left", .map [("Type", .string "A"), ("Condition", .string "IsProd")])])]

/-- The first pass removes the resource, and the second has nothing left to remove. -/
theorem resolveAll_again_iff_restricted :
    restricted.Distinct ∧ PrunesToData Config.standard restricted ∧
      ((resolveAll Registry.standard Config.standard (.map restricted) []).run {}).1.isComplete =
        true ∧
      ((resolveAll Registry.standard Config.standard
          ((resolveAll Registry.standard Config.standard (.map restricted) []).run {}).1.template
          []).run {}).1.template =
        ((resolveAll Registry.standard Config.standard (.map restricted) []).run
          {}).1.template := by
  have distinct : restricted.Distinct := by decide
  have data : PrunesToData Config.standard restricted := by
    refine prunesToData_of_keys distinct (by unfold MarksCall; decide) ?_
    refine List.forall_mem_cons.2 ⟨fun other => absurd rfl other, ?_⟩
    refine List.forall_mem_singleton.2 fun _ => ⟨by decide, fun _ entries same => ?_⟩
    cases same
    unfold MarksCall
    decide
  have left : ((resolveAll Registry.standard Config.standard (.map restricted) []).run {}).1 =
      ⟨.map [("Resources", .map [("Kept", .map [("Type", .string "A")])])], true,
        some [("IsProd", false)]⟩ := by
    rw [resolveAll_run]
    rfl
  have complete := congrArg Resolution.isComplete left
  refine ⟨distinct, data, complete, ?_⟩
  refine (resolveAll_again_iff Registry.standard_builtIn distinct data [] {} {} complete).2 ?_
  rw [left]
  refine List.forall_mem_cons.2 ⟨fun entries found => ?_, ?_⟩
  · cases found
    exact List.forall_mem_singleton.2 fun _ => nofun
  · exact List.forall_mem_singleton.2 fun _ => nofun

/-- A template with a condition that holds, and a resource that needs it. -/
def released : Entries Value :=
  [(conditionsSection, .map [("IsProd", .bool true)]),
    ("Resources", .map [("Kept", .map [("Type", .string "A"), ("Condition", .string "IsProd")])])]

/-- The first pass keeps a resource whose condition holds, and the second removes it. -/
theorem not_resolveAll_again_released :
    (Value.map released).containsCall Config.standard = false ∧
      ∃ first second, first ≠ second ∧
        ((resolveAll Registry.standard Config.standard (.map released) []).run {}).1 =
          ⟨first, true, some [("IsProd", true)]⟩ ∧
        ((resolveAll Registry.standard Config.standard first []).run {}).1 =
          ⟨second, true, some []⟩ := by
  refine ⟨by decide, .map [("Resources", .map [("Kept",
    .map [("Type", .string "A"), ("Condition", .string "IsProd")])])],
    .map [("Resources", .map [])], by simp, ?_, ?_⟩
  · rw [resolveAll_run]
    rfl
  · rw [resolveAll_run]
    rfl

end CloudTemplate.Resolution
