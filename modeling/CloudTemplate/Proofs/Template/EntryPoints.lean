import CloudTemplate.Proofs.Shape
import CloudTemplate.Proofs.Template.Parameters
import CloudTemplate.Proofs.Template.Reordering

/-!
# The two ways to resolve a template

Resolving a template with its conditions is folding the calls of another template. If the conditions
are known, that is the template without them, pruned, with their truth in the place of parameters of
the same names (`outcomePruned_eq`). If they are not, the other sections are resolved one by one,
and each becomes what it is in the template without conditions (`outcomeSections_of_entries`). A
section on its own has a level more than inside its template, so the two ways may part for want of
levels, and for nothing else (`outcomeSections_error_of_entries`).
-/

set_option autoImplicit false

namespace CloudTemplate.Resolution

open Condition (conditionsSection conditionalSections pruned Results)

/-! ## Known conditions -/

theorem distinctKeys_erase {document : Entries Value} (distinct : (Value.map document).DistinctKeys)
    (name : String) : (Value.map (document.erase name)).DistinctKeys := by
  obtain ⟨once, children⟩ := distinct
  rw [Value.distinctKeysOfEntries_iff] at children
  refine ⟨once.erase name, (Value.distinctKeysOfEntries_iff _).2 fun entry member => ?_⟩
  exact children entry (List.mem_of_mem_filter member)

theorem distinctKeys_prunedBody (results : Results) {body : Value} (distinct : body.DistinctKeys) :
    (Condition.prunedBody results body).DistinctKeys := by
  cases body with
  | map entries =>
    obtain ⟨once, children⟩ := distinct
    rw [Value.distinctKeysOfEntries_iff] at children
    refine ⟨once.sublist (Entries.keys_filter_sublist entries _),
      (Value.distinctKeysOfEntries_iff _).2 fun entry member => ?_⟩
    exact children entry (List.mem_of_mem_filter member)
  | _ => exact distinct

theorem distinctKeys_pruned (results : Results) {document : Entries Value}
    (distinct : (Value.map document).DistinctKeys) :
    (Value.map (pruned results document)).DistinctKeys := by
  obtain ⟨once, children⟩ := distinct
  rw [Value.distinctKeysOfEntries_iff] at children
  refine ⟨Condition.distinct_pruned results once, (Value.distinctKeysOfEntries_iff _).2 ?_⟩
  rw [Condition.pruned_eq_map results once]
  intro entry member
  obtain ⟨before, listed, rfl⟩ := List.mem_map.1 member
  dsimp only
  split
  · exact distinctKeys_prunedBody results (children before listed)
  · exact children before listed

/-- A section that is not conditional stands in the pruned template as it did before. -/
theorem get?_pruned_erase (results : Results) (document : Entries Value) {name : String}
    (free : name ∉ conditionalSections) (other : name ≠ conditionsSection) :
    (Value.map (pruned results (document.erase conditionsSection))).get? name =
      (Value.map document).get? name := by
  change (pruned results (document.erase conditionsSection)).get? name = document.get? name
  rw [Condition.get?_pruned, if_neg free, Entries.get?_erase, if_neg other]

/-- The parameters of a template, hidden by the truth of its conditions, are those of the pruned
template when the conditions hide the explicit ones. -/
theorem scopeOf_agrees_scopeOfPruned (config : Config) {document : Entries Value}
    (distinct : (Value.map document).DistinctKeys) (parameters : Parameters) {results : Results}
    (once : results.Distinct) :
    let left := Value.map (pruned results (document.erase conditionsSection))
    (scopeOfPruned config left (mergedParameters config (.map document) parameters) results).Agrees
      (scopeOf config left
        (parameters.merge (results.map fun result => (result.1, .bool result.2)))) := by
  intro left
  have also : left.DistinctKeys := distinctKeys_pruned results (distinctKeys_erase distinct _)
  have declares : left.get? parametersSection = (Value.map document).get? parametersSection :=
    get?_pruned_erase results document (by decide) (by decide)
  refine ⟨⟨config.maxDepth, rfl⟩, fun name => ?_, fun _ _ _ => rfl⟩
  have explicit := get?_scopeOfPruned config left parameters once name
  unfold scopeOfPruned at explicit
  rw [get?_scopeOfPruned config left _ once, get?_mergedParameters config distinct]
  unfold scopeOf
  dsimp only at explicit ⊢
  rw [get?_mergedParameters config also, explicit, Option.or_assoc]
  unfold declared?
  rw [declares]

/-- **What becomes of a template whose conditions are known** is what becomes of the pruned one. -/
theorem outcomePruned_eq {registry : Registry} (respects : registry.Respects) (config : Config)
    {document : Entries Value} (distinct : (Value.map document).DistinctKeys)
    (parameters : Parameters) {results : Results} (once : results.Distinct) :
    outcomePruned registry config document (mergedParameters config (.map document) parameters)
        results =
      { outcomeFunctions registry config
          (.map (pruned results (document.erase conditionsSection)))
          (parameters.merge (results.map fun result => (result.1, .bool result.2))) with
        conditions := some results } := by
  have answers := Resolver.outcome_eq_of_agrees respects
    (scopeOf_agrees_scopeOfPruned config distinct parameters once) rfl config.maxDepth
  unfold outcomePruned outcomeFunctions
  dsimp only
  rw [answers]
  unfold folded
  split <;> rfl

/-! ## Unknown conditions -/

/-- The section is taken from a resolved template, or holds the conditions as they were. -/
def TakenFrom (resolved : Value) (before after : String × Value) : Prop :=
  after.1 = before.1 ∧
    if before.1 = conditionsSection then after.2 = before.2
    else resolved.get? before.1 = some after.2

section Levels

variable {less more : Value → Except Error Value} (deepens : ∀ value, Deepens (less value)
  (more value))
include deepens

/-- The sections resolve to what they are in the template without conditions. -/
theorem outcomeSections_of_entries {document results : Entries Value} (distinct : document.Distinct)
    (found : Resolver.outcomeEntries less (document.erase conditionsSection) = .ok results) :
    ∃ sections, outcomeSections more document = .ok sections ∧
      List.Forall₂ (TakenFrom (.map results)) document sections := by
  have answered := Resolver.outcomeEntries_eq_ok_iff.1 found
  have each : ∀ entry ∈ document, ∃ body,
      (if entry.1 = conditionsSection then Except.ok entry.2 else more entry.2) = .ok body ∧
        TakenFrom (.map results) entry (entry.1, body) := by
    intro entry member
    unfold TakenFrom
    by_cases conditions : entry.1 = conditionsSection
    · refine ⟨entry.2, by rw [if_pos conditions], rfl, by rw [if_pos conditions]⟩
    · have here : (document.erase conditionsSection).get? entry.1 = some entry.2 := by
        rw [Entries.get?_erase, if_neg conditions]
        exact Entries.get?_eq_some_of_mem distinct member
      obtain ⟨body, taken, known⟩ := EntryRel.get? answered here
      refine ⟨body, ?_, rfl, ?_⟩
      · rw [if_neg conditions]
        exact (deepens entry.2).ok known
      · rw [if_neg conditions]
        exact taken
  clear answered found distinct
  induction document with
  | nil => exact ⟨[], rfl, .nil⟩
  | cons entry document ih =>
    obtain ⟨⟨body, known, taken⟩, others⟩ := List.forall_mem_cons.1 each
    obtain ⟨sections, resolved, rest⟩ := ih others
    refine ⟨(entry.1, body) :: sections, ?_, .cons taken rest⟩
    unfold outcomeSections at resolved ⊢
    rw [List.mapM_cons, known, resolved]
    rfl

/-- An error that is not the want of levels is met in the sections too. -/
theorem outcomeSections_error_of_entries {document : Entries Value} {error : Error}
    (other : ∀ bound, error ≠ .depthExceeded bound)
    (failed : Resolver.outcomeEntries less (document.erase conditionsSection) = .error error) :
    outcomeSections more document = .error error := by
  induction document with
  | nil => cases failed
  | cons entry document ih =>
    unfold outcomeSections at ih ⊢
    rw [List.mapM_cons, bind_eq_error_iff]
    rw [Entries.erase_cons] at failed
    by_cases conditions : entry.1 = conditionsSection
    · rw [if_pos conditions] at failed ⊢
      exact .inr ⟨_, rfl, bind_eq_error_iff.2 (.inl (ih failed))⟩
    · rw [if_neg conditions] at failed ⊢
      unfold Resolver.outcomeEntries at failed ih
      rw [List.mapM_cons, bind_eq_error_iff] at failed
      have deeper := (deepens entry.2).map (Prod.mk entry.1)
      rcases failed with here | ⟨body, known, later⟩
      · rcases deeper with ⟨bound, exhausted⟩ | same
        · rw [here] at exhausted
          exact absurd (Except.error.inj exhausted) (other bound)
        · exact .inl (same.trans here)
      · rcases bind_eq_error_iff.1 later with there | ⟨_, _, done⟩
        · exact .inr ⟨body, deeper.ok known, bind_eq_error_iff.2 (.inl (ih there))⟩
        · cases done

end Levels

/-- The scope of a template agrees with that of the template without conditions. -/
theorem scopeOf_agrees_erase (config : Config) (document : Entries Value)
    (parameters : Parameters) :
    (scopeOf config (.map document) parameters).Agrees
      (scopeOf config (.map (document.erase conditionsSection)) parameters) := by
  have stays : ∀ {name : String}, name ≠ conditionsSection →
      (Value.map (document.erase conditionsSection)).get? name =
        (Value.map document).get? name := by
    intro name other
    change Entries.get? (Entries.erase document conditionsSection) name = Entries.get? document name
    rw [Entries.get?_erase, if_neg other]
  exact scopeOf_agrees_of_sections config (stays (by decide)) (stays (by decide)) parameters

/-- What the sections of a template are, and what the template without conditions resolves to. -/
theorem outcomeWithoutConditions_eq {registry : Registry} (respects : registry.Respects)
    (config : Config) {document : Entries Value} (distinct : (Value.map document).DistinctKeys)
    (parameters : Parameters)
    (data : (Value.map (document.erase conditionsSection)).isCall config = false) :
    let whole := outcomeWithoutConditions registry (scopeOf config (.map document) parameters)
      document
    let rest := Value.map (document.erase conditionsSection)
    let resolved := Resolver.outcome registry (scopeOf config rest parameters) config.maxDepth rest
    (∀ result, resolved = .ok result → ∃ sections, whole.template = .map sections ∧
        List.Forall₂ (TakenFrom result) document sections) ∧
      ∀ error, resolved = .error error → (∀ bound, error ≠ .depthExceeded bound) →
        whole.template = .map document := by
  intro whole rest resolved
  have ignores : registry.IgnoresDepth :=
    fun name function found => (respects name function found).ignoresDepth
  let scope := scopeOf config (.map document) parameters
  have same : resolved = Resolver.outcome registry scope config.maxDepth rest :=
    congrFun (Resolver.outcome_eq_of_agrees respects
      (scopeOf_agrees_erase config document parameters) rfl config.maxDepth) rest
  -- A map takes a level for itself, and its sections are resolved with one less.
  rcases Nat.eq_zero_or_eq_succ_pred config.maxDepth with zero | succ
  · rw [same, zero]
    refine ⟨nofun, fun error failed other => ?_⟩
    exact absurd (Except.error.inj failed).symm (other _)
  generalize config.maxDepth.pred = levels at succ
  have deepens : ∀ value, Deepens (Resolver.outcome registry scope levels value)
      (Resolver.outcome registry scope config.maxDepth value) :=
    fun value => Resolver.outcome_deepens ignores scope config.maxDepth (by omega) value
  have step : resolved = Value.map <$>
      Resolver.outcomeEntries (Resolver.outcome registry scope levels)
        (document.erase conditionsSection) := by
    rw [same, succ]
    exact Resolver.outcome_map levels data
  rw [step]
  constructor
  · intro result found
    obtain ⟨results, known, rfl⟩ := map_eq_ok_iff.1 found
    obtain ⟨sections, resolved, taken⟩ := outcomeSections_of_entries deepens distinct.1 known
    refine ⟨sections, ?_, taken⟩
    dsimp only [whole, outcomeWithoutConditions]
    rw [show outcomeSections (Resolver.outcome registry scope scope.config.maxDepth) document =
      .ok sections from resolved]
    rfl
  · intro error failed other
    cases known : Resolver.outcomeEntries (Resolver.outcome registry scope levels)
        (document.erase conditionsSection) with
    | ok results =>
      rw [known] at failed
      cases failed
    | error met =>
      rw [known] at failed
      cases failed
      dsimp only [whole, outcomeWithoutConditions]
      rw [show outcomeSections (Resolver.outcome registry scope scope.config.maxDepth) document =
        .error error from outcomeSections_error_of_entries deepens other known]
      rfl

/-! ## Both ways -/

/-- The conditions of a template are known, each once. -/
theorem distinct_of_outcomeConditions {registry : Registry} {scope : Scope}
    (distinct : scope.template.DistinctKeys) {results : Results}
    (found : outcomeConditions registry scope = .ok results) : results.Distinct := by
  unfold outcomeConditions at found
  split at found
  · next conditions declared =>
    exact (Condition.judgeAll_solves (distinct_of_get? distinct declared) found).1
  · cases found
    exact List.nodup_nil

/-- **The two ways to resolve a template agree.** With known conditions, the template becomes what
folding the calls of the pruned template makes of it, where the conditions hide the explicit
parameters. With unknown ones it is marked as incomplete. Its other sections are then those of the
folded template without conditions, if that is complete, and the template stays as it was after
every error but the want of levels. -/
theorem resolveAll_eq_resolveFunctions {registry : Registry} (respects : registry.Respects)
    (config : Config) {document : Entries Value} (distinct : (Value.map document).DistinctKeys)
    (parameters : Parameters) (trail before pruning after : Trail) :
    let whole := ((resolveAll registry config (.map document) parameters).run trail).1
    let conditions :=
      (resolveConditions registry config (.map document) parameters).resultFrom before
    let rest := document.erase conditionsSection
    (∀ results, conditions = .ok results →
      let pruned := ((Condition.prune results rest).run pruning).1.1
      let known := parameters.merge (results.map fun result => (result.1, .bool result.2))
      let folded := ((resolveFunctions registry config (.map pruned) known).run after).1
      whole.template = folded.template ∧ whole.isComplete = folded.isComplete ∧
        whole.conditions = some results) ∧
    (∀ error, conditions = .error error →
      let folded := ((resolveFunctions registry config (.map rest) parameters).run after).1
      let attempt := Resolver.resolve registry (scopeOf config (.map rest) parameters) (.map rest)
      whole.isComplete = false ∧ whole.conditions = none ∧
        ((Value.map rest).isCall config = false →
          (folded.isComplete = true → ∃ sections, whole.template = .map sections ∧
            List.Forall₂ (TakenFrom folded.template) document sections) ∧
          ∀ fault, attempt.resultFrom after = .error fault →
            (∀ bound, fault ≠ .depthExceeded bound) → whole.template = .map document)) := by
  intro whole conditions rest
  have resolved : whole = outcomeAll registry config (.map document) parameters :=
    resolveAll_run registry config _ parameters trail
  have evaluated : conditions =
      outcomeConditions registry (scopeOf config (.map document) parameters) :=
    resolveConditions_yields registry config _ parameters before
  rw [evaluated]
  constructor
  · intro results found pruned known folded
    have once := distinct_of_outcomeConditions distinct found
    have left : pruned = Condition.pruned results rest := Condition.prune_run results rest pruning
    have here : whole = { folded with conditions := some results } := by
      dsimp only [folded]
      rw [resolveFunctions_run, left, resolved]
      unfold outcomeAll
      dsimp only
      rw [found]
      exact outcomePruned_eq respects config distinct parameters once
    rw [here]
    exact ⟨rfl, rfl, rfl⟩
  · intro error failed folded attempt
    have here : whole = outcomeWithoutConditions registry
        (scopeOf config (.map document) parameters) document := by
      rw [resolved]
      unfold outcomeAll
      dsimp only
      rw [failed]
    rw [here]
    refine ⟨rfl, conditions_folded _ _ _, fun data => ?_⟩
    obtain ⟨passed, stays⟩ := outcomeWithoutConditions_eq respects config distinct parameters data
    constructor
    · intro complete
      have once : folded = outcomeFunctions registry config (.map rest) parameters :=
        resolveFunctions_run registry config _ parameters after
      rw [once] at complete ⊢
      unfold outcomeFunctions at complete ⊢
      cases known : Resolver.outcome registry (scopeOf config (.map rest) parameters)
          config.maxDepth (.map rest) with
      | ok result =>
        exact passed result known
      | error fault =>
        rw [known] at complete
        cases complete
    · intro fault met other
      refine stays fault ?_ other
      rw [← met]
      exact (Resolver.resolve_yields registry _ _ after).symm

/-- A template with a condition, and a resource that needs it and refers to it. -/
def guarded (condition : Value) : Entries Value :=
  [(conditionsSection, .map [("IsProd", condition)]),
    ("Resources", .map [("Kept", .map [(Condition.nameKey, .string "IsProd"),
      ("Flag", .ofCall "Ref" (.string "IsProd"))])])]

/-- A condition hides the parameter of its name while it has a truth, and the parameter is seen
while it has none. -/
theorem resolveAll_eq_resolveFunctions_guarded :
    let parameters : Parameters := [("IsProd", .string "no")]
    let resolve := resolveAll Registry.standard Config.standard
    let fold := resolveFunctions Registry.standard Config.standard
    let known := Value.map (guarded (.bool true))
    let unknown := Value.map (guarded (.string "maybe"))
    known.DistinctKeys ∧ unknown.DistinctKeys ∧
      (((resolve known parameters).run {}).1.template =
        ((fold (.map ((guarded (.bool true)).erase conditionsSection))
          (parameters.insert "IsProd" (.bool true))).run {}).1.template ∧
        ((resolve known parameters).run {}).1.conditions = some [("IsProd", true)]) ∧
      ∃ sections, ((resolve unknown parameters).run {}).1.template = .map sections ∧
        List.Forall₂ (TakenFrom ((fold (.map ((guarded (.string "maybe")).erase conditionsSection))
          parameters).run {}).1.template) (guarded (.string "maybe")) sections := by
  intro parameters resolve fold known unknown
  have distinct : ∀ condition : Value, condition.DistinctKeys →
      (Value.map (guarded condition)).DistinctKeys := by
    intro condition plain
    simp [guarded, Value.DistinctKeys, Value.DistinctKeysOfEntries, Entries.Distinct, Entries.keys,
      conditionsSection, Condition.nameKey, Value.ofCall, plain]
  have respects := Registry.standard_builtIn.respects
  refine ⟨distinct _ trivial, distinct _ trivial, ?_, ?_⟩
  · have evaluated : (resolveConditions Registry.standard Config.standard known
        parameters).resultFrom {} = .ok [("IsProd", true)] := by
      rw [resolveConditions_yields]
      rfl
    obtain ⟨template, -, conditions⟩ := (resolveAll_eq_resolveFunctions respects Config.standard
      (distinct (.bool true) trivial) parameters {} {} {} {}).1 _ evaluated
    rw [Condition.prune_run] at template
    exact ⟨template, conditions⟩
  · have failed : (resolveConditions Registry.standard Config.standard unknown
        parameters).resultFrom {} =
          .error (.condition "IsProd" (.notBoolean (.string "maybe"))) := by
      rw [resolveConditions_yields]
      rfl
    obtain ⟨-, -, sections⟩ := (resolveAll_eq_resolveFunctions respects Config.standard
      (distinct (.string "maybe") trivial) parameters {} {} {} {}).2 _ failed
    refine (sections (by decide)).1 ?_
    rw [resolveFunctions_run]
    decide

end CloudTemplate.Resolution
