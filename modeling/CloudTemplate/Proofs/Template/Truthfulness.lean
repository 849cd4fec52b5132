import CloudTemplate.Proofs.Template.Lines
import CloudTemplate.Proofs.Within

/-!
# Reading the lines

The lines that are left of the resolution of a template tell what became of it. Warnings are of a
level of their own (`LogLine.texts`). The debug lines are on four topics, and the lines on each
begin with words that the lines on the others do not begin with, so that they can be told apart
whatever names occur in them (`LogLine.Open.beginning_other`).

Read in this way, the lines give the results of the conditions, the entries that are missing from
the template after it has been pruned, and their number (`Resolution.Accounted`), and there are
warnings for as many errors as there were (`Resolution.Truthful`).
-/

set_option autoImplicit false

namespace CloudTemplate

open Trail

namespace LogLine

/-- The texts of the lines of a level. -/
def texts (level : LogLevel) (lines : List LogLine) : List String :=
  (lines.filter fun line => line.level = level).map text

/-- The texts that begin with the given words. -/
def beginning (opening : String) (texts : List String) : List String :=
  texts.filter fun text => text.startsWith opening

/-- The texts of debug lines that begin with the given words. -/
def said (opening : String) (lines : List LogLine) : List String :=
  beginning opening (texts .debug lines)

@[simp] theorem texts_append (level : LogLevel) (lines more : List LogLine) :
    texts level (lines ++ more) = texts level lines ++ texts level more := by
  unfold texts
  rw [List.filter_append, List.map_append]

theorem texts_telling {level : LogLevel} (differs : level ≠ .trace) (lines : List LogLine) :
    texts level (telling lines) = texts level lines := by
  unfold texts telling
  rw [List.filter_filter]
  refine congrArg _ (List.filter_congr fun line _ => ?_)
  by_cases same : line.level = level <;> simp [same, differs]

theorem said_telling (opening : String) (lines : List LogLine) :
    said opening (telling lines) = said opening lines := by
  unfold said
  rw [texts_telling (by decide)]

section Subjects

variable {α : Type} (say : α → String) (subjects : List α)

theorem texts_map (level : LogLevel) :
    texts level (subjects.map fun subject => ⟨level, say subject⟩) = subjects.map say := by
  simp [texts, List.filter_map, Function.comp_def]

theorem texts_map_of_ne {level other : LogLevel} (differ : other ≠ level) :
    texts level (subjects.map fun subject => ⟨other, say subject⟩) = [] := by
  simp [texts, differ]

end Subjects

/-- All texts begin with the given words. -/
def Open (opening : String) (texts : List String) : Prop :=
  ∀ text ∈ texts, opening.toList <+: text.toList

theorem Open.beginning_self {opening : String} {texts : List String} (opened : Open opening texts) :
    beginning opening texts = texts :=
  List.filter_eq_self.2 fun text member => String.startsWith_string_iff.2 (opened text member)

/-- A text does not begin with two openings, neither of which begins with the other. -/
theorem Open.beginning_other {opening other : String} {texts : List String}
    (opened : Open opening texts)
    (apart : ¬opening.toList <+: other.toList ∧ ¬other.toList <+: opening.toList) :
    beginning other texts = [] := by
  refine List.filter_eq_nil_iff.2 fun text member also => ?_
  rcases List.prefix_or_prefix_of_prefix (opened text member)
    (String.startsWith_string_iff.1 also) with first | second
  · exact apart.1 first
  · exact apart.2 second

end LogLine

namespace Condition

open LogLine

theorem open_orders (orders : List (List String)) : Open "evaluating " (orders.map orderText) :=
  List.forall_mem_map.2 fun order _ => by simp [orderText]

theorem open_verdicts (results : Results) : Open "condition " (results.map verdictText) :=
  List.forall_mem_map.2 fun verdict _ => by simp [verdictText]

theorem open_removals (removed : List (String × String)) :
    Open "removing " (removed.map removalText) :=
  List.forall_mem_map.2 fun place _ => by simp [removalText]

/-- The names of the entries of a section that are missing from it afterwards. -/
def missing (before after : Entries Value) (name : String) : List String :=
  (entriesAt before name).keys.filter fun key => key ∉ (entriesAt after name).keys

theorem entriesAt_erase (template : Entries Value) {name other : String} (differ : name ≠ other) :
    entriesAt (template.erase other) name = entriesAt template name := by
  unfold entriesAt
  rw [Entries.get?_erase, if_neg differ]

theorem entriesAt_pruned (results : Results) (template : Entries Value) {name : String}
    (conditional : name ∈ conditionalSections) :
    entriesAt (pruned results template) name = kept results (entriesAt template name) := by
  unfold entriesAt
  rw [get?_pruned, if_pos conditional]
  cases template.get? name with
  | none => rfl
  | some body => cases body <;> rfl

theorem distinct_entriesAt {template : Entries Value} (distinct : (Value.map template).DistinctKeys)
    (name : String) : (entriesAt template name).Distinct := by
  unfold entriesAt
  split
  · next entries found =>
    have inside : (Value.map entries).Within (.map template) := Value.within_of_get? found
    exact (Value.distinctKeys_of_within inside distinct).1
  · exact List.nodup_nil

/-- The entries that are removed are those that are missing afterwards. -/
theorem keys_dropped (results : Results) {entries : Entries Value} (distinct : entries.Distinct) :
    (dropped results entries).keys =
      entries.keys.filter fun key => key ∉ (kept results entries).keys := by
  unfold dropped
  change List.map Prod.fst _ = List.filter _ (List.map Prod.fst entries)
  rw [List.filter_map]
  refine congrArg _ (List.filter_congr fun entry member => ?_)
  have still : entry.1 ∈ (kept results entries).keys ↔ isKept results entry.2 = true := by
    refine (Entries.mem_keys_filter_iff distinct (isKept results) entry.1).trans ?_
    rw [Entries.get?_eq_some_of_mem distinct member]
    simp
  cases stays : isKept results entry.2 <;> simp [still, stays]

theorem removals_eq (results : Results) {document : Entries Value}
    (distinct : (Value.map document).DistinctKeys) :
    let pruned := pruned results (document.erase conditionsSection)
    removals results (document.erase conditionsSection) =
      (missing document pruned "Resources").map (Prod.mk "Resources") ++
        (missing document pruned "Outputs").map (Prod.mk "Outputs") := by
  intro left
  have each : ∀ name ∈ conditionalSections,
      removedAt results (document.erase conditionsSection) name =
        (missing document left name).map (Prod.mk name) := by
    intro name conditional
    have elsewhere : name ≠ conditionsSection := by
      rintro rfl
      exact absurd conditional (by decide)
    unfold removedAt missing
    rw [entriesAt_pruned results _ conditional, entriesAt_erase document elsewhere,
      ← keys_dropped results (distinct_entriesAt distinct name), Entries.keys, List.map_map]
    rfl
  unfold removals
  rw [List.flatMap_congr each]
  exact congrArg _ (List.append_nil _)

end Condition

namespace Resolution

open LogLine Condition

theorem open_count (count : Nat) : Open "pruned " [countText count] :=
  List.forall_mem_singleton.2 (by simp [countText])

theorem texts_complaints (what : String) {α : Type} (answered : Except Error α) :
    texts .debug (complaints what answered) = [] := by
  cases answered <;> rfl

theorem length_complaints (what : String) {α : Type} (answered : Except Error α) :
    (texts .warn (complaints what answered)).length = if answered.isOk then 0 else 1 := by
  cases answered <;> rfl

/-- An attempt fails from every trail. -/
def Fails {α : Type} (attempt : Tracked α) : Prop :=
  ∃ error, attempt.Yields (.error error)

theorem fails_iff {α : Type} {attempt : Tracked α} {result : Except Error α}
    (yields : attempt.Yields result) : Fails attempt ↔ result.isOk = false := by
  cases result with
  | ok value =>
    refine ⟨fun ⟨error, failed⟩ => ?_, nofun⟩
    cases (yields {}).symm.trans (failed {})
  | error error => exact ⟨fun _ => rfl, fun _ => ⟨error, yields⟩⟩

theorem isComplete_folded (answered : Except Error Value) (fallback : Value)
    (conditions : Option Condition.Results) :
    (folded answered fallback conditions).isComplete = answered.isOk := by
  cases answered <;> rfl

theorem isComplete_outcomePruned (registry : Registry) (config : Config)
    (document : Entries Value) (parameters : Parameters) (results : Condition.Results) :
    (outcomePruned registry config document parameters results).isComplete =
      (answeredPruned registry config document parameters results).isOk :=
  isComplete_folded _ _ _

theorem conditions_outcomePruned (registry : Registry) (config : Config)
    (document : Entries Value) (parameters : Parameters) (results : Condition.Results) :
    (outcomePruned registry config document parameters results).conditions = some results :=
  conditions_folded _ _ _

/-- The lines on a template that has been pruned agree with what is missing from it. -/
structure Accounted (results : Condition.Results) (document pruned : Entries Value)
    (lines : List LogLine) : Prop where
  /-- The truth of the conditions, in the order of their evaluation. -/
  verdicts : said "condition " lines = results.map verdictText
  /-- One line for each entry that is missing, with those of the resources first. -/
  removals : said "removing " lines =
    ((missing document pruned "Resources").map fun key => removalText ("Resources", key)) ++
      (missing document pruned "Outputs").map fun key => removalText ("Outputs", key)
  /-- One line for their number. -/
  count : said "pruned " lines = [countText (said "removing " lines).length]
  /-- As many are missing from the two sections. -/
  number : (said "removing " lines).length =
    (missing document pruned "Resources").length + (missing document pruned "Outputs").length

/-- The lines tell the truth about what became of a template. -/
structure Truthful (registry : Registry) (scope : Scope) (resolution : Resolution)
    (lines : List LogLine) : Prop where
  warned_iff : texts .warn lines ≠ [] ↔ resolution.isComplete = false
  at_most_twice : (texts .warn lines).length ≤ 2
  warned_twice_iff : (texts .warn lines).length = 2 ↔
    ∃ document, scope.template = .map document ∧ Fails (conditionsOf registry scope) ∧
      Fails (resolveSections (Resolver.resolve registry scope) document)
  accounted : ∀ results, resolution.conditions = some results →
    ∃ document pruned : Entries Value, scope.template = .map document ∧
      (∀ trail, ((Condition.prune results (document.erase conditionsSection)).run trail).1.1 =
        pruned) ∧
      Accounted results document pruned lines

/-- The debug lines on a template whose conditions are known, topic by topic. -/
theorem said_reported (opening : String) (registry : Registry) (config : Config)
    (document : Entries Value) (parameters : Parameters) (orders : List (List String))
    (results : Condition.Results) :
    let removed := Condition.removals results (document.erase conditionsSection)
    said opening (orders.map orderLine ++ results.map verdictLine ++
        prunedLines registry config document parameters results) =
      beginning opening (orders.map orderText) ++ beginning opening (results.map verdictText) ++
        (beginning opening (removed.map removalText) ++
          beginning opening [countText removed.length]) := by
  intro removed
  have counted : texts .debug (countLine removed.length :: complaints failedPruned
      (answeredPruned registry config document parameters results)) = [countText removed.length] :=
    congrArg (countText removed.length :: ·) (texts_complaints _ _)
  have ordered := texts_map orderText orders .debug
  have judged := texts_map verdictText results .debug
  have listed := texts_map removalText removed .debug
  unfold said prunedLines beginning
  rw [texts_append, texts_append, texts_append, counted, List.filter_append, List.filter_append,
    List.filter_append]
  exact congrArg₂ _ (congrArg₂ _ (congrArg _ ordered) (congrArg _ judged))
    (congrArg (· ++ _) (congrArg _ listed))

/-- Lines on different topics begin with different words. -/
theorem accounted_of_reported (registry : Registry) (config : Config) {document : Entries Value}
    (distinct : (Value.map document).DistinctKeys) (parameters : Parameters)
    {results : Condition.Results} {reported : List LogLine}
    (report : Condition.Reported (.ok results) reported) :
    Accounted results document
      (Condition.pruned results (document.erase conditionsSection))
      (reported ++ prunedLines registry config document parameters results) := by
  obtain ⟨orders, judged, rfl, all⟩ := report
  obtain rfl := all results rfl
  have topics := fun opening =>
    said_reported opening registry config document parameters orders results
  have missed := removals_eq results distinct
  dsimp only at missed topics
  generalize orders.map orderLine ++ results.map verdictLine ++
    prunedLines registry config document parameters results = lines at topics ⊢
  generalize Condition.removals results (document.erase conditionsSection) = removed
    at missed topics
  have removals : said "removing " lines = removed.map removalText := by
    rw [topics, (open_orders orders).beginning_other (by decide),
      (open_verdicts results).beginning_other (by decide), (open_removals removed).beginning_self,
      (open_count _).beginning_other (by decide)]
    exact List.append_nil _
  refine ⟨?_, ?_, ?_, ?_⟩
  · rw [topics, (open_orders orders).beginning_other (by decide),
      (open_verdicts results).beginning_self, (open_removals removed).beginning_other (by decide),
      (open_count _).beginning_other (by decide)]
    exact List.append_nil _
  · rw [removals, missed, List.map_append, List.map_map, List.map_map]
    rfl
  · rw [removals, List.length_map, topics, (open_orders orders).beginning_other (by decide),
      (open_verdicts results).beginning_other (by decide),
      (open_removals removed).beginning_other (by decide), (open_count _).beginning_self]
    rfl
  · rw [removals, missed, List.length_map, List.length_append, List.length_map, List.length_map]

/-- The lines of an evaluation of conditions warn of nothing. -/
theorem texts_of_reported {answered : Except Error Condition.Results} {reported : List LogLine}
    (report : Condition.Reported answered reported) : texts .warn reported = [] := by
  obtain ⟨orders, judged, rfl, -⟩ := report
  have ordered : texts .warn (orders.map orderLine) = [] := texts_map_of_ne _ _ (by decide)
  have told : texts .warn (judged.map verdictLine) = [] := texts_map_of_ne _ _ (by decide)
  rw [texts_append, ordered, told]
  rfl

theorem length_warnings_pruned (registry : Registry) (config : Config) (document : Entries Value)
    (parameters : Parameters) {results : Condition.Results} {reported : List LogLine}
    (report : Condition.Reported (.ok results) reported) :
    (texts .warn (reported ++ prunedLines registry config document parameters results)).length =
      if (answeredPruned registry config document parameters results).isOk then 0 else 1 := by
  have removed : texts .warn ((Condition.removals results
      (document.erase conditionsSection)).map removalLine) = [] := texts_map_of_ne _ _ (by decide)
  unfold prunedLines
  rw [texts_append, texts_append, texts_of_reported report, removed]
  exact length_complaints _ _

theorem length_warnings_unpruned {α : Type} {error : Error} {reported : List LogLine}
    (report : Condition.Reported (.error error) reported) (answered : Except Error α) :
    (texts .warn (reported ++ warning failedConditions error ::
      complaints failedFunctions answered)).length = 1 + if answered.isOk then 0 else 1 := by
  rw [texts_append, texts_of_reported report, ← length_complaints failedFunctions answered,
    Nat.add_comm]
  rfl

/-- What is told about a template is true. -/
theorem Told.truthful {registry : Registry} {config : Config} {document : Entries Value}
    (distinct : (Value.map document).DistinctKeys) {scope : Scope}
    (here : scope.template = .map document) {resolution : Resolution} {lines : List LogLine}
    (told : Told registry config document scope resolution lines) :
    Truthful registry scope resolution lines := by
  have evaluated := fails_iff (conditionsOf_yields registry scope)
  cases told with
  | @pruned results reported known report =>
    have warnings := length_warnings_pruned registry config document scope.parameters report
    have complete := isComplete_outcomePruned registry config document scope.parameters results
    have conditions := conditions_outcomePruned registry config document scope.parameters results
    rw [known] at evaluated
    refine ⟨?_, ?_, ?_, fun found same => ?_⟩
    · rw [← List.length_pos_iff, warnings, complete]
      cases (answeredPruned registry config document scope.parameters results).isOk <;> decide
    · rw [warnings]
      split <;> decide
    · rw [warnings]
      constructor
      · intro two
        split at two <;> contradiction
      · rintro ⟨_, -, failed, -⟩
        exact absurd (evaluated.1 failed) nofun
    · obtain rfl := Option.some.inj (conditions.symm.trans same)
      exact ⟨document, _, here, Condition.prune_run results _,
        accounted_of_reported registry config distinct scope.parameters report⟩
  | unpruned failed report incomplete unknown =>
    have sections := fails_iff (resolveSections_yields (Resolver.resolve_yields registry scope)
      document)
    have warnings := length_warnings_unpruned report
      (outcomeSections (Resolver.outcome registry scope scope.config.maxDepth) document)
    rw [failed] at evaluated
    generalize outcomeSections (Resolver.outcome registry scope scope.config.maxDepth) document =
      answered at sections warnings ⊢
    refine ⟨?_, ?_, ?_, fun results same => ?_⟩
    · rw [← List.length_pos_iff, warnings, incomplete]
      exact ⟨fun _ => rfl, fun _ => Nat.le_add_right 1 _⟩
    · rw [warnings]
      split <;> decide
    · rw [warnings]
      constructor
      · intro two
        refine ⟨document, here, evaluated.2 rfl, sections.2 ?_⟩
        by_contra found
        rw [if_pos (Bool.not_eq_false _ ▸ found)] at two
        contradiction
      · rintro ⟨other, same, -, also⟩
        cases here.symm.trans same
        rw [sections.1 also]
        rfl
    · rw [unknown] at same
      cases same

/-- A template that is no map is resolved as a whole. -/
theorem truthful_of_complaints {registry : Registry} {scope : Scope}
    (whole : ∀ document, scope.template ≠ .map document) (what : String)
    (answered : Except Error Value) :
    Truthful registry scope (folded answered scope.template none) (complaints what answered) := by
  have warnings := length_complaints what answered
  refine ⟨?_, ?_, ?_, fun results same => ?_⟩
  · rw [← List.length_pos_iff, warnings, isComplete_folded]
    cases answered.isOk <;> decide
  · rw [warnings]
    split <;> decide
  · rw [warnings]
    constructor
    · intro two
      split at two <;> contradiction
    · rintro ⟨document, same, -⟩
      exact absurd same (whole document)
  · rw [conditions_folded] at same
    cases same

theorem resolveAll_truthful (registry : Registry) (config : Config) {template : Value}
    (distinct : template.DistinctKeys) (parameters : Parameters) :
    Tells (resolveAll registry config template parameters)
      (Truthful registry (scopeOf config template parameters)) := by
  have whole (answered : ∀ document, template ≠ .map document) :
      Tells (resolveFunctions registry config template parameters)
        (Truthful registry (scopeOf config template parameters)) := by
    refine (resolveFunctions_tells registry config template parameters).imp ?_
    rintro resolution told ⟨rfl, rfl⟩
    exact truthful_of_complaints answered _ _
  cases template with
  | map document =>
    have tells := resolveAll_tells registry config distinct parameters
    exact tells.imp fun resolution told holds => holds.truthful distinct rfl
  | _ => exact whole nofun

/-- Traces are not read. -/
theorem Truthful.of_telling {registry : Registry} {scope : Scope} {resolution : Resolution}
    {lines : List LogLine} (truthful : Truthful registry scope resolution (telling lines)) :
    Truthful registry scope resolution lines := by
  have warnings : texts .warn (telling lines) = texts .warn lines := texts_telling (by decide) lines
  obtain ⟨warned, most, twice, accounted⟩ := truthful
  rw [warnings] at warned most twice
  refine ⟨warned, most, twice, fun results same => ?_⟩
  obtain ⟨document, pruned, map, prunes, verdicts, removals, count, number⟩ :=
    accounted results same
  rw [said_telling] at verdicts removals number
  rw [said_telling, said_telling] at count
  exact ⟨document, pruned, map, prunes, verdicts, removals, count, number⟩

/-- **The lines tell the truth.** Folding the calls of a template warns exactly if it fails, and
then once. If the conditions are evaluated before, the warnings, the truth of the conditions and the
removed entries can be read off the lines as well. -/
theorem lines_truthful (config : Config) {template : Value} (distinct : template.DistinctKeys)
    (parameters : Parameters) (trail : Trail) :
    let folded := (resolveFunctions .standard config template parameters).run trail
    let resolved := (resolveAll .standard config template parameters).run trail
    (∃ lines, folded.2.lines = trail.lines ++ lines ∧
      (texts .warn lines ≠ [] ↔ folded.1.isComplete = false) ∧ (texts .warn lines).length ≤ 1) ∧
    ∃ lines, resolved.2.lines = trail.lines ++ lines ∧
      Truthful .standard (scopeOf config template parameters) resolved.1 lines := by
  intro folded resolved
  constructor
  · obtain ⟨lines, added, result, told⟩ :=
      resolveFunctions_tells .standard config template parameters trail
    have warnings : texts .warn lines = _ := (texts_telling (by decide) lines).symm.trans
      (congrArg _ told)
    have count := length_complaints failedFunctions
      (Resolver.outcome .standard (scopeOf config template parameters) config.maxDepth template)
    rw [← warnings] at count
    refine ⟨lines, added, ?_, ?_⟩
    · rw [← List.length_pos_iff, count, show folded.1 = _ from result, isComplete_folded]
      cases (Resolver.outcome .standard _ _ template).isOk <;> decide
    · rw [count]
      split <;> decide
  · obtain ⟨lines, added, truthful⟩ :=
      resolveAll_truthful .standard config distinct parameters trail
    exact ⟨lines, added, truthful.of_telling⟩

/-- A template from which a resource and an output are removed, and with a call that fails. -/
def sparse : Entries Value :=
  [(conditionsSection, .map [("IsProd", .bool false)]),
    ("Resources", .map [("Cache", .map [(nameKey, .string "IsProd")]),
      ("Store", .map [("Kept", .ofCall "Fn::Not" (.list [.string "perhaps"]))])]),
    ("Outputs", .map [("Address", .map [(nameKey, .string "Declared")])])]

/-- One result, two removals, their number and a warning. -/
theorem lines_truthful_sparse :
    let resolved := (resolveAll .standard .standard (.map sparse) []).run {}
    (Value.map sparse).DistinctKeys ∧ ∃ lines, resolved.2.lines = lines ∧
      texts .warn lines ≠ [] ∧ said "condition " lines = ["condition IsProd = false"] ∧
      said "removing " lines =
        ["removing Resources.Cache: condition is false or undeclared",
          "removing Outputs.Address: condition is false or undeclared"] ∧
      said "pruned " lines = ["pruned 2 conditional entries"] := by
  intro resolved
  have distinct : (Value.map sparse).DistinctKeys := by
    simp [sparse, Value.DistinctKeys, Value.DistinctKeysOfEntries, Entries.Distinct, Entries.keys,
      Value.distinctKeysOfItems_iff, conditionsSection, nameKey, Value.ofCall]
  have conditions : resolved.1.conditions = some [("IsProd", false)] := by
    rw [resolveAll_run]
    rfl
  have incomplete : resolved.1.isComplete = false := by
    rw [resolveAll_run]
    rfl
  obtain ⟨-, lines, added, truthful⟩ := lines_truthful .standard distinct [] {}
  obtain ⟨document, pruned, same, prunes, accounted⟩ := truthful.accounted _ conditions
  cases same
  obtain rfl := prunes {}
  have removals := accounted.removals
  have count := accounted.count
  rw [removals] at count
  exact ⟨distinct, lines, added, truthful.warned_iff.2 incomplete, accounted.verdicts, removals,
    count⟩

end Resolution

end CloudTemplate
