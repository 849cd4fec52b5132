import CloudTemplate.Proofs.InStep.Functions
import CloudTemplate.Proofs.TwoPasses
import CloudTemplate.Proofs.Template.Parameters

/-!
# Resolved templates are fixed points

What a value resolves to is normal: it is made of scalars, lists and maps that are no calls, and of
calls that resolve to themselves (`Resolver.Normal`). A call that is kept is normal because it was
the result, and all other calls in a result stood in the answers that it was made of. Two functions
are an exception, because they uncover what looks like a call and has never been resolved: one reads
documents, and one takes the arguments out of a call (`Call.UncoversNothing`).

A normal value resolves to itself, as far as the levels reach (`Resolver.Normal.eq_of_outcome`). A
resolved template declares the same parameters and has the same tables as before, if there is no
call among them (`scopeOf_agrees_of_outcome`). So folding the calls of a template once more gives it
back, whether it was complete or not (`resolveFunctions_again`).
-/

set_option autoImplicit false

namespace CloudTemplate

/-- The call takes no value out of a document, and none out of the maps of a list, which may be
calls. -/
def Call.UncoversNothing : Call → Prop
  | .reference _ => True
  | .function _ name _ => name ≠ "GetJsonValue" ∧ name ≠ "SelectMapList"

/-- The tables of the scope have entries that are well formed and hold no calls. -/
def Scope.PlainTables (scope : Scope) : Prop :=
  ∀ table outer inner value, Mapping.entry? scope.template table outer inner = some value →
    value.DistinctKeys ∧ value.containsCall scope.config = false

/-- Tables without calls have entries without calls. -/
theorem Scope.plainTables_of_sections {scope : Scope} (distinct : scope.template.DistinctKeys)
    (plain : ∀ tables, scope.template.get? Mapping.tablesSection = some tables →
      tables.containsCall scope.config = false) : scope.PlainTables := by
  intro table outer inner value found
  obtain ⟨tables, here, inside⟩ := Mapping.exists_tables_of_entry? found
  have well_formed := Value.distinctKeys_of_within (Value.within_of_get? here) distinct
  exact ⟨Value.distinctKeys_of_within inside well_formed,
    Value.containsCall_eq_false_of_within inside (plain tables here)⟩

namespace Resolver

/-- The calls are one call, which resolves to itself. -/
def Stays (registry : Registry) (scope : Scope) (call other : Value) : Prop :=
  call = other ∧ Resolves registry scope call call

/-- The value is made of scalars, lists, maps, and calls that resolve to themselves. -/
def Normal (registry : Registry) (scope : Scope) (value : Value) : Prop :=
  value.Matches scope.config (Stays registry scope) value

section Normal

variable {registry : Registry} (builtIn : registry.BuiltIn) {scope : Scope}

theorem Normal.of_containsCall_eq_false {value : Value} (distinct : value.DistinctKeys)
    (plain : value.containsCall scope.config = false) : Normal registry scope value :=
  Value.matches_of_containsCall_eq_false distinct plain

theorem Normal.of_isCall {value : Value} (is_call : value.isCall scope.config = true)
    (resolves : Resolves registry scope value value) : Normal registry scope value :=
  .call is_call is_call ⟨rfl, resolves⟩

include builtIn in
/-- **A normal value resolves to itself**, if the levels are enough. -/
theorem Normal.eq_of_outcome {levels : Nat} {value result : Value}
    (normal : Normal registry scope value)
    (found : outcome registry scope levels value = .ok result) : result = value := by
  have ignores := builtIn.ignoresDepth
  have resolves : Resolves registry scope value value :=
    .of_matches ignores (fun _ _ ⟨same, resolves⟩ => same ▸ resolves) normal
  exact Resolves.unique ignores ⟨levels, found⟩ resolves

variable (parameters : scope.parameters.Plain scope.config) (tables : scope.PlainTables)

include parameters in
theorem reference_normal {value target : Value}
    (is_call : value.call? scope.config = some (.reference target)) :
    Normal registry scope (Reference.outcome scope value target) := by
  have kept : Reference.outcome scope value target = value →
      Normal registry scope (Reference.outcome scope value target) := by
    intro same
    have resolves : Resolves registry scope value (Reference.outcome scope value target) :=
      resolves_reference is_call
    rw [same] at resolves ⊢
    exact .of_isCall (Value.isCall_of_call? is_call) resolves
  cases target with
  | string name =>
    cases known : scope.parameters.get? name with
    | none => exact kept (by simp [Reference.outcome, known])
    | some parameter =>
      obtain ⟨distinct, plain⟩ := parameters name parameter known
      have found : Reference.outcome scope value (.string name) = parameter := by
        simp [Reference.outcome, known]
      rw [found]
      exact .of_containsCall_eq_false distinct plain
  | _ => exact kept rfl

include builtIn tables in
/-- A call stands side by side with itself, if what its arguments resolve to is normal. -/
theorem alongside_self {levels : Nat} {name : String} (call : Invocation)
    (here : call.scope = scope) (settles : name ≠ "GetJsonValue" ∧ name ≠ "SelectMapList")
    (answers : ∀ value : Value, value.Within call.arguments → ∀ answer,
      outcome registry scope levels value = .ok answer → Normal registry scope answer) :
    Invocation.Alongside (outcome registry scope levels) (outcome registry scope levels)
      (Stays registry scope) name call call := by
  subst here
  refine ⟨rfl, rfl, .of_ok (answers _ (.self _)), ?_, fun table outer inner => ?_, ?_, ?_⟩
  · refine .self fun place item inside => .of_ok fun answer answered => ?_
    refine ⟨answers item inside answer answered, fun _ _ => rfl, ?_,
      fun same => absurd same settles.2⟩
    intro _ _ key held last one two _
    exact Option.some.inj (one.symm.trans two)
  · cases found : Mapping.entry? call.scope.template table outer inner with
    | none => exact .none
    | some value =>
      obtain ⟨distinct, plain⟩ := tables table outer inner value found
      -- The entry is resolved in place, and normal because there is no call in it.
      refine .some (.of_ok fun answer answered => ?_)
      have normal : Normal registry call.scope value := .of_containsCall_eq_false distinct plain
      rw [normal.eq_of_outcome builtIn answered]
      exact normal
  · exact fun _ _ _ _ _ _ _ _ => .inl rfl
  · exact fun same => absurd same settles.1

/-- A choice ends alike with itself, if what its arguments resolve to is normal. -/
theorem choose_inStep_self {levels : Nat} (call : Invocation) (here : call.scope = scope)
    (answers : ∀ value : Value, value.Within call.arguments → ∀ answer,
      outcome registry scope levels value = .ok answer → Normal registry scope answer) :
    Program.InStep (outcome registry scope levels) (outcome registry scope levels)
      (Invocation.EndsAlike (Stays registry scope) call call) (Logic.choose call)
      (Logic.choose call) := by
  subst here
  refine Logic.choose_inStep rfl (.self fun place item inside => ?_)
  unfold Logic.Choices
  split
  · exact .of_ok fun answer answered =>
      Logic.decideAlike_of_matches (answers item inside answer answered) fun _ _ => rfl
  · exact .of_ok fun answer answered => answers item inside answer answered

include builtIn tables in
/-- What the call of a function resolves to is normal, if what its arguments resolve to is. -/
theorem function_normal {levels : Nat} {value result : Value} {key name : String}
    {arguments : Value} (is_call : value.call? scope.config = some (.function key name arguments))
    (settles : name ≠ "GetJsonValue" ∧ name ≠ "SelectMapList")
    (answers : ∀ inner : Value, inner.Within arguments → ∀ answer,
      outcome registry scope levels inner = .ok answer → Normal registry scope answer)
    (found : outcome registry scope (levels + 1) value = .ok result) :
    Normal registry scope result := by
  have node : value = .ofCall key arguments := Value.eq_ofCall_of_call? is_call
  have kept : result = value → Normal registry scope result := by
    rintro rfl
    exact .of_isCall (Value.isCall_of_call? is_call) ⟨_, found⟩
  cases known : registry.function? name with
  | none => exact kept ((Resolves.eq_of_unknown is_call known ⟨_, found⟩).trans node.symm)
  | some function =>
    let call : Invocation := ⟨key, name, arguments, scope⟩
    have answered : (function call).outcome (outcome registry scope levels) = .ok result :=
      (outcome_function levels is_call known).symm.trans found
    have alike : Program.InStep (outcome registry scope levels) (outcome registry scope levels)
        (Invocation.EndsAlike (Stays registry scope) call call) (function call)
        (function call) := by
      -- Choices are in step with more than what is written in the same way, so they come apart.
      by_cases choice : name = "If"
      · subst choice
        obtain rfl := builtIn.function?_if known
        exact choose_inStep_self call rfl answers
      · exact builtIn.staysInStep known choice _ _ _ _ _
          (alongside_self builtIn tables call rfl settles answers)
    rcases alike.self_of_ok answered with ⟨same, _⟩ | normal
    · exact kept (same.trans node.symm)
    · exact normal

include builtIn parameters tables in
/-- **What a value resolves to is normal**, if no call in it uncovers others. -/
theorem outcome_normal (levels : Nat) {value result : Value} (distinct : value.DistinctKeys)
    (covered : value.EveryCall scope.config Call.UncoversNothing)
    (found : outcome registry scope levels value = .ok result) :
    Normal registry scope result := by
  induction levels generalizing value result with
  | zero => cases found
  | succ levels ih =>
    have answers : ∀ inner : Value, inner.Within value → ∀ answer,
        outcome registry scope levels inner = .ok answer → Normal registry scope answer :=
      fun inner inside answer =>
        ih (Value.distinctKeys_of_within inside distinct) (covered.within inside)
    cases is_call : value.call? scope.config with
    | none =>
      cases value with
      | list items =>
        obtain ⟨results, rfl, all⟩ := outcome_list_eq_ok_iff.1 found
        refine Value.matches_list_iff.2 ⟨results, rfl, List.forall₂_same.2 ?_⟩
        exact forall_mem_of_forall₂ all fun item member answer =>
          answers item (.item member (.self item)) answer
      | map entries =>
        have data := Value.isCall_eq_false_iff.2 is_call
        obtain ⟨results, rfl, all⟩ := (outcome_map_eq_ok_iff data).1 found
        rw [Value.isCall_eq_of_keys_eq (EntryRel.keys_eq all)] at data
        refine (Value.matches_map_iff data).2
          ⟨EntryRel.distinct all distinct.1, results, rfl, List.forall₂_same.2 ?_⟩
        exact forall_mem_of_forall₂ all fun entry member other related =>
          ⟨rfl, answers entry.2 (.child member (.self _)) other.2 related.2⟩
      | _ =>
        cases found
        exact .scalar trivial
    | some call =>
      cases call with
      | reference target =>
        obtain rfl := Except.ok.inj ((outcome_reference levels is_call).symm.trans found)
        exact reference_normal parameters is_call
      | function key name arguments =>
        refine function_normal builtIn tables is_call (covered value (.self _) _ is_call) ?_ found
        intro inner inside
        obtain rfl := Value.eq_ofCall_of_call? is_call
        exact answers inner (.child List.mem_cons_self inside)

end Normal

end Resolver

namespace Resolution

/-- Explicit parameters without calls, and declarations without calls, give parameters without
calls. -/
theorem plain_mergedParameters {config : Config} {template : Value}
    (distinct : template.DistinctKeys)
    (plain : ∀ declarations, template.get? parametersSection = some declarations →
      declarations.containsCall config = false)
    {parameters : Parameters} (values : parameters.Plain config) :
    Parameters.Plain config (mergedParameters config template parameters) := by
  intro name value found
  rw [get?_mergedParameters config distinct, Option.or_eq_some_iff] at found
  rcases found with explicit | ⟨-, declared⟩
  · exact values name value explicit
  · obtain ⟨declarations, here, inner⟩ := Option.bind_eq_some_iff.1 declared
    obtain ⟨declaration, there, last⟩ := Option.bind_eq_some_iff.1 inner
    have inside : value.Within declarations :=
      (Value.within_of_get? last).trans (Value.within_of_get? there)
    exact ⟨Value.distinctKeys_of_within (inside.trans (Value.within_of_get? here)) distinct,
      Value.containsCall_eq_false_of_within inside (plain declarations here)⟩

/-- A section without calls stands in the resolved template as it was. -/
theorem get?_of_outcome {registry : Registry} (ignores : registry.IgnoresDepth) {scope : Scope}
    {levels : Nat} {template resolved : Value} (root : template.isCall scope.config = false)
    (found : Resolver.outcome registry scope levels template = .ok resolved) {name : String}
    (plain : ∀ body, template.get? name = some body → body.containsCall scope.config = false) :
    resolved.get? name = template.get? name := by
  cases levels with
  | zero => cases found
  | succ levels =>
    cases template with
    | map document =>
      obtain ⟨results, rfl, all⟩ := (Resolver.outcome_map_eq_ok_iff root).1 found
      have rel := EntryRel.get?_rel all name
      change ∀ body, Entries.get? document name = some body → _ at plain
      change Entries.get? results name = Entries.get? document name
      generalize Entries.get? document name = before at rel plain
      generalize Entries.get? results name = after at rel
      cases rel with
      | none => rfl
      | some answered =>
        have here : Resolver.Resolves registry scope _ _ := ⟨levels, answered⟩
        exact congrArg some
          (here.unique ignores (Resolver.resolves_of_containsCall_eq_false (plain _ rfl)))
    | list items =>
      obtain ⟨results, rfl, -⟩ := Resolver.outcome_list_eq_ok_iff.1 found
      rfl
    | _ =>
      cases found
      rfl

/-- **Folding the calls of a template once more gives it back**, whether it was complete or not. -/
theorem resolveFunctions_again {registry : Registry} (builtIn : registry.BuiltIn) (config : Config)
    {template : Value} (distinct : template.DistinctKeys)
    (root : template.isCall config = false)
    (plain : ∀ name ∈ [parametersSection, Mapping.tablesSection], ∀ body,
      template.get? name = some body → body.containsCall config = false)
    (covered : template.EveryCall config Call.UncoversNothing) {parameters : Parameters}
    (values : parameters.Plain config) (trail after : Trail) :
    let once := ((resolveFunctions registry config template parameters).run trail).1.template
    ((resolveFunctions registry config once parameters).run after).1.template = once := by
  intro once
  have ignores := builtIn.ignoresDepth
  have first : once = (outcomeFunctions registry config template parameters).template :=
    congrArg Resolution.template (resolveFunctions_run registry config _ parameters trail)
  clear_value once
  rw [resolveFunctions_run]
  unfold outcomeFunctions at first ⊢
  cases found : Resolver.outcome registry (scopeOf config template parameters) config.maxDepth
      template with
  | error error =>
    rw [found] at first
    obtain rfl : once = template := first
    rw [found]
    rfl
  | ok resolved =>
    rw [found] at first
    obtain rfl : once = resolved := first
    have declared := plain parametersSection List.mem_cons_self
    have tables := plain Mapping.tablesSection (List.mem_cons_of_mem _ List.mem_cons_self)
    have agrees := scopeOf_agrees_of_sections config (get?_of_outcome ignores root found declared)
      (get?_of_outcome ignores root found tables) parameters
    have normal : Resolver.Normal registry (scopeOf config template parameters) once :=
      Resolver.outcome_normal builtIn (plain_mergedParameters distinct declared values)
        (Scope.plainTables_of_sections distinct tables) config.maxDepth distinct covered found
    rw [Resolver.outcome_eq_of_agrees builtIn.respects agrees rfl]
    cases again : Resolver.outcome registry (scopeOf config template parameters) config.maxDepth
        once with
    | error error => rfl
    | ok last => exact normal.eq_of_outcome builtIn again

/-- The size of a declared environment. -/
def knownSize : Value :=
  .ofCall "Fn::FindInMap" (.list [.string "Sizes", .ofCall "Ref" (.string "Env"), .string "type"])

/-- One of two sizes, at a place that is not known yet. -/
def pendingSize : Value :=
  .ofCall "Fn::Select" (.list [.ofCall "Ref" (.string "Later"), .list [.string "small", knownSize]])

/-- A template with the given sizes. -/
def sized (known pending : Value) : Value :=
  .map [(parametersSection, .map [("Env", .map [("ResolvedValue", .string "prod")])]),
    (Mapping.tablesSection, .map [("Sizes", .map [("prod", .map [("type", .string "large")])])]),
    ("Known", known), ("Pending", pending)]

theorem sized_uncoversNothing :
    (sized knownSize pendingSize).EveryCall Config.standard Call.UncoversNothing := by
  have text : ∀ written : String, (Value.string written).EveryCall Config.standard
      Call.UncoversNothing := fun _ => .of_isScalar trivial
  have reference : ∀ name : String, (Value.ofCall "Ref" (.string name)).EveryCall
      Config.standard Call.UncoversNothing := fun name => .ofCall rfl trivial (text name)
  have known : knownSize.EveryCall Config.standard Call.UncoversNothing := by
    refine .ofCall rfl ⟨by decide, by decide⟩ (.list ?_)
    simp only [List.forall_mem_cons]
    exact ⟨text _, reference _, text _, List.forall_mem_nil _⟩
  have pending : pendingSize.EveryCall Config.standard Call.UncoversNothing := by
    refine .ofCall rfl ⟨by decide, by decide⟩ (.list ?_)
    simp only [List.forall_mem_cons]
    refine ⟨reference _, .list ?_, List.forall_mem_nil _⟩
    simp only [List.forall_mem_cons]
    exact ⟨text _, known, List.forall_mem_nil _⟩
  refine .map nofun ?_
  simp only [List.forall_mem_cons]
  exact ⟨.of_containsCall_eq_false rfl, .of_containsCall_eq_false rfl, known, pending,
    List.forall_mem_nil _⟩

/-- The known size is folded, the other one waits, and goes on waiting in the second pass. -/
theorem resolveFunctions_again_sized :
    let once := ((resolveFunctions Registry.standard Config.standard (sized knownSize pendingSize)
      []).run {}).1.template
    once = sized (.string "large") pendingSize ∧
      ((resolveFunctions Registry.standard Config.standard once []).run {}).1.template = once := by
  intro once
  have distinct : (sized knownSize pendingSize).DistinctKeys := by
    simp [sized, knownSize, pendingSize, Value.ofCall, Value.DistinctKeys,
      Value.DistinctKeysOfItems, Value.DistinctKeysOfEntries, Entries.Distinct, Entries.keys,
      parametersSection, Mapping.tablesSection]
  have plain : ∀ name ∈ [parametersSection, Mapping.tablesSection], ∀ body,
      (sized knownSize pendingSize).get? name = some body →
        body.containsCall Config.standard = false := by
    simp only [List.forall_mem_cons]
    refine ⟨?_, ?_, List.forall_mem_nil _⟩
    · rintro _ ⟨⟩
      rfl
    · rintro _ ⟨⟩
      rfl
  have none : Parameters.Plain Config.standard [] := by
    intro name value found
    cases found
  have folded : once = sized (.string "large") pendingSize := by
    dsimp only [once]
    rw [resolveFunctions_run]
    rfl
  have again := resolveFunctions_again Registry.standard_builtIn Config.standard distinct rfl plain
    sized_uncoversNothing none {} {}
  dsimp only [once] at again folded ⊢
  exact ⟨folded, again⟩

end Resolution

end CloudTemplate
