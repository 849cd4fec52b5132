import CloudTemplate.Proofs.Origin.Functions

/-!
# Where calls come from

A value that resolves may still have calls, those that could not be carried out yet. Each of them
is a call that was there before, with its arguments as they were written: in the value that was
resolved, in a parameter, or in the tables of the template (`resolve_calls`). So a call is never
carried out halfway, and none is formed from what others result in.

The invariant is that all calls of a value are known (`Value.CallsFrom`). Built-in functions keep
it, and so does the resolution of lists and of maps (`outcome_callsFrom`). The one exception is
`GetJsonValue`.
-/

set_option autoImplicit false

namespace CloudTemplate.Resolver

section Known

variable {registry : Registry} {scope : Scope} {known : Value → Prop}

/-- A reference stands for a parameter, or for itself. -/
theorem reference_callsFrom
    (parameters : ∀ parameter ∈ scope.parameters, parameter.2.CallsFrom scope.config known)
    {node : Value} (kept : node.CallsFrom scope.config known) (target : Value) :
    (Reference.outcome scope node target).CallsFrom scope.config known := by
  cases target with
  | string name =>
    unfold Reference.outcome
    dsimp only
    cases found : scope.parameters.get? name with
    | none => exact kept
    | some value => exact parameters _ (Entries.mem_of_get?_eq_some found)
  | _ => exact kept

/-- Values whose calls are known resolve to such values, if none of the calls reads a document. -/
theorem askable_closed (builtIn : registry.BuiltIn)
    (parameters : ∀ parameter ∈ scope.parameters, parameter.2.CallsFrom scope.config known)
    (tables : ∀ tables, scope.template.get? Mapping.tablesSection = some tables →
      tables.Askable scope.config known) :
    Closed registry scope (Value.Askable scope.config known) known where
  distinct := fun _ askable => askable.distinct
  within := fun _ _ askable inside => askable.within inside
  reference := fun _ target askable _ => reference_callsFrom parameters askable.toCallsFrom target
  unknown := fun _ _ _ _ askable _ _ => askable.toCallsFrom
  function := by
    intro value key name arguments function askable is_call registered
    have other : name ≠ "GetJsonValue" := askable.plain _ (.self _) _ is_call
    have node : value = .ofCall key arguments := Value.eq_ofCall_of_call? is_call
    subst node
    refine builtIn.keepsCalls registered other _ _ _ ⟨?_, ?_, askable.toCallsFrom, ?_⟩
    · exact askable.within (.child List.mem_cons_self (.self arguments))
    · exact fun items all item member => all.within (.item member (.self item))
    · intro table outer inner entry found
      obtain ⟨held, here, inside⟩ := Mapping.exists_tables_of_entry? found
      exact (tables held here).within inside

/-- **A value with known calls resolves to a value with known calls.** -/
theorem outcome_callsFrom (builtIn : registry.BuiltIn)
    (parameters : ∀ parameter ∈ scope.parameters, parameter.2.CallsFrom scope.config known)
    (tables : ∀ tables, scope.template.get? Mapping.tablesSection = some tables →
      tables.Askable scope.config known) {levels : Nat} {value result : Value}
    (askable : value.Askable scope.config known)
    (found : outcome registry scope levels value = .ok result) :
    result.CallsFrom scope.config known :=
  (askable_closed builtIn parameters tables).outcome askable found

end Known

/-- The value occurs in the one that is resolved, in a parameter, or in the tables. -/
def Occurs (scope : Scope) (value inner : Value) : Prop :=
  inner.Within value ∨ (∃ parameter ∈ scope.parameters, inner.Within parameter.2) ∨
    ∃ tables, scope.template.get? Mapping.tablesSection = some tables ∧ inner.Within tables

/-- **Unresolved calls are kept verbatim**: whatever a value resolves to, each call in it occurred
in the value, in a parameter or in the tables, with the same key and the same arguments. -/
theorem resolve_calls {registry : Registry} (builtIn : registry.BuiltIn) {scope : Scope}
    {value result : Value} (distinct : value.DistinctKeys)
    (parameters : ∀ parameter ∈ scope.parameters, parameter.2.DistinctKeys)
    (template : scope.template.DistinctKeys)
    (plain : value.EveryCall scope.config Call.ReadsNoDocument)
    (tables : ∀ tables, scope.template.get? Mapping.tablesSection = some tables →
      tables.EveryCall scope.config Call.ReadsNoDocument) {trail : Trail}
    (found : (resolve registry scope value).resultFrom trail = .ok result) :
    ∀ inner : Value, inner.Within result → inner.isCall scope.config = true →
      Occurs scope value inner := by
  have askable : value.Askable scope.config (Occurs scope value) :=
    ⟨.of_forall_within distinct fun _ inside => .inl inside, plain⟩
  have known_parameters : ∀ parameter ∈ scope.parameters,
      parameter.2.CallsFrom scope.config (Occurs scope value) := by
    intro parameter member
    refine .of_forall_within (parameters parameter member) fun _ inside => ?_
    exact .inr (.inl ⟨parameter, member, inside⟩)
  have known_tables : ∀ held, scope.template.get? Mapping.tablesSection = some held →
      held.Askable scope.config (Occurs scope value) := by
    intro held here
    have well_formed := Value.distinctKeys_of_within (Value.within_of_get? here) template
    refine ⟨.of_forall_within well_formed fun _ inside => ?_, tables held here⟩
    exact .inr (.inr ⟨held, here, inside⟩)
  rw [resolve_yields registry scope value trail] at found
  have all := outcome_callsFrom builtIn known_parameters known_tables askable found
  exact fun inner inside is_call => all.known_of_isCall inside is_call

/-- A condition behind an index that cannot be decided yet, and an entry of a table. -/
def pending : Value :=
  .list [.ofCall "Fn::Select"
      (.list [.int 0, .list [.ofCall "Fn::Not" (.list [.ofCall "Ref" (.string "Later")])]]),
    .ofCall "Fn::FindInMap"
      (.list [.string "Sizes", .ofCall "Ref" (.string "Row"), .string "Disk"])]

/-- A template with a table whose entry is a call. -/
def tabulated : Value :=
  .map [(Mapping.tablesSection, .map [("Sizes", .map [("Small", .map [("Disk",
    .ofCall "Ref" (.string "Default"))])])])]

theorem reference_readsNoDocument (name : String) :
    (Value.ofCall "Ref" (.string name)).EveryCall Config.standard Call.ReadsNoDocument :=
  .ofCall rfl trivial (.of_isScalar trivial)

theorem function_readsNoDocument {key : String} (name : String) {arguments : List Value}
    (is_call : (Value.ofCall key (.list arguments)).call? Config.standard =
      some (.function key name (.list arguments)))
    (other : name ≠ "GetJsonValue")
    (inside : ∀ argument ∈ arguments, argument.EveryCall Config.standard Call.ReadsNoDocument) :
    (Value.ofCall key (.list arguments)).EveryCall Config.standard Call.ReadsNoDocument :=
  .ofCall is_call other (.list inside)

theorem pending_readsNoDocument : pending.EveryCall Config.standard Call.ReadsNoDocument := by
  have negated : (Value.ofCall "Fn::Not" (.list [.ofCall "Ref" (.string "Later")])).EveryCall
      Config.standard Call.ReadsNoDocument :=
    function_readsNoDocument "Not" rfl (by decide)
      (List.forall_mem_singleton.2 (reference_readsNoDocument "Later"))
  refine .list (List.forall_mem_cons.2 ⟨?_, List.forall_mem_singleton.2 ?_⟩)
  · refine function_readsNoDocument "Select" rfl (by decide) ?_
    refine List.forall_mem_cons.2 ⟨.of_isScalar trivial, List.forall_mem_singleton.2 ?_⟩
    exact .list (List.forall_mem_singleton.2 negated)
  · refine function_readsNoDocument "FindInMap" rfl (by decide) ?_
    refine List.forall_mem_cons.2 ⟨.of_isScalar trivial, List.forall_mem_cons.2 ⟨?_, ?_⟩⟩
    · exact reference_readsNoDocument "Row"
    · exact List.forall_mem_singleton.2 (.of_isScalar trivial)

theorem tabulated_readsNoDocument {tables : Value}
    (found : tabulated.get? Mapping.tablesSection = some tables) :
    tables.EveryCall Config.standard Call.ReadsNoDocument := by
  have entry := reference_readsNoDocument "Default"
  cases found
  refine .map nofun (List.forall_mem_singleton.2 ?_)
  refine .map nofun (List.forall_mem_singleton.2 ?_)
  exact .map nofun (List.forall_mem_singleton.2 entry)

/-- The condition is taken out of its list, and the entry out of its table, and both are left. -/
theorem resolve_calls_pending :
    Registry.standard.BuiltIn ∧ pending.DistinctKeys ∧ tabulated.DistinctKeys ∧
      pending.EveryCall Config.standard Call.ReadsNoDocument ∧
      ∃ result, (resolve Registry.standard
          ⟨Config.standard, [("Row", .string "Small")], tabulated⟩ pending).resultFrom {} =
            .ok result ∧
        result = .list [.ofCall "Fn::Not" (.list [.ofCall "Ref" (.string "Later")]),
          .ofCall "Ref" (.string "Default")] ∧
        ∀ inner : Value, inner.Within result → inner.isCall Config.standard = true →
          Occurs ⟨Config.standard, [("Row", .string "Small")], tabulated⟩ pending inner := by
  have distinct : pending.DistinctKeys := by
    simp [pending, Value.ofCall, Value.DistinctKeys, Value.distinctKeysOfItems_iff,
      Value.distinctKeysOfEntries_iff, Entries.Distinct, Entries.keys]
  have template : tabulated.DistinctKeys := by
    simp [tabulated, Value.ofCall, Value.DistinctKeys, Value.distinctKeysOfEntries_iff,
      Entries.Distinct, Entries.keys]
  have found : (resolve Registry.standard
      ⟨Config.standard, [("Row", .string "Small")], tabulated⟩ pending).resultFrom {} =
        .ok (.list [.ofCall "Fn::Not" (.list [.ofCall "Ref" (.string "Later")]),
          .ofCall "Ref" (.string "Default")]) := by
    rw [resolve_yields]
    rfl
  refine ⟨Registry.standard_builtIn, distinct, template, pending_readsNoDocument, _, found, rfl, ?_⟩
  exact resolve_calls Registry.standard_builtIn distinct
    (List.forall_mem_singleton.2 trivial) template pending_readsNoDocument
    (fun _ => tabulated_readsNoDocument) found

end CloudTemplate.Resolver
