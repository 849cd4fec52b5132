import CloudTemplate.Proofs.TwoPasses

/-!
# Values with references only

A value whose calls are all references resolves to the value that has the parameters in place of
the references to them (`Resolver.resolves_completed`). Completing it with some parameters and
later with more is completing it with all of them at once (`Resolver.becomes_completed`).
-/

set_option autoImplicit false

namespace CloudTemplate

/-- The call refers to something and calls no function. -/
def Call.IsReference : Call → Prop
  | .reference _ => True
  | .function .. => False

namespace Value

mutual
/-- The value with parameters in place of the references to them. -/
def completed (scope : Scope) : Value → Value
  | .list items => .list (completedItems scope items)
  | .map entries =>
    match (Value.map entries).call? scope.config with
    | some (.reference target) => Reference.outcome scope (.map entries) target
    | some (.function _ _ _) => .map entries
    | none => .map (completedEntries scope entries)
  | scalar => scalar

/-- The items with parameters in place of the references to them. -/
def completedItems (scope : Scope) : List Value → List Value
  | [] => []
  | item :: items => completed scope item :: completedItems scope items

/-- The children with parameters in place of the references to them. -/
def completedEntries (scope : Scope) : List (String × Value) → List (String × Value)
  | [] => []
  | (key, child) :: entries => (key, completed scope child) :: completedEntries scope entries
end

variable {scope : Scope}

theorem completedItems_eq_map (items : List Value) :
    completedItems scope items = items.map (completed scope) := by
  induction items with
  | nil => rfl
  | cons item items ih => rw [completedItems, List.map_cons, ih]

theorem completedEntries_eq_map (entries : List (String × Value)) :
    completedEntries scope entries =
      entries.map fun entry => (entry.1, entry.2.completed scope) := by
  induction entries with
  | nil => rfl
  | cons entry entries ih => rw [completedEntries, List.map_cons, ih]

theorem keys_completedEntries (entries : Entries Value) :
    entries.keys = Entries.keys (entries.map fun entry => (entry.1, entry.2.completed scope)) := by
  simp [Entries.keys]

theorem completed_of_isScalar {value : Value} (scalar : value.IsScalar) :
    value.completed scope = value := by
  cases value with
  | list items => exact scalar.elim
  | map entries => exact scalar.elim
  | _ => rfl

theorem completed_list (items : List Value) :
    (Value.list items).completed scope = .list (items.map (completed scope)) := by
  rw [completed, completedItems_eq_map]

theorem completed_map {entries : List (String × Value)}
    (data : (Value.map entries).call? scope.config = none) :
    (Value.map entries).completed scope =
      .map (entries.map fun entry => (entry.1, entry.2.completed scope)) := by
  rw [completed, data, completedEntries_eq_map]

theorem completed_reference {entries : List (String × Value)} {target : Value}
    (is_call : (Value.map entries).call? scope.config = some (.reference target)) :
    (Value.map entries).completed scope = Reference.outcome scope (.map entries) target := by
  rw [completed, is_call]

/-- In a completed value, too, all calls are references. -/
theorem completed_everyCall (plain : scope.parameters.Plain scope.config) (value : Value)
    (refers : value.EveryCall scope.config Call.IsReference) :
    (value.completed scope).EveryCall scope.config Call.IsReference := by
  induction value using nested_induction with
  | scalar value scalar =>
    rw [completed_of_isScalar scalar]
    exact refers
  | list items ih =>
    rw [completed_list]
    refine .list fun last member => ?_
    obtain ⟨item, inside, rfl⟩ := List.mem_map.1 member
    exact ih item inside (refers.within (.item inside (.self item)))
  | map entries ih =>
    cases is_call : (Value.map entries).call? scope.config with
    | none =>
      rw [completed_map is_call]
      refine .map (fun call same => ?_) fun last member => ?_
      · have data := Value.isCall_eq_false_iff.2 is_call
        rw [isCall_eq_of_keys_eq (keys_completedEntries entries), isCall_eq_false_iff, same] at data
        cases data
      · obtain ⟨entry, inside, rfl⟩ := List.mem_map.1 member
        exact ih entry inside (refers.within (.child inside (.self entry.2)))
    | some call =>
      cases call with
      | function key name arguments => exact (refers _ (.self _) _ is_call).elim
      | reference target =>
        rw [completed_reference is_call]
        cases target with
        | string name =>
          unfold Reference.outcome
          dsimp only
          cases known : scope.parameters.get? name with
          | none => exact refers
          | some parameter =>
            exact .of_containsCall_eq_false (plain name parameter known).2
        | _ => exact refers

end Value

namespace Resolver

variable {registry : Registry} {scope : Scope}

/-- **A value with references only resolves to the completed one.** -/
theorem resolves_completed (ignores : registry.IgnoresDepth) (value : Value)
    (refers : value.EveryCall scope.config Call.IsReference) :
    Resolves registry scope value (value.completed scope) := by
  induction value using Value.nested_induction with
  | scalar value scalar =>
    rw [Value.completed_of_isScalar scalar]
    exact ⟨1, outcome_of_isScalar scalar 0⟩
  | list items ih =>
    rw [Value.completed_list]
    refine (resolves_list_iff ignores).2 ⟨_, rfl, ?_⟩
    rw [List.forall₂_map_right_iff, List.forall₂_same]
    exact fun item member => ih item member (refers.within (.item member (.self item)))
  | map entries ih =>
    cases is_call : (Value.map entries).call? scope.config with
    | none =>
      have data := Value.isCall_eq_false_iff.2 is_call
      rw [Value.completed_map is_call]
      refine (resolves_map_iff ignores data).2 ⟨_, rfl, ?_⟩
      rw [List.forall₂_map_right_iff, List.forall₂_same]
      exact fun entry member =>
        ⟨rfl, ih entry member (refers.within (.child member (.self entry.2)))⟩
    | some call =>
      cases call with
      | function key name arguments => exact (refers _ (.self _) _ is_call).elim
      | reference target =>
        rw [Value.completed_reference is_call]
        exact resolves_reference is_call

/-- What has been completed becomes what the value is when it is completed with more. -/
theorem becomes_completed (builtIn : registry.BuiltIn) {more : Parameters}
    (extended : Parameters.Extends scope.parameters more) (plain : more.Plain scope.config)
    {value : Value} (distinct : value.DistinctKeys)
    (refers : value.EveryCall scope.config Call.IsReference) :
    Becomes registry (scope.withParameters more) (value.completed scope)
      (value.completed (scope.withParameters more)) := by
  have ignores := builtIn.ignoresDepth
  obtain ⟨levels, found⟩ := resolves_completed ignores value refers
  refine outcome_becomes builtIn extended plain levels (refers.imp ?_) found
    ⟨distinct, resolves_completed ignores value refers⟩
  intro call reference
  cases call with
  | reference target => trivial
  | function key name arguments => exact reference.elim

/-- Completing twice is completing with what is known in the end. -/
theorem completed_completed {more : Parameters}
    (extended : Parameters.Extends scope.parameters more) (plain : more.Plain scope.config)
    {value : Value} (distinct : value.DistinctKeys)
    (refers : value.EveryCall scope.config Call.IsReference) :
    (value.completed scope).completed (scope.withParameters more) =
      value.completed (scope.withParameters more) := by
  have builtIn := Registry.standard_builtIn
  have becomes := becomes_completed builtIn extended plain distinct refers
  have all := Value.completed_everyCall (plain.of_extends extended) value refers
  have completes : Resolves Registry.standard (scope.withParameters more) (value.completed scope)
      ((value.completed scope).completed (scope.withParameters more)) :=
    resolves_completed builtIn.ignoresDepth _ all
  exact completes.unique builtIn.ignoresDepth becomes.resolves

/-- A value without calls is complete. -/
theorem completed_of_containsCall_eq_false {value : Value}
    (none : value.containsCall scope.config = false) : value.completed scope = value := by
  have ignores := Registry.standard_builtIn.ignoresDepth
  have completes : Resolves Registry.standard scope value (value.completed scope) :=
    resolves_completed ignores value (.of_containsCall_eq_false none)
  exact completes.unique ignores (resolves_of_containsCall_eq_false none)

end Resolver

end CloudTemplate
