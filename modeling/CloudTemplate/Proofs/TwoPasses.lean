import CloudTemplate.Proofs.TwoPasses.Functions

/-!
# Resolving in two passes

Values may be resolved before all parameters are known, and what is left may be resolved again when
more of them are. For the functions that may be folded early this makes no difference: the second
pass gives what a single one with all parameters gives (`Resolver.resolve_again`). The induction is
on the levels of the first pass. Its calls follow the calls of the single pass, a kept call is
resolved from the start, and what has been settled stays.
-/

set_option autoImplicit false

namespace CloudTemplate

/-! ## Values that may be folded early -/

/-- The functions that may be folded early whatever their arguments are. -/
def earlyNames : List String :=
  ["And", "Or", "Not", "Any", "If", "Add", "Avg", "Max", "Min", "Calculate", "Str",
    "Base64Encode", "Base64Decode", "Select", "Length", "ListMerge", "MergeMapToList"]

/-- The call may be folded early: it is a reference, or a call of a function that is unknown or in
the list, or a substitution without a map of variables. -/
def Registry.FoldsEarly (registry : Registry) : Call → Prop
  | .reference _ => True
  | .function _ name arguments =>
    registry.function? name = none ∨ name ∈ earlyNames ∨
      name = "Sub" ∧ Substitution.hasVariables arguments = false

/-- The functions in the list may be folded early. -/
theorem Registry.BuiltIn.foldsEarly {registry : Registry} (builtIn : registry.BuiltIn)
    {name : String} {function : Function} (found : registry.function? name = some function)
    (early : name ∈ earlyNames) : Function.FoldsEarly registry function fun _ => True := by
  have ignores := builtIn.ignoresDepth
  have standard := builtIn name function found
  simp only [earlyNames, List.mem_cons, List.not_mem_nil, or_false] at early
  rcases early with rfl | rfl | rfl | rfl | rfl | rfl | rfl | rfl | rfl | rfl | rfl | rfl | rfl |
    rfl | rfl | rfl | rfl <;> cases standard
  · exact Logic.and_foldsEarly ignores
  · exact Logic.or_foldsEarly ignores
  · exact Logic.not_foldsEarly ignores
  · exact Logic.any_foldsEarly ignores
  · exact Logic.choose_foldsEarly ignores
  · exact Math.fold_foldsEarly ignores _ _
  · exact Math.fold_foldsEarly ignores _ _
  · exact Math.fold_foldsEarly ignores _ _
  · exact Math.fold_foldsEarly ignores _ _
  · exact Math.calculate_foldsEarly ignores
  · exact Strings.str_foldsEarly ignores
  · exact Strings.base64Encode_foldsEarly ignores
  · exact Strings.base64Decode_foldsEarly ignores
  · exact Collection.select_foldsEarly ignores
  · exact Collection.length_foldsEarly ignores
  · exact Collection.listMerge_foldsEarly ignores
  · exact Mapping.mergeMapToList_foldsEarly ignores

/-- What a call that may be folded early does in two passes. -/
theorem Registry.BuiltIn.follows {registry : Registry} (builtIn : registry.BuiltIn)
    (call : Invocation) {more : Parameters}
    (extended : Parameters.Extends call.scope.parameters more) {function : Function}
    (found : registry.function? call.name = some function)
    (folds : registry.FoldsEarly (.function call.key call.name call.arguments)) :
    call.Follows registry more (function call) (function (call.withParameters more)) := by
  rcases folds with unknown | early | ⟨sub, bare⟩
  · rw [unknown] at found
    cases found
  · exact builtIn.foldsEarly found early call more trivial extended
  · rw [sub] at found
    have standard := builtIn _ function found
    cases standard
    exact Substitution.sub_foldsEarly builtIn.ignoresDepth call more bare extended

/-! ## The induction -/

/-- Two lists that are related to a third one, item by item. -/
theorem forall₂_of_common {α β γ : Type} {first : α → β → Prop} {second : α → γ → Prop}
    {joined : β → γ → Prop} {origins : List α} {results : List β} {lasts : List γ}
    (here : List.Forall₂ first origins results) (there : List.Forall₂ second origins lasts)
    (join : ∀ origin ∈ origins, ∀ result last, first origin result → second origin last →
      joined result last) : List.Forall₂ joined results lasts := by
  induction here generalizing lasts with
  | nil =>
    cases there
    exact .nil
  | @cons origin result origins results one _ ih =>
    cases there with
    | cons other others =>
      refine .cons (join origin List.mem_cons_self _ _ one other) (ih others ?_)
      exact fun inner member => join inner (List.mem_cons_of_mem _ member)

/-- The parameters have values that are well formed and hold no calls. -/
def Parameters.Plain (config : Config) (parameters : Parameters) : Prop :=
  ∀ name value, Entries.get? parameters name = some value →
    value.DistinctKeys ∧ value.containsCall config = false

theorem Parameters.Plain.of_extends {config : Config} {fewer more : Parameters}
    (extended : fewer.Extends more) (plain : more.Plain config) : fewer.Plain config :=
  fun name value found => plain name value (extended name value found)

namespace Resolver

section Passes

variable {registry : Registry} (builtIn : registry.BuiltIn) {scope : Scope} {more : Parameters}
  (extended : Parameters.Extends scope.parameters more) (plain : more.Plain scope.config)
include builtIn extended plain

/-- A reference that the first pass knows stands for a value without calls, and one that it does not
know is kept. -/
theorem reference_becomes {value target last : Value}
    (is_call : value.call? scope.config = some (.reference target))
    (again : Becomes registry (scope.withParameters more) value last) :
    Becomes registry (scope.withParameters more) (Reference.outcome scope value target) last := by
  have later : Resolves registry (scope.withParameters more) value
      (Reference.outcome (scope.withParameters more) value target) := resolves_reference is_call
  obtain rfl := again.resolves.unique builtIn.ignoresDepth later
  cases target with
  | string name =>
    unfold Reference.outcome at again ⊢
    dsimp only at again ⊢
    cases known : scope.parameters.get? name with
    | none => exact again
    | some parameter =>
      have kept : (scope.withParameters more).parameters.get? name = some parameter :=
        extended name parameter known
      obtain ⟨distinct, free⟩ := plain name parameter kept
      rw [kept]
      exact ⟨distinct, resolves_of_containsCall_eq_false free⟩
  | _ => exact again

omit plain in
/-- A call that the first pass has carried out becomes what the single pass makes of it, if all
that it may ask for does. -/
theorem function_becomes {levels : Nat} {value result last : Value} {key name : String}
    {arguments : Value} {function : Function}
    (is_call : value.call? scope.config = some (.function key name arguments))
    (known : registry.function? name = some function)
    (folds : registry.FoldsEarly (.function key name arguments))
    (answers : ∀ asked : Value, asked.Within arguments → ∀ answer final,
      outcome registry scope levels asked = .ok answer →
      Becomes registry (scope.withParameters more) asked final →
      Becomes registry (scope.withParameters more) answer final)
    (found : (function ⟨key, name, arguments, scope⟩).outcome (outcome registry scope levels) =
      .ok result)
    (again : Becomes registry (scope.withParameters more) value last) :
    Becomes registry (scope.withParameters more) result last := by
  obtain rfl := Value.eq_ofCall_of_call? is_call
  have programs := builtIn.follows ⟨key, name, arguments, scope⟩ extended known folds
  have call_again : (Value.ofCall key arguments).call? (scope.withParameters more).config =
    some (.function key name arguments) := is_call
  obtain ⟨further, later⟩ := (resolves_function_iff call_again known).1 again.resolves
  have inside : ∀ asked : Value, asked.Within arguments → asked.DistinctKeys :=
    fun asked deeper =>
      Value.distinctKeys_of_within (.child List.mem_cons_self deeper) again.distinct
  rcases programs.outcome (fun asked deeper answer final one other =>
    answers asked deeper answer final one ⟨inside asked deeper, further, other⟩)
    found later with rfl | becomes
  · exact again
  · exact becomes

/-- **What the first pass leaves becomes the result of the single pass.** -/
theorem outcome_becomes (levels : Nat) {value result last : Value}
    (folds : value.EveryCall scope.config registry.FoldsEarly)
    (found : outcome registry scope levels value = .ok result)
    (again : Becomes registry (scope.withParameters more) value last) :
    Becomes registry (scope.withParameters more) result last := by
  have ignores := builtIn.ignoresDepth
  induction levels generalizing value result last with
  | zero => cases found
  | succ levels ih =>
    cases is_call : value.call? scope.config with
    | none =>
      cases value with
      | list items =>
        obtain ⟨lasts, rfl, finals⟩ := (Becomes.list_iff ignores).1 again
        obtain ⟨results, rfl, all⟩ := outcome_list_eq_ok_iff.1 found
        refine (Becomes.list_iff ignores).2 ⟨lasts, rfl, ?_⟩
        refine forall₂_of_common all finals ?_
        intro item member answer final one other
        exact ih (folds.within (.item member (.self item))) one other
      | map entries =>
        have data := Value.isCall_eq_false_iff.2 is_call
        have later : (Value.map entries).isCall (scope.withParameters more).config = false := data
        obtain ⟨lasts, rfl, distinct, finals⟩ := (Becomes.map_iff ignores later).1 again
        obtain ⟨results, rfl, all⟩ := (outcome_map_eq_ok_iff data).1 found
        rw [Value.isCall_eq_of_keys_eq (EntryRel.keys_eq all)] at later
        refine (Becomes.map_iff ignores later).2
          ⟨lasts, rfl, EntryRel.distinct all distinct, forall₂_of_common all finals ?_⟩
        intro entry member answer final one other
        exact ⟨one.1.symm.trans other.1,
          ih (folds.within (.child member (.self entry.2))) one.2 other.2⟩
      | _ =>
        cases found
        exact again
    | some call =>
      cases call with
      | reference target =>
        rw [outcome_reference levels is_call] at found
        cases found
        exact reference_becomes builtIn extended plain is_call again
      | function key name arguments =>
        obtain rfl := Value.eq_ofCall_of_call? is_call
        cases known : registry.function? name with
        | none =>
          rw [outcome_unknown levels is_call known] at found
          cases found
          exact again
        | some function =>
          rw [outcome_function levels is_call known] at found
          have inside : ∀ asked : Value, asked.Within arguments →
              asked.Within (.ofCall key arguments) :=
            fun asked deeper => .child List.mem_cons_self deeper
          exact function_becomes builtIn extended is_call known (folds _ (.self _) _ is_call)
            (fun asked deeper answer final one other =>
              ih (folds.within (inside asked deeper)) one other) found again

end Passes

/-- **Resolving in two passes is resolving in one.** With enough levels, what the first pass leaves
resolves, with more parameters, to what the value resolves to with them. -/
theorem resolve_again {registry : Registry} (builtIn : registry.BuiltIn) (scope : Scope)
    {more : Parameters} (extended : Parameters.Extends scope.parameters more)
    (plain : more.Plain scope.config) {value : Value} (distinct : value.DistinctKeys)
    (folds : value.EveryCall scope.config registry.FoldsEarly) :
    ∃ enough, ∀ depth, enough ≤ depth → ∀ (result last : Value) (first second third : Trail),
      (resolve registry (scope.withMaxDepth depth) value).resultFrom first = .ok result →
      (resolve registry ((scope.withParameters more).withMaxDepth depth) value).resultFrom second =
        .ok last →
      (resolve registry ((scope.withParameters more).withMaxDepth depth) result).resultFrom third =
        .ok last := by
  have ignores := builtIn.ignoresDepth
  by_cases both : ∃ result last, Resolves registry scope value result ∧
      Resolves registry (scope.withParameters more) value last
  · obtain ⟨result, last, ⟨levels, found⟩, again⟩ := both
    have becomes := outcome_becomes builtIn extended plain levels folds found ⟨distinct, again⟩
    obtain ⟨enough, yields⟩ := becomes.resolves.eventually ignores
    refine ⟨enough, fun depth reached other final first second third one two => ?_⟩
    obtain rfl : other = result :=
      (resolves_of_resultFrom ignores one).unique ignores ⟨levels, found⟩
    obtain rfl : final = last := (resolves_of_resultFrom ignores two).unique ignores again
    exact yields depth reached third
  · refine ⟨0, fun depth _ result last first second third one two => ?_⟩
    exact absurd ⟨result, last, resolves_of_resultFrom ignores one,
      resolves_of_resultFrom ignores two⟩ both

/-- A condition in a list, to be taken out at a place that is a parameter. -/
def movedCondition : Value :=
  .ofCall "Fn::Select" (.list [.ofCall "Ref" (.string "Place"), .ofCall "Fn::ListMerge"
    (.list [.list [.ofCall "Fn::Not" (.list [.ofCall "Ref" (.string "Late")])]])])

theorem movedCondition_foldsEarly :
    movedCondition.EveryCall Config.standard Registry.standard.FoldsEarly := by
  have reference : ∀ name : String, (Value.ofCall "Ref" (.string name)).EveryCall
      Config.standard Registry.standard.FoldsEarly :=
    fun name => .ofCall rfl trivial (.of_isScalar trivial)
  have negated : (Value.ofCall "Fn::Not" (.list [.ofCall "Ref" (.string "Late")])).EveryCall
      Config.standard Registry.standard.FoldsEarly := by
    refine .ofCall rfl (.inr (.inl (by decide))) (.list fun item member => ?_)
    cases List.mem_singleton.1 member
    exact reference "Late"
  refine .ofCall rfl (.inr (.inl (by decide))) (.list fun item member => ?_)
  obtain rfl | single := List.mem_cons.1 member
  · exact reference "Place"
  · cases List.mem_singleton.1 single
    refine .ofCall rfl (.inr (.inl (by decide))) (.list fun item member => ?_)
    cases List.mem_singleton.1 member
    refine .list fun item member => ?_
    cases List.mem_singleton.1 member
    exact negated

/-- The first pass takes the condition out of its list and leaves it; the second one decides it. -/
theorem resolve_again_movedCondition :
    Registry.standard.BuiltIn ∧
      Parameters.Extends [("Place", .int 0)] [("Late", .bool true), ("Place", .int 0)] ∧
      Parameters.Plain Config.standard [("Late", .bool true), ("Place", .int 0)] ∧
      movedCondition.DistinctKeys ∧
      movedCondition.EveryCall Config.standard Registry.standard.FoldsEarly ∧
      (∀ trail, (resolve Registry.standard ⟨Config.standard, [("Place", .int 0)], .null⟩
        movedCondition).resultFrom trail =
          .ok (.ofCall "Fn::Not" (.list [.ofCall "Ref" (.string "Late")]))) ∧
      ∃ enough, ∀ depth, enough ≤ depth → ∀ (result last : Value) (first second third : Trail),
        (resolve Registry.standard (Scope.withMaxDepth
          ⟨Config.standard, [("Place", .int 0)], .null⟩ depth) movedCondition).resultFrom first =
            .ok result →
        (resolve Registry.standard (Scope.withMaxDepth
          ⟨Config.standard, [("Late", .bool true), ("Place", .int 0)], .null⟩ depth)
            movedCondition).resultFrom second = .ok last →
        (resolve Registry.standard (Scope.withMaxDepth
          ⟨Config.standard, [("Late", .bool true), ("Place", .int 0)], .null⟩ depth)
            result).resultFrom third = .ok last := by
  have extended : Parameters.Extends [("Place", .int 0)]
      [("Late", .bool true), ("Place", .int 0)] := by
    intro name value found
    cases List.mem_singleton.1 (Entries.mem_of_get?_eq_some found)
    rfl
  have plain : Parameters.Plain Config.standard [("Late", .bool true), ("Place", .int 0)] := by
    intro name value found
    obtain here | here := List.mem_cons.1 (Entries.mem_of_get?_eq_some found)
    · cases here
      exact ⟨trivial, rfl⟩
    · cases List.mem_singleton.1 here
      exact ⟨trivial, rfl⟩
  have distinct : movedCondition.DistinctKeys := by
    simp [movedCondition, Value.ofCall, Value.DistinctKeys, Value.distinctKeysOfItems_iff,
      Value.distinctKeysOfEntries_iff, Entries.Distinct, Entries.keys]
  have left : ∀ trail, (resolve Registry.standard ⟨Config.standard, [("Place", .int 0)], .null⟩
      movedCondition).resultFrom trail =
        .ok (.ofCall "Fn::Not" (.list [.ofCall "Ref" (.string "Late")])) := by
    intro trail
    rw [resolve_yields]
    rfl
  exact ⟨Registry.standard_builtIn, extended, plain, distinct, movedCondition_foldsEarly, left,
    resolve_again Registry.standard_builtIn ⟨Config.standard, [("Place", .int 0)], .null⟩
      extended plain distinct movedCondition_foldsEarly⟩

end Resolver

end CloudTemplate
