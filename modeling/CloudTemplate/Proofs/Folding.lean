import CloudTemplate.Proofs.Origin
import CloudTemplate.Proofs.TwoPasses

/-!
# Values that are folded completely

A value is static when nothing in it has to wait: its references name parameters that are known, and
the functions that it calls defer for calls only (`Call.IsStatic`). If a static value resolves at
all, it resolves to data (`Resolver.resolve_containsCall_eq_false`).

This is the invariant about known calls, where no call is known at all. A reference stands for a
parameter, which is data. A function is given data for whatever it asks, so that it has no reason to
defer, and it takes its result out of data or merges maps of data, which makes no call.
-/

set_option autoImplicit false

namespace CloudTemplate

/-- The call need not wait: it refers to one of the parameters, or calls a function of the registry
that is not hesitant. -/
def Call.IsStatic (registry : Registry) (parameters : Parameters) : Call → Prop
  | .reference target => ∃ name, target = .string name ∧ parameters.contains name = true
  | .function _ name _ => registry.contains name = true ∧ name ∉ hesitantNames

/-- The value is well formed, and all of its calls are static. -/
structure Value.Static (registry : Registry) (scope : Scope) (value : Value) : Prop where
  distinct : value.DistinctKeys
  calls : value.EveryCall scope.config (Call.IsStatic registry scope.parameters)

theorem Value.Static.within {registry : Registry} {scope : Scope} {inner outer : Value}
    (static : outer.Static registry scope) (inside : inner.Within outer) :
    inner.Static registry scope :=
  ⟨distinctKeys_of_within inside static.distinct, static.calls.within inside⟩

namespace Resolver

variable {registry : Registry} {scope : Scope}

/-- A reference to a parameter stands for data. -/
theorem reference_data (plain : scope.parameters.Plain scope.config) {target : Value}
    (static : (Call.reference target).IsStatic registry scope.parameters) (node : Value) :
    (Reference.outcome scope node target).CallsFrom scope.config fun _ => False := by
  obtain ⟨name, rfl, known⟩ := static
  obtain ⟨value, found⟩ := Option.isSome_iff_exists.1 known
  obtain ⟨distinct, data⟩ := plain name value found
  unfold Reference.outcome
  dsimp only
  rw [found]
  exact ⟨distinct, .of_containsCall_eq_false data⟩

/-- Static values resolve to values in which no call is known. -/
theorem static_closed (builtIn : registry.BuiltIn) (plain : scope.parameters.Plain scope.config) :
    Closed registry scope (Value.Static registry scope) fun _ => False where
  distinct := fun _ static => static.distinct
  within := fun _ _ static inside => static.within inside
  reference := fun value target static is_call =>
    reference_data plain (static.calls value (.self value) _ is_call) value
  unknown := by
    intro value key name arguments static is_call unregistered
    have registered : registry.contains name = true :=
      (static.calls value (.self value) _ is_call).1
    obtain ⟨definition, found⟩ := Option.isSome_iff_exists.1 registered
    unfold Registry.function? at unregistered
    rw [found] at unregistered
    cases unregistered
  function := by
    intro value key name arguments function static is_call registered
    have prompt : name ∉ hesitantNames := (static.calls value (.self value) _ is_call).2
    have node : value = .ofCall key arguments := Value.eq_ofCall_of_call? is_call
    subst node
    refine builtIn.defersForCalls registered prompt _ _ _ ⟨?_, ?_, ?_⟩
    · exact static.within (.child List.mem_cons_self (.self arguments))
    · exact fun items all item member => all.within (.item member (.self item))
    · intro answer data contains
      have none : answer.containsCall scope.config = false := data.calls.containsCall_eq_false
      rw [none] at contains
      cases contains

/-- **Everything that is static is folded**: what a static value resolves to holds no call. -/
theorem resolve_containsCall_eq_false (builtIn : registry.BuiltIn)
    (plain : scope.parameters.Plain scope.config) {value result : Value}
    (static : value.Static registry scope) {trail : Trail}
    (found : (resolve registry scope value).resultFrom trail = .ok result) :
    result.containsCall scope.config = false := by
  rw [resolve_yields registry scope value trail] at found
  exact ((static_closed builtIn plain).outcome static found).calls.containsCall_eq_false

/-- Tags of two sources, merged place by place. -/
def allTags : Value :=
  .ofCall "Fn::MergeMapToList" (.list [
    .list [.map [("Stage", .ofCall "Ref" (.string "Env"))]], .ofCall "Ref" (.string "Tags"),
    .list [.map []]])

/-- The merged tags, and one of them taken out again. -/
def mergedTags : Value :=
  .map [("All", allTags),
    ("Stages", .ofCall "Fn::SelectMapList" (.list [.string "Stage", allTags]))]

/-- The parameters of the tags. -/
def tagScope : Scope where
  config := Config.standard
  parameters := [("Env", .string "prod"), ("Tags", .list [.map [("Team", .list [])]])]
  template := .null

theorem mergedTags_static : mergedTags.Static Registry.standard tagScope := by
  have reference : ∀ name : String, tagScope.parameters.contains name = true →
      (Value.ofCall "Ref" (.string name)).EveryCall Config.standard
        (Call.IsStatic Registry.standard tagScope.parameters) :=
    fun name known => .ofCall rfl ⟨name, rfl, known⟩ (.of_isScalar trivial)
  have tags : allTags.EveryCall Config.standard
      (Call.IsStatic Registry.standard tagScope.parameters) := by
    refine .ofCall rfl ⟨by decide, by decide⟩ (.list (List.forall_mem_cons.2 ⟨.list ?_,
      List.forall_mem_cons.2 ⟨reference "Tags" (by decide), List.forall_mem_singleton.2 ?_⟩⟩))
    · exact List.forall_mem_singleton.2
        (.data rfl (List.forall_mem_singleton.2 (reference "Env" (by decide))))
    · exact .list (List.forall_mem_singleton.2 (.data rfl (List.forall_mem_nil _)))
  constructor
  · simp [mergedTags, allTags, Value.ofCall, Value.DistinctKeys, Value.distinctKeysOfItems_iff,
      Value.distinctKeysOfEntries_iff, Entries.Distinct, Entries.keys]
  · refine .data rfl (List.forall_mem_cons.2 ⟨tags, List.forall_mem_singleton.2 ?_⟩)
    refine .ofCall rfl ⟨by decide, by decide⟩ (.list (List.forall_mem_cons.2 ⟨?_, ?_⟩))
    · exact .of_isScalar trivial
    · exact List.forall_mem_singleton.2 tags

/-- Maps with one key each are merged to a map with two keys, and no call is left. -/
theorem resolve_containsCall_eq_false_mergedTags :
    let tags := Value.list [.map [("Stage", .string "prod"), ("Team", .list [])]]
    let result := Value.map [("All", tags), ("Stages", .list [.string "prod"])]
    Registry.standard.BuiltIn ∧ tagScope.parameters.Plain Config.standard ∧
      mergedTags.Static Registry.standard tagScope ∧
      (resolve Registry.standard tagScope mergedTags).resultFrom {} = .ok result ∧
      result.containsCall Config.standard = false := by
  intro tags result
  have plain : tagScope.parameters.Plain Config.standard := by
    intro name value found
    obtain here | here := List.mem_cons.1 (Entries.mem_of_get?_eq_some found)
    · cases here
      exact ⟨trivial, rfl⟩
    · cases List.mem_singleton.1 here
      refine ⟨?_, rfl⟩
      simp [Value.DistinctKeys, Value.distinctKeysOfItems_iff, Value.distinctKeysOfEntries_iff,
        Entries.Distinct, Entries.keys]
  have found : (resolve Registry.standard tagScope mergedTags).resultFrom {} = .ok result := by
    rw [resolve_yields]
    rfl
  exact ⟨Registry.standard_builtIn, plain, mergedTags_static, found,
    resolve_containsCall_eq_false Registry.standard_builtIn plain mergedTags_static found⟩

end Resolver

end CloudTemplate
