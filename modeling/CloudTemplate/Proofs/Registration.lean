import CloudTemplate.Registry

/-!
# Registration of functions

A registry changes in one of two ways. A function is registered under a name, or the functions of a
group are registered one after the other (`Registration`). Either ends in an error when a name is
taken, and the error tells the first such name.

The functions of a group have different names, so none of them takes the name of another, and which
names are taken can be told from the registry before the registration
(`Registry.registerAll_eq`). Whatever is registered, an error leaves behind what comes before the
name that is taken, and nothing else has changed (`Registry.perform_failed`). For a single function
nothing comes before it, so its failure changes nothing. A group that fails later than at its first
function stays in the registry in part (`Registry.not_perform_atomic`).
-/

set_option autoImplicit false

namespace CloudTemplate

/-- A change of a registry. -/
inductive Registration where
  /-- A function under a name. -/
  | single (name : String) (definition : Definition)
  /-- The functions of a group under their names. -/
  | group (category : Signature.Category)

/-- A definition with its name. -/
def Definition.entry (definition : Definition) : String × Definition :=
  (definition.signature.name, definition)

/-- The functions that are to be registered, in their order. -/
def Registration.entries : Registration → Entries Definition
  | .single name definition => [(name, definition)]
  | .group category => (Registry.group category).map Definition.entry

namespace Registry

/-- The registry after a registration, and the error in which the registration ended. -/
def perform (registry : Registry) : Registration → Registry × Option Error
  | .single name definition =>
    match registry.registerAs name definition with
    | .ok later => (later, none)
    | .error error => (registry, some error)
  | .group category => registry.registerGroup category

/-! ## One function -/

theorem contains_eq_false_iff {registry : Registry} {name : String} :
    registry.contains name = false ↔ name ∉ Entries.keys registry.definitions := by
  unfold contains Entries.contains
  rw [← Entries.get?_isSome_iff, Bool.not_eq_true]

/-- A function whose name is free is put at the end. -/
theorem registerAs_of_free {registry : Registry} {name : String} (definition : Definition)
    (free : registry.contains name = false) :
    registry.registerAs name definition = .ok ⟨registry.definitions ++ [(name, definition)]⟩ := by
  unfold registerAs
  rw [free, if_neg nofun, Entries.insert_of_not_mem (contains_eq_false_iff.1 free)]

theorem registerAs_of_taken {registry : Registry} {name : String} (definition : Definition)
    (taken : registry.contains name = true) :
    registry.registerAs name definition = .error (.duplicateFunction name) :=
  if_pos taken

/-- The name of one function is as free as before when another one has been registered. -/
theorem contains_append {definitions : Entries Definition} {name other : String}
    (differ : name ≠ other) (definition : Definition) :
    contains ⟨definitions ++ [(name, definition)]⟩ other = contains ⟨definitions⟩ other := by
  rw [Bool.eq_iff_iff]
  unfold contains Entries.contains
  rw [Entries.get?_isSome_iff, Entries.get?_isSome_iff, Entries.keys, List.map_append,
    List.mem_append]
  constructor
  · rintro (before | new)
    · exact before
    · exact absurd (List.mem_singleton.1 new).symm differ
  · exact .inl

/-! ## Several functions -/

/-- **What is registered of several functions** with different names: those before the first one
whose name is taken, which is the one that the error tells. -/
theorem registerAll_spec {definitions : List Definition}
    (distinct : (definitions.map fun definition => definition.signature.name).Nodup)
    (registry : Registry) :
    ∃ before after, definitions = before ++ after ∧
      (∀ definition ∈ before, registry.contains definition.signature.name = false) ∧
      (∀ definition, after.head? = some definition →
        registry.contains definition.signature.name = true) ∧
      registry.registerAll definitions =
        (⟨registry.definitions ++ before.map Definition.entry⟩,
          after.head?.map fun definition => .duplicateFunction definition.signature.name) := by
  induction definitions generalizing registry with
  | nil => exact ⟨[], [], rfl, List.forall_mem_nil _, nofun, by simp [registerAll]⟩
  | cons definition definitions ih =>
    obtain ⟨differ, distinct⟩ := List.nodup_cons.1 distinct
    cases free : registry.contains definition.signature.name with
    | true =>
      refine ⟨[], definition :: definitions, rfl, List.forall_mem_nil _, ?_, ?_⟩
      · rintro _ ⟨⟩
        exact free
      · rw [registerAll, register, registerAs_of_taken definition free, List.map_nil,
          List.append_nil]
        rfl
    | false =>
      obtain ⟨before, after, rfl, fresh, taken, result⟩ :=
        ih distinct ⟨registry.definitions ++ [definition.entry]⟩
      -- The functions that follow have other names, so their names were as free before.
      have same : ∀ other ∈ before ++ after,
          contains ⟨registry.definitions ++ [definition.entry]⟩ other.signature.name =
            registry.contains other.signature.name := fun other member =>
        contains_append (fun equal => differ (List.mem_map.2 ⟨other, member, equal.symm⟩)) _
      refine ⟨definition :: before, after, rfl, ?_, fun other first => ?_, ?_⟩
      · refine List.forall_mem_cons.2 ⟨free, fun other member => ?_⟩
        rw [← same other (List.mem_append_left _ member)]
        exact fresh other member
      · rw [← same other (List.mem_append_right _ (List.mem_of_mem_head? first))]
        exact taken other first
      · rw [registerAll, register, registerAs_of_free definition free]
        refine result.trans ?_
        rw [List.map_cons, List.append_assoc, List.singleton_append]

/-- The functions of a group have different names. -/
theorem names_group_nodup (category : Signature.Category) :
    ((group category).map fun definition => definition.signature.name).Nodup := by
  cases category <;> decide

/-! ## Failure -/

/-- **What a failed registration leaves behind**: everything that was there before, and what was to
be registered before the first name that is taken. The error tells this name. So nothing has changed
if it was the first name, as it is for a single function. -/
theorem perform_failed {registry later : Registry} {registration : Registration} {error : Error}
    (failed : registry.perform registration = (later, some error)) :
    ∃ before name definition after,
      registration.entries = before ++ (name, definition) :: after ∧
      error = .duplicateFunction name ∧ registry.contains name = true ∧
      (∀ entry ∈ before, registry.contains entry.1 = false) ∧
      later.definitions = registry.definitions ++ before ∧
      (∀ wanted, later.definitions.get? wanted =
        (registry.definitions.get? wanted).or (Entries.get? before wanted)) ∧
      (later = registry ↔ before = []) ∧
      ∀ name definition, registration = .single name definition → later = registry := by
  cases registration with
  | single name definition =>
    cases taken : registry.contains name with
    | false =>
      rw [perform, registerAs_of_free definition taken] at failed
      cases failed
    | true =>
      rw [perform, registerAs_of_taken definition taken] at failed
      cases failed
      exact ⟨[], name, definition, [], rfl, rfl, taken, List.forall_mem_nil _,
        (List.append_nil _).symm, fun _ => Option.or_none.symm, iff_of_true rfl rfl,
        fun _ _ _ => rfl⟩
  | group category =>
    obtain ⟨before, after, all, fresh, taken, result⟩ :=
      registerAll_spec (names_group_nodup category) registry
    cases after with
    | nil =>
      rw [perform, registerGroup, result] at failed
      cases failed
    | cons definition after =>
      rw [perform, registerGroup, result] at failed
      cases failed
      refine ⟨before.map Definition.entry, definition.signature.name, definition,
        after.map Definition.entry, ?_, rfl, taken definition rfl, List.forall_mem_map.2 fresh,
        rfl, Entries.get?_append _ _, ?_, nofun⟩
      · rw [Registration.entries, all, List.map_append, List.map_cons]
        rfl
      · rw [List.map_eq_nil_iff]
        constructor
        · intro same
          have longer := congrArg Registry.definitions same
          exact List.map_eq_nil_iff.1 (List.append_right_eq_self.1 longer)
        · rintro rfl
          rw [List.map_nil, List.append_nil]

/-- A function of the user that has the name of a built-in function. -/
def ownOr : Definition where
  signature := { name := "Or", category := .logic, description := "Always holds" }
  function := fun _ => pure (.bool true)

/-- The registry with this function only. -/
def withOwnOr : Registry :=
  (empty.perform (.single "Or" ownOr)).1

/-- The group of logical functions fails at its second function. The first one has been registered
then, and the function of the user is still there. -/
theorem perform_failed_second :
    let later := (withOwnOr.perform (.group .logic)).1
    withOwnOr.perform (.group .logic) = (later, some (.duplicateFunction "Or")) ∧
      later.definitions.get? "Or" = some ownOr ∧ later.contains "And" = true ∧
      later.contains "Not" = false := by
  intro later
  have failed : withOwnOr.perform (.group .logic) = (later, some (.duplicateFunction "Or")) := rfl
  obtain ⟨before, name, definition, after, -, -, -, -, -, lookups, -⟩ := perform_failed failed
  refine ⟨failed, ?_, rfl, rfl⟩
  rw [lookups "Or"]
  rfl

/-- **A failed registration can change the registry**, if it is that of a group. -/
theorem not_perform_atomic :
    ¬∀ (registry : Registry) (registration : Registration) (later : Registry) (error : Error),
      registry.perform registration = (later, some error) → later = registry := by
  intro atomic
  have same : (withOwnOr.perform (.group .logic)).1 = withOwnOr :=
    atomic withOwnOr (.group .logic) _ (.duplicateFunction "Or") rfl
  have appeared : (withOwnOr.perform (.group .logic)).1.contains "And" = true := rfl
  rw [same] at appeared
  cases appeared

end Registry

end CloudTemplate
