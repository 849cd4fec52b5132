import Mathlib.Data.List.Induction
import CloudTemplate.Proofs.Registration
import CloudTemplate.Proofs.BuiltIn
import CloudTemplate.Proofs.Utf8

/-!
# What a registry tells of its functions

A registry can be asked for a function, for its description, whether there is one with a name, how
many there are, and for the descriptions of all of them or of a category. The answers to the first
questions are looked up under the names that functions were registered under, while the lists are
sorted by the names in the descriptions. They agree as long as these are the same names and no name
is taken twice (`Registry.Consistent`), which is what registrations preserve that take the name from
the description (`Registry.Consistent.perform`).

A registration puts functions at the end and changes nothing else (`Registry.perform_spec`), so what
is once bound to a name stays bound to it: after any number of registrations, a name has the
function that it had at the beginning or that it was first registered with
(`Registry.get?_performAll`).
-/

set_option autoImplicit false

namespace CloudTemplate

/-- The names are those of the descriptions. -/
def Registration.Named : Registration → Prop
  | .single name definition => name = definition.signature.name
  | .group _ => True

theorem Registration.Named.name_eq {registration : Registration} (named : registration.Named)
    {entry : String × Definition} (member : entry ∈ registration.entries) :
    entry.1 = entry.2.signature.name := by
  cases registration with
  | single name definition =>
    rw [List.mem_singleton.1 member]
    exact named
  | group category =>
    obtain ⟨definition, -, rfl⟩ := List.mem_map.1 member
    rfl

/-- A registration has different names. -/
theorem Registration.distinct_entries (registration : Registration) :
    Entries.Distinct registration.entries := by
  cases registration with
  | single name definition => exact List.pairwise_singleton _ name
  | group category =>
    unfold Entries.Distinct Entries.keys entries
    rw [List.map_map]
    exact Registry.names_group_nodup category

namespace Registry

/-! ## Registrations one after the other -/

/-- The registry after registrations, whether they fail or not. -/
def performAll (registry : Registry) (registrations : List Registration) : Registry :=
  registrations.foldl (fun registry registration => (registry.perform registration).1) registry

theorem performAll_append (registry : Registry) (registrations : List Registration)
    (registration : Registration) :
    registry.performAll (registrations ++ [registration]) =
      ((registry.performAll registrations).perform registration).1 :=
  List.foldl_append

/-- **What a registration does**: functions with free names are put at the end, in their order, up
to the first whose name is taken, which is the one that the error tells. -/
theorem perform_spec (registry : Registry) (registration : Registration) :
    ∃ before after, registration.entries = before ++ after ∧
      (∀ entry ∈ before, registry.contains entry.1 = false) ∧
      registry.perform registration = (⟨registry.definitions ++ before⟩,
        after.head?.map fun entry => .duplicateFunction entry.1) := by
  cases registration with
  | single name definition =>
    cases taken : registry.contains name with
    | false =>
      refine ⟨[(name, definition)], [], rfl, List.forall_mem_singleton.2 taken, ?_⟩
      rw [perform, registerAs_of_free definition taken]
      rfl
    | true =>
      refine ⟨[], [(name, definition)], rfl, List.forall_mem_nil _, ?_⟩
      rw [perform, registerAs_of_taken definition taken, List.append_nil]
      rfl
  | group category =>
    obtain ⟨before, after, all, fresh, -, result⟩ :=
      registerAll_spec (names_group_nodup category) registry
    refine ⟨before.map Definition.entry, after.map Definition.entry, ?_,
      List.forall_mem_map.2 fresh, ?_⟩
    · rw [Registration.entries, all, List.map_append]
    · rw [perform, registerGroup, result, List.head?_map, Option.map_map]
      rfl

/-- The registration binds the name, which was free, to the definition. It may fail at a later
name. -/
def Binds (registry : Registry) (registration : Registration) (name : String)
    (definition : Definition) : Prop :=
  (name, definition) ∈ registration.entries ∧ registry.contains name = false ∧
    (registry.perform registration).1.contains name = true

/-- After a registration a name is bound to what it was bound to before, or to what it has been
registered with. -/
theorem get?_perform (registry : Registry) (registration : Registration) (name : String)
    (definition : Definition) :
    (registry.perform registration).1.definitions.get? name = some definition ↔
      registry.definitions.get? name = some definition ∨
        registry.Binds registration name definition := by
  obtain ⟨before, after, split, -, result⟩ := registry.perform_spec registration
  have distinct : Entries.Distinct before := by
    have whole := registration.distinct_entries
    rw [split] at whole
    exact whole.sublist (List.Sublist.map Prod.fst (List.sublist_append_left before after))
  have lookup := Entries.get?_append registry.definitions before name
  unfold Binds contains Entries.contains
  rw [result, lookup]
  cases known : registry.definitions.get? name with
  | some old => simp
  | none =>
    rw [Option.none_or]
    constructor
    · intro found
      have member := Entries.mem_of_get?_eq_some found
      refine .inr ⟨split ▸ List.mem_append_left _ member, rfl, ?_⟩
      rw [found]
      rfl
    · rintro (absent | ⟨listed, -, bound⟩)
      · cases absent
      · obtain ⟨other, found⟩ := Option.isSome_iff_exists.1 bound
        have member : (name, other) ∈ registration.entries :=
          split ▸ List.mem_append_left _ (Entries.mem_of_get?_eq_some found)
        have same := (Entries.get?_eq_some_of_mem registration.distinct_entries member).symm.trans
          (Entries.get?_eq_some_of_mem registration.distinct_entries listed)
        exact found.trans same

/-- A registration that succeeds binds all its names. -/
theorem binds_of_succeeded {registry : Registry} {registration : Registration}
    (succeeded : (registry.perform registration).2 = none) {name : String} {definition : Definition}
    (listed : (name, definition) ∈ registration.entries) :
    registry.Binds registration name definition := by
  obtain ⟨before, after, split, fresh, result⟩ := registry.perform_spec registration
  rw [result, Option.map_eq_none_iff, List.head?_eq_none_iff] at succeeded
  rw [succeeded, List.append_nil] at split
  refine ⟨listed, fresh _ (split ▸ listed), ?_⟩
  unfold contains Entries.contains
  rw [result, Entries.get?_isSome_iff, Entries.keys, List.map_append]
  exact List.mem_append_right _ (List.mem_map_of_mem (split ▸ listed))

/-- The first definition that a name is bound to: at the beginning, or by one of registrations. -/
def FirstBound (start : Registry) (registrations : List Registration) (name : String)
    (definition : Definition) : Prop :=
  start.definitions.get? name = some definition ∨
    ∃ before registration after, registrations = before ++ registration :: after ∧
      (start.performAll before).Binds registration name definition

/-- **A name stays bound** to what it was first bound to. -/
theorem get?_performAll (start : Registry) (registrations : List Registration) (name : String)
    (definition : Definition) :
    (start.performAll registrations).definitions.get? name = some definition ↔
      start.FirstBound registrations name definition := by
  induction registrations using List.reverseRecOn with
  | nil =>
    refine ⟨.inl, fun bound => bound.resolve_right ?_⟩
    rintro ⟨before, registration, after, split, -⟩
    exact absurd split.symm (List.append_ne_nil_of_right_ne_nil before (List.cons_ne_nil _ _))
  | append_singleton registrations registration ih =>
    rw [performAll_append, get?_perform, ih]
    unfold FirstBound
    rw [or_assoc]
    refine or_congr_right ⟨?_, ?_⟩
    · rintro (⟨before, earlier, after, rfl, binds⟩ | binds)
      · exact ⟨before, earlier, after ++ [registration], by simp, binds⟩
      · exact ⟨registrations, registration, [], rfl, binds⟩
    · rintro ⟨before, earlier, after, split, binds⟩
      rcases List.eq_nil_or_concat after with rfl | ⟨between, last, rfl⟩
      · obtain ⟨rfl, same⟩ := List.append_inj' split rfl
        cases same
        exact .inr binds
      · have longer :
            registrations ++ [registration] = (before ++ earlier :: between) ++ [last] := by
          rw [split]
          simp
        obtain ⟨rfl, -⟩ := List.append_inj' longer rfl
        exact .inl ⟨before, earlier, between, rfl, binds⟩

/-! ## Consistent registries -/

/-- No name is taken twice, and the names are those of the descriptions. -/
structure Consistent (registry : Registry) : Prop where
  distinct : Entries.Distinct registry.definitions
  named : ∀ entry ∈ registry.definitions, entry.1 = entry.2.signature.name

theorem consistent_empty : empty.Consistent :=
  ⟨List.nodup_nil, List.forall_mem_nil _⟩

theorem consistent_standard : standard.Consistent := by
  constructor
  · unfold Entries.Distinct Entries.keys
    rw [standard_definitions, List.map_map]
    decide
  · rw [standard_definitions]
    exact List.forall_mem_map.2 fun _ _ => rfl

/-- **Registrations under the names of the descriptions keep a registry consistent.** -/
theorem Consistent.perform {registry : Registry} (consistent : registry.Consistent)
    {registration : Registration} (named : registration.Named) :
    (registry.perform registration).1.Consistent := by
  obtain ⟨before, after, split, fresh, result⟩ := registry.perform_spec registration
  have whole := registration.distinct_entries
  unfold Entries.Distinct Entries.keys at whole
  rw [split, List.map_append] at whole
  rw [result]
  constructor
  · unfold Entries.Distinct Entries.keys
    rw [List.map_append]
    refine List.nodup_append.2 ⟨consistent.distinct, (List.nodup_append.1 whole).1, ?_⟩
    rintro name known _ new rfl
    obtain ⟨entry, member, rfl⟩ := List.mem_map.1 new
    exact contains_eq_false_iff.1 (fresh entry member) known
  · refine List.forall_mem_append.2 ⟨consistent.named, fun entry member => ?_⟩
    exact named.name_eq (split ▸ List.mem_append_left _ member)

theorem Consistent.performAll {registry : Registry} (consistent : registry.Consistent)
    {registrations : List Registration}
    (named : ∀ registration ∈ registrations, registration.Named) :
    (registry.performAll registrations).Consistent := by
  induction registrations using List.reverseRecOn with
  | nil => exact consistent
  | append_singleton registrations registration ih =>
    obtain ⟨before, last⟩ := List.forall_mem_append.1 named
    rw [performAll_append]
    exact (ih before).perform (last registration List.mem_cons_self)

/-! ## Lists of descriptions -/

theorem signatures_perm (registry : Registry) :
    registry.signatures.Perm (registry.definitions.map fun entry => entry.2.signature) :=
  List.mergeSort_perm _ _

theorem length_signatures (registry : Registry) : registry.signatures.length = registry.size :=
  registry.signatures_perm.length_eq.trans (List.length_map _)

/-- The names in the list are those under which functions are registered. -/
theorem Consistent.names_perm {registry : Registry} (consistent : registry.Consistent) :
    (registry.signatures.map Signature.name).Perm (Entries.keys registry.definitions) := by
  have names : (registry.definitions.map fun entry => entry.2.signature).map Signature.name =
      Entries.keys registry.definitions := by
    rw [List.map_map]
    exact List.map_congr_left fun entry member => (consistent.named entry member).symm
  exact names ▸ registry.signatures_perm.map Signature.name

/-- **The list is strictly ascending by name.** -/
theorem Consistent.ascending {registry : Registry} (consistent : registry.Consistent) :
    registry.signatures.Pairwise fun one other => one.name < other.name := by
  have sorted : registry.signatures.Pairwise fun one other =>
      decide (one.name ≤ other.name) = true := by
    refine List.pairwise_mergeSort ?_ ?_ _
    · intro first second third below further
      exact decide_eq_true (String.le_trans (of_decide_eq_true below) (of_decide_eq_true further))
    · intro one other
      rw [Bool.or_eq_true_iff, decide_eq_true_iff, decide_eq_true_iff]
      exact String.le_total one.name other.name
  have distinct : registry.signatures.Pairwise fun one other => one.name ≠ other.name :=
    List.pairwise_map.1 (consistent.names_perm.nodup_iff.2 consistent.distinct)
  refine sorted.imp₂ (fun one other below differ => ?_) distinct
  by_contra not_below
  exact differ (String.le_antisymm (of_decide_eq_true below) (String.not_lt.1 not_below))

/-- The name of a listed description is one under which there is a function. -/
theorem Consistent.mem_signatures_iff {registry : Registry} (consistent : registry.Consistent)
    (name : String) :
    (∃ signature ∈ registry.signatures, signature.name = name) ↔
      name ∈ Entries.keys registry.definitions := by
  rw [← consistent.names_perm.mem_iff, List.mem_map]

/-- The categories share the descriptions out among them. -/
theorem length_eq_add_categories (signatures : List Signature) :
    let part := fun category => signatures.filter fun signature => signature.category = category
    (part .math).length + (part .logic).length + (part .string).length +
      (part .collection).length + (part .mapping).length = signatures.length := by
  induction signatures with
  | nil => rfl
  | cons signature signatures ih =>
    simp only [List.filter_cons] at ih ⊢
    cases signature.category <;> simp <;> omega

theorem category_of_mem {registry : Registry} {category : Signature.Category}
    {signature : Signature} (member : signature ∈ registry.signaturesOf category) :
    signature.category = category :=
  of_decide_eq_true (List.mem_filter.1 member).2

/-! ## All in all -/

/-- One description comes before another in a list: its name has the smaller bytes. -/
def Precedes (one other : Signature) : Prop :=
  Text.utf8Encode one.name.toList < Text.utf8Encode other.name.toList

/-- All ways to ask a registry give answers that fit together, and a name is bound to what it should
be bound to. -/
structure Agreeing (registry : Registry) (bound : String → Definition → Prop) : Prop where
  ascending : registry.signatures.Pairwise Precedes
  length_eq : registry.signatures.length = registry.size
  listed_iff : ∀ name, (∃ signature ∈ registry.signatures, signature.name = name) ↔
    registry.contains name = true
  function_iff : ∀ name, (∃ function, registry.function? name = some function) ↔
    registry.contains name = true
  signature_iff : ∀ name, (∃ signature, registry.signature? name = some signature) ↔
    registry.contains name = true
  bound_iff : ∀ name, (∃ definition, bound name definition) ↔ registry.contains name = true
  /-- What a name is bound to is found under it, and listed. -/
  found : ∀ name definition, bound name definition →
    registry.function? name = some definition.function ∧
      registry.signature? name = some definition.signature ∧
      definition.signature ∈ registry.signatures
  /-- A category has a part of the list, in the same order. -/
  part : ∀ category, (registry.signaturesOf category).Sublist registry.signatures ∧
    (registry.signaturesOf category).Pairwise Precedes
  disjoint : ∀ category other, category ≠ other →
    (registry.signaturesOf category).Disjoint (registry.signaturesOf other)
  /-- The categories make up the whole. -/
  sum_eq : (registry.signaturesOf .math).length + (registry.signaturesOf .logic).length +
    (registry.signaturesOf .string).length + (registry.signaturesOf .collection).length +
    (registry.signaturesOf .mapping).length = registry.size

/-- **The answers of a registry agree** after any registrations under the names of the descriptions,
whether they fail or not, and a name has the function and the description that it was first bound
to. -/
theorem performAll_agreeing {start : Registry} (begins : start = empty ∨ start = standard)
    {registrations : List Registration}
    (named : ∀ registration ∈ registrations, registration.Named) :
    (start.performAll registrations).Agreeing (start.FirstBound registrations) := by
  have consistent : (start.performAll registrations).Consistent := by
    rcases begins with rfl | rfl
    · exact consistent_empty.performAll named
    · exact consistent_standard.performAll named
  have bindings := get?_performAll start registrations
  generalize start.performAll registrations = registry at consistent bindings ⊢
  have ascending : registry.signatures.Pairwise Precedes :=
    consistent.ascending.imp fun below => Text.utf8Encode_lt (String.lt_iff.1 below)
  have looked_up : ∀ name, registry.contains name = true ↔
      ∃ definition, registry.definitions.get? name = some definition :=
    fun name => Option.isSome_iff_exists
  refine ⟨ascending, registry.length_signatures, fun name => ?_, fun name => ?_, fun name => ?_,
    fun name => ?_, fun name definition bound => ?_, fun category => ?_, ?_, ?_⟩
  · rw [consistent.mem_signatures_iff, ← Entries.get?_isSome_iff]
    rfl
  · simp [looked_up, function?]
  · simp [looked_up, signature?]
  · rw [looked_up]
    exact exists_congr fun definition => (bindings name definition).symm
  · have found := (bindings name definition).2 bound
    refine ⟨congrArg _ found, congrArg _ found, registry.signatures_perm.mem_iff.2 ?_⟩
    exact List.mem_map.2 ⟨_, Entries.mem_of_get?_eq_some found, rfl⟩
  · exact ⟨List.filter_sublist, ascending.filter _⟩
  · intro category other differ signature one both
    exact differ ((category_of_mem one).symm.trans (category_of_mem both))
  · rw [← registry.length_signatures]
    exact length_eq_add_categories registry.signatures

/-- Another function of the user with the same name. -/
def otherOr : Definition where
  signature := { name := "Or", category := .string, description := "Never holds" }
  function := fun _ => pure (.bool false)

/-- The first function named `Or` is registered before the group that has one of this name, and the
second after it. Both later registrations fail, and all answers are about the first function and the
one that the group registers before its failure. -/
theorem performAll_agreeing_taken :
    let registrations : List Registration :=
      [.single "Or" ownOr, .group .logic, .single "Or" otherOr]
    let registry := empty.performAll registrations
    registry.signatures.length = 2 ∧ registry.signature? "Or" = some ownOr.signature ∧
      ownOr.signature ∈ registry.signatures ∧
      (∃ signature ∈ registry.signatures, signature.name = "And") ∧
      (registry.signaturesOf .logic).Pairwise Precedes := by
  intro registrations registry
  have agreeing := @performAll_agreeing empty (.inl rfl) registrations
    (List.forall_mem_cons.2 ⟨rfl,
      List.forall_mem_cons.2 ⟨trivial, List.forall_mem_singleton.2 rfl⟩⟩)
  have first : empty.FirstBound registrations "Or" ownOr :=
    .inr ⟨[], .single "Or" ownOr, [.group .logic, .single "Or" otherOr], rfl,
      binds_of_succeeded rfl List.mem_cons_self⟩
  obtain ⟨-, described, listed⟩ := agreeing.found "Or" ownOr first
  exact ⟨agreeing.length_eq, described, listed, (agreeing.listed_iff "And").2 rfl,
    (agreeing.part .logic).2⟩

end Registry

end CloudTemplate
