import CloudTemplate.Proofs.Shape

/-!
# Values that match

Two values match when they are the same but for their calls: where one has a call, the other has one
as well, and the two are related in a given way (`Value.Matches`). What stands inside a call does
not count, because resolution takes a call as a whole. Values that match are calls both or neither,
they hold calls both or neither, and without calls they are equal.

The relation of the calls is open. With the relation of what resolves to what, matching values
resolve to each other (`Resolver.Resolves.of_matches`).
-/

set_option autoImplicit false

namespace CloudTemplate

/-- A test that related items pass both or neither is passed by both lists or neither. -/
theorem any_eq_of_forall₂ {α β : Type} {related : α → β → Prop} {passes : α → Bool}
    {also : β → Bool} (same : ∀ first second, related first second → passes first = also second)
    {firsts : List α} {seconds : List β} (all : List.Forall₂ related firsts seconds) :
    firsts.any passes = seconds.any also := by
  induction all with
  | nil => rfl
  | cons here _ ih => rw [List.any_cons, List.any_cons, same _ _ here, ih]

namespace Value

/-- The values are the same but for calls, and the calls at the same place are related. -/
inductive Matches (config : Config) (calls : Value → Value → Prop) : Value → Value → Prop
  | scalar {value : Value} (scalar : value.IsScalar) : Matches config calls value value
  | list {items others : List Value} (length : items.length = others.length)
      (all : ∀ item other, (item, other) ∈ items.zip others → Matches config calls item other) :
      Matches config calls (.list items) (.list others)
  | map {entries others : Entries Value} (data : (Value.map entries).isCall config = false)
      (distinct : entries.Distinct) (length : entries.length = others.length)
      (keys : ∀ entry other, (entry, other) ∈ entries.zip others → entry.1 = other.1)
      (all : ∀ entry other, (entry, other) ∈ entries.zip others →
        Matches config calls entry.2 other.2) :
      Matches config calls (.map entries) (.map others)
  | call {value other : Value} (here : value.isCall config = true)
      (there : other.isCall config = true) (related : calls value other) :
      Matches config calls value other

variable {config : Config} {calls : Value → Value → Prop}

theorem isCall_of_isScalar {value : Value} (scalar : value.IsScalar) :
    value.isCall config = false := by
  cases value with
  | list items => exact scalar.elim
  | map entries => exact scalar.elim
  | _ => rfl

/-- Lists match when their items do. -/
theorem matches_list_iff {items : List Value} {other : Value} :
    Matches config calls (.list items) other ↔
      ∃ others, other = .list others ∧ List.Forall₂ (Matches config calls) items others := by
  constructor
  · intro here
    cases here with
    | scalar scalar => exact scalar.elim
    | list length all => exact ⟨_, rfl, List.forall₂_iff_zip.2 ⟨length, fun {_ _} => all _ _⟩⟩
    | call is_call => cases is_call
  · rintro ⟨others, rfl, all⟩
    obtain ⟨length, pairs⟩ := List.forall₂_iff_zip.1 all
    exact .list length fun _ _ => pairs

/-- Maps that are no calls match when their children do. -/
theorem matches_map_iff {entries : Entries Value} {other : Value}
    (data : (Value.map entries).isCall config = false) :
    Matches config calls (.map entries) other ↔
      entries.Distinct ∧ ∃ others, other = .map others ∧
        List.Forall₂ (EntryRel (Matches config calls)) entries others := by
  constructor
  · intro here
    cases here with
    | scalar scalar => exact scalar.elim
    | map _ distinct length keys all =>
      refine ⟨distinct, _, rfl, List.forall₂_iff_zip.2 ⟨length, fun {_ _} member => ?_⟩⟩
      exact ⟨keys _ _ member, all _ _ member⟩
    | call is_call =>
      rw [data] at is_call
      cases is_call
  · rintro ⟨distinct, others, rfl, all⟩
    obtain ⟨length, pairs⟩ := List.forall₂_iff_zip.1 all
    exact .map data distinct length (fun _ _ member => (pairs member).1)
      fun _ _ member => (pairs member).2

namespace Matches

variable {value other : Value}

theorem isCall_eq (same : Matches config calls value other) :
    value.isCall config = other.isCall config := by
  cases same with
  | scalar => rfl
  | list => rfl
  | @map entries others data distinct length keys all =>
    have same : List.Forall₂ (EntryRel fun _ _ => True) entries others :=
      List.forall₂_iff_zip.2 ⟨length, fun {_ _} member => ⟨keys _ _ member, trivial⟩⟩
    exact isCall_eq_of_keys_eq (EntryRel.keys_eq same)
  | call here there => rw [here, there]

theorem eq_of_isScalar (same : Matches config calls value other) (scalar : value.IsScalar) :
    other = value := by
  cases same with
  | scalar => rfl
  | list => exact scalar.elim
  | map => exact scalar.elim
  | call here =>
    rw [isCall_of_isScalar scalar] at here
    cases here

/-- Only maps match maps. -/
theorem exists_map {entries : Entries Value} (same : Matches config calls (.map entries) other) :
    ∃ others, other = .map others := by
  cases same with
  | scalar scalar => exact scalar.elim
  | map => exact ⟨_, rfl⟩
  | call here there =>
    cases other with
    | map others => exact ⟨others, rfl⟩
    | _ => cases there

theorem containsCall_eq (same : Matches config calls value other) :
    value.containsCall config = other.containsCall config := by
  induction same with
  | scalar => rfl
  | list length all ih =>
    rw [containsCall, containsCall, itemsContainCall_eq_any, itemsContainCall_eq_any]
    exact any_eq_of_forall₂ (fun _ _ => id) (List.forall₂_iff_zip.2 ⟨length, fun {_ _} => ih _ _⟩)
  | map data distinct length keys all ih =>
    have still := (Matches.map data distinct length keys all).isCall_eq
    rw [containsCall, containsCall, ← still, entriesContainCall_eq_any, entriesContainCall_eq_any]
    refine congrArg (_ || ·) (any_eq_of_forall₂ (fun _ _ => id) ?_)
    exact List.forall₂_iff_zip.2 ⟨length, fun {_ _} => ih _ _⟩
  | call here there => rw [containsCall_of_isCall here, containsCall_of_isCall there]

/-- Values are equal when the related calls in them are. -/
theorem eq_of_forall_within (same : Matches config calls value other)
    (equal : ∀ inner : Value, inner.Within other → inner.isCall config = true →
      ∀ call, calls call inner → call = inner) : value = other := by
  induction same with
  | scalar => rfl
  | @list items others length all ih =>
    refine congrArg Value.list (List.forall₂_eq_eq_eq ▸ List.forall₂_iff_zip.2 ⟨length, ?_⟩)
    intro item other member
    refine ih item other member fun inner inside => equal inner (.item ?_ inside)
    exact (List.of_mem_zip member).2
  | @map entries others data distinct length keys all ih =>
    refine congrArg Value.map (List.forall₂_eq_eq_eq ▸ List.forall₂_iff_zip.2 ⟨length, ?_⟩)
    intro entry other member
    refine Prod.ext (keys entry other member) (ih entry other member fun inner inside => ?_)
    exact equal inner (.child (List.of_mem_zip member).2 inside)
  | call here there related => exact equal _ (.self _) there _ related

/-- Values without calls are equal. -/
theorem eq_of_containsCall_eq_false (same : Matches config calls value other)
    (plain : value.containsCall config = false) : value = other := by
  refine same.eq_of_forall_within fun inner inside is_call => ?_
  rw [same.containsCall_eq] at plain
  have contains := containsCall_of_isCall is_call
  rw [containsCall_eq_false_of_within inside plain] at contains
  cases contains

end Matches

/-- A well-formed value matches itself when the calls in it are related to themselves. -/
theorem matches_self {value : Value} (distinct : value.DistinctKeys)
    (related : ∀ inner : Value, inner.Within value → inner.isCall config = true →
      calls inner inner) : Matches config calls value value := by
  induction value using nested_induction with
  | scalar value scalar => exact .scalar scalar
  | list items ih =>
    rw [DistinctKeys, distinctKeysOfItems_iff] at distinct
    refine matches_list_iff.2 ⟨items, rfl, List.forall₂_same.2 fun item member => ?_⟩
    exact ih item member (distinct item member) fun inner inside =>
      related inner (.item member inside)
  | map entries ih =>
    rw [DistinctKeys, distinctKeysOfEntries_iff] at distinct
    cases data : (Value.map entries).isCall config with
    | true => exact .call data data (related _ (.self _) data)
    | false =>
      refine (matches_map_iff data).2
        ⟨distinct.1, entries, rfl, List.forall₂_same.2 fun entry member => ⟨rfl, ?_⟩⟩
      exact ih entry member (distinct.2 entry member) fun inner inside =>
        related inner (.child member inside)

/-- A well-formed value without calls matches itself. -/
theorem matches_of_containsCall_eq_false {value : Value} (distinct : value.DistinctKeys)
    (plain : value.containsCall config = false) : Matches config calls value value := by
  refine matches_self distinct fun inner inside is_call => ?_
  have contains := containsCall_of_isCall is_call
  rw [containsCall_eq_false_of_within inside plain] at contains
  cases contains

end Value

/-- Values that match resolve to each other when their calls do. -/
theorem Resolver.Resolves.of_matches {registry : Registry} (ignores : registry.IgnoresDepth)
    {scope : Scope} {calls : Value → Value → Prop}
    (resolve : ∀ call other, calls call other → Resolves registry scope call other)
    {value other : Value} (same : value.Matches scope.config calls other) :
    Resolves registry scope value other := by
  induction same with
  | scalar scalar => exact ⟨1, outcome_of_isScalar scalar 0⟩
  | list length all ih =>
    refine (resolves_list_iff ignores).2 ⟨_, rfl, List.forall₂_iff_zip.2 ⟨length, ?_⟩⟩
    exact fun {_ _} => ih _ _
  | map data distinct length keys all ih =>
    refine (resolves_map_iff ignores data).2 ⟨_, rfl, List.forall₂_iff_zip.2 ⟨length, ?_⟩⟩
    exact fun {_ _} member => ⟨keys _ _ member, ih _ _ member⟩
  | call here there related => exact resolve _ _ related

end CloudTemplate
