import CloudTemplate.Value.Call

/-!
# Values inside values

A value occurs within another one when it is that value, or occurs within one of its items or
children (`Value.Within`). Statements about a text that stands somewhere in a template are
statements about what occurs within it, and so are statements about all of its calls
(`Value.EveryCall`). What holds of scalars, and of lists and maps if it holds of everything in
them, holds of all values (`Value.nested_induction`).
-/

set_option autoImplicit false

namespace CloudTemplate.Value

/-- A value that is neither a list nor a map. -/
def IsScalar : Value → Prop
  | .list _ | .map _ => False
  | _ => True

mutual
/-- Induction on what values are made of. -/
theorem nested_induction {motive : Value → Prop}
    (scalar : ∀ value : Value, value.IsScalar → motive value)
    (list : ∀ items : List Value, (∀ item ∈ items, motive item) → motive (.list items))
    (map : ∀ entries : List (String × Value), (∀ entry ∈ entries, motive entry.2) →
      motive (.map entries)) : ∀ value : Value, motive value
  | .list items => list items (nested_induction_items scalar list map items)
  | .map entries => map entries (nested_induction_entries scalar list map entries)
  | .null | .bool _ | .int _ | .float _ | .string _ => scalar _ trivial

theorem nested_induction_items {motive : Value → Prop}
    (scalar : ∀ value : Value, value.IsScalar → motive value)
    (list : ∀ items : List Value, (∀ item ∈ items, motive item) → motive (.list items))
    (map : ∀ entries : List (String × Value), (∀ entry ∈ entries, motive entry.2) →
      motive (.map entries)) : ∀ items : List Value, ∀ item ∈ items, motive item
  | [] => List.forall_mem_nil _
  | item :: items => List.forall_mem_cons.2 ⟨nested_induction scalar list map item,
      nested_induction_items scalar list map items⟩

theorem nested_induction_entries {motive : Value → Prop}
    (scalar : ∀ value : Value, value.IsScalar → motive value)
    (list : ∀ items : List Value, (∀ item ∈ items, motive item) → motive (.list items))
    (map : ∀ entries : List (String × Value), (∀ entry ∈ entries, motive entry.2) →
      motive (.map entries)) :
    ∀ entries : List (String × Value), ∀ entry ∈ entries, motive entry.2
  | [] => List.forall_mem_nil _
  | (_, value) :: entries => List.forall_mem_cons.2 ⟨nested_induction scalar list map value,
      nested_induction_entries scalar list map entries⟩
end

/-- The first value is the second, or occurs somewhere inside it. -/
inductive Within : Value → Value → Prop where
  | self (value : Value) : Within value value
  | item {inner item : Value} {items : List Value} (member : item ∈ items)
      (inside : Within inner item) : Within inner (.list items)
  | child {inner : Value} {entry : String × Value} {entries : List (String × Value)}
      (member : entry ∈ entries) (inside : Within inner entry.2) : Within inner (.map entries)

theorem Within.trans {first second third : Value} (inner : Within first second)
    (outer : Within second third) : Within first third := by
  induction outer with
  | self => exact inner
  | item member _ ih => exact .item member ih
  | child member _ ih => exact .child member ih

/-- What occurs within a list is the list, or occurs within an item. -/
theorem within_list_iff {inner : Value} {items : List Value} :
    Within inner (.list items) ↔ inner = .list items ∨ ∃ item ∈ items, Within inner item := by
  constructor
  · intro inside
    cases inside with
    | self => exact .inl rfl
    | item member inside => exact .inr ⟨_, member, inside⟩
  · rintro (rfl | ⟨item, member, inside⟩)
    · exact .self _
    · exact .item member inside

/-- What occurs within a map is the map, or occurs within a child. -/
theorem within_map_iff {inner : Value} {entries : List (String × Value)} :
    Within inner (.map entries) ↔
      inner = .map entries ∨ ∃ entry ∈ entries, Within inner entry.2 := by
  constructor
  · intro inside
    cases inside with
    | self => exact .inl rfl
    | child member inside => exact .inr ⟨_, member, inside⟩
  · rintro (rfl | ⟨entry, member, inside⟩)
    · exact .self _
    · exact .child member inside

/-- What is looked up in a value occurs within it. -/
theorem within_of_get? {value child : Value} {key : String} (found : value.get? key = some child) :
    Within child value := by
  cases value with
  | map entries => exact .child (Entries.mem_of_get?_eq_some found) (.self _)
  | _ => cases found

/-- Whatever occurs within a value without calls has none either. -/
theorem containsCall_eq_false_of_within {config : Config} {inner outer : Value}
    (inside : Within inner outer) (none : outer.containsCall config = false) :
    inner.containsCall config = false := by
  induction inside with
  | self => exact none
  | item member _ ih =>
    rw [containsCall, itemsContainCall_eq_any, List.any_eq_false] at none
    exact ih (Bool.eq_false_iff.2 (none _ member))
  | child member _ ih =>
    rw [containsCall, Bool.or_eq_false_iff, entriesContainCall_eq_any, List.any_eq_false] at none
    exact ih (Bool.eq_false_iff.2 (none.2 _ member))

/-- Whatever occurs within a well-formed value is well formed. -/
theorem distinctKeys_of_within {inner outer : Value} (inside : Within inner outer)
    (distinct : outer.DistinctKeys) : inner.DistinctKeys := by
  induction inside with
  | self => exact distinct
  | item member _ ih =>
    rw [DistinctKeys, distinctKeysOfItems_iff] at distinct
    exact ih (distinct _ member)
  | child member _ ih =>
    rw [DistinctKeys, distinctKeysOfEntries_iff] at distinct
    exact ih (distinct.2 _ member)

/-! ## All calls of a value -/

theorem isCall_of_call? {config : Config} {value : Value} {call : Call}
    (is_call : value.call? config = some call) : value.isCall config = true := by
  rw [isCall, is_call]
  rfl

/-- All calls of the value are as described. -/
def EveryCall (config : Config) (described : Call → Prop) (value : Value) : Prop :=
  ∀ inner : Value, inner.Within value → ∀ call, inner.call? config = some call → described call

namespace EveryCall

variable {config : Config} {described : Call → Prop}

theorem within {inner outer : Value} (all : outer.EveryCall config described)
    (inside : inner.Within outer) : inner.EveryCall config described :=
  fun _ deeper => all _ (deeper.trans inside)

theorem imp {other : Call → Prop} (implies : ∀ call, described call → other call) {value : Value}
    (all : value.EveryCall config described) : value.EveryCall config other :=
  fun inner inside call is_call => implies call (all inner inside call is_call)

theorem of_containsCall_eq_false {value : Value} (none : value.containsCall config = false) :
    value.EveryCall config described := by
  intro inner inside call is_call
  have contains := containsCall_of_isCall (isCall_of_call? is_call)
  rw [containsCall_eq_false_of_within inside none] at contains
  cases contains

theorem of_isScalar {value : Value} (scalar : value.IsScalar) :
    value.EveryCall config described := by
  refine of_containsCall_eq_false ?_
  cases value with
  | list items => exact scalar.elim
  | map entries => exact scalar.elim
  | _ => rfl

theorem list {items : List Value} (all : ∀ item ∈ items, item.EveryCall config described) :
    (Value.list items).EveryCall config described := by
  intro inner inside call is_call
  obtain rfl | ⟨item, member, deeper⟩ := within_list_iff.1 inside
  · cases is_call
  · exact all item member inner deeper call is_call

theorem map {entries : List (String × Value)}
    (here : ∀ call, (Value.map entries).call? config = some call → described call)
    (all : ∀ entry ∈ entries, entry.2.EveryCall config described) :
    (Value.map entries).EveryCall config described := by
  intro inner inside call is_call
  obtain rfl | ⟨entry, member, deeper⟩ := within_map_iff.1 inside
  · exact here call is_call
  · exact all entry member inner deeper call is_call

/-- A map that is no call has the calls of its children. -/
theorem data {entries : List (String × Value)} (data : (Value.map entries).isCall config = false)
    (all : ∀ entry ∈ entries, entry.2.EveryCall config described) :
    (Value.map entries).EveryCall config described := by
  refine map (fun call is_call => ?_) all
  rw [isCall_of_call? is_call] at data
  cases data

theorem ofCall {key : String} {arguments : Value} {call : Call}
    (is_call : (Value.ofCall key arguments).call? config = some call) (here : described call)
    (inside : arguments.EveryCall config described) :
    (Value.ofCall key arguments).EveryCall config described := by
  refine map (fun other same => ?_) fun entry member => ?_
  · cases is_call.symm.trans same
    exact here
  · cases List.mem_singleton.1 member
    exact inside

theorem containsCall_eq_false {value : Value} (none : value.EveryCall config fun _ => False) :
    value.containsCall config = false := by
  induction value using nested_induction with
  | scalar value scalar =>
    cases value with
    | list items => exact scalar.elim
    | map entries => exact scalar.elim
    | _ => rfl
  | list items ih =>
    rw [containsCall, itemsContainCall_eq_any, List.any_eq_false]
    intro item member
    rw [ih item member (none.within (.item member (.self item)))]
    exact Bool.false_ne_true
  | map entries ih =>
    rw [containsCall, Bool.or_eq_false_iff, entriesContainCall_eq_any, List.any_eq_false]
    refine ⟨?_, fun entry member => ?_⟩
    · rw [isCall_eq_false_iff, Option.eq_none_iff_forall_ne_some]
      exact fun call is_call => none _ (.self _) call is_call
    · rw [ih entry member (none.within (.child member (.self entry.2)))]
      exact Bool.false_ne_true

end EveryCall

/-- A function call is the map of its key to its arguments. -/
theorem eq_ofCall_of_call? {config : Config} {value : Value} {key name : String}
    {arguments : Value} (is_call : value.call? config = some (.function key name arguments)) :
    value = .ofCall key arguments := by
  unfold call? at is_call
  split at is_call
  · next written argument =>
    split at is_call
    · cases is_call
    · obtain ⟨_, _, same⟩ := Option.map_eq_some_iff.1 is_call
      cases same
      rfl
  · cases is_call

end CloudTemplate.Value
