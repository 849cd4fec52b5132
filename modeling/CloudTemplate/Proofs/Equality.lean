import Mathlib
import CloudTemplate.Value.Equality
import CloudTemplate.Proofs.Shape

/-!
# Equality of values

The equality of two maps is written from one side: they have equally many entries, and every key of
the first has an equal value in the second. Since no key occurs twice, the second map can then have
no other keys, so that the same holds from the other side (`Value.equal_map_iff`). This makes
equality a statement about children that does not mention sizes or orders: two lists or two maps are
equal when every step into them leads to equal values or nowhere (`Value.equal_iff_child?`).

From this its laws follow by induction on the children. Equality is symmetric, every value without
an undefined number equals itself, and the order of the entries of maps does not matter, at any
depth (`Value.equality_laws`). It is not transitive, because an integer equals the number nearest to
it.
-/

set_option autoImplicit false

namespace CloudTemplate.Value

/-! ## Children -/

/-- One step into a value: to an item of a list or to a child of a map. -/
inductive Step where
  | item (place : Nat)
  | child (key : String)
  deriving Repr, DecidableEq

/-- What a step leads to. -/
def child? : Value → Step → Option Value
  | .list items, .item place => items[place]?
  | .map entries, .child key => Entries.get? entries key
  | _, _ => none

theorem within_of_child? {value child : Value} {step : Step}
    (found : value.child? step = some child) : child.Within value := by
  cases value with
  | list items =>
    cases step with
    | item place => exact .item (List.mem_of_getElem? found) (.self child)
    | child key => cases found
  | map entries =>
    cases step with
    | item place => cases found
    | child key => exact .child (Entries.mem_of_get?_eq_some found) (.self child)
  | _ => cases found

/-- Nothing else occurs within a scalar. -/
theorem Within.eq_of_isScalar {inner value : Value} (inside : inner.Within value)
    (scalar : value.IsScalar) : inner = value := by
  cases inside with
  | self => rfl
  | item => exact scalar.elim
  | child => exact scalar.elim

theorem distinctKeys_of_child? {value child : Value} {step : Step}
    (distinct : value.DistinctKeys) (found : value.child? step = some child) :
    child.DistinctKeys :=
  distinctKeys_of_within (within_of_child? found) distinct

/-- What holds of scalars, and of a list or a map if it holds of its children, holds of all
values. -/
theorem child_induction {motive : Value → Prop}
    (scalar : ∀ value : Value, value.IsScalar → motive value)
    (composite : ∀ value : Value, ¬value.IsScalar →
      (∀ step child, value.child? step = some child → motive child) → motive value)
    (value : Value) : motive value := by
  induction value using nested_induction with
  | scalar value is_scalar => exact scalar value is_scalar
  | list items ih =>
    refine composite _ not_false fun step child found => ?_
    cases step with
    | item place => exact ih child (List.mem_of_getElem? found)
    | child key => cases found
  | map entries ih =>
    refine composite _ not_false fun step child found => ?_
    cases step with
    | item place => cases found
    | child key => exact ih (key, child) (Entries.mem_of_get?_eq_some found)

theorem isScalar_of_typeName_eq {value other : Value} (kind : value.typeName = other.typeName)
    (scalar : value.IsScalar) : other.IsScalar := by
  cases other with
  | list items => cases value <;> simp [typeName, IsScalar] at kind scalar
  | map entries => cases value <;> simp [typeName, IsScalar] at kind scalar
  | _ => trivial

/-! ## Related steps -/

section Related

variable {α : Type} {related : α → α → Prop} {first second : Option α}

theorem rel_imp {implied : α → α → Prop} (rel : Option.Rel related first second)
    (implies : ∀ one other, first = some one → second = some other → related one other →
      implied one other) : Option.Rel implied first second := by
  cases rel with
  | none => exact .none
  | some here => exact .some (implies _ _ rfl rfl here)

theorem rel_flip (rel : Option.Rel related first second) :
    Option.Rel (fun other one => related one other) second first := by
  cases rel with
  | none => exact .none
  | some here => exact .some here

theorem rel_comp {following implied : α → α → Prop} {third : Option α}
    (rel : Option.Rel related first second) (rel' : Option.Rel following second third)
    (implies : ∀ one middle other, first = some one → second = some middle → third = some other →
      related one middle → following middle other → implied one other) :
    Option.Rel implied first third := by
  cases rel with
  | none =>
    cases rel'
    exact .none
  | some here =>
    cases rel' with
    | some there => exact .some (implies _ _ _ rfl rfl rfl here there)

theorem isSome_eq_of_rel (rel : Option.Rel related first second) :
    first.isSome = second.isSome := by
  cases rel <;> rfl

theorem eq_none_of_rel (rel : Option.Rel related none second) : second = none := by
  cases rel
  rfl

theorem exists_of_rel {one : α} (rel : Option.Rel related (some one) second) :
    ∃ other, second = some other ∧ related one other := by
  cases rel with
  | some here => exact ⟨_, rfl, here⟩

theorem rel_getElem? {firsts seconds : List α} (all : List.Forall₂ related firsts seconds)
    (place : Nat) : Option.Rel related firsts[place]? seconds[place]? := by
  induction all generalizing place with
  | nil => exact .none
  | cons here _ ih =>
    cases place with
    | zero => exact .some here
    | succ place => exact ih place

end Related

/-! ## Equality of children -/

theorem equalItems_iff {items others : List Value} :
    equalItems items others = true ↔ ∀ place : Nat,
      Option.Rel (fun item other => (item == other) = true) items[place]? others[place]? := by
  induction items generalizing others with
  | nil =>
    cases others with
    | nil => simp [equalItems]
    | cons other others =>
      simp only [equalItems, Bool.false_eq_true, false_iff]
      exact fun all => Option.not_rel_none_some (all 0)
  | cons item items ih =>
    cases others with
    | nil =>
      simp only [equalItems, Bool.false_eq_true, false_iff]
      exact fun all => Option.not_rel_some_none (all 0)
    | cons other others =>
      rw [equalItems, Bool.and_eq_true, ih]
      constructor
      · rintro ⟨here, rest⟩ (_ | place)
        · exact .some here
        · exact rest place
      · intro all
        have here := all 0
        rw [List.getElem?_cons_zero, List.getElem?_cons_zero, Option.rel_some_some] at here
        exact ⟨here, fun place => all (place + 1)⟩

theorem entriesIn_iff {entries others : Entries Value} :
    entriesIn entries others = true ↔ ∀ entry ∈ entries,
      ∃ other, others.get? entry.1 = some other ∧ (entry.2 == other) = true := by
  induction entries with
  | nil => simp [entriesIn]
  | cons entry entries ih =>
    rw [entriesIn, Bool.and_eq_true, ih, List.forall_mem_cons]
    refine and_congr_left fun _ => ?_
    cases found : Entries.get? others entry.1 with
    | none => simp
    | some other => simp [BEq.beq]

/-- A map that has as many entries as another one, all at keys of that one, has all its keys. -/
theorem mem_keys_of_length_eq {entries others : Entries Value} (distinct : entries.Distinct)
    (length : entries.length = others.length) (inside : entries.keys ⊆ others.keys) {key : String}
    (member : key ∈ others.keys) : key ∈ entries.keys := by
  have enough : others.keys.length ≤ entries.keys.length := by
    simp [Entries.keys, length]
  exact ((List.Nodup.subperm distinct inside).perm_of_length_le enough).mem_iff.2 member

/-- Maps that have values at the same keys list the same keys. -/
theorem keys_perm_of_rel {entries others : Entries Value} {related : Value → Value → Prop}
    (distinct : entries.Distinct) (distinct' : others.Distinct)
    (all : ∀ key, Option.Rel related (entries.get? key) (others.get? key)) :
    entries.keys.Perm others.keys := by
  refine (List.perm_ext_iff_of_nodup distinct distinct').2 fun key => ?_
  rw [← Entries.get?_isSome_iff, ← Entries.get?_isSome_iff, isSome_eq_of_rel (all key)]

/-- Maps are equal when they have equal values, or none, at every key. -/
theorem equal_map_iff {entries others : Entries Value} (distinct : entries.Distinct)
    (distinct' : others.Distinct) :
    (Value.map entries == Value.map others) = true ↔ ∀ key,
      Option.Rel (fun value other => (value == other) = true) (entries.get? key)
        (others.get? key) := by
  have unfolded : (Value.map entries == Value.map others) =
      (entries.length == others.length && entriesIn entries others) := rfl
  rw [unfolded, Bool.and_eq_true, beq_iff_eq, entriesIn_iff]
  constructor
  · rintro ⟨length, all⟩ key
    have inside : entries.keys ⊆ others.keys := by
      intro key member
      obtain ⟨entry, listed, rfl⟩ := List.mem_map.1 member
      obtain ⟨other, found, _⟩ := all entry listed
      exact Entries.mem_keys_of_get?_eq_some found
    cases found : entries.get? key with
    | none =>
      rw [Entries.get?_eq_none_iff] at found
      have absent := mt (mem_keys_of_length_eq distinct length inside) found
      rw [(Entries.get?_eq_none_iff others key).2 absent]
      exact .none
    | some value =>
      obtain ⟨other, there, same⟩ := all (key, value) (Entries.mem_of_get?_eq_some found)
      rw [there]
      exact .some same
  · intro all
    have keys := (keys_perm_of_rel distinct distinct' all).length_eq
    refine ⟨by simpa [Entries.keys] using keys, fun entry listed => ?_⟩
    have here := all entry.1
    rw [Entries.get?_eq_some_of_mem distinct listed] at here
    cases found : others.get? entry.1 with
    | none =>
      rw [found] at here
      exact absurd here Option.not_rel_some_none
    | some other =>
      rw [found, Option.rel_some_some] at here
      exact ⟨other, rfl, here⟩

/-- **Equality is a statement about children.** A list or a map equals a value of the same kind
exactly when every step into the two leads to equal values, or nowhere. -/
theorem equal_iff_child? {value other : Value} (composite : ¬value.IsScalar)
    (distinct : value.DistinctKeys) (distinct' : other.DistinctKeys) :
    (value == other) = true ↔ value.typeName = other.typeName ∧ ∀ step,
      Option.Rel (fun child last => (child == last) = true) (value.child? step)
        (other.child? step) := by
  cases value with
  | list items =>
    cases other with
    | list others =>
      refine (@equalItems_iff items others).trans ?_
      refine ⟨fun all => ⟨rfl, ?_⟩, fun both place => both.2 (.item place)⟩
      rintro (place | key)
      · exact all place
      · exact .none
    | _ => exact ⟨nofun, fun both => absurd both.1 (by simp [typeName])⟩
  | map entries =>
    cases other with
    | map others =>
      refine (equal_map_iff distinct.1 distinct'.1).trans ?_
      refine ⟨fun all => ⟨rfl, ?_⟩, fun both key => both.2 (.child key)⟩
      rintro (place | key)
      · exact .none
      · exact all key
    | _ => exact ⟨nofun, fun both => absurd both.1 (by simp [typeName])⟩
  | _ => exact absurd trivial composite

/-! ## Symmetry and reflexivity -/

theorem equal_comm_of_isScalar {value : Value} (scalar : value.IsScalar) (other : Value) :
    (value == other) = (other == value) := by
  cases value with
  | null => cases other <;> rfl
  | bool first =>
    cases other with
    | bool second => exact (BEq.comm : (first == second) = (second == first))
    | _ => rfl
  | int first =>
    cases other with
    | int second => exact (BEq.comm : (first == second) = (second == first))
    | _ => rfl
  | float first =>
    cases other with
    | float second => exact (BEq.comm : (first == second) = (second == first))
    | _ => rfl
  | string first =>
    cases other with
    | string second => exact (BEq.comm : (first == second) = (second == first))
    | _ => rfl
  | _ => exact scalar.elim

theorem equal_symm {value other : Value} (distinct : value.DistinctKeys)
    (distinct' : other.DistinctKeys) (same : (value == other) = true) :
    (other == value) = true := by
  induction value using child_induction generalizing other with
  | scalar value scalar => rwa [← equal_comm_of_isScalar scalar]
  | composite value composite ih =>
    obtain ⟨kind, all⟩ := (equal_iff_child? composite distinct distinct').1 same
    have composite' : ¬other.IsScalar := mt (isScalar_of_typeName_eq kind.symm) composite
    refine (equal_iff_child? composite' distinct' distinct).2 ⟨kind.symm, fun step => ?_⟩
    refine rel_flip (rel_imp (all step) fun child last found there here => ?_)
    exact ih step child found (distinctKeys_of_child? distinct found)
      (distinctKeys_of_child? distinct' there) here

/-- Equality is symmetric. -/
theorem equal_comm {value other : Value} (distinct : value.DistinctKeys)
    (distinct' : other.DistinctKeys) : (value == other) = (other == value) := by
  rw [Bool.eq_iff_iff]
  exact ⟨equal_symm distinct distinct', equal_symm distinct' distinct⟩

/-- No undefined number occurs in the value. -/
def NanFree (value : Value) : Prop :=
  ∀ x : Float, (Value.float x).Within value → x.isNaN = false

/-- A value without undefined numbers equals itself. -/
theorem equal_self {value : Value} (distinct : value.DistinctKeys) (defined : value.NanFree) :
    (value == value) = true := by
  induction value using child_induction with
  | scalar value scalar =>
    cases value with
    | null => rfl
    | bool b => exact beq_self_eq_true b
    | int n => exact beq_self_eq_true n
    | float x =>
      have number := defined x (.self _)
      rw [Float.isNaN_eq_decide_eq_nan, decide_eq_false_iff_not] at number
      exact Float.beq_self_iff.2 number
    | string text => exact beq_self_eq_true text
    | _ => exact scalar.elim
  | composite value composite ih =>
    refine (equal_iff_child? composite distinct distinct).2 ⟨rfl, fun step => ?_⟩
    cases found : value.child? step with
    | none => exact .none
    | some child =>
      refine .some (ih step child found (distinctKeys_of_child? distinct found) ?_)
      exact fun x inside => defined x (inside.trans (within_of_child? found))

/-! ## The order of entries -/

/-- The second value is the first one with the entries of maps in another order, at any depth. -/
inductive Rearranged : Value → Value → Prop
  | self (value : Value) : Rearranged value value
  | list {items others : List Value} (length : items.length = others.length)
      (all : ∀ item other, (item, other) ∈ items.zip others → Rearranged item other) :
      Rearranged (.list items) (.list others)
  | map {entries middle others : Entries Value} (length : entries.length = middle.length)
      (keys : ∀ entry other, (entry, other) ∈ entries.zip middle → entry.1 = other.1)
      (all : ∀ entry other, (entry, other) ∈ entries.zip middle → Rearranged entry.2 other.2)
      (reordered : middle.Perm others) : Rearranged (.map entries) (.map others)

namespace Rearranged

variable {value last : Value}

theorem typeName_eq (same : Rearranged value last) : value.typeName = last.typeName := by
  cases same <;> rfl

theorem eq_of_isScalar (same : Rearranged value last) (scalar : value.IsScalar) :
    last = value := by
  cases same with
  | self => rfl
  | list => exact scalar.elim
  | map => exact scalar.elim

/-- The entries before they are put into another order. -/
theorem forall₂ {entries middle : Entries Value} (length : entries.length = middle.length)
    (keys : ∀ entry other, (entry, other) ∈ entries.zip middle → entry.1 = other.1)
    (all : ∀ entry other, (entry, other) ∈ entries.zip middle → Rearranged entry.2 other.2) :
    List.Forall₂ (EntryRel Rearranged) entries middle :=
  List.forall₂_iff_zip.2 ⟨length, fun {_ _} member => ⟨keys _ _ member, all _ _ member⟩⟩

theorem of_items {items others : List Value} (all : List.Forall₂ Rearranged items others) :
    Rearranged (.list items) (.list others) := by
  obtain ⟨length, pairs⟩ := List.forall₂_iff_zip.1 all
  exact .list length fun _ _ => pairs

theorem of_entries {entries middle others : Entries Value}
    (all : List.Forall₂ (EntryRel Rearranged) entries middle) (reordered : middle.Perm others) :
    Rearranged (.map entries) (.map others) := by
  obtain ⟨length, pairs⟩ := List.forall₂_iff_zip.1 all
  exact .map length (fun _ _ member => (pairs member).1) (fun _ _ member => (pairs member).2)
    reordered

theorem distinctKeys (same : Rearranged value last) (distinct : value.DistinctKeys) :
    last.DistinctKeys := by
  induction same with
  | self => exact distinct
  | @list items others length all ih =>
    rw [DistinctKeys, distinctKeysOfItems_iff] at distinct ⊢
    have each : List.Forall₂ (fun item other => item.DistinctKeys → other.DistinctKeys) items
        others := List.forall₂_iff_zip.2 ⟨length, fun {_ _} => ih _ _⟩
    exact forall_mem_of_forall₂ each fun item listed other kept => kept (distinct item listed)
  | @map entries middle others length keys all reordered ih =>
    rw [DistinctKeys, distinctKeysOfEntries_iff] at distinct ⊢
    have each : List.Forall₂ (fun entry other =>
        entry.2.DistinctKeys → other.2.DistinctKeys) entries middle :=
      List.forall₂_iff_zip.2 ⟨length, fun {_ _} => ih _ _⟩
    have inside := forall_mem_of_forall₂ each fun entry listed other kept =>
      kept (distinct.2 entry listed)
    refine ⟨(EntryRel.distinct (forall₂ length keys all) distinct.1).perm reordered, ?_⟩
    exact fun entry listed => inside entry (reordered.mem_iff.2 listed)

/-- A step leads into both values, to children that are rearranged, or into none. -/
theorem child?_rel (same : Rearranged value last) (distinct : value.DistinctKeys) (step : Step) :
    Option.Rel Rearranged (value.child? step) (last.child? step) := by
  cases same with
  | self =>
    cases value.child? step with
    | none => exact .none
    | some child => exact .some (.self child)
  | @list items others length all =>
    cases step with
    | child key => exact .none
    | item place =>
      have each := List.forall₂_iff_zip.2 ⟨length, fun {_ _} => all _ _⟩
      exact rel_getElem? each place
  | @map entries middle others length keys all reordered =>
    cases step with
    | item place => exact .none
    | child key =>
      have each := forall₂ length keys all
      have once := EntryRel.distinct each distinct.1
      change Option.Rel Rearranged (entries.get? key) (others.get? key)
      rw [← Entries.get?_eq_of_perm once reordered key]
      exact EntryRel.get?_rel each key

/-- What equals a value equals it in any arrangement. -/
theorem equal_iff (same : Rearranged value last) (distinct : value.DistinctKeys) {other : Value}
    (distinct' : other.DistinctKeys) : (value == other) = true ↔ (last == other) = true := by
  induction value using child_induction generalizing last other with
  | scalar value scalar => rw [same.eq_of_isScalar scalar]
  | composite value composite ih =>
    have composite' := mt (isScalar_of_typeName_eq same.typeName_eq.symm) composite
    rw [equal_iff_child? composite distinct distinct',
      equal_iff_child? composite' (same.distinctKeys distinct) distinct', same.typeName_eq]
    refine and_congr_right fun _ => forall_congr' fun step => ?_
    have here := same.child?_rel distinct step
    cases found : value.child? step with
    | none =>
      rw [found] at here
      rw [eq_none_of_rel here]
    | some child =>
      rw [found] at here
      obtain ⟨moved, there, rearranged⟩ := exists_of_rel here
      rw [there]
      cases other_found : other.child? step with
      | none => exact iff_of_false Option.not_rel_some_none Option.not_rel_some_none
      | some target =>
        rw [Option.rel_some_some, Option.rel_some_some]
        exact ih step child found rearranged (distinctKeys_of_child? distinct found)
          (distinctKeys_of_child? distinct' other_found)

end Rearranged

/-- **Equality of values** is symmetric, every value without an undefined number equals itself, and
bringing the entries of maps inside the two values into another order changes nothing. -/
theorem equality_laws :
    (∀ value other : Value, value.DistinctKeys → other.DistinctKeys →
      (value == other) = (other == value)) ∧
    (∀ value : Value, value.DistinctKeys → value.NanFree → (value == value) = true) ∧
    ∀ value other value' other' : Value, value.DistinctKeys → other.DistinctKeys →
      value.Rearranged value' → other.Rearranged other' →
        (value == other) = (value' == other') := by
  refine ⟨fun _ _ => equal_comm, fun _ => equal_self, ?_⟩
  intro value other value' other' distinct distinct' moved moved'
  have kept := moved.distinctKeys distinct
  have kept' := moved'.distinctKeys distinct'
  calc (value == other)
    _ = (value' == other) := Bool.eq_iff_iff.2 (moved.equal_iff distinct distinct')
    _ = (other == value') := equal_comm kept distinct'
    _ = (other' == value') := Bool.eq_iff_iff.2 (moved'.equal_iff distinct' kept)
    _ = (value' == other') := equal_comm kept' kept

/-- A measured size, with a positive zero. -/
def measured : Value :=
  .map [("Owner", .null),
    ("Size", .list [.int 1, .map [("Low", .float 0.0), ("Unit", .string "m")]])]

/-- The same with the entries of both maps in another order. -/
def rearranged : Value :=
  .map [("Size", .list [.int 1, .map [("Unit", .string "m"), ("Low", .float 0.0)]]),
    ("Owner", .null)]

/-- The same with another kind of number and a negative zero. -/
def remeasured : Value :=
  .map [("Owner", .null),
    ("Size", .list [.float 1.0, .map [("Low", .float (-0.0)), ("Unit", .string "m")]])]

theorem rearranged_measured : measured.Rearranged rearranged := by
  have bounds : Rearranged (.map [("Low", .float 0.0), ("Unit", .string "m")])
      (.map [("Unit", .string "m"), ("Low", .float 0.0)]) :=
    .of_entries (.cons ⟨rfl, .self _⟩ (.cons ⟨rfl, .self _⟩ .nil)) (.swap _ _ _)
  have size : EntryRel Rearranged
      ("Size", .list [.int 1, .map [("Low", .float 0.0), ("Unit", .string "m")]])
      ("Size", .list [.int 1, .map [("Unit", .string "m"), ("Low", .float 0.0)]]) :=
    ⟨rfl, .of_items (.cons (.self (.int 1)) (.cons bounds .nil))⟩
  exact .of_entries (.cons ⟨rfl, .self .null⟩ (.cons size .nil)) (.swap _ _ _)

theorem nanFree_measured : measured.NanFree := by
  intro x inside
  simp only [measured, within_map_iff, within_list_iff, List.mem_cons, List.not_mem_nil, or_false,
    exists_eq_or_imp, exists_eq_left, reduceCtorEq, false_or] at inside
  rcases inside with inside | inside | inside | inside
  · cases inside.eq_of_isScalar trivial
  · cases inside.eq_of_isScalar trivial
  · cases inside.eq_of_isScalar trivial
    decide
  · cases inside.eq_of_isScalar trivial

/-- Two sizes in different arrangements are equal, with kinds of numbers and signs of zeros that
differ. -/
theorem equality_laws_measured :
    measured.DistinctKeys ∧ remeasured.DistinctKeys ∧ measured.NanFree ∧
      measured.Rearranged rearranged ∧ (measured == measured) = true ∧
      (remeasured == measured) = true ∧ (rearranged == remeasured) = true := by
  have distinct : measured.DistinctKeys := by
    simp [measured, DistinctKeys, DistinctKeysOfItems, DistinctKeysOfEntries, Entries.Distinct,
      Entries.keys]
  have distinct' : remeasured.DistinctKeys := by
    simp [remeasured, DistinctKeys, DistinctKeysOfItems, DistinctKeysOfEntries, Entries.Distinct,
      Entries.keys]
  have equal : (measured == remeasured) = true := by decide
  obtain ⟨symmetric, reflexive, blind⟩ := equality_laws
  refine ⟨distinct, distinct', nanFree_measured, rearranged_measured,
    reflexive measured distinct nanFree_measured, ?_, ?_⟩
  · rw [← symmetric measured remeasured distinct distinct', equal]
  · rw [← blind measured remeasured rearranged remeasured distinct distinct' rearranged_measured
      (.self remeasured), equal]

end CloudTemplate.Value
