import CloudTemplate.Proofs.Equality
import CloudTemplate.Proofs.Pieces
import CloudTemplate.Proofs.RoundTrip

/-!
# Chains of equal values

Integers are compared exactly with each other, but an integer is rounded before it is compared with
a binary number. So two different integers can equal the same binary number, and equality is not
transitive (`Logic.not_equality_chains_rounded`).

Nothing else can go wrong. If a value equals a second one and that a third one, the first equals the
third exactly when wherever both hold an integer, they hold the same one (`Value.equal_trans_iff`).
In other words, equality is made of two parts: that some value equals both, which goes along chains,
and that the integers are the same (`Value.equal_iff_linked`). In particular, equality is transitive
through values without binary numbers (`Value.equal_trans_of_floatFree`).

For the functions that search lists this means that a chain always leads to a candidate that is
linked to what is searched for, and that the search succeeds if and only if such a candidate has the
same integers too (`Logic.equality_chains`).
-/

set_option autoImplicit false

namespace CloudTemplate

namespace Value

variable {value middle last : Value}

/-! ## Integers at the same place -/

/-- What a path of steps leads to. -/
def at? (value : Value) : List Step → Option Value
  | [] => some value
  | step :: path => (value.child? step).bind fun child => child.at? path

/-- Wherever both values hold an integer, they hold the same one. -/
def SameIntegers (value other : Value) : Prop :=
  ∀ path m n, value.at? path = some (.int m) → other.at? path = some (.int n) → m = n

theorem sameIntegers_self (value : Value) : value.SameIntegers value := by
  intro path m n here there
  rw [here] at there
  cases there
  rfl

theorem SameIntegers.child {step : Step} {child other : Value} (same : value.SameIntegers last)
    (found : value.child? step = some child) (there : last.child? step = some other) :
    child.SameIntegers other := by
  intro path m n here here'
  refine same (step :: path) m n ?_ ?_
  · rw [at?, found, Option.bind_some, here]
  · rw [at?, there, Option.bind_some, here']

theorem within_of_at? {path : List Step} {inner : Value} (found : value.at? path = some inner) :
    inner.Within value := by
  induction path generalizing value with
  | nil =>
    cases found
    exact .self _
  | cons step path ih =>
    obtain ⟨child, leads, later⟩ := Option.bind_eq_some_iff.1 found
    exact (ih later).trans (within_of_child? leads)

theorem child?_eq_none_of_isScalar (scalar : value.IsScalar) (step : Step) :
    value.child? step = none := by
  cases value with
  | list | map => exact scalar.elim
  | _ => rfl

/-- The steps into equal values lead to equal values. -/
theorem child?_rel_of_equal (distinct : value.DistinctKeys) (distinct' : last.DistinctKeys)
    (same : (value == last) = true) (step : Step) :
    Option.Rel (fun child other => (child == other) = true) (value.child? step)
      (last.child? step) := by
  by_cases scalar : value.IsScalar
  · have scalar' : last.IsScalar := by
      by_contra composite
      have kind := ((equal_iff_child? composite distinct' distinct).1
        (equal_symm distinct distinct' same)).1
      exact composite (isScalar_of_typeName_eq kind.symm scalar)
    rw [child?_eq_none_of_isScalar scalar, child?_eq_none_of_isScalar scalar']
    exact .none
  · exact ((equal_iff_child? scalar distinct distinct').1 same).2 step

/-- The paths into equal values lead to equal values. -/
theorem at?_rel_of_equal (distinct : value.DistinctKeys) (distinct' : last.DistinctKeys)
    (same : (value == last) = true) (path : List Step) :
    Option.Rel (fun inner other => (inner == other) = true) (value.at? path) (last.at? path) := by
  induction path generalizing value last with
  | nil => exact .some same
  | cons step path ih =>
    have here := child?_rel_of_equal distinct distinct' same step
    rw [at?, at?]
    cases found : value.child? step with
    | none =>
      rw [found] at here
      rw [eq_none_of_rel here]
      exact .none
    | some child =>
      rw [found] at here
      obtain ⟨other, there, equal⟩ := exists_of_rel here
      rw [there]
      exact ih (distinctKeys_of_child? distinct found) (distinctKeys_of_child? distinct' there)
        equal

/-- Equal values have the same integers. -/
theorem sameIntegers_of_equal (distinct : value.DistinctKeys) (distinct' : last.DistinctKeys)
    (same : (value == last) = true) : value.SameIntegers last := by
  intro path m n here there
  have inner := at?_rel_of_equal distinct distinct' same path
  rw [here, there, Option.rel_some_some] at inner
  exact eq_of_beq (inner : (m == n) = true)

/-! ## Transitivity -/

theorem equal_trans_of_isScalar (scalar : value.IsScalar) (first : (value == middle) = true)
    (second : (middle == last) = true)
    (same : ∀ m n, value = .int m → last = .int n → m = n) : (value == last) = true := by
  cases value with
  | null =>
    cases middle with
    | null => exact second
    | _ => cases first
  | bool b =>
    cases middle with
    | bool c =>
      obtain rfl : b = c := eq_of_beq first
      exact second
    | _ => cases first
  | string text =>
    cases middle with
    | string other =>
      obtain rfl : text = other := eq_of_beq first
      exact second
    | _ => cases first
  | int m =>
    cases middle with
    | int k =>
      obtain rfl : m = k := eq_of_beq first
      exact second
    | float z =>
      have here : (Float.ofInt m.toInt == z) = true := first
      cases last with
      | int n =>
        -- The two integers are rounded to the same number, and need not be the same.
        obtain rfl := same m n rfl rfl
        exact beq_self_eq_true m
      | float y =>
        have there : (z == y) = true := second
        change (Float.ofInt m.toInt == y) = true
        exact BEq.trans here there
      | _ => cases second
    | _ => cases first
  | float x =>
    cases middle with
    | int k =>
      have here : (Float.ofInt k.toInt == x) = true := first
      cases last with
      | int n =>
        obtain rfl : k = n := eq_of_beq second
        exact first
      | float y =>
        have there : (Float.ofInt k.toInt == y) = true := second
        change (x == y) = true
        exact BEq.trans (BEq.symm here) there
      | _ => cases second
    | float z =>
      have here : (x == z) = true := first
      cases last with
      | int n =>
        have there : (Float.ofInt n.toInt == z) = true := second
        change (Float.ofInt n.toInt == x) = true
        exact BEq.trans there (BEq.symm here)
      | float y =>
        have there : (z == y) = true := second
        change (x == y) = true
        exact BEq.trans here there
      | _ => cases second
    | _ => cases first
  | _ => exact scalar.elim

/-- Equality goes along a chain if its ends have the same integers. -/
theorem equal_trans (distinct : value.DistinctKeys) (distinct' : middle.DistinctKeys)
    (distinct'' : last.DistinctKeys) (first : (value == middle) = true)
    (second : (middle == last) = true) (same : value.SameIntegers last) :
    (value == last) = true := by
  induction value using child_induction generalizing middle last with
  | scalar value scalar =>
    refine equal_trans_of_isScalar scalar first second fun m n here there => ?_
    subst here there
    exact same [] m n rfl rfl
  | composite value composite ih =>
    obtain ⟨kind, all⟩ := (equal_iff_child? composite distinct distinct').1 first
    have composite' : ¬middle.IsScalar := mt (isScalar_of_typeName_eq kind.symm) composite
    obtain ⟨kind', all'⟩ := (equal_iff_child? composite' distinct' distinct'').1 second
    refine (equal_iff_child? composite distinct distinct'').2 ⟨kind.trans kind', fun step => ?_⟩
    refine rel_comp (all step) (all' step) fun child inner other found there beyond => ?_
    exact fun equal equal' => ih step child found (distinctKeys_of_child? distinct found)
      (distinctKeys_of_child? distinct' there) (distinctKeys_of_child? distinct'' beyond) equal
      equal' (same.child found beyond)

/-- **Equality goes along a chain** exactly when its ends have the same integers. -/
theorem equal_trans_iff (distinct : value.DistinctKeys) (distinct' : middle.DistinctKeys)
    (distinct'' : last.DistinctKeys) (first : (value == middle) = true)
    (second : (middle == last) = true) : (value == last) = true ↔ value.SameIntegers last :=
  ⟨sameIntegers_of_equal distinct distinct'',
    equal_trans distinct distinct' distinct'' first second⟩

/-- Through a value without binary numbers equality is transitive. -/
theorem equal_trans_of_floatFree (distinct : value.DistinctKeys) (distinct' : middle.DistinctKeys)
    (distinct'' : last.DistinctKeys) (free : middle.FloatFree) (first : (value == middle) = true)
    (second : (middle == last) = true) : (value == last) = true := by
  refine equal_trans distinct distinct' distinct'' first second fun path m n here there => ?_
  have before := at?_rel_of_equal distinct distinct' first path
  have after := at?_rel_of_equal distinct' distinct'' second path
  rw [here] at before
  obtain ⟨inner, found, equal⟩ := exists_of_rel before
  rw [found, there, Option.rel_some_some] at after
  cases inner with
  | int k =>
    obtain rfl : m = k := eq_of_beq equal
    exact eq_of_beq (after : (m == n) = true)
  | float x => exact absurd (within_of_at? found) (free x)
  | _ => cases equal

/-- Some value equals both. -/
def Linked (value other : Value) : Prop :=
  ∃ middle : Value, middle.DistinctKeys ∧ (value == middle) = true ∧ (middle == other) = true

/-- **Values are equal** exactly when some value equals both and they have the same integers. -/
theorem equal_iff_linked (distinct : value.DistinctKeys) (distinct' : last.DistinctKeys) :
    (value == last) = true ↔ value.Linked last ∧ value.SameIntegers last := by
  constructor
  · intro same
    have back := equal_symm distinct distinct' same
    have itself := equal_trans distinct' distinct distinct' back same (sameIntegers_self last)
    exact ⟨⟨last, distinct', same, itself⟩, sameIntegers_of_equal distinct distinct' same⟩
  · rintro ⟨⟨middle, distinct'', first, second⟩, same⟩
    exact equal_trans distinct distinct'' distinct' first second same

/-- A value that equals a call is a call. -/
theorem isCall_eq_of_equal {config : Config} (distinct : value.DistinctKeys)
    (distinct' : last.DistinctKeys) (same : (value == last) = true) :
    value.isCall config = last.isCall config := by
  cases value with
  | map entries =>
    cases last with
    | map others =>
      have keys := keys_perm_of_rel distinct.1 distinct'.1
        ((equal_map_iff distinct.1 distinct'.1).1 same)
      by_cases single : entries.length = 1
      · obtain ⟨entry, rfl⟩ := List.length_eq_one_iff.1 single
        exact isCall_eq_of_keys_eq (List.singleton_perm.1 keys)
      · have several : others.length ≠ 1 := by
          have length := keys.length_eq
          simp only [Entries.keys, List.length_map] at length
          omega
        rw [isCall_eq_false_of_length_ne_one single, isCall_eq_false_of_length_ne_one several]
    | _ => cases same
  | _ =>
    cases last with
    | map others => cases same
    | _ => rfl

end Value

/-! ## Searching lists -/

namespace Logic

open Strings (Receives)

variable {call : Invocation} {answer : Value → Except Error Value}

theorem outcome_eachMemberIn {members candidates : List Value}
    (receives : Receives call answer (.list members) (.list candidates)) :
    (eachMemberIn call).outcome answer = .ok (.bool (members.all fun member =>
      candidates.any fun candidate => candidate == member)) :=
  Strings.outcome_bothKnown receives rfl rfl _

theorem outcome_eachMemberIn_iff {members candidates : List Value}
    (receives : Receives call answer (.list members) (.list candidates)) :
    (eachMemberIn call).outcome answer = .ok (.bool true) ↔
      ∀ member ∈ members, ∃ candidate ∈ candidates, (candidate == member) = true := by
  simp only [outcome_eachMemberIn receives, Except.ok.injEq, Value.bool.injEq, List.all_eq_true,
    List.any_eq_true]

theorem outcome_contains {items : List Value} {value : Value}
    (receives : Receives call answer (.list items) value) (known : call.isCall value = false) :
    (contains call).outcome answer = .ok (.bool (items.any fun item => item == value)) :=
  Strings.outcome_bothKnown receives rfl known _

theorem outcome_contains_iff {items : List Value} {value : Value}
    (receives : Receives call answer (.list items) value) :
    (contains call).outcome answer = .ok (.bool true) ↔
      call.isCall value = false ∧ ∃ item ∈ items, (item == value) = true := by
  cases unknown : call.isCall value with
  | false =>
    simp only [outcome_contains receives unknown, Except.ok.injEq, Value.bool.injEq,
      List.any_eq_true, true_and]
  | true =>
    have kept : (contains call).outcome answer = .ok call.node :=
      Strings.outcome_bothKnown_kept receives rfl unknown _
    rw [kept]
    exact iff_of_false nofun fun both => Bool.noConfusion both.1

/-- **Equality and searches along chains.** If a value equals a second one and that a third one, the
first equals the third exactly if they have the same integers. A chain of searches always leads to
candidates that are linked to what is searched for, and the search from one end to the other
succeeds exactly if such candidates have the same integers. -/
theorem equality_chains (first second whole : Invocation)
    (answer answer' answer'' : Value → Except Error Value) :
    (∀ value middle last : Value, value.DistinctKeys → middle.DistinctKeys → last.DistinctKeys →
      (value == middle) = true → (middle == last) = true →
        ((value == last) = true ↔ value.SameIntegers last)) ∧
    (∀ members middles candidates : List Value, (Value.list members).DistinctKeys →
      (Value.list middles).DistinctKeys → (Value.list candidates).DistinctKeys →
      Receives first answer (.list members) (.list middles) →
      Receives second answer' (.list middles) (.list candidates) →
      Receives whole answer'' (.list members) (.list candidates) →
      (eachMemberIn first).outcome answer = .ok (.bool true) →
      (eachMemberIn second).outcome answer' = .ok (.bool true) →
        (∀ member ∈ members, ∃ candidate ∈ candidates, candidate.Linked member) ∧
        ((eachMemberIn whole).outcome answer'' = .ok (.bool true) ↔ ∀ member ∈ members,
          ∃ candidate ∈ candidates, candidate.Linked member ∧ candidate.SameIntegers member)) ∧
    ∀ (items : List Value) (value last : Value), whole.scope.config = first.scope.config →
      (Value.list items).DistinctKeys → value.DistinctKeys → last.DistinctKeys →
      Receives first answer (.list items) value → Receives whole answer'' (.list items) last →
      (contains first).outcome answer = .ok (.bool true) → (value == last) = true →
        (∃ item ∈ items, item.Linked last) ∧
        ((contains whole).outcome answer'' = .ok (.bool true) ↔
          ∃ item ∈ items, item.Linked last ∧ item.SameIntegers last) := by
  refine ⟨fun _ _ _ => Value.equal_trans_iff, ?_, ?_⟩
  · intro members middles candidates distinct distinct' distinct'' receives receives' receives''
      all all'
    rw [outcome_eachMemberIn_iff receives] at all
    rw [outcome_eachMemberIn_iff receives'] at all'
    rw [Value.DistinctKeys, Value.distinctKeysOfItems_iff] at distinct distinct' distinct''
    constructor
    · intro member listed
      obtain ⟨middle, there, same⟩ := all member listed
      obtain ⟨candidate, beyond, same'⟩ := all' middle there
      exact ⟨candidate, beyond, middle, distinct' middle there, same', same⟩
    · rw [outcome_eachMemberIn_iff receives'']
      refine forall₂_congr fun member listed => exists_congr fun candidate => ?_
      refine and_congr_right fun beyond => ?_
      exact Value.equal_iff_linked (distinct'' candidate beyond) (distinct member listed)
  · intro items value last config distinct distinct' distinct'' receives receives' found same
    rw [Value.DistinctKeys, Value.distinctKeysOfItems_iff] at distinct
    obtain ⟨known, item, listed, equal⟩ := (outcome_contains_iff receives).1 found
    refine ⟨⟨item, listed, value, distinct', equal, same⟩, ?_⟩
    have known' : whole.isCall last = false := by
      unfold Invocation.isCall
      rw [config, ← Value.isCall_eq_of_equal distinct' distinct'' same]
      exact known
    rw [outcome_contains_iff receives', and_iff_right known']
    refine exists_congr fun item => and_congr_right fun listed => ?_
    exact Value.equal_iff_linked (distinct item listed) distinct''

/-- An odd integer that no binary number of 53 bits is. -/
def odd : Value :=
  .int 9007199254740993

/-- The binary number nearest to it. -/
def nearest : Value :=
  .float 9007199254740992

/-- The integer that the binary number is. -/
def even : Value :=
  .int 9007199254740992

/-- Searches for values among others. -/
def searchAll (members candidates : List Value) : Invocation :=
  ⟨"Fn::EachMemberIn", "EachMemberIn", .list [.list members, .list candidates],
    ⟨Config.standard, [], .null⟩⟩

/-- Searches a list for a value. -/
def search (items : List Value) (value : Value) : Invocation :=
  ⟨"Fn::Contains", "Contains", .list [.list items, value], ⟨Config.standard, [], .null⟩⟩

/-- The number links the two integers. That the odd one is found is due to the odd one. -/
theorem equality_chains_rounded :
    let answer := Resolver.outcome Registry.standard ⟨Config.standard, [], .null⟩ 2
    ¬odd.SameIntegers even ∧
      (eachMemberIn (searchAll [odd] [even, odd])).outcome answer = .ok (.bool true) ∧
      (contains (search [even, odd] odd)).outcome answer = .ok (.bool true) := by
  intro answer
  obtain ⟨chain, members, _⟩ := equality_chains (searchAll [odd] [nearest])
    (searchAll [nearest] [even, odd]) (searchAll [odd] [even, odd]) answer answer answer
  obtain ⟨_, _, items⟩ := equality_chains (search [even, odd] nearest) (search [even, odd] nearest)
    (search [even, odd] odd) answer answer answer
  have numbers : (Value.list [odd]).DistinctKeys ∧ (Value.list [nearest]).DistinctKeys ∧
      (Value.list [even, odd]).DistinctKeys := by
    simp [odd, nearest, even, Value.DistinctKeys, Value.DistinctKeysOfItems]
  obtain ⟨single, middle, both⟩ := numbers
  have linked : odd.Linked odd := ⟨nearest, trivial, by decide, by decide⟩
  have itself : odd ∈ [even, odd] := List.mem_cons_of_mem _ List.mem_cons_self
  refine ⟨fun same => ?_, ?_, ?_⟩
  · have equal := (chain odd nearest even trivial trivial trivial (by decide) (by decide)).2 same
    exact absurd equal (by decide)
  · have found := members [odd] [nearest] [even, odd] single middle both ⟨_, _, rfl, rfl, rfl⟩
      ⟨_, _, rfl, rfl, rfl⟩ ⟨_, _, rfl, rfl, rfl⟩ rfl rfl
    refine found.2.2 (List.forall_mem_singleton.2 ?_)
    exact ⟨odd, itself, linked, Value.sameIntegers_self odd⟩
  · have found := items [even, odd] nearest odd rfl both trivial trivial ⟨_, _, rfl, rfl, rfl⟩
      ⟨_, _, rfl, rfl, rfl⟩ rfl (by decide)
    exact found.2.2 ⟨odd, itself, linked, Value.sameIntegers_self odd⟩

/-- A chain of equal values leads from the odd integer to the even one, which differ. -/
theorem not_equality_chains_rounded :
    let answer := Resolver.outcome Registry.standard ⟨Config.standard, [], .null⟩ 2
    (odd.NanFree ∧ nearest.NanFree ∧ even.NanFree) ∧
      ((odd == nearest) = true ∧ (nearest == even) = true ∧ (odd == even) = false) ∧
      ((eachMemberIn (searchAll [odd] [nearest])).outcome answer = .ok (.bool true) ∧
        (eachMemberIn (searchAll [nearest] [even])).outcome answer = .ok (.bool true) ∧
        (eachMemberIn (searchAll [odd] [even])).outcome answer = .ok (.bool false)) ∧
      (contains (search [odd] nearest)).outcome answer = .ok (.bool true) ∧
      (contains (search [odd] even)).outcome answer = .ok (.bool false) := by
  have integer : ∀ n, (Value.int n).NanFree :=
    fun n x inside => nomatch inside.eq_of_isScalar trivial
  have number : nearest.NanFree := by
    intro x inside
    have same : Value.float x = nearest := inside.eq_of_isScalar trivial
    obtain rfl : x = 9007199254740992 := Value.float.inj same
    decide
  exact ⟨⟨integer _, number, integer _⟩, by decide, ⟨rfl, rfl, rfl⟩, rfl, rfl⟩

end Logic

end CloudTemplate
