import CloudTemplate.Proofs.Rounding.Numbers
import CloudTemplate.Proofs.Shape

/-!
# Sums and extremes of integers

The functions on lists of numbers turn every integer into a binary number before they compute. For
a list of integers this means: each of them is rounded, the sum is rounded again after each summand
(`Math.total`), and the greatest or the least of the rounded integers is the rounded greatest or
least integer, because rounding keeps the order.

The result is an integer again, as a value with 64 bits if it fits (`Value.IsNumber`). There always
is a result: the partial sums of 64-bit integers come to a stop at `2 ^ 117`, far below the largest
binary number, since a summand is less than half a unit there (`Math.total_step`).

Nothing is lost as long as the integers and all partial sums are short (`Math.total_eq_sum`), and
for the greatest and the least element it is enough that this element is
(`Resolver.resolve_integers`). That this is needed is seen from the sum of `2 ^ 53 + 1` and zero
(`Resolver.not_resolve_exactly`).
-/

set_option autoImplicit false

namespace CloudTemplate

open Rounding

/-! ## Integers as values -/

/-- The value is the integer, with 64 bits if it fits and as a binary number otherwise. -/
inductive Value.IsNumber : Value → Int → Prop
  | int (n : Int64) : IsNumber (.int n) n.toInt
  | float {x : Float} {n : Int} (whole : Decimal.integer? x = some n)
      (beyond : ¬(Int64.minValue.toInt ≤ n ∧ n ≤ Int64.maxValue.toInt)) : IsNumber (.float x) n

namespace Value

theorem isNumber_ofNumber {x : Float} {n : Int} (whole : Decimal.integer? x = some n) :
    (ofNumber x).IsNumber n := by
  unfold ofNumber
  rw [whole]
  dsimp only
  split
  next within =>
    obtain ⟨least, most⟩ := within
    have kept : (Int64.ofInt n).toInt = n := Int64.toInt_ofInt_of_le least (by
      have bound : Int64.maxValue.toInt < 2 ^ 63 := Int64.toInt_lt _
      omega)
    have number := IsNumber.int (Int64.ofInt n)
    rwa [kept] at number
  next beyond => exact .float whole beyond

/-- A number of 64 bits is an integer value. -/
theorem IsNumber.eq_int {value : Value} {n : Int64} (number : value.IsNumber n.toInt) :
    value = .int n := by
  generalize same : n.toInt = integer at number
  cases number with
  | int m => rw [Int64.toInt_inj.1 same]
  | float whole beyond =>
    refine absurd ⟨?_, ?_⟩ beyond
    · rw [← same]
      exact n.le_toInt
    · have bound := n.toInt_lt
      have most : Int64.maxValue.toInt = 2 ^ 63 - 1 := rfl
      omega

end Value

theorem exists_largest {integers : List Int64} (enough : 1 ≤ integers.length) :
    ∃ largest ∈ integers, (∀ n ∈ integers, n ≤ largest) ∧
      (integers.map Int64.toInt).max? = some largest.toInt := by
  have nonempty : integers.map Int64.toInt ≠ [] := by
    rw [← List.length_pos_iff, List.length_map]
    exact enough
  obtain ⟨best, found⟩ := Option.isSome_iff_exists.1 (List.isSome_max?_of_ne_nil nonempty)
  obtain ⟨member, bound⟩ := List.max?_eq_some_iff.1 found
  obtain ⟨largest, listed, rfl⟩ := List.mem_map.1 member
  refine ⟨largest, listed, fun n other => ?_, found⟩
  exact Int64.le_iff_toInt_le.2 (bound _ (List.mem_map_of_mem other))

theorem exists_smallest {integers : List Int64} (enough : 1 ≤ integers.length) :
    ∃ smallest ∈ integers, (∀ n ∈ integers, smallest ≤ n) ∧
      (integers.map Int64.toInt).min? = some smallest.toInt := by
  have nonempty : integers.map Int64.toInt ≠ [] := by
    rw [← List.length_pos_iff, List.length_map]
    exact enough
  obtain ⟨best, found⟩ := Option.isSome_iff_exists.1 (List.isSome_min?_of_ne_nil nonempty)
  obtain ⟨member, bound⟩ := List.min?_eq_some_iff.1 found
  obtain ⟨smallest, listed, rfl⟩ := List.mem_map.1 member
  refine ⟨smallest, listed, fun n other => ?_, found⟩
  exact Int64.le_iff_toInt_le.2 (bound _ (List.mem_map_of_mem other))

theorem natAbs_toInt_le (n : Int64) : n.toInt.natAbs ≤ 2 ^ 63 := by
  have least := n.le_toInt
  have most := n.toInt_lt
  omega

/-! ## Comparison of integers -/

namespace Rounding.Represents

variable {x y : Float} {i j : Int}

theorem larger (first : Represents x i) (second : Represents y j) :
    Represents (Math.larger x y) (max i j) := by
  have order := first.lt_iff second
  unfold Math.larger
  rw [first.isNaN_eq_false, second.isNaN_eq_false, if_neg nofun, if_neg nofun]
  by_cases less : x < y
  · rw [if_pos less, max_eq_right (order.1 less).le]
    exact second
  · rw [if_neg less, max_eq_left (not_lt.1 (order.not.1 less))]
    exact first

theorem smaller (first : Represents x i) (second : Represents y j) :
    Represents (Math.smaller x y) (min i j) := by
  have order := second.lt_iff first
  unfold Math.smaller
  rw [first.isNaN_eq_false, second.isNaN_eq_false, if_neg nofun, if_neg nofun]
  by_cases less : y < x
  · rw [if_pos less, min_eq_right (order.1 less).le]
    exact second
  · rw [if_neg less, min_eq_left (not_lt.1 (order.not.1 less))]
    exact first

/-- Integers are above the number with which the search for the greatest starts. -/
theorem larger_infinite (represents : Represents x i) : Math.larger (-1.0 / 0.0) x = x := by
  have least : (-1.0 / 0.0 : Float) < x := by
    have start : (-1.0 / 0.0 : Float).toModel.unpack = .infinity .negative := rfl
    refine decide_eq_true (?_ : (-1.0 / 0.0 : Float).toModel.unpack.lt x.toModel.unpack = true)
    unfold Represents at represents
    generalize x.toModel.unpack = f at *
    rw [start]
    cases represents
    · rfl
    · rfl
  have defined : (-1.0 / 0.0 : Float).isNaN = false := rfl
  unfold Math.larger
  rw [defined, represents.isNaN_eq_false, if_neg nofun, if_neg nofun, if_pos least]

/-- Integers are below the number with which the search for the least starts. -/
theorem smaller_infinite (represents : Represents x i) : Math.smaller (1.0 / 0.0) x = x := by
  have most : x < (1.0 / 0.0 : Float) := by
    have start : (1.0 / 0.0 : Float).toModel.unpack = .infinity .positive := rfl
    refine decide_eq_true (?_ : x.toModel.unpack.lt (1.0 / 0.0 : Float).toModel.unpack = true)
    unfold Represents at represents
    generalize x.toModel.unpack = f at *
    rw [start]
    cases represents
    · rfl
    · rfl
  have defined : (1.0 / 0.0 : Float).isNaN = false := rfl
  unfold Math.smaller
  rw [defined, represents.isNaN_eq_false, if_neg nofun, if_neg nofun, if_pos most]

end Rounding.Represents

namespace Math

/-! ## Sums -/

/-- The sum of integers that are rounded first, rounded after each summand. -/
def total (integers : List Int) : Int :=
  integers.foldl (fun sum n => rounded (sum + rounded n)) 0

/-- **Without long integers on the way, the sum is exact.** -/
theorem total_eq_sum {integers : List Int} (short : ∀ n ∈ integers, Short n)
    (partials : ∀ front, front <+: integers → Short front.sum) : total integers = integers.sum := by
  induction integers using List.reverseRecOn with
  | nil => rfl
  | append_singleton front n ih =>
    have before : total front = front.sum := by
      refine ih (fun m member => short m (List.mem_append_left _ member)) fun part within => ?_
      exact partials part (within.trans (List.prefix_append front [n]))
    have summand := rounded_eq_self_iff.2 (short n (List.mem_append_right _ List.mem_cons_self))
    have whole := rounded_eq_self_iff.2 (partials _ List.prefix_rfl)
    rw [List.sum_append, List.sum_singleton] at whole ⊢
    unfold total at before ⊢
    rw [List.foldl_append, before, List.foldl_cons, List.foldl_nil, summand, whole]

/-- One more summand of 64 bits does not bring a sum above the bound. -/
theorem total_step {sum n : Int} (bounded : sum.natAbs ≤ 2 ^ 117) (word : n.natAbs ≤ 2 ^ 63) :
    (sum + rounded n).natAbs ≤ 2 ^ 117 + 2 ^ 63 ∧
      (rounded (sum + rounded n)).natAbs ≤ 2 ^ 117 := by
  have summand := natAbs_rounded_le word
  have size : (sum + rounded n).natAbs ≤ 2 ^ 117 + 2 ^ 63 := by omega
  refine ⟨size, ?_⟩
  rw [natAbs_rounded]
  calc magnitude (sum + rounded n).natAbs
    _ ≤ magnitude (2 ^ 117 + 2 ^ 63) := magnitude_mono size
    _ = 2 ^ 117 := by decide

/-- The sum of converted integers, from any partial sum on. -/
theorem represents_foldl_add {integers : List Int} (words : ∀ n ∈ integers, n.natAbs ≤ 2 ^ 63)
    {x : Float} {sum : Int} (represents : Represents x sum) (bounded : sum.natAbs ≤ 2 ^ 117) :
    Represents ((integers.map Float.ofInt).foldl (· + ·) x)
      (integers.foldl (fun sum n => rounded (sum + rounded n)) sum) := by
  induction integers generalizing x sum with
  | nil => exact represents
  | cons n integers ih =>
    obtain ⟨word, words⟩ := List.forall_mem_cons.1 words
    obtain ⟨size, next⟩ := total_step bounded word
    have summand : Represents (Float.ofInt n) (rounded n) := represents_ofInt (by omega)
    exact ih words (represents.add summand (by omega)) next

theorem represents_sum {integers : List Int} (words : ∀ n ∈ integers, n.natAbs ≤ 2 ^ 63) :
    Represents (sum (integers.map Float.ofInt)) (total integers) :=
  represents_foldl_add words represents_zero (by decide)

/-! ## Extremes -/

section Choices

variable {pick : Float → Float → Float} {choose : Int → Int → Int}
  (picks : ∀ {x y : Float} {i j : Int}, Represents x i → Represents y j →
    Represents (pick x y) (choose i j))
  (monotone : ∀ i j, choose (rounded i) (rounded j) = rounded (choose i j))
include picks monotone

/-- The converted integers are compared one after the other with the best so far. -/
theorem represents_foldl_pick {integers : List Int} (words : ∀ n ∈ integers, n.natAbs ≤ 2 ^ 63)
    {x : Float} {best : Int} (represents : Represents x (rounded best)) :
    Represents ((integers.map Float.ofInt).foldl pick x)
      (rounded (integers.foldl choose best)) := by
  induction integers generalizing x best with
  | nil => exact represents
  | cons n integers ih =>
    obtain ⟨word, words⟩ := List.forall_mem_cons.1 words
    have next : Represents (Float.ofInt n) (rounded n) := represents_ofInt (by omega)
    have better := picks represents next
    rw [monotone] at better
    exact ih words better

/-- The first integer is better than the number with which the search starts. -/
theorem represents_pick {start : Float}
    (starts : ∀ {x : Float} {i : Int}, Represents x i → pick start x = x) {n : Int}
    {integers : List Int} (words : ∀ m ∈ n :: integers, m.natAbs ≤ 2 ^ 63) :
    Represents (((n :: integers).map Float.ofInt).foldl pick start)
      (rounded (integers.foldl choose n)) := by
  obtain ⟨word, words⟩ := List.forall_mem_cons.1 words
  have first : Represents (Float.ofInt n) (rounded n) := represents_ofInt (by omega)
  rw [List.map_cons, List.foldl_cons, starts first]
  exact represents_foldl_pick picks monotone words first

end Choices

theorem represents_greatest {integers : List Int} (words : ∀ n ∈ integers, n.natAbs ≤ 2 ^ 63)
    {best : Int} (found : integers.max? = some best) :
    Represents (greatest (integers.map Float.ofInt)) (rounded best) := by
  cases integers with
  | nil => cases found
  | cons n integers =>
    rw [List.max?_cons'] at found
    cases found
    refine represents_pick Represents.larger (fun i j => ?_) Represents.larger_infinite words
    exact (Monotone.map_max fun _ _ => rounded_mono).symm

theorem represents_least {integers : List Int} (words : ∀ n ∈ integers, n.natAbs ≤ 2 ^ 63)
    {best : Int} (found : integers.min? = some best) :
    Represents (least (integers.map Float.ofInt)) (rounded best) := by
  cases integers with
  | nil => cases found
  | cons n integers =>
    rw [List.min?_cons'] at found
    cases found
    refine represents_pick Represents.smaller (fun i j => ?_) Represents.smaller_infinite words
    exact (Monotone.map_min fun _ _ => rounded_mono).symm

/-! ## Functions -/

section Calls

variable {answer : Value → Except Error Value} {call : Invocation} {arguments : List Value}
  {integers : List Int64}

theorem numbers_int (call : Invocation) (integers : List Int64) :
    numbers call (integers.map .int) = pure ((integers.map Int64.toInt).map Float.ofInt) := by
  induction integers with
  | nil => rfl
  | cons n integers ih =>
    change (numbers call (integers.map .int) >>= fun others =>
      pure (Float.ofInt n.toInt :: others)) = _
    rw [ih]
    rfl

/-- What is computed from integers is an integer value, or a number if it does not fit. -/
theorem outcome_fold (written : call.arguments = .list arguments)
    (resolved : List.Forall₂ (fun argument n => answer argument = .ok (.int n)) arguments integers)
    {fewest : Nat} (enough : fewest ≤ integers.length) {compute : List Float → Float} {n : Int}
    (represents : Represents (compute ((integers.map Int64.toInt).map Float.ofInt)) n) :
    ∃ value, (fold fewest compute call).outcome answer = .ok value ∧ value.IsNumber n := by
  have accepted : call.atLeast fewest = pure arguments := by
    have length := resolved.length_eq
    have many : ¬arguments.length < fewest := by omega
    unfold Invocation.atLeast Invocation.argumentList
    rw [written, pure_bind, if_neg many]
  have known : List.Forall₂ (fun argument value =>
      answer argument = .ok value ∧ call.isCall value = false) arguments (integers.map .int) :=
    List.forall₂_map_right_iff.2 (resolved.imp fun _ _ here => ⟨here, rfl⟩)
  refine ⟨_, ?_, Value.isNumber_ofNumber (Decimal.integer?_of_represents represents)⟩
  unfold fold
  rw [accepted, pure_bind, call.outcome_allKnown known, numbers_int, pure_bind, finite,
    if_pos (Decimal.isFinite_of_represents represents)]
  rfl

end Calls

end Math

namespace Resolver

/-- The call of a function that folds its arguments. -/
theorem resolve_fold {scope : Scope} (mark : scope.config.functionMark = "Fn::")
    (key name : String) (reference : key ≠ scope.config.referenceKey)
    (named : Text.after? "Fn::".toList key.toList = some name.toList) {fewest : Nat}
    {compute : List Float → Float}
    (known : Registry.standard.function? name = some (Math.fold fewest compute)) {levels : Nat}
    (depth : scope.config.maxDepth = levels + 1) {arguments : List Value} {integers : List Int64}
    (resolved : List.Forall₂ (fun argument n =>
      outcome Registry.standard scope levels argument = .ok (.int n)) arguments integers)
    (enough : fewest ≤ integers.length) {n : Int}
    (represents : Represents (compute ((integers.map Int64.toInt).map Float.ofInt)) n)
    (trail : Trail) :
    ∃ value, (resolve Registry.standard scope (.ofCall key (.list arguments))).resultFrom trail =
      .ok value ∧ value.IsNumber n := by
  have is_call := Value.call?_ofCall mark reference named (.list arguments)
  rw [resolve_yields, depth, outcome_function levels is_call known]
  exact Math.outcome_fold rfl resolved enough represents

/-- **Arithmetic of integers.** If the arguments of a call resolve to integers, then the sum is
their sum with rounding, and the greatest and the least are the rounded greatest and least. They are
exact if the integers, the partial sums, and the greatest or the least element are short. -/
theorem resolve_integers {scope : Scope} (mark : scope.config.functionMark = "Fn::")
    (reference : scope.config.referenceKey ∉ ["Fn::Add", "Fn::Max", "Fn::Min"]) {levels : Nat}
    (depth : scope.config.maxDepth = levels + 1) {arguments : List Value} {integers : List Int64}
    (resolved : List.Forall₂ (fun argument n =>
      outcome Registry.standard scope levels argument = .ok (.int n)) arguments integers)
    (trail : Trail) :
    let found key :=
      (resolve Registry.standard scope (.ofCall key (.list arguments))).resultFrom trail
    let numbers := integers.map Int64.toInt
    (2 ≤ integers.length → ∃ sum, found "Fn::Add" = .ok sum ∧ sum.IsNumber (Math.total numbers) ∧
      ((∀ n ∈ numbers, Short n) → (∀ front, front <+: numbers → Short front.sum) →
        sum.IsNumber numbers.sum)) ∧
    (1 ≤ integers.length → ∃ largest ∈ integers, (∀ n ∈ integers, n ≤ largest) ∧
      ∃ value, found "Fn::Max" = .ok value ∧ value.IsNumber (rounded largest.toInt) ∧
        (Short largest.toInt → value = .int largest)) ∧
    (1 ≤ integers.length → ∃ smallest ∈ integers, (∀ n ∈ integers, smallest ≤ n) ∧
      ∃ value, found "Fn::Min" = .ok value ∧ value.IsNumber (rounded smallest.toInt) ∧
        (Short smallest.toInt → value = .int smallest)) := by
  intro found numbers
  have words : ∀ n ∈ numbers, n.natAbs ≤ 2 ^ 63 :=
    List.forall_mem_map.2 fun n _ => natAbs_toInt_le n
  have kept : ∀ {value : Value} {n : Int64}, value.IsNumber (rounded n.toInt) → Short n.toInt →
      value = .int n := by
    intro value n number short
    rw [rounded_eq_self_iff.2 short] at number
    exact number.eq_int
  refine ⟨fun enough => ?_, fun enough => ?_, fun enough => ?_⟩
  · have differs : "Fn::Add" ≠ scope.config.referenceKey := fun same => reference (by simp [← same])
    obtain ⟨sum, computed, number⟩ := resolve_fold mark "Fn::Add" "Add" differs rfl rfl depth
      resolved enough (Math.represents_sum words) trail
    refine ⟨sum, computed, number, fun short partials => ?_⟩
    rwa [Math.total_eq_sum short partials] at number
  · have differs : "Fn::Max" ≠ scope.config.referenceKey := fun same => reference (by simp [← same])
    obtain ⟨largest, member, bound, best⟩ := exists_largest enough
    obtain ⟨value, computed, number⟩ := resolve_fold mark "Fn::Max" "Max" differs rfl rfl depth
      resolved enough (Math.represents_greatest words best) trail
    exact ⟨largest, member, bound, value, computed, number, kept number⟩
  · have differs : "Fn::Min" ≠ scope.config.referenceKey := fun same => reference (by simp [← same])
    obtain ⟨smallest, member, bound, best⟩ := exists_smallest enough
    obtain ⟨value, computed, number⟩ := resolve_fold mark "Fn::Min" "Min" differs rfl rfl depth
      resolved enough (Math.represents_least words best) trail
    exact ⟨smallest, member, bound, value, computed, number, kept number⟩

/-- An integer with 54 digits, which a parameter holds, and a small one. -/
def longIntegers : List Value :=
  [.ofCall "Ref" (.string "Big"), .int 1]

/-- The scope with the parameter. -/
def longScope : Scope where
  config := Config.standard
  parameters := [("Big", .int 9007199254740993)]
  template := .null

/-- The first integer is rounded before the second is added, and the sum is rounded to the same. The
greatest element is rounded to it as well, while the least is kept. -/
theorem resolve_integers_long :
    let found key :=
      (resolve Registry.standard longScope (.ofCall key (.list longIntegers))).resultFrom {}
    found "Fn::Add" = .ok (.int 9007199254740992) ∧
      found "Fn::Max" = .ok (.int 9007199254740992) ∧ found "Fn::Min" = .ok (.int 1) := by
  intro found
  have depth : longScope.config.maxDepth = (longScope.config.maxDepth - 1) + 1 := rfl
  obtain ⟨add, max, min⟩ := @resolve_integers longScope rfl
    (show Config.standard.referenceKey ∉ _ by decide) _ depth longIntegers [9007199254740993, 1]
    (.cons rfl (.cons rfl .nil)) {}
  refine ⟨?_, ?_, ?_⟩
  · obtain ⟨sum, computed, number, -⟩ := add (by decide)
    have rounded_sum : Math.total [9007199254740993, 1] = (9007199254740992 : Int64).toInt := by
      decide
    rw [← Value.IsNumber.eq_int (rounded_sum ▸ number)]
    exact computed
  · obtain ⟨largest, member, bound, value, computed, number, -⟩ := max (by decide)
    rcases List.mem_pair.1 member with rfl | rfl
    · have rounded_largest : rounded (9007199254740993 : Int64).toInt =
          (9007199254740992 : Int64).toInt := by decide
      rw [← Value.IsNumber.eq_int (rounded_largest ▸ number)]
      exact computed
    · exact absurd (bound _ List.mem_cons_self) (by decide)
  · obtain ⟨smallest, member, bound, value, computed, -, kept⟩ := min (by decide)
    rcases List.mem_pair.1 member with rfl | rfl
    · exact absurd (bound 1 (by simp)) (by decide)
    · rw [← kept (short_of_natAbs_le (by decide))]
      exact computed

/-- **Arithmetic of integers is not exact**, although all results here fit into 64 bits. -/
theorem not_resolve_exactly :
    let found key (integers : List Int64) :=
      (resolve Registry.standard ⟨Config.standard, [], .null⟩
        (.ofCall key (.list (integers.map .int)))).resultFrom {}
    (¬∀ (integers : List Int64) (sum : Int64), 2 ≤ integers.length →
      sum.toInt = (integers.map Int64.toInt).sum → found "Fn::Add" integers = .ok (.int sum)) ∧
    (¬∀ (integers : List Int64), ∀ largest ∈ integers, (∀ n ∈ integers, n ≤ largest) →
      found "Fn::Max" integers = .ok (.int largest)) ∧
    (¬∀ (integers : List Int64), ∀ smallest ∈ integers, (∀ n ∈ integers, smallest ≤ n) →
      found "Fn::Min" integers = .ok (.int smallest)) := by
  intro found
  have rounded_sum : found "Fn::Add" [9007199254740993, 0] = .ok (.int 9007199254740992) := by
    dsimp only [found]
    rw [resolve_yields]
    rfl
  have rounded_largest : found "Fn::Max" [9007199254740993] = .ok (.int 9007199254740992) := by
    dsimp only [found]
    rw [resolve_yields]
    rfl
  have rounded_smallest : found "Fn::Min" [9007199254740993] = .ok (.int 9007199254740992) := by
    dsimp only [found]
    rw [resolve_yields]
    rfl
  refine ⟨fun always => ?_, fun always => ?_, fun always => ?_⟩
  · have sum := always [9007199254740993, 0] 9007199254740993 (by decide) (by decide)
    rw [rounded_sum] at sum
    cases sum
  · have largest := always [9007199254740993] _ (List.mem_singleton_self _) fun n member =>
      (List.mem_singleton.1 member) ▸ Int64.le_refl _
    rw [rounded_largest] at largest
    cases largest
  · have smallest := always [9007199254740993] _ (List.mem_singleton_self _) fun n member =>
      (List.mem_singleton.1 member) ▸ Int64.le_refl _
    rw [rounded_smallest] at smallest
    cases smallest

end Resolver

end CloudTemplate
