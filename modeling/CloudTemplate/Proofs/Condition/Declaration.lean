import CloudTemplate.Proofs.Condition.Solution

/-!
# The order of declaration

Conditions may be declared in any order. The order of their evaluation depends on it, and so does
the error that is met first, but conditions refer to each other by name, and neither the references
(`Refers.perm`) nor the equations (`Solves.perm_conditions`) know anything about places. Whether
there are results, and which, is the same for all orders of declaration (`judgeAll_perm`).
-/

set_option autoImplicit false

namespace CloudTemplate.Condition

/-- The truth of all conditions, given what values resolve to. -/
def judgeAll (isCall : Value → Bool) (answer : Value → Except Error Value)
    (conditions : Entries Value) : Except Error Results := do
  let order ← (Graph.ofConditions conditions).order
  judgeInOrder isCall answer conditions [] order

/-- The evaluation of all conditions depends only on what values resolve to. -/
theorem evaluateAll_yields_judgeAll {isCall : Value → Bool} {resolve : Value → Tracked Value}
    {answer : Value → Except Error Value}
    (steady : ∀ value, Attempt.Yields (resolve value) (answer value)) (conditions : Entries Value) :
    Attempt.Yields (evaluateAll isCall resolve conditions) (judgeAll isCall answer conditions) :=
  evaluateAll_yields steady conditions

/-- The names are those of the conditions, each once, and each comes after all that its condition
refers to. -/
structure Ordered (conditions : Entries Value) (order : List String) : Prop where
  all : order.Perm conditions.keys
  nodup : order.Nodup
  after : ∀ before name after, order = before ++ name :: after →
    ∀ other, Refers conditions name other → other ∈ before

theorem ordered_of_order {conditions : Entries Value} (distinct : conditions.Distinct)
    {order : List String} (found : (Graph.ofConditions conditions).order = .ok order) :
    Ordered conditions order := by
  have sound := Graph.ofConditions_sound distinct
  have all : order.Perm conditions.keys := by
    rw [← Graph.names_ofConditions]
    exact Graph.order_perm sound found
  refine ⟨all, all.nodup_iff.2 distinct, ?_⟩
  intro before name after split other refers
  rw [← Graph.refers_ofConditions] at refers
  exact Graph.order_after sound found split refers

/-- What is found for all conditions has every name once, and solves the equations. -/
theorem judgeAll_solves {isCall : Value → Bool} {answer : Value → Except Error Value}
    {conditions : Entries Value} (distinct : conditions.Distinct) {found : Results}
    (judged : judgeAll isCall answer conditions = .ok found) :
    found.Distinct ∧ Solves isCall answer conditions found := by
  obtain ⟨order, ordered, judged⟩ := bind_eq_ok_iff.1 judged
  obtain ⟨all, nodup, after⟩ := ordered_of_order distinct ordered
  obtain ⟨keys, solves⟩ := judgeInOrder_solves all nodup after judged
  refine ⟨?_, solves⟩
  unfold Entries.Distinct
  rw [keys]
  exact nodup

section Permuted

variable {conditions others : Entries Value} (distinct : conditions.Distinct)
  (same : conditions.Perm others)
include distinct same

theorem Refers.perm : Refers conditions = Refers others := by
  funext name other
  unfold Refers
  rw [Entries.get?_eq_of_perm distinct same, (Entries.keys_perm same).mem_iff]

/-- Solutions do not depend on the order of the conditions. -/
theorem Solves.perm_conditions {isCall : Value → Bool} {answer : Value → Except Error Value}
    {results : Results} (solves : Solves isCall answer conditions results) :
    Solves isCall answer others results := by
  refine ⟨fun name => (solves.names name).trans (Entries.keys_perm same).mem_iff, ?_⟩
  intro name expression written
  rw [← Entries.get?_eq_of_perm distinct same] at written
  exact solves.equations name expression written

/-- Conditions have an order of evaluation whatever the order of their declaration. -/
theorem exists_order_of_perm {order : List String}
    (found : (Graph.ofConditions conditions).order = .ok order) :
    ∃ again, (Graph.ofConditions others).order = .ok again := by
  have free := (Graph.exists_order_iff (Graph.ofConditions_sound distinct)).1 ⟨order, found⟩
  refine (Graph.exists_order_iff (Graph.ofConditions_sound (distinct.perm same))).2 ?_
  rw [Graph.refers_ofConditions, Graph.names_ofConditions] at free ⊢
  rw [← Refers.perm distinct same]
  intro name declared
  exact free name ((Entries.keys_perm same).mem_iff.2 declared)

/-- In another order of declaration, all conditions have the truth that they have in this one. -/
theorem exists_judgeAll_of_perm {isCall : Value → Bool} {answer : Value → Except Error Value}
    {found : Results} (judged : judgeAll isCall answer conditions = .ok found) :
    ∃ again, judgeAll isCall answer others = .ok again ∧ found.Perm again := by
  obtain ⟨once, solves⟩ := judgeAll_solves distinct judged
  obtain ⟨order, ordered, _⟩ := bind_eq_ok_iff.1 judged
  obtain ⟨more, reordered⟩ := exists_order_of_perm distinct same ordered
  obtain ⟨all, nodup, after⟩ := ordered_of_order (distinct.perm same) reordered
  obtain ⟨again, rejudged, equal⟩ := exists_judgeInOrder_of_solves all nodup after once
    (solves.perm_conditions distinct same)
  exact ⟨again, bind_eq_ok_iff.2 ⟨more, reordered, rejudged⟩, equal.symm⟩

/-- **The order of declaration does not matter**: either no order of evaluation succeeds, or both
find the same truth for every condition. -/
theorem judgeAll_perm (isCall : Value → Bool) (answer : Value → Except Error Value) :
    Alike (fun found again => found.Distinct ∧ found.Perm again)
      (judgeAll isCall answer conditions) (judgeAll isCall answer others) := by
  cases judged : judgeAll isCall answer conditions with
  | ok found =>
    obtain ⟨again, rejudged, equal⟩ := exists_judgeAll_of_perm distinct same judged
    rw [rejudged]
    exact .found ⟨(judgeAll_solves distinct judged).1, equal⟩
  | error error =>
    cases rejudged : judgeAll isCall answer others with
    | error other => exact .failed error other
    | ok again =>
      obtain ⟨found, here, _⟩ := exists_judgeAll_of_perm (distinct.perm same) same.symm rejudged
      rw [judged] at here
      cases here

end Permuted

end CloudTemplate.Condition
