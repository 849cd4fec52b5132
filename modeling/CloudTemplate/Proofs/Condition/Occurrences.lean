import CloudTemplate.Proofs.Condition.Solution

/-!
# Occurrences of conditions

The names of conditions are looked for twice in an expression: the references are collected from it,
and later the names are replaced by the truth of the conditions. Both go through the expression on
their own, and only the replacement treats a map in a special way that does nothing but name a
condition. Still they see the same occurrences.

Such a map is replaced as the text in it would be (`Names.substitute_eq`), so a text is left by a
replacement exactly when there is no result for it (`within_substitute_iff`), and two replacements
are the same exactly when the results agree on every text of the expression
(`substitute_eq_iff`). Results for declared conditions have to agree on the collected references
only, and nothing declared is left in the expression exactly when all references have results
(`substitute_exact`).
-/

set_option autoImplicit false

namespace CloudTemplate.Condition

variable {first second results : Results} {name text : String} {value : Value}

/-! ## Values that name a condition -/

/-- The value does nothing but name a condition. -/
inductive Names (name : String) : Value → Prop
  | text : Names name (.string name)
  | map : Names name (.map [(nameKey, .string name)])

/-- The truth of a condition, or the value that names it if there is no result. -/
def truthOr (result : Option Bool) (naming : Value) : Value :=
  (result.map Value.bool).getD naming

namespace Names

/-- A map that does nothing but name a condition is replaced exactly when its text would be. -/
theorem substitute_eq (names : Names name value) (results : Results) :
    substitute results value = truthOr (results.get? name) value := by
  have replaced : substitute results (.string name) =
      truthOr (results.get? name) (.string name) := by
    rw [substitute]
    cases results.get? name <;> rfl
  cases names with
  | text => exact replaced
  | map =>
    have named : namedResult? results [(nameKey, .string name)] = results.get? name := by
      unfold namedResult?
      exact if_pos rfl
    rw [substitute, named]
    cases found : results.get? name with
    | some truth => rfl
    | none =>
      rw [substituteEntries, replaced, found]
      rfl

theorem within_iff (names : Names name value) :
    (Value.string text).Within value ↔ text = name := by
  have single : (Value.string text).Within (.string name) ↔ text = name := by
    constructor
    · intro inside
      cases inside
      rfl
    · rintro rfl
      exact .self _
  cases names with
  | text => exact single
  | map =>
    rw [Value.within_map_iff, or_iff_right nofun]
    simp only [List.mem_singleton, exists_eq_left]
    exact single

/-- The name is left exactly when there is no result. -/
theorem within_truthOr_iff (names : Names name value) (result : Option Bool) :
    (Value.string text).Within (truthOr result value) ↔ text = name ∧ result = none := by
  cases result with
  | none => exact names.within_iff.trans (iff_self_and.2 fun _ => rfl)
  | some truth =>
    refine iff_of_false (fun inside => ?_) nofun
    cases inside

/-- The result is seen in what the value is replaced by. -/
theorem truthOr_inj (names : Names name value) (result other : Option Bool) :
    truthOr result value = truthOr other value ↔ result = other := by
  have no_truth : ∀ truth, value ≠ .bool truth := by
    rintro truth rfl
    cases names
  cases result with
  | none =>
    cases other with
    | none => exact iff_of_true rfl rfl
    | some truth => exact iff_of_false (no_truth truth) nofun
  | some truth =>
    cases other with
    | none => exact iff_of_false (no_truth truth).symm nofun
    | some again => exact (Value.bool.injEq truth again).to_iff.trans Option.some_inj.symm

end Names

/-- Induction on what a replacement goes through: values that name a condition, other scalars,
lists, and maps whose children are replaced one by one. -/
theorem replacing_induction {motive : Value → Prop}
    (names : ∀ name value, Names name value → motive value)
    (scalar : ∀ value : Value, value.IsScalar → (∀ name, value ≠ .string name) → motive value)
    (list : ∀ items : List Value, (∀ item ∈ items, motive item) → motive (.list items))
    (map : ∀ entries : List (String × Value),
      (∀ results : Results, namedResult? results entries = none) →
        (∀ entry ∈ entries, motive entry.2) → motive (.map entries)) (value : Value) :
    motive value := by
  induction value using Value.nested_induction with
  | scalar value is_scalar =>
    by_cases naming : ∃ name, value = .string name
    · obtain ⟨name, rfl⟩ := naming
      exact names name _ .text
    · exact scalar value is_scalar fun name same => naming ⟨name, same⟩
  | list items ih => exact list items ih
  | map entries ih =>
    by_cases naming : ∃ name, entries = [(nameKey, .string name)]
    · obtain ⟨name, rfl⟩ := naming
      exact names name _ .map
    · refine map entries (fun results => ?_) ih
      unfold namedResult?
      split
      · next key name =>
        refine if_neg ?_
        rintro rfl
        exact naming ⟨name, rfl⟩
      · rfl

/-- Other scalars hold no texts. -/
theorem not_within_of_ne_string (is_scalar : value.IsScalar)
    (other : ∀ name, value ≠ .string name) : ¬(Value.string text).Within value := by
  intro inside
  cases inside with
  | self => exact other text rfl
  | item => exact is_scalar.elim
  | child => exact is_scalar.elim

/-! ## What is left and what is the same -/

/-- **A text is left by a replacement exactly when there is no result for it.** -/
theorem within_substitute_iff (value : Value) :
    (Value.string text).Within (substitute results value) ↔
      (Value.string text).Within value ∧ results.get? text = none := by
  induction value using replacing_induction with
  | names name value names =>
    rw [names.substitute_eq, names.within_truthOr_iff, names.within_iff]
    refine and_congr_right fun same => ?_
    rw [same]
  | scalar value is_scalar other =>
    have nowhere : ¬(Value.string text).Within value := not_within_of_ne_string is_scalar other
    rw [substitute_of_isScalar is_scalar fun name same => absurd same (other name)]
    exact iff_of_false nowhere fun both => nowhere both.1
  | list items ih =>
    rw [substitute_list, Value.within_list_iff, Value.within_list_iff, or_iff_right nofun,
      or_iff_right nofun, ← exists_and_right]
    simp only [List.mem_map, exists_exists_and_eq_and, and_assoc]
    exact exists_congr fun item => and_congr_right (ih item)
  | map entries unnamed ih =>
    rw [substitute_map (unnamed results), Value.within_map_iff, Value.within_map_iff,
      or_iff_right nofun, or_iff_right nofun, ← exists_and_right]
    simp only [List.mem_map, exists_exists_and_eq_and, and_assoc]
    exact exists_congr fun entry => and_congr_right (ih entry)

/-- **Replacements are the same exactly when the results agree on every text.** -/
theorem substitute_eq_iff (value : Value) :
    substitute first value = substitute second value ↔
      ∀ name, (Value.string name).Within value → first.get? name = second.get? name := by
  refine ⟨fun same => ?_, substitute_congr value⟩
  induction value using replacing_induction with
  | names name value names =>
    rw [names.substitute_eq, names.substitute_eq, names.truthOr_inj] at same
    intro other inside
    rwa [names.within_iff.1 inside]
  | scalar value is_scalar other =>
    exact fun name inside => absurd inside (not_within_of_ne_string is_scalar other)
  | list items ih =>
    rw [substitute_list, substitute_list, Value.list.injEq, List.map_inj_left] at same
    intro name inside
    obtain ⟨item, member, inside⟩ := (Value.within_list_iff.1 inside).resolve_left nofun
    exact ih item member (same item member) name inside
  | map entries unnamed ih =>
    rw [substitute_map (unnamed first), substitute_map (unnamed second), Value.map.injEq,
      List.map_inj_left] at same
    intro name inside
    obtain ⟨entry, member, inside⟩ := (Value.within_map_iff.1 inside).resolve_left nofun
    exact ih entry member (congrArg Prod.snd (same entry member)) name inside

/-! ## The references are what matters -/

theorem get?_eq_none_of_undeclared {conditions : Entries Value}
    (known : results.keys ⊆ conditions.keys) (undeclared : name ∉ conditions.keys) :
    results.get? name = none :=
  (Entries.get?_eq_none_iff results name).2 fun member => undeclared (known member)

/-- **The references are exactly the occurrences that a replacement sees.** With results for
declared conditions only, two replacements are the same if and only if the results agree on the
references of the expression: both have the same truth, or both have none. And no name of a declared
condition is left anywhere as a text if and only if there are results for all references. -/
theorem substitute_exact {conditions : Entries Value} (known : first.keys ⊆ conditions.keys)
    (also : second.keys ⊆ conditions.keys) (expression : Value) :
    (substitute first expression = substitute second expression ↔
      ∀ name ∈ references conditions expression, first.get? name = second.get? name) ∧
    ((∀ name ∈ conditions.keys, ¬(Value.string name).Within (substitute first expression)) ↔
      references conditions expression ⊆ first.keys) := by
  constructor
  · rw [substitute_eq_iff]
    refine forall_congr' fun name => ?_
    rw [mem_references_iff]
    constructor
    · exact fun agree both => agree both.2
    · intro agree inside
      by_cases declared : name ∈ conditions.keys
      · exact agree ⟨declared, inside⟩
      · rw [get?_eq_none_of_undeclared known declared, get?_eq_none_of_undeclared also declared]
  · refine forall_congr' fun name => ?_
    rw [mem_references_iff, within_substitute_iff, Entries.get?_eq_none_iff, and_imp]
    exact forall_congr' fun _ => by rw [not_and, not_not]

/-- Three conditions. -/
def alternatives : Entries Value :=
  [("A", .bool true), ("B", .bool true), ("C", .bool false)]

/-- An expression with two of them, as a text, as a map that names one and does nothing else and as
a map that does more, and with a text that is none. -/
def mixed : Value := .map [("Fn::Or", .list [.string "A", .map [("Condition", .string "A")],
  .map [("Condition", .string "B"), ("C", .null)], .map [("Condition", .string "B")],
  .string "D"])]

/-- A result for the third condition does not matter, one for the second does: without it, the
second condition is left. -/
theorem substitute_exact_mixed :
    let whole : Results := [("B", true), ("A", false)]
    let more : Results := [("C", true), ("A", false), ("B", true)]
    let less : Results := [("A", false)]
    (whole.keys ⊆ alternatives.keys ∧ more.keys ⊆ alternatives.keys ∧
      less.keys ⊆ alternatives.keys) ∧
    substitute whole mixed = substitute more mixed ∧
    substitute less mixed ≠ substitute more mixed ∧
    (∀ name ∈ alternatives.keys, ¬(Value.string name).Within (substitute whole mixed)) ∧
    ¬∀ name ∈ alternatives.keys, ¬(Value.string name).Within (substitute less mixed) := by
  intro whole more less
  have named : references alternatives mixed = ["A", "B"] := rfl
  have known : whole.keys ⊆ alternatives.keys := by decide
  have known_more : more.keys ⊆ alternatives.keys := by decide
  have known_less : less.keys ⊆ alternatives.keys := by decide
  obtain ⟨same, left⟩ := substitute_exact known known_more mixed
  obtain ⟨same_less, left_less⟩ := substitute_exact known_less known_more mixed
  rw [named] at same left same_less left_less
  refine ⟨⟨known, known_more, known_less⟩, same.2 (by decide), fun equal => ?_, left.2 (by decide),
    fun none => ?_⟩
  · exact absurd (same_less.1 equal) (by decide)
  · exact absurd (left_less.1 none) (by decide)

end CloudTemplate.Condition
