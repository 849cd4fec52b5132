import Mathlib.Data.Nat.Find
import CloudTemplate.Proofs.BuiltIn

/-!
# The limit of nesting

The configured maximum bounds how many values may be resolved inside each other, and it should do
nothing else. It decides whether there is a result at all: with a higher limit a value either still
exceeds it, or it has the result of the lower one (`Resolver.resolve_withMaxDepth`). This holds of
errors as well as of values, because functions pass every error on and none of them reads the limit,
and it holds of entries of tables, which are resolved inside the calls that look them up. A value
therefore exceeds every limit, or there is a least one that suffices
(`Resolver.exceeds_all_or_exists_least`).
-/

set_option autoImplicit false

namespace CloudTemplate.Resolver

variable {registry : Registry} {less more : Nat}

/-- What a value resolves to with two limits, of which the second is no lower. -/
theorem outcome_withMaxDepth_deepens (ignores : registry.IgnoresDepth) (scope : Scope)
    (enough : less ≤ more) (value : Value) :
    Deepens (outcome registry (scope.withMaxDepth less) less value)
      (outcome registry (scope.withMaxDepth more) more value) :=
  outcome_deepens ignores (scope.withMaxDepth less) more enough value

/-- **The limit of nesting is transparent**: whatever a value resolves to, other than the error that
the limit is exceeded, it resolves to with every higher limit. The trails do not matter. -/
theorem resolve_withMaxDepth (builtIn : registry.BuiltIn) (scope : Scope) (enough : less ≤ more)
    (value : Value) (trail later : Trail)
    (answered : ¬Exhausted
      ((resolve registry (scope.withMaxDepth less) value).resultFrom trail)) :
    (resolve registry (scope.withMaxDepth more) value).resultFrom later =
      (resolve registry (scope.withMaxDepth less) value).resultFrom trail := by
  rw [resolve_yields registry (scope.withMaxDepth less) value trail] at answered ⊢
  rw [resolve_yields registry (scope.withMaxDepth more) value later]
  rcases outcome_withMaxDepth_deepens builtIn.ignoresDepth scope enough value with
    exhausted | same
  · exact absurd exhausted answered
  · exact same

/-- A table with an entry that is a call again. -/
def indirectScope : Scope where
  config := Config.standard
  parameters := [("Default", .int 40)]
  template :=
    let disk := Value.ofCall "Fn::Select"
      (.list [.int 1, .list [.int 20, .ofCall "Ref" (.string "Default")]])
    .map [(Mapping.tablesSection, .map [("Sizes", .map [("Small", .map [("Disk", disk)])])])]

/-- A list with the entry. -/
def indirectLookup : Value :=
  .list [.ofCall "Fn::FindInMap" (.list [.string "Sizes", .string "Small", .string "Disk"])]

/-- The entry is resolved inside the look-up, and five levels are just enough for it: with four of
them the limit is exceeded, and with any more it is not. -/
theorem resolve_withMaxDepth_indirect :
    let found (depth : Nat) := (resolve Registry.standard (indirectScope.withMaxDepth depth)
      indirectLookup).resultFrom {}
    found 4 = .error (.depthExceeded 4) ∧ 5 ≤ 512 ∧ ¬Exhausted (found 5) ∧
      found 512 = .ok (.list [.int 40]) := by
  intro found
  have exceeded : found 4 = .error (.depthExceeded 4) := by
    dsimp only [found]
    rw [resolve_yields]
    rfl
  have least : found 5 = .ok (.list [.int 40]) := by
    dsimp only [found]
    rw [resolve_yields]
    rfl
  have answered : ¬Exhausted (found 5) := by
    rintro ⟨bound, exhausted⟩
    rw [least] at exhausted
    cases exhausted
  have same := resolve_withMaxDepth Registry.standard_builtIn indirectScope
    (show 5 ≤ 512 by decide) indirectLookup {} {} answered
  exact ⟨exceeded, by decide, answered, same.trans least⟩

/-- Every value exceeds all limits, or there is a least one that suffices: below it every limit is
exceeded, and from it on the result is always the same. -/
theorem exceeds_all_or_exists_least (ignores : registry.IgnoresDepth) (scope : Scope)
    (value : Value) :
    let found (depth : Nat) := outcome registry (scope.withMaxDepth depth) depth value
    (∀ depth, Exhausted (found depth)) ∨
      ∃ least, (∀ depth, Exhausted (found depth) ↔ depth < least) ∧
        ∀ depth, least ≤ depth → found depth = found least := by
  intro found
  rcases Classical.em (∃ depth, ¬Exhausted (found depth)) with sufficient | none
  · right
    classical
    let least := Nat.find sufficient
    have answered : ¬Exhausted (found least) := Nat.find_spec sufficient
    have same : ∀ depth, least ≤ depth → found depth = found least := fun depth enough =>
      (outcome_withMaxDepth_deepens ignores scope enough value).resolve_left answered
    refine ⟨least, fun depth => ⟨fun exceeded => ?_, fun lower => ?_⟩, same⟩
    · refine Nat.lt_of_not_le fun enough => answered ?_
      rw [← same depth enough]
      exact exceeded
    · exact Classical.not_not.1 (Nat.find_min sufficient lower)
  · exact .inl fun depth => Classical.not_not.1 fun answered => none ⟨depth, answered⟩

end CloudTemplate.Resolver
