import CloudTemplate.Proofs.Counter
import CloudTemplate.Proofs.Shape

/-!
# Plain data and the limit

Data without calls resolves to itself, in the same order, if its height is within the limit of
nesting. Otherwise it exceeds the limit, wherever in it the highest values are: going through
children meets a result or this error at each of them, and the error at one
(`Resolver.outcome_exceeded`). So the limit is exact for all shapes (`Resolver.resolve_plain`),
and with a counter in the place of the levels it is the same limit, and the counter is back at zero.
-/

set_option autoImplicit false

namespace CloudTemplate

/-- Going through a list ends in an error if a step does and no step ends in another one. -/
theorem mapM_eq_error {α β : Type} {step : α → Except Error β} {error : Error} {values : List α}
    (each : ∀ value ∈ values, (∃ result, step value = .ok result) ∨ step value = .error error)
    (failed : ∃ value ∈ values, step value = .error error) : values.mapM step = .error error := by
  induction values with
  | nil =>
    obtain ⟨_, listed, _⟩ := failed
    cases listed
  | cons value values ih =>
    rw [List.forall_mem_cons] at each
    rw [List.exists_mem_cons_iff] at failed
    rw [List.mapM_cons]
    rcases each.1 with ⟨result, found⟩ | here
    · rw [found] at failed ⊢
      have later := ih each.2 (failed.resolve_left nofun)
      exact bind_eq_error_iff.2 (.inr ⟨result, rfl, bind_eq_error_iff.2 (.inl later)⟩)
    · exact bind_eq_error_iff.2 (.inl here)

namespace Resolver

variable {registry : Registry} {scope : Scope} {value : Value}

/-- A value without calls that is higher than there are levels exceeds them. -/
theorem outcome_exceeded {levels : Nat} (high : levels < value.height)
    (plain : value.containsCall scope.config = false) :
    outcome registry scope levels value = .error (.depthExceeded scope.config.maxDepth) := by
  induction levels generalizing value with
  | zero => rfl
  | succ levels ih =>
    have each : ∀ child : Value, child.containsCall scope.config = false →
        (∃ result, outcome registry scope levels child = .ok result) ∨
          outcome registry scope levels child = .error (.depthExceeded scope.config.maxDepth) := by
      intro child data
      rcases Nat.lt_or_ge levels child.height with higher | enough
      · exact .inr (ih higher data)
      · exact .inl ⟨child, outcome_of_containsCall_eq_false enough data⟩
    cases value with
    | list items =>
      rw [Value.containsCall, Value.itemsContainCall_eq_any, List.any_eq_false] at plain
      have data : ∀ item ∈ items, item.containsCall scope.config = false :=
        fun item listed => Bool.eq_false_iff.2 (plain item listed)
      have higher : ∃ item ∈ items, levels < item.height := by
        rw [Value.height, Nat.add_lt_add_iff_right, ← Nat.not_le,
          Value.heightOfItems_le_iff] at high
        simpa using high
      obtain ⟨item, listed, higher⟩ := higher
      have failed := mapM_eq_error (fun item listed => each item (data item listed))
        ⟨item, listed, ih higher (data item listed)⟩
      change Value.list <$> items.mapM (outcome registry scope levels) = _
      rw [failed]
      rfl
    | map entries =>
      rw [Value.containsCall, Bool.or_eq_false_iff, Value.entriesContainCall_eq_any,
        List.any_eq_false] at plain
      have data : ∀ entry ∈ entries, entry.2.containsCall scope.config = false :=
        fun entry listed => Bool.eq_false_iff.2 (plain.2 entry listed)
      have higher : ∃ entry ∈ entries, levels < entry.2.height := by
        rw [Value.height, Nat.add_lt_add_iff_right, ← Nat.not_le,
          Value.heightOfEntries_le_iff] at high
        simpa using high
      obtain ⟨entry, listed, higher⟩ := higher
      have failed : outcomeEntries (outcome registry scope levels) entries =
          .error (.depthExceeded scope.config.maxDepth) := by
        refine mapM_eq_error (fun entry listed => ?_) ⟨entry, listed, ?_⟩
        · rcases each entry.2 (data entry listed) with ⟨result, found⟩ | exceeded
          · exact .inl ⟨(entry.1, result), by rw [found]; rfl⟩
          · exact .inr (by rw [exceeded]; rfl)
        · rw [ih higher (data entry listed)]
          rfl
      rw [outcome_map levels plain.1, failed]
      rfl
    | _ => exact absurd high (by simp [Value.height])

/-- **The limit is exact for plain data.** A value without calls resolves to itself if its height is
within the limit, and otherwise to the error that says so. A resolver that counts gives the same,
and its counter ends where it began. -/
theorem resolve_plain (plain : value.containsCall scope.config = false) (trail : Trail) :
    let result : Except Error Value :=
      if value.height ≤ scope.config.maxDepth then .ok value
      else .error (.depthExceeded scope.config.maxDepth)
    (resolve registry scope value).resultFrom trail = result ∧
      ∀ fuel, scope.config.maxDepth < fuel →
        ∃ left, (counted registry scope fuel value).run.run ⟨0, trail⟩ = (result, ⟨0, left⟩) := by
  intro result
  have resolved : (resolve registry scope value).resultFrom trail = result := by
    rw [resolve_yields registry scope value trail]
    dsimp only [result]
    split
    · next enough => exact outcome_of_containsCall_eq_false enough plain
    · next high => exact outcome_exceeded (Nat.lt_of_not_le high) plain
  refine ⟨resolved, fun fuel enough => ⟨((resolve registry scope value).run.run trail).2, ?_⟩⟩
  rw [← resolved]
  exact counted_counts registry scope (Nat.zero_add _) enough value trail

/-- A map whose children are of different heights, with empty containers among them. -/
def uneven : Value := .map [
  ("wide", .list [.map [], .list [], .string "Ref"]),
  ("high", .map [("b", .list [.null, .map [("a", .bool true)]]), ("Ref", .int 1)]),
  ("", .list [])]

/-- The standard configuration with another limit. -/
def limited (depth : Nat) : Scope :=
  ⟨{ Config.standard with maxDepth := depth }, [], .null⟩

/-- Five levels are enough for the map, and four are not. -/
theorem resolve_plain_uneven :
    uneven.height = 5 ∧ uneven.containsCall (limited 5).config = false ∧
      (resolve Registry.standard (limited 5) uneven).resultFrom {} = .ok uneven ∧
      uneven.containsCall (limited 4).config = false ∧
      (resolve Registry.standard (limited 4) uneven).resultFrom {} =
        .error (.depthExceeded 4) := by
  have high : uneven.height = 5 := rfl
  have plain : uneven.containsCall (limited 5).config = false := rfl
  have plain' : uneven.containsCall (limited 4).config = false := rfl
  have enough := (@resolve_plain Registry.standard _ _ plain {}).1
  have few := (@resolve_plain Registry.standard _ _ plain' {}).1
  rw [high] at enough few
  exact ⟨high, plain, enough, plain', few⟩

end Resolver

end CloudTemplate
