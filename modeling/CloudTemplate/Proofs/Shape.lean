import Mathlib.Data.List.Forall2
import CloudTemplate.Proofs.BuiltIn
import CloudTemplate.Proofs.Within

/-!
# The shape of what a value resolves to

Resolution keeps the shape of everything that is not a call: a scalar resolves to itself, a list
to the list of what its items resolve to, and a map that is not a call to a map with the same
keys (`Resolver.resolves_list_iff`, `Resolver.resolves_map_iff`). A value without calls therefore
resolves to itself, with as many levels as it is high (`Resolver.outcome_of_containsCall_eq_false`).
-/

set_option autoImplicit false

namespace CloudTemplate

/-- Going through a list succeeds exactly when every step does. -/
theorem mapM_eq_ok_iff {α β : Type} {step : α → Except Error β} {values : List α}
    {results : List β} :
    values.mapM step = .ok results ↔
      List.Forall₂ (fun value result => step value = .ok result) values results := by
  induction values generalizing results with
  | nil =>
    rw [List.mapM_nil, List.forall₂_nil_left_iff]
    exact ⟨fun same => (Except.ok.inj same).symm, fun same => congrArg Except.ok same.symm⟩
  | cons value values ih =>
    rw [List.mapM_cons, List.forall₂_cons_left_iff, bind_eq_ok_iff]
    constructor
    · rintro ⟨first, here, found⟩
      obtain ⟨others, rest, same⟩ := bind_eq_ok_iff.1 found
      cases same
      exact ⟨first, others, here, ih.1 rest, rfl⟩
    · rintro ⟨first, others, here, rest, rfl⟩
      exact ⟨first, here, bind_eq_ok_iff.2 ⟨others, ih.2 rest, rfl⟩⟩

/-- Computations on the items of two lists are alike if they are for each pair of items. -/
theorem Alike.mapM {α β γ δ : Type} {related : γ → δ → Prop} {first : α → Except Error γ}
    {second : β → Except Error δ} {items : List α} {others : List β}
    (each : List.Forall₂ (fun item other => Alike related (first item) (second other)) items
      others) :
    Alike (List.Forall₂ related) (items.mapM first) (others.mapM second) := by
  induction each with
  | nil => exact .found .nil
  | cons here _ ih =>
    rw [List.mapM_cons, List.mapM_cons]
    exact here.bind fun _ _ first => ih.bind fun _ _ rest => .found (.cons first rest)

/-- Arguments that resolve to values that are no calls are gone on with. -/
theorem Invocation.outcome_allKnown (call : Invocation) {answer : Value → Except Error Value}
    {arguments values : List Value}
    (resolved : List.Forall₂ (fun argument value =>
      answer argument = .ok value ∧ call.isCall value = false) arguments values)
    (next : List Value → Program Value) :
    (call.allKnown arguments next).outcome answer = (next values).outcome answer := by
  induction resolved generalizing next with
  | nil => rfl
  | cons here _ ih => exact (call.outcome_known here.1 here.2 _).trans (ih _)

/-- What holds of all that is related to the firsts holds of the seconds. -/
theorem forall_mem_of_forall₂ {α β : Type} {related : α → β → Prop} {holds : β → Prop}
    {firsts : List α} {seconds : List β} (all : List.Forall₂ related firsts seconds)
    (implies : ∀ first ∈ firsts, ∀ second, related first second → holds second) :
    ∀ second ∈ seconds, holds second := by
  induction all with
  | nil => exact List.forall_mem_nil _
  | cons here _ ih =>
    obtain ⟨first, others⟩ := List.forall_mem_cons.1 implies
    exact List.forall_mem_cons.2 ⟨first _ here, ih others⟩

/-- The second entry has the key of the first, and a related value. -/
def EntryRel (related : Value → Value → Prop) (entry other : String × Value) : Prop :=
  entry.1 = other.1 ∧ related entry.2 other.2

/-- Related entries have the same keys. -/
theorem EntryRel.keys_eq {related : Value → Value → Prop} {entries others : Entries Value}
    (all : List.Forall₂ (EntryRel related) entries others) : entries.keys = others.keys := by
  induction all with
  | nil => rfl
  | cons here _ ih => rw [Entries.keys_cons, Entries.keys_cons, here.1, ih]

/-- Keys that occur once do so in what is related. -/
theorem EntryRel.distinct {related : Value → Value → Prop} {entries others : Entries Value}
    (all : List.Forall₂ (EntryRel related) entries others) (once : entries.Distinct) :
    others.Distinct := by
  unfold Entries.Distinct at once ⊢
  rwa [← EntryRel.keys_eq all]

theorem EntryRel.insert {related : Value → Value → Prop} {entries others : Entries Value}
    (all : List.Forall₂ (EntryRel related) entries others) (key : String) {value other : Value}
    (here : related value other) :
    List.Forall₂ (EntryRel related) (entries.insert key value) (others.insert key other) := by
  induction all with
  | nil => exact .cons ⟨rfl, here⟩ .nil
  | @cons entry last entries others first rest ih =>
    unfold Entries.insert
    rw [← first.1]
    by_cases known : entry.1 = key
    · rw [if_pos known, if_pos known]
      exact .cons ⟨rfl, here⟩ rest
    · rw [if_neg known, if_neg known]
      exact .cons first ih

theorem EntryRel.merge {related : Value → Value → Prop} {entries others : Entries Value}
    (all : List.Forall₂ (EntryRel related) entries others) {more lasts : Entries Value}
    (further : List.Forall₂ (EntryRel related) more lasts) :
    List.Forall₂ (EntryRel related) (entries.merge more) (others.merge lasts) := by
  induction further generalizing entries others with
  | nil => exact all
  | @cons entry last more lasts here _ ih =>
    change List.Forall₂ _ ((entries.insert entry.1 entry.2).merge more)
      ((others.insert last.1 last.2).merge lasts)
    rw [← here.1]
    exact ih (EntryRel.insert all entry.1 here.2)

/-- What is at a key of entries is related to what is at this key of the others. -/
theorem EntryRel.get?_rel {related : Value → Value → Prop} {entries others : Entries Value}
    (all : List.Forall₂ (EntryRel related) entries others) (key : String) :
    Option.Rel related (entries.get? key) (others.get? key) := by
  induction all with
  | nil => exact .none
  | cons here _ ih =>
    rw [Entries.get?_cons, Entries.get?_cons, ← here.1]
    split
    · exact .some here.2
    · exact ih

theorem EntryRel.get? {related : Value → Value → Prop} {entries others : Entries Value}
    (all : List.Forall₂ (EntryRel related) entries others) {key : String} {value : Value}
    (found : entries.get? key = some value) :
    ∃ other, others.get? key = some other ∧ related value other := by
  have rel := EntryRel.get?_rel all key
  rw [found] at rel
  generalize others.get? key = there at rel
  cases rel with
  | some here => exact ⟨_, rfl, here⟩

/-- Whether a map is a call depends on its keys only. -/
theorem Value.isCall_eq_of_keys_eq {config : Config} {entries others : Entries Value}
    (same : entries.keys = others.keys) :
    (Value.map entries).isCall config = (Value.map others).isCall config := by
  match entries, others, same with
  | [], [], _ => rfl
  | [(key, value)], [(_, other)], same =>
    obtain rfl : key = _ := by simpa [Entries.keys] using same
    unfold isCall call?
    dsimp only
    split
    · rfl
    · rw [Option.isSome_map, Option.isSome_map]
  | _ :: _ :: _, _ :: _ :: _, _ => rfl

/-- A call has one key. -/
theorem Value.isCall_eq_false_of_length_ne_one {config : Config} {entries : Entries Value}
    (several : entries.length ≠ 1) : (Value.map entries).isCall config = false := by
  match entries with
  | [] => rfl
  | [_] => exact absurd rfl several
  | _ :: _ :: _ => rfl

/-- Merging two maps that are no calls gives none. -/
theorem Value.isCall_merge_eq_false {config : Config} {entries more : Entries Value}
    (distinct : more.Distinct) (data : (Value.map entries).isCall config = false)
    (other : (Value.map more).isCall config = false) :
    (Value.map (entries.merge more)).isCall config = false := by
  have keys := Entries.keys_merge entries distinct
  cases fresh : more.keys.filter (· ∉ entries.keys) with
  | nil =>
    rw [fresh, List.append_nil] at keys
    rw [isCall_eq_of_keys_eq keys]
    exact data
  | cons key others =>
    cases entries with
    | nil =>
      have same : (Entries.merge [] more).keys = more.keys := by
        rw [keys]
        simp [Entries.keys]
      rw [isCall_eq_of_keys_eq same]
      exact other
    | cons entry entries =>
      refine isCall_eq_false_of_length_ne_one fun single => ?_
      have count := congrArg List.length keys
      rw [fresh] at count
      simp only [Entries.keys, List.length_map, List.length_append, List.length_cons] at count
      omega

namespace Resolver

variable {registry : Registry} {scope : Scope}

theorem outcomeEntries_eq_ok_iff {answer : Value → Except Error Value}
    {entries results : List (String × Value)} :
    outcomeEntries answer entries = .ok results ↔
      List.Forall₂ (EntryRel fun value result => answer value = .ok result) entries results := by
  unfold outcomeEntries
  rw [mapM_eq_ok_iff]
  refine ⟨List.Forall₂.imp fun entry result found => ?_,
    List.Forall₂.imp fun entry result found => ?_⟩
  · obtain ⟨value, answered, rfl⟩ := map_eq_ok_iff.1 found
    exact ⟨rfl, answered⟩
  · obtain ⟨key, value⟩ := result
    obtain ⟨same, answered⟩ := found
    dsimp only at same answered
    rw [answered, same]
    rfl

theorem outcome_of_isScalar {value : Value} (scalar : value.IsScalar) (levels : Nat) :
    outcome registry scope (levels + 1) value = .ok value := by
  cases value with
  | list items => exact scalar.elim
  | map entries => exact scalar.elim
  | _ => rfl

/-- A list is resolved item by item. -/
theorem outcome_list_eq_ok_iff {levels : Nat} {items : List Value} {result : Value} :
    outcome registry scope (levels + 1) (.list items) = .ok result ↔
      ∃ results, result = .list results ∧
        List.Forall₂ (fun item result => outcome registry scope levels item = .ok result)
          items results := by
  change Value.list <$> items.mapM (outcome registry scope levels) = _ ↔ _
  simp only [map_eq_ok_iff, mapM_eq_ok_iff]
  exact exists_congr fun results => and_comm.trans (and_congr_left' eq_comm)

/-- A map that is no call takes a level, and its children are resolved with what is left. -/
theorem outcome_map (levels : Nat) {entries : Entries Value}
    (data : (Value.map entries).isCall scope.config = false) :
    outcome registry scope (levels + 1) (.map entries) =
      .map <$> outcomeEntries (outcome registry scope levels) entries := by
  rw [outcome, outcomeNode, Value.isCall_eq_false_iff.1 data]

/-- A map that is no call is resolved child by child. -/
theorem outcome_map_eq_ok_iff {levels : Nat} {entries : Entries Value} {result : Value}
    (data : (Value.map entries).isCall scope.config = false) :
    outcome registry scope (levels + 1) (.map entries) = .ok result ↔
      ∃ results, result = .map results ∧
        List.Forall₂ (EntryRel fun value result => outcome registry scope levels value = .ok result)
          entries results := by
  simp only [outcome_map levels data, map_eq_ok_iff, outcomeEntries_eq_ok_iff]
  exact exists_congr fun results => and_comm.trans (and_congr_left' eq_comm)

/-- **A value without calls resolves to itself**, with as many levels as it is high. -/
theorem outcome_of_containsCall_eq_false {value : Value} {levels : Nat}
    (enough : value.height ≤ levels) (plain : value.containsCall scope.config = false) :
    outcome registry scope levels value = .ok value := by
  induction levels generalizing value with
  | zero => cases value <;> simp [Value.height] at enough
  | succ levels ih =>
    cases value with
    | list items =>
      rw [Value.height, Nat.add_le_add_iff_right, Value.heightOfItems_le_iff] at enough
      rw [Value.containsCall, Value.itemsContainCall_eq_any, List.any_eq_false] at plain
      refine outcome_list_eq_ok_iff.2 ⟨items, rfl, List.forall₂_same.2 fun item member => ?_⟩
      exact ih (enough item member) (Bool.eq_false_iff.2 (plain item member))
    | map entries =>
      rw [Value.height, Nat.add_le_add_iff_right, Value.heightOfEntries_le_iff] at enough
      rw [Value.containsCall, Bool.or_eq_false_iff, Value.entriesContainCall_eq_any,
        List.any_eq_false] at plain
      refine (outcome_map_eq_ok_iff plain.1).2
        ⟨entries, rfl, List.forall₂_same.2 fun entry member => ⟨rfl, ?_⟩⟩
      exact ih (enough entry member) (Bool.eq_false_iff.2 (plain.2 entry member))
    | _ => rfl

/-! ## Some number of levels -/

theorem resolves_of_containsCall_eq_false {value : Value}
    (plain : value.containsCall scope.config = false) : Resolves registry scope value value :=
  ⟨value.height, outcome_of_containsCall_eq_false (Nat.le_refl _) plain⟩

/-- Pairs that are related with some number of levels each are related with a common one. -/
theorem exists_common_levels {α β : Type} (related : Nat → α → β → Prop)
    (mono : ∀ {levels more first second}, levels ≤ more → related levels first second →
      related more first second) {firsts : List α} {seconds : List β}
    (all : List.Forall₂ (fun first second => ∃ levels, related levels first second)
      firsts seconds) :
    ∃ levels, List.Forall₂ (related levels) firsts seconds := by
  induction all with
  | nil => exact ⟨0, .nil⟩
  | cons here _ ih =>
    obtain ⟨levels, first⟩ := here
    obtain ⟨more, others⟩ := ih
    exact ⟨max levels more, .cons (mono (Nat.le_max_left levels more) first)
      (others.imp fun _ _ => mono (Nat.le_max_right levels more))⟩

/-- A scalar resolves to itself. -/
theorem Resolves.eq_of_isScalar {value result : Value}
    (resolves : Resolves registry scope value result) (scalar : value.IsScalar) :
    result = value := by
  obtain ⟨levels, found⟩ := resolves
  cases levels with
  | zero => cases found
  | succ levels =>
    rw [outcome_of_isScalar scalar] at found
    cases found
    rfl

/-- A list resolves to the list of what its items resolve to. -/
theorem resolves_list_iff (ignores : registry.IgnoresDepth) {items : List Value} {result : Value} :
    Resolves registry scope (.list items) result ↔
      ∃ results, result = .list results ∧
        List.Forall₂ (Resolves registry scope) items results := by
  constructor
  · rintro ⟨levels, found⟩
    cases levels with
    | zero => cases found
    | succ levels =>
      obtain ⟨results, rfl, all⟩ := outcome_list_eq_ok_iff.1 found
      exact ⟨results, rfl, all.imp fun _ _ answered => ⟨levels, answered⟩⟩
  · rintro ⟨results, rfl, all⟩
    obtain ⟨levels, found⟩ := exists_common_levels
      (fun levels item value => outcome registry scope levels item = .ok value)
      (fun enough answered => outcome_mono ignores enough answered) all
    exact ⟨levels + 1, outcome_list_eq_ok_iff.2 ⟨results, rfl, found⟩⟩

/-- A map that is no call resolves to the map of what its children resolve to. -/
theorem resolves_map_iff (ignores : registry.IgnoresDepth) {entries : Entries Value}
    {result : Value} (data : (Value.map entries).isCall scope.config = false) :
    Resolves registry scope (.map entries) result ↔
      ∃ results, result = .map results ∧
        List.Forall₂ (EntryRel (Resolves registry scope)) entries results := by
  constructor
  · rintro ⟨levels, found⟩
    cases levels with
    | zero => cases found
    | succ levels =>
      obtain ⟨results, rfl, all⟩ := (outcome_map_eq_ok_iff data).1 found
      exact ⟨results, rfl, all.imp fun _ _ answered => ⟨answered.1, levels, answered.2⟩⟩
  · rintro ⟨results, rfl, all⟩
    obtain ⟨levels, found⟩ := exists_common_levels
      (fun levels => EntryRel fun value result => outcome registry scope levels value = .ok result)
      (fun enough answered => ⟨answered.1, outcome_mono ignores enough answered.2⟩)
      (all.imp fun _ _ ⟨same, levels, found⟩ => ⟨levels, same, found⟩)
    exact ⟨levels + 1, (outcome_map_eq_ok_iff data).2 ⟨results, rfl, found⟩⟩

end Resolver

end CloudTemplate
