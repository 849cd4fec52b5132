import CloudTemplate.Proofs.Condition.Solution
import CloudTemplate.Proofs.Matching

/-!
# Choices with their truth written in

A choice names its condition, or has the truth of the condition written in the place of the name.
Two values that are the same but for such choices are related by `Condition.Written`: the second
names conditions, and the first has the truth that the results give them. A call that would look up
one of these conditions by its name in another way, by a choice in both values or by a reference, is
not allowed in the relation.

Where the names of conditions stand nowhere but at the head of choices (`Condition.Confined`),
replacing the names by their truth does just that (`written_substitute`). Values without choices by
name are equal to what they are related to (`Written.eq_of_nameless`).
-/

set_option autoImplicit false

namespace CloudTemplate

namespace Value

variable {config : Config} {key : String} {argument : Value}

/-- A call is the map of a key to what it is applied to. -/
theorem exists_ofCall_of_call? {value : Value} {call : Call}
    (is_call : value.call? config = some call) :
    ∃ key argument, value = .ofCall key argument := by
  unfold call? at is_call
  split at is_call
  · exact ⟨_, _, rfl⟩
  · cases is_call

/-- Calls with the same key are references both or neither. -/
theorem call?_ofCall_reference {target : Value}
    (is_call : (ofCall key argument).call? config = some (.reference target)) :
    target = argument ∧ ∀ other : Value, (ofCall key other).call? config =
      some (.reference other) := by
  unfold ofCall call? at is_call ⊢
  dsimp only at is_call ⊢
  split at is_call
  · next same =>
    cases is_call
    exact ⟨rfl, fun other => if_pos same⟩
  · obtain ⟨_, _, same⟩ := Option.map_eq_some_iff.1 is_call
    cases same

/-- Calls with the same key are calls of the same function. -/
theorem call?_ofCall_function {again name : String} {arguments : Value}
    (is_call : (ofCall key argument).call? config = some (.function again name arguments)) :
    again = key ∧ arguments = argument ∧ ∀ other : Value, (ofCall key other).call? config =
      some (.function key name other) := by
  unfold ofCall call? at is_call ⊢
  dsimp only at is_call ⊢
  split at is_call
  · cases is_call
  · next different =>
    obtain ⟨_, named, same⟩ := Option.map_eq_some_iff.1 is_call
    cases same
    exact ⟨rfl, rfl, fun other => by rw [if_neg different, named]; rfl⟩

end Value

namespace Condition

/-- The call is a choice by the name of a condition that has a truth. -/
def Chooses (results : Results) (call : Call) : Prop :=
  ∃ key name rest, call = .function key "If" (.list (.string name :: rest)) ∧
    (results.get? name).isSome

/-- The call looks up a condition that has a truth by its name: it is a choice or a reference. -/
def LooksUp (results : Results) (call : Call) : Prop :=
  Chooses results call ∨ ∃ name, call = .reference (.string name) ∧ (results.get? name).isSome

/-- No choice in the value is by the name of a condition that has a truth. -/
abbrev Nameless (config : Config) (results : Results) (value : Value) : Prop :=
  value.EveryCall config fun call => ¬ Chooses results call

/-- The first value is the second one with the truth of conditions in the place of their names, at
the head of choices. -/
inductive Written (config : Config) (results : Results) : Value → Value → Prop
  | scalar {value : Value} (scalar : value.IsScalar) : Written config results value value
  | list {items others : List Value} (length : items.length = others.length)
      (all : ∀ item other, (item, other) ∈ items.zip others → Written config results item other) :
      Written config results (.list items) (.list others)
  | map {entries others : Entries Value} (distinct : entries.Distinct)
      (length : entries.length = others.length)
      (keys : ∀ entry other, (entry, other) ∈ entries.zip others → entry.1 = other.1)
      (all : ∀ entry other, (entry, other) ∈ entries.zip others →
        Written config results entry.2 other.2)
      (silent : ∀ call, (Value.map others).call? config = some call → ¬ LooksUp results call) :
      Written config results (.map entries) (.map others)
  | choice {key name : String} {truth : Bool} {items others : List Value}
      (is_call : (Value.ofCall key (.list (.string name :: others))).call? config =
        some (.function key "If" (.list (.string name :: others))))
      (known : results.get? name = some truth) (length : items.length = others.length)
      (all : ∀ item other, (item, other) ∈ items.zip others → Written config results item other) :
      Written config results (.ofCall key (.list (.bool truth :: items)))
        (.ofCall key (.list (.string name :: others)))

variable {config : Config} {results : Results}

theorem written_list_iff {value : Value} {others : List Value} :
    Written config results value (.list others) ↔
      ∃ items, value = .list items ∧ List.Forall₂ (Written config results) items others := by
  constructor
  · intro written
    cases written with
    | scalar scalar => exact scalar.elim
    | list length all => exact ⟨_, rfl, List.forall₂_iff_zip.2 ⟨length, fun {_ _} => all _ _⟩⟩
  · rintro ⟨items, rfl, all⟩
    obtain ⟨length, pairs⟩ := List.forall₂_iff_zip.1 all
    exact .list length fun _ _ => pairs

/-- Maps that are related, and look up no condition. -/
theorem Written.of_entries {entries others : Entries Value} (distinct : entries.Distinct)
    (all : List.Forall₂ (EntryRel (Written config results)) entries others)
    (silent : ∀ call, (Value.map others).call? config = some call → ¬ LooksUp results call) :
    Written config results (.map entries) (.map others) := by
  obtain ⟨length, pairs⟩ := List.forall₂_iff_zip.1 all
  exact .map distinct length (fun _ _ member => (pairs member).1)
    (fun _ _ member => (pairs member).2) silent

namespace Written

variable {value other : Value}

theorem eq_of_isScalar (written : Written config results value other) (scalar : other.IsScalar) :
    value = other := by
  cases written with
  | scalar => rfl
  | list => exact scalar.elim
  | map => exact scalar.elim
  | choice => exact scalar.elim

/-- Maps that are no calls are related child by child. -/
theorem exists_map {others : Entries Value} (written : Written config results value (.map others))
    (data : (Value.map others).isCall config = false) :
    ∃ entries : Entries Value, value = .map entries ∧ entries.Distinct ∧
      List.Forall₂ (EntryRel (Written config results)) entries others := by
  cases written with
  | scalar scalar => exact scalar.elim
  | map distinct length keys all =>
    refine ⟨_, rfl, distinct, List.forall₂_iff_zip.2 ⟨length, fun {_ _} member => ?_⟩⟩
    exact ⟨keys _ _ member, all _ _ member⟩
  | choice is_call =>
    rw [Value.isCall, show (Value.map _).call? config = _ from is_call] at data
    cases data

/-- A call is related to a call with the same key. Their arguments are related, and no condition is
looked up; or they are choices, one by a name and one by its truth. -/
theorem exists_ofCall {key : String} {argument : Value} {call : Call}
    (written : Written config results value (.ofCall key argument))
    (is_call : (Value.ofCall key argument).call? config = some call) :
    ∃ also, value = .ofCall key also ∧
      (Written config results also argument ∧ ¬ LooksUp results call ∨
        ∃ name truth items others, call = .function key "If" argument ∧
          argument = .list (.string name :: others) ∧ also = .list (.bool truth :: items) ∧
          results.get? name = some truth ∧
          List.Forall₂ (Written config results) items others) := by
  generalize node : Value.ofCall key argument = other at written
  cases written with
  | scalar scalar =>
    subst node
    exact scalar.elim
  | list => cases node
  | @map entries others distinct length keys all silent =>
    cases node
    -- A call has one key, so the map that it is related to has this key and no other.
    match entries, length with
    | [(first, also)], _ =>
      have pair := List.mem_singleton_self ((first, also), key, argument)
      obtain rfl : first = key := keys _ _ pair
      exact ⟨also, rfl, .inl ⟨all _ _ pair, silent call is_call⟩⟩
  | @choice again name truth items others chooses known length all =>
    cases node
    refine ⟨_, rfl, .inr ⟨name, truth, items, others, ?_, rfl, rfl, known, ?_⟩⟩
    · exact Option.some.inj (is_call.symm.trans chooses)
    · exact List.forall₂_iff_zip.2 ⟨length, fun {_ _} => all _ _⟩

/-- Related values are calls both or neither. -/
theorem isCall_eq (written : Written config results value other) :
    value.isCall config = other.isCall config := by
  cases written with
  | scalar => rfl
  | list => rfl
  | @map entries others distinct length keys all silent =>
    have same : List.Forall₂ (EntryRel fun _ _ => True) entries others :=
      List.forall₂_iff_zip.2 ⟨length, fun {_ _} member => ⟨keys _ _ member, trivial⟩⟩
    exact Value.isCall_eq_of_keys_eq (EntryRel.keys_eq same)
  | choice => exact Value.isCall_eq_of_keys_eq rfl

/-- Where nothing chooses by the name of a condition, related values are equal. -/
theorem eq_of_nameless (written : Written config results value other)
    (silent : Nameless config results other) : value = other := by
  induction written with
  | scalar => rfl
  | @list items others length all ih =>
    refine congrArg Value.list (List.forall₂_eq_eq_eq ▸ List.forall₂_iff_zip.2 ⟨length, ?_⟩)
    intro item other member
    exact ih item other member (silent.within (.item (List.of_mem_zip member).2 (.self _)))
  | @map entries others distinct length keys all quiet ih =>
    refine congrArg Value.map (List.forall₂_eq_eq_eq ▸ List.forall₂_iff_zip.2 ⟨length, ?_⟩)
    intro entry other member
    refine Prod.ext (keys entry other member) (ih entry other member ?_)
    exact silent.within (.child (List.of_mem_zip member).2 (.self _))
  | @choice key name truth items others is_call known length all ih =>
    refine absurd ⟨key, name, others, rfl, ?_⟩ (silent _ (.self _) _ is_call)
    rw [known]
    rfl

end Written

/-- A well-formed value in which no condition is looked up is related to itself. -/
theorem written_self {value : Value} (distinct : value.DistinctKeys)
    (silent : value.EveryCall config fun call => ¬ LooksUp results call) :
    Written config results value value := by
  induction value using Value.nested_induction with
  | scalar value scalar => exact .scalar scalar
  | list items ih =>
    rw [Value.DistinctKeys, Value.distinctKeysOfItems_iff] at distinct
    refine written_list_iff.2 ⟨items, rfl, List.forall₂_same.2 fun item member => ?_⟩
    exact ih item member (distinct item member) (silent.within (.item member (.self item)))
  | map entries ih =>
    rw [Value.DistinctKeys, Value.distinctKeysOfEntries_iff] at distinct
    refine .of_entries distinct.1 (List.forall₂_same.2 fun entry member => ⟨rfl, ?_⟩)
      (silent _ (.self _))
    exact ih entry member (distinct.2 entry member) (silent.within (.child member (.self _)))

/-! ## Expressions that name conditions in choices only -/

/-- Texts that are the name of a condition with a truth stand at the head of choices only. -/
inductive Confined (config : Config) (results : Results) : Value → Prop
  | scalar {value : Value} (scalar : value.IsScalar)
      (other : ∀ name, value = .string name → results.get? name = none) :
      Confined config results value
  | list {items : List Value} (all : ∀ item ∈ items, Confined config results item) :
      Confined config results (.list items)
  | map {entries : Entries Value} (all : ∀ entry ∈ entries, Confined config results entry.2) :
      Confined config results (.map entries)
  | choice {key name : String} {rest : List Value}
      (is_call : (Value.ofCall key (.list (.string name :: rest))).call? config =
        some (.function key "If" (.list (.string name :: rest))))
      (all : ∀ item ∈ rest, Confined config results item) :
      Confined config results (.ofCall key (.list (.string name :: rest)))

namespace Confined

theorem get?_eq_none {name : String} (confined : Confined config results (.string name)) :
    results.get? name = none := by
  cases confined with
  | scalar _ other => exact other name rfl

theorem namedResult?_eq_none {entries : Entries Value}
    (all : ∀ entry ∈ entries, Confined config results entry.2) :
    namedResult? results entries = none := by
  unfold namedResult?
  split
  · next key name =>
    rw [(all _ List.mem_cons_self).get?_eq_none]
    exact ite_self _
  · rfl

/-- A map whose children have the names of conditions in choices only looks up no condition. -/
theorem not_looksUp {entries : Entries Value}
    (all : ∀ entry ∈ entries, Confined config results entry.2) (call : Call)
    (is_call : (Value.map entries).call? config = some call) : ¬ LooksUp results call := by
  obtain ⟨key, argument, node⟩ := Value.exists_ofCall_of_call? is_call
  cases node
  have confined : Confined config results argument := all (key, argument) List.mem_cons_self
  rintro (⟨again, name, rest, rfl, known⟩ | ⟨name, rfl, known⟩)
  · obtain ⟨-, rfl, -⟩ := Value.call?_ofCall_function is_call
    cases confined with
    | scalar scalar => exact scalar.elim
    | list inside =>
      rw [(inside _ List.mem_cons_self).get?_eq_none] at known
      cases known
  · obtain ⟨rfl, -⟩ := Value.call?_ofCall_reference is_call
    rw [confined.get?_eq_none] at known
    cases known

/-- The names in front of choices are replaced, and nothing else is. -/
theorem written_substitute {value : Value} (confined : Confined config results value)
    (distinct : value.DistinctKeys) : Written config results (substitute results value) value := by
  induction confined with
  | scalar scalar other =>
    rw [substitute_of_isScalar scalar other]
    exact .scalar scalar
  | @list items all ih =>
    rw [Value.DistinctKeys, Value.distinctKeysOfItems_iff] at distinct
    refine written_list_iff.2 ⟨items.map (substitute results), substitute_list results items, ?_⟩
    rw [List.forall₂_map_left_iff, List.forall₂_same]
    exact fun item member => ih item member (distinct item member)
  | @map entries all ih =>
    rw [Value.DistinctKeys, Value.distinctKeysOfEntries_iff] at distinct
    rw [substitute_map (namedResult?_eq_none all)]
    refine .of_entries ?_ ?_ (not_looksUp all)
    · unfold Entries.Distinct Entries.keys
      rw [List.map_map]
      exact distinct.1
    · rw [List.forall₂_map_left_iff, List.forall₂_same]
      exact fun entry member => ⟨rfl, ih entry member (distinct.2 entry member)⟩
  | @choice key name rest is_call all ih =>
    have inside : ∀ item ∈ rest, item.DistinctKeys := by
      intro item member
      have argument := List.mem_cons_of_mem (Value.string name) member
      exact Value.distinctKeys_of_within
        (.child List.mem_cons_self (.item argument (.self item))) distinct
    have others : List.Forall₂ (Written config results) (rest.map (substitute results)) rest := by
      rw [List.forall₂_map_left_iff, List.forall₂_same]
      exact fun item member => ih item member (inside item member)
    have node : substitute results (.ofCall key (.list (.string name :: rest))) =
        .ofCall key
          (.list (substitute results (.string name) :: rest.map (substitute results))) := by
      unfold Value.ofCall
      rw [substitute_map rfl, List.map_singleton, substitute_list, List.map_cons]
    rw [node]
    cases known : results.get? name with
    | some truth =>
      obtain ⟨length, pairs⟩ := List.forall₂_iff_zip.1 others
      rw [show substitute results (.string name) = .bool truth by rw [substitute, known]]
      exact .choice is_call known length fun _ _ => pairs
    | none =>
      have same : Written config results (substitute results (.string name)) (.string name) := by
        rw [show substitute results (.string name) = .string name by rw [substitute, known]]
        exact .scalar trivial
      refine .of_entries distinct.1 ?_ fun call found => ?_
      · exact .cons ⟨rfl, written_list_iff.2 ⟨_, rfl, .cons same others⟩⟩ .nil
      · cases is_call.symm.trans found
        rintro (⟨_, _, _, chosen, isSome⟩ | ⟨_, referred, _⟩)
        · cases chosen
          rw [known] at isSome
          cases isSome
        · cases referred

end Confined

end Condition

end CloudTemplate
