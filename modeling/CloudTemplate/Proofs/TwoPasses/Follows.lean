import CloudTemplate.Proofs.Shape

/-!
# A first and a later pass

A template may be resolved twice, the second time with more parameters. A value that the first
pass left *becomes* another one when the later pass resolves it to that (`Becomes`); what the first
pass has settled becomes itself.

Two programs follow each other (`Follows`) when the second may be carried out in the later pass
where the first was carried out before: they ask for the same values, and if the answers of the
first become the answers of the second, then so do their results. The first may at any point give
up and keep its call, because the later pass resolves a kept call from the start. Errors in one of
the passes leave nothing to compare.
-/

set_option autoImplicit false

namespace CloudTemplate

/-- The second parameters have all values that the first have, and maybe more. -/
def Parameters.Extends (fewer more : Parameters) : Prop :=
  ∀ name value, Entries.get? fewer name = some value → Entries.get? more name = some value

/-- The scope with other parameters. -/
def Scope.withParameters (scope : Scope) (parameters : Parameters) : Scope :=
  { scope with parameters }

/-- The invocation with other parameters. -/
def Invocation.withParameters (call : Invocation) (parameters : Parameters) : Invocation :=
  { call with scope := call.scope.withParameters parameters }

/-! ## What becomes of a value -/

/-- The value is well formed, and the later pass resolves it to `last`. -/
structure Becomes (registry : Registry) (later : Scope) (value last : Value) : Prop where
  distinct : value.DistinctKeys
  resolves : Resolver.Resolves registry later value last

namespace Becomes

open Resolver

variable {registry : Registry} {later : Scope}

theorem scalar {value : Value} (scalar : value.IsScalar) : Becomes registry later value value := by
  refine ⟨?_, 1, outcome_of_isScalar scalar 0⟩
  cases value with
  | list items => exact scalar.elim
  | map entries => exact scalar.elim
  | _ => trivial

theorem bool (truth : Bool) : Becomes registry later (.bool truth) (.bool truth) :=
  scalar trivial

theorem eq_of_isScalar {value last : Value} (becomes : Becomes registry later value last)
    (scalar : value.IsScalar) : last = value :=
  becomes.resolves.eq_of_isScalar scalar

/-- What has no calls any more stays as it is. -/
theorem eq_of_containsCall_eq_false (ignores : registry.IgnoresDepth) {value last : Value}
    (becomes : Becomes registry later value last)
    (plain : value.containsCall later.config = false) : last = value :=
  becomes.resolves.unique ignores (resolves_of_containsCall_eq_false plain)

/-- A list becomes the list of what its items become. -/
theorem list_iff (ignores : registry.IgnoresDepth) {items : List Value} {last : Value} :
    Becomes registry later (.list items) last ↔
      ∃ lasts, last = .list lasts ∧ List.Forall₂ (Becomes registry later) items lasts := by
  constructor
  · rintro ⟨distinct, resolves⟩
    rw [Value.DistinctKeys, Value.distinctKeysOfItems_iff] at distinct
    obtain ⟨lasts, rfl, all⟩ := (resolves_list_iff ignores).1 resolves
    have both := (List.forall₂_and_left _ _).2 ⟨distinct, all⟩
    refine ⟨lasts, rfl, both.imp ?_⟩
    rintro item last ⟨distinct, resolves⟩
    exact ⟨distinct, resolves⟩
  · rintro ⟨lasts, rfl, all⟩
    have both : List.Forall₂ (fun item last =>
        item.DistinctKeys ∧ Resolves registry later item last) items lasts :=
      all.imp fun _ _ becomes => ⟨becomes.distinct, becomes.resolves⟩
    obtain ⟨distinct, resolve⟩ := (List.forall₂_and_left _ _).1 both
    refine ⟨?_, (resolves_list_iff ignores).2 ⟨lasts, rfl, resolve⟩⟩
    rw [Value.DistinctKeys, Value.distinctKeysOfItems_iff]
    exact distinct

/-- A map that is no call becomes the map of what its children become. -/
theorem map_iff (ignores : registry.IgnoresDepth) {entries : Entries Value} {last : Value}
    (data : (Value.map entries).isCall later.config = false) :
    Becomes registry later (.map entries) last ↔
      ∃ lasts, last = .map lasts ∧ entries.Distinct ∧
        List.Forall₂ (EntryRel (Becomes registry later)) entries lasts := by
  constructor
  · rintro ⟨distinct, resolves⟩
    rw [Value.DistinctKeys, Value.distinctKeysOfEntries_iff] at distinct
    obtain ⟨lasts, rfl, all⟩ := (resolves_map_iff ignores data).1 resolves
    have both := (List.forall₂_and_left _ _).2 ⟨distinct.2, all⟩
    refine ⟨lasts, rfl, distinct.1, both.imp ?_⟩
    rintro entry last ⟨distinct, same, resolves⟩
    exact ⟨same, distinct, resolves⟩
  · rintro ⟨lasts, rfl, distinct, all⟩
    have both : List.Forall₂ (fun entry last =>
        entry.2.DistinctKeys ∧ EntryRel (Resolves registry later) entry last) entries lasts :=
      all.imp fun _ _ becomes => ⟨becomes.2.distinct, becomes.1, becomes.2.resolves⟩
    obtain ⟨children, resolve⟩ := (List.forall₂_and_left _ _).1 both
    refine ⟨?_, (resolves_map_iff ignores data).2 ⟨lasts, rfl, resolve⟩⟩
    rw [Value.DistinctKeys, Value.distinctKeysOfEntries_iff]
    exact ⟨distinct, children⟩

/-- What is no call becomes no call. -/
theorem isCall_eq_false (ignores : registry.IgnoresDepth) {value last : Value}
    (becomes : Becomes registry later value last) (data : value.isCall later.config = false) :
    last.isCall later.config = false := by
  cases value with
  | list items =>
    obtain ⟨lasts, rfl, -⟩ := (list_iff ignores).1 becomes
    rfl
  | map entries =>
    obtain ⟨lasts, rfl, -, all⟩ := (map_iff ignores data).1 becomes
    rw [← Value.isCall_eq_of_keys_eq (EntryRel.keys_eq all)]
    exact data
  | _ =>
    rw [becomes.eq_of_isScalar trivial]
    exact data

end Becomes

/-! ## Programs in two passes -/

/-- The second program may be carried out in the later pass where the first was carried out before.
`becomes` tells what becomes of an answer, and only values that are `asked` may be requested. -/
inductive Follows (becomes : Value → Value → Prop) (asked : Value → Prop) (node : Value) :
    Program Value → Program Value → Prop where
  /-- The first pass keeps the call. -/
  | kept (after : Program Value) : Follows becomes asked node (.done node) after
  | done {value last : Value} (settled : becomes value last) :
      Follows becomes asked node (.done value) (.done last)
  | failed (error : Error) (after : Program Value) : Follows becomes asked node (.fail error) after
  | failedLater (first : Program Value) (error : Error) :
      Follows becomes asked node first (.fail error)
  | resolve {value : Value} {next after : Value → Program Value} (permitted : asked value)
      (rest : ∀ answer last, becomes answer last →
        Follows becomes asked node (next answer) (after last)) :
      Follows becomes asked node (.resolve value next) (.resolve value after)
  | compile {text : String} {next after : Except Pattern.Fault Pattern → Program Value}
      (rest : ∀ compiled, Follows becomes asked node (next compiled) (after compiled)) :
      Follows becomes asked node (.compile text next) (.compile text after)
  | note {line : String} {first after : Program Value}
      (rest : Follows becomes asked node first after) :
      Follows becomes asked node (.note line first) after

/-- **What follows each other has results that follow each other**: the first pass keeps the call,
or its result becomes the result of the later pass. -/
theorem Follows.outcome {becomes : Value → Value → Prop} {asked : Value → Prop} {node : Value}
    {early late : Value → Except Error Value}
    (answers : ∀ value, asked value → ∀ answer last, early value = .ok answer →
      late value = .ok last → becomes answer last)
    {first after : Program Value} (follows : Follows becomes asked node first after)
    {result last : Value} (found : first.outcome early = .ok result)
    (again : after.outcome late = .ok last) : result = node ∨ becomes result last := by
  induction follows with
  | kept after =>
    cases found
    exact .inl rfl
  | done settled =>
    cases found
    cases again
    exact .inr settled
  | failed error after => cases found
  | failedLater first error => cases again
  | @resolve value next rest permitted _ ih =>
    obtain ⟨answer, one, found⟩ := bind_eq_ok_iff.1 found
    obtain ⟨final, other, again⟩ := bind_eq_ok_iff.1 again
    exact ih answer final (answers value permitted answer final one other) found again
  | compile _ ih => exact ih _ found again
  | note _ ih => exact ih found again

end CloudTemplate
