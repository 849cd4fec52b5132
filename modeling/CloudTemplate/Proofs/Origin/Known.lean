import CloudTemplate.Proofs.Ensures
import CloudTemplate.Proofs.Shape

/-!
# Values with known calls

Let some calls be known. A value has no others when all calls that occur within it are among them
(`Value.CallsFrom`), also those inside the arguments of a call. Values that are resolved must
moreover call no function that reads documents, because a document may hold what looks like a call
(`Value.Askable`).

Which values may be asked for is left open. A function keeps calls if, asking for such values only
and given values with known calls, it ends with a value with known calls (`Function.KeepsCalls`). It
may give its own call back then. Most functions do so only after they were given a value with a call
in it (`Function.DefersForCalls`). The parts that functions are made of do the same.

When the calls of a value can be taken care of one by one, those of the result can: what holds of
one step of resolution holds of all (`Resolver.Closed.outcome`).
-/

set_option autoImplicit false

namespace CloudTemplate

/-- The node of a call. -/
def Call.node (config : Config) : Call → Value
  | .reference target => .ofCall config.referenceKey target
  | .function key _ arguments => .ofCall key arguments

/-- The call does not take a value out of a document. -/
def Call.ReadsNoDocument : Call → Prop
  | .reference _ => True
  | .function _ name _ => name ≠ "GetJsonValue"

/-- A call is the node of the call that it is. -/
theorem Value.eq_node_of_call? {config : Config} {value : Value} {call : Call}
    (is_call : value.call? config = some call) : value = call.node config := by
  cases call with
  | function key name arguments => exact eq_ofCall_of_call? is_call
  | reference target =>
    unfold call? at is_call
    split at is_call
    · next key argument =>
      split at is_call
      · next same =>
        cases is_call
        rw [same]
        rfl
      · obtain ⟨_, _, other⟩ := Option.map_eq_some_iff.1 is_call
        cases other
    · cases is_call

/-- The value is well formed, and all of its calls are known. -/
structure Value.CallsFrom (config : Config) (known : Value → Prop) (value : Value) : Prop where
  distinct : value.DistinctKeys
  calls : value.EveryCall config fun call => known (call.node config)

/-- The value has known calls, and none of them reads a document. -/
structure Value.Askable (config : Config) (known : Value → Prop) (value : Value) : Prop
    extends value.CallsFrom config known where
  plain : value.EveryCall config Call.ReadsNoDocument

namespace Value.CallsFrom

variable {config : Config} {known : Value → Prop}

theorem within {inner outer : Value} (all : outer.CallsFrom config known)
    (inside : inner.Within outer) : inner.CallsFrom config known :=
  ⟨distinctKeys_of_within inside all.distinct, all.calls.within inside⟩

/-- A value is as described if everything in it is known. -/
theorem of_forall_within {value : Value} (distinct : value.DistinctKeys)
    (all : ∀ inner : Value, inner.Within value → known inner) : value.CallsFrom config known := by
  refine ⟨distinct, fun inner inside call is_call => ?_⟩
  have here := all inner inside
  rw [eq_node_of_call? is_call] at here
  exact here

/-- Every call in the value is known. -/
theorem known_of_isCall {value inner : Value} (all : value.CallsFrom config known)
    (inside : inner.Within value) (is_call : inner.isCall config = true) : known inner := by
  obtain ⟨call, same⟩ := Option.isSome_iff_exists.1 is_call
  rw [eq_node_of_call? same]
  exact all.calls inner inside call same

theorem of_isScalar {value : Value} (scalar : value.IsScalar) : value.CallsFrom config known := by
  refine ⟨?_, .of_isScalar scalar⟩
  cases value with
  | list items => exact scalar.elim
  | map entries => exact scalar.elim
  | _ => trivial

theorem list {items : List Value} (all : ∀ item ∈ items, item.CallsFrom config known) :
    (Value.list items).CallsFrom config known := by
  refine ⟨?_, .list fun item member => (all item member).calls⟩
  rw [DistinctKeys, distinctKeysOfItems_iff]
  exact fun item member => (all item member).distinct

theorem items {items : List Value} (all : (Value.list items).CallsFrom config known) :
    ∀ item ∈ items, item.CallsFrom config known :=
  fun _ member => all.within (.item member (.self _))

/-- A map that is no call has the calls of its children. -/
theorem map {entries : Entries Value} (data : (Value.map entries).isCall config = false)
    (distinct : entries.Distinct) (all : ∀ entry ∈ entries, entry.2.CallsFrom config known) :
    (Value.map entries).CallsFrom config known := by
  refine ⟨?_, .map (fun call is_call => ?_) fun entry member => (all entry member).calls⟩
  · rw [DistinctKeys, distinctKeysOfEntries_iff]
    exact ⟨distinct, fun entry member => (all entry member).distinct⟩
  · rw [isCall_eq_false_iff.1 data] at is_call
    cases is_call

theorem children {entries : Entries Value} (all : (Value.map entries).CallsFrom config known) :
    ∀ entry ∈ entries, entry.2.CallsFrom config known :=
  fun _ member => all.within (.child member (.self _))

end Value.CallsFrom

theorem Value.Askable.within {config : Config} {known : Value → Prop} {inner outer : Value}
    (all : outer.Askable config known) (inside : inner.Within outer) :
    inner.Askable config known :=
  ⟨all.toCallsFrom.within inside, all.plain.within inside⟩

/-! ## Functions that keep calls -/

namespace Invocation

/-- The invocation may ask for its arguments, and for the items of the lists for which it may ask.
Its own call is known if an answer has a call in it. -/
structure Supplied (call : Invocation) (asked known : Value → Prop) : Prop where
  arguments : asked call.arguments
  items : ∀ items : List Value, asked (.list items) → ∀ item ∈ items, asked item
  deferred : ∀ answer : Value, answer.CallsFrom call.scope.config known →
    answer.containsCall call.scope.config = true → call.node.CallsFrom call.scope.config known

/-- The invocation may also ask for the entries of tables, and its own call is known anyway. -/
structure Sourced (call : Invocation) (asked known : Value → Prop) : Prop where
  arguments : asked call.arguments
  items : ∀ items : List Value, asked (.list items) → ∀ item ∈ items, asked item
  node : call.node.CallsFrom call.scope.config known
  entries : ∀ table outer inner entry,
    Mapping.entry? call.scope.template table outer inner = some entry → asked entry

theorem Sourced.supplied {call : Invocation} {asked known : Value → Prop}
    (sourced : call.Sourced asked known) : call.Supplied asked known :=
  ⟨sourced.arguments, sourced.items, fun _ _ _ => sourced.node⟩

/-- The program ensures what `post` says, if it is given values with known calls for those that it
asks for. -/
abbrev Keeps {α : Type} (call : Invocation) (asked known : Value → Prop) (post : α → Prop)
    (program : Program α) : Prop :=
  program.Ensures asked (Value.CallsFrom call.scope.config known) post

end Invocation

/-- The function ends with a value whose calls are known, if its own call is. -/
def Function.KeepsCalls (function : Function) : Prop :=
  ∀ (call : Invocation) (asked known : Value → Prop), call.Sourced asked known →
    call.Keeps asked known (Value.CallsFrom call.scope.config known) (function call)

/-- The function ends with a value whose calls are known. It gives its own call back only if it was
given a call. -/
def Function.DefersForCalls (function : Function) : Prop :=
  ∀ (call : Invocation) (asked known : Value → Prop), call.Supplied asked known →
    call.Keeps asked known (Value.CallsFrom call.scope.config known) (function call)

theorem Function.DefersForCalls.keepsCalls {function : Function}
    (keeps : function.DefersForCalls) : function.KeepsCalls :=
  fun call asked known sourced => keeps call asked known sourced.supplied

namespace Invocation

variable {call : Invocation} {asked known : Value → Prop} (supplied : call.Supplied asked known)
include supplied

/-! ### Arguments -/

theorem keeps_argumentList : call.Keeps asked known
    (fun arguments => ∀ argument ∈ arguments, asked argument) call.argumentList := by
  have all := supplied.arguments
  unfold argumentList
  cases listed : call.arguments with
  | list arguments =>
    rw [listed] at all
    exact supplied.items arguments all
  | _ => trivial

theorem keeps_atLeast (least : Nat) : call.Keeps asked known
    (fun arguments => ∀ argument ∈ arguments, asked argument) (call.atLeast least) := by
  refine (keeps_argumentList supplied).bind fun arguments all => ?_
  split
  · trivial
  · exact all

theorem keeps_oneArgument : call.Keeps asked known asked call.oneArgument := by
  refine (keeps_argumentList supplied).bind fun arguments all => ?_
  match arguments, all with
  | [first], all => exact all first (by simp)
  | [], _ | _ :: _ :: _, _ => trivial

theorem keeps_twoArguments : call.Keeps asked known
    (fun arguments => asked arguments.1 ∧ asked arguments.2) call.twoArguments := by
  refine (keeps_argumentList supplied).bind fun arguments all => ?_
  match arguments, all with
  | [first, second], all => exact ⟨all first (by simp), all second (by simp)⟩
  | [], _ | [_], _ | _ :: _ :: _ :: _, _ => trivial

theorem keeps_threeArguments : call.Keeps asked known
    (fun arguments => asked arguments.1 ∧ asked arguments.2.1 ∧ asked arguments.2.2)
    call.threeArguments := by
  refine (keeps_argumentList supplied).bind fun arguments all => ?_
  match arguments, all with
  | [first, second, third], all =>
    exact ⟨all first (by simp), all second (by simp), all third (by simp)⟩
  | [], _ | [_], _ | [_, _], _ | _ :: _ :: _ :: _ :: _, _ => trivial

/-! ### Answers -/

/-- The call is given back for an answer that has a call in it. -/
theorem keeps_keep {answer : Value} (all : answer.CallsFrom call.scope.config known)
    (unknown : call.containsCall answer = true) :
    call.Keeps asked known (Value.CallsFrom call.scope.config known) call.keep :=
  supplied.deferred answer all unknown

theorem keeps_known {value : Value} (permitted : asked value) {next : Value → Program Value}
    (rest : ∀ answer, answer.CallsFrom call.scope.config known → call.isCall answer = false →
      call.Keeps asked known (Value.CallsFrom call.scope.config known) (next answer)) :
    call.Keeps asked known (Value.CallsFrom call.scope.config known) (call.known value next) := by
  refine (Program.Ensures.resolved permitted).bind fun answer all => ?_
  cases data : call.isCall answer with
  | true => exact keeps_keep supplied all (Value.containsCall_of_isCall data)
  | false => exact rest answer all data

theorem keeps_bothKnown {arguments : Value × Value}
    (permitted : asked arguments.1 ∧ asked arguments.2) {next : Value → Value → Program Value}
    (rest : ∀ first second, first.CallsFrom call.scope.config known →
      second.CallsFrom call.scope.config known →
      call.Keeps asked known (Value.CallsFrom call.scope.config known) (next first second)) :
    call.Keeps asked known (Value.CallsFrom call.scope.config known)
      (call.bothKnown arguments next) :=
  keeps_known supplied permitted.1 fun first one _ =>
    keeps_known supplied permitted.2 fun second other _ => rest first second one other

theorem keeps_allKnown {values : List Value} (permitted : ∀ value ∈ values, asked value)
    {next : List Value → Program Value}
    (rest : ∀ answers, (∀ answer ∈ answers, answer.CallsFrom call.scope.config known) →
      call.Keeps asked known (Value.CallsFrom call.scope.config known) (next answers)) :
    call.Keeps asked known (Value.CallsFrom call.scope.config known)
      (call.allKnown values next) := by
  induction values generalizing next with
  | nil => exact rest [] (List.forall_mem_nil _)
  | cons value values ih =>
    obtain ⟨here, others⟩ := List.forall_mem_cons.1 permitted
    refine keeps_known supplied here fun answer all _ => ?_
    exact ih others fun answers further => rest _ (List.forall_mem_cons.2 ⟨all, further⟩)

end Invocation

namespace Invocation

variable (call : Invocation) (asked known : Value → Prop)

/-! ### Expectations -/

theorem keeps_expectText (argument : String) (value : Value) :
    call.Keeps asked known (fun _ => True) (call.expectText argument value) := by
  cases value <;> trivial

theorem keeps_expectList (argument : String) {value : Value}
    (all : value.CallsFrom call.scope.config known) : call.Keeps asked known
    (fun items => ∀ item ∈ items, item.CallsFrom call.scope.config known)
    (call.expectList argument value) := by
  cases value with
  | list items => exact all.items
  | _ => trivial

theorem keeps_expectMap (argument : String) {value : Value}
    (all : value.CallsFrom call.scope.config known) : call.Keeps asked known
    (fun entries => ∀ entry ∈ entries, entry.2.CallsFrom call.scope.config known)
    (call.expectMap argument value) := by
  cases value with
  | map entries => exact all.children
  | _ => trivial

theorem keeps_expectTruth (value : Value) :
    call.Keeps asked known (fun _ => True) (expectTruth value) :=
  .ofExcept fun _ _ => trivial

theorem keeps_compiled (text : String) :
    call.Keeps asked known (fun _ => True) (Program.compiled call.key text) := by
  intro compiled
  cases compiled <;> trivial

/-- A scalar has no calls. -/
theorem keeps_scalar {value : Value} (scalar : value.IsScalar) :
    call.Keeps asked known (Value.CallsFrom call.scope.config known) (pure value) :=
  Value.CallsFrom.of_isScalar scalar

end Invocation

/-! ## Resolution that keeps calls -/

namespace Resolver

/-- The values for which is `asked` are well formed, with all that occurs within them, and a call
among them resolves to a value whose calls are `known` if the values for which it asks do. -/
structure Closed (registry : Registry) (scope : Scope) (asked known : Value → Prop) : Prop where
  distinct : ∀ value, asked value → value.DistinctKeys
  within : ∀ inner outer : Value, asked outer → inner.Within outer → asked inner
  reference : ∀ value target, asked value → value.call? scope.config = some (.reference target) →
    (Reference.outcome scope value target).CallsFrom scope.config known
  unknown : ∀ value key name arguments, asked value →
    value.call? scope.config = some (.function key name arguments) →
    registry.function? name = none → value.CallsFrom scope.config known
  function : ∀ value key name arguments function, asked value →
    value.call? scope.config = some (.function key name arguments) →
    registry.function? name = some function →
    Invocation.Keeps ⟨key, name, arguments, scope⟩ asked known
      (Value.CallsFrom scope.config known) (function ⟨key, name, arguments, scope⟩)

/-- **What values resolve to has known calls** if each call among them keeps to that. A list and a
map keep it because a map keeps its keys. -/
theorem Closed.outcome {registry : Registry} {scope : Scope} {asked known : Value → Prop}
    (closed : Closed registry scope asked known) {levels : Nat} {value result : Value}
    (permitted : asked value) (found : outcome registry scope levels value = .ok result) :
    result.CallsFrom scope.config known := by
  induction levels generalizing value result with
  | zero => cases found
  | succ levels ih =>
    cases is_call : value.call? scope.config with
    | none =>
      have data := Value.isCall_eq_false_iff.2 is_call
      have distinct := closed.distinct value permitted
      cases value with
      | list items =>
        obtain ⟨results, rfl, all⟩ := outcome_list_eq_ok_iff.1 found
        refine .list (forall_mem_of_forall₂ all fun item member result answered => ?_)
        exact ih (closed.within _ _ permitted (.item member (.self item))) answered
      | map entries =>
        obtain ⟨results, rfl, all⟩ := (outcome_map_eq_ok_iff data).1 found
        rw [Value.isCall_eq_of_keys_eq (EntryRel.keys_eq all)] at data
        have once : Entries.Distinct results := EntryRel.distinct all distinct.1
        refine .map data once (forall_mem_of_forall₂ all fun entry member result answered => ?_)
        exact ih (closed.within _ _ permitted (.child member (.self entry.2))) answered.2
      | _ =>
        cases found
        exact .of_isScalar trivial
    | some call =>
      cases call with
      | reference target =>
        rw [outcome_reference levels is_call] at found
        cases found
        exact closed.reference value target permitted is_call
      | function key name arguments =>
        cases registered : registry.function? name with
        | none =>
          rw [outcome_unknown levels is_call registered] at found
          cases found
          rw [← Value.eq_ofCall_of_call? is_call]
          exact closed.unknown value key name arguments permitted is_call registered
        | some function =>
          rw [outcome_function levels is_call registered] at found
          have keeps :=
            closed.function value key name arguments function permitted is_call registered
          exact keeps.outcome (fun inner permitted result answered => ih permitted answered) found

end Resolver

end CloudTemplate
