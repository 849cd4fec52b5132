import CloudTemplate.Proofs.Requests
import CloudTemplate.Rehearsal

/-!
# The order of the built-in functions

Each built-in function has its `Manner`: which values it declares, which further one it may choose,
and which answers settle its result. Most of them declare the items of their argument list and
nothing else. Five take the whole argument, one of these only when it is no list; a choice declares
its condition alone and then chooses a branch; `FindInMap` chooses the entry that it finds; and
conjunctions and disjunctions are settled by an operand.

Every function asks in its manner (`Manner.governs`), so all of its runs are in order
(`exchanges_orderly`).
-/

set_option autoImplicit false

namespace CloudTemplate

/-! ## Manners -/

/-- The items of a list of arguments. -/
def Value.listed (value : Value) : List Value :=
  value.asList?.getD []

/-- How a function asks. -/
structure Manner where
  /-- The values that it declares. -/
  declared : Value → List Value
  /-- The value that it may ask for besides, by the answers to the declared ones. -/
  further : Invocation → List Value → Option Value := fun _ _ => none
  /-- The answers that settle its result. -/
  settles : Value → Bool := fun _ => false

/-- The truth of the condition of a choice, where a text stands for the parameter of that name. -/
def Logic.truth? (call : Invocation) : Value → Option Bool
  | .string name => (call.scope.parameters.get? name).bind Value.toBool?
  | condition => condition.toBool?

/-- The branch that a condition selects. -/
def Logic.branch? (call : Invocation) : List Value → Option Value
  | [condition] =>
    match call.arguments with
    | .list [_, onTrue, onFalse] =>
      (truth? call condition).map fun truth => if truth then onTrue else onFalse
    | _ => none
  | _ => none

/-- An operand that has the decisive truth, or no truth at all. -/
def Logic.decides (decisive : Bool) (operand : Value) : Bool :=
  operand.toBool?.all fun truth => truth = decisive

/-- The entry that the names of a table and of its two keys lead to. -/
def Mapping.found? (call : Invocation) : List Value → Option Value
  | [.string table, outer, inner] => entry? call.scope.template table outer.text inner.text
  | _ => none

/-- The manner of the function with this name. -/
def Manner.of : (name : String) → Manner
  | "Calculate" | "Str" | "Base64Encode" | "Base64Decode" => { declared := fun whole => [whole] }
  | "Sub" =>
    { declared := fun
        | .list items => items
        | whole => [whole] }
  | "If" => { declared := fun arguments => arguments.listed.take 1, further := Logic.branch? }
  | "FindInMap" => { declared := Value.listed, further := Mapping.found? }
  | "And" => { declared := Value.listed, settles := Logic.decides false }
  | "Or" => { declared := Value.listed, settles := Logic.decides true }
  | _ => { declared := Value.listed }

/-! ## Parts that ask for nothing -/

namespace Program.Silent

theorem ofExcept {α : Type} (result : Except Error α) : (Program.ofExcept result).Silent := by
  cases result <;> trivial

theorem compiled (name text : String) : (Program.compiled name text).Silent := by
  intro compiled
  cases compiled <;> trivial

end Program.Silent

namespace Invocation

variable (call : Invocation)

theorem expectText_silent (argument : String) (value : Value) :
    (call.expectText argument value).Silent := by
  cases value <;> trivial

theorem expectList_silent (argument : String) (value : Value) :
    (call.expectList argument value).Silent := by
  cases value <;> trivial

theorem expectMap_silent (argument : String) (value : Value) :
    (call.expectMap argument value).Silent := by
  cases value <;> trivial

end Invocation

/-! ## Arguments -/

namespace Program.Follows

variable {call : Invocation} {further : List Value → Option Value}

section

variable {settles : Value → Bool}

/-- The items of the argument list are declared, as many as there may be. -/
theorem argumentList {next : List Value → Program Value}
    (rest : ∀ items, (next items).Follows call settles further items) :
    (call.argumentList >>= next).Follows call settles further call.arguments.listed := by
  unfold Invocation.argumentList
  cases call.arguments with
  | list items => exact rest items
  | _ => trivial

theorem atLeast {fewest : Nat} {next : List Value → Program Value}
    (rest : ∀ items, (next items).Follows call settles further items) :
    (call.atLeast fewest >>= next).Follows call settles further call.arguments.listed := by
  unfold Invocation.atLeast
  rw [LawfulMonad.bind_assoc]
  refine argumentList fun items => ?_
  split
  · trivial
  · exact rest items

theorem oneArgument {next : Value → Program Value}
    (rest : ∀ first, (next first).Follows call settles further [first]) :
    (call.oneArgument >>= next).Follows call settles further call.arguments.listed := by
  unfold Invocation.oneArgument
  rw [LawfulMonad.bind_assoc]
  refine argumentList fun items => ?_
  match items with
  | [first] => exact rest first
  | [] | _ :: _ :: _ => trivial

theorem twoArguments {next : Value × Value → Program Value}
    (rest : ∀ first second, (next (first, second)).Follows call settles further [first, second]) :
    (call.twoArguments >>= next).Follows call settles further call.arguments.listed := by
  unfold Invocation.twoArguments
  rw [LawfulMonad.bind_assoc]
  refine argumentList fun items => ?_
  match items with
  | [first, second] => exact rest first second
  | [] | [_] | _ :: _ :: _ :: _ => trivial

theorem threeArguments {next : Value × Value × Value → Program Value}
    (rest : ∀ first second third,
      (next (first, second, third)).Follows call settles further [first, second, third]) :
    (call.threeArguments >>= next).Follows call settles further call.arguments.listed := by
  unfold Invocation.threeArguments
  rw [LawfulMonad.bind_assoc]
  refine argumentList fun items => ?_
  match items with
  | [first, second, third] => exact rest first second third
  | [] | [_] | [_, _] | _ :: _ :: _ :: _ :: _ => trivial

end

/-! ### Functions that no answer settles -/

/-- A value that has to be known, in a function that no answer settles. -/
theorem needed {declared : List Value} {value : Value} {next : Value → Program Value}
    (rest : ∀ answer, (next answer).Follows call (fun _ => false)
      (fun answers => further (answer :: answers)) declared) :
    (call.known value next).Follows call (fun _ => false) further (value :: declared) :=
  known fun answer _ => rest answer

/-- All values have to be known. -/
theorem allNeeded {values : List Value} {next : List Value → Program Value}
    (rest : ∀ answers, (next answers).Silent) :
    (call.allKnown values next).Follows call (fun _ => false) further values := by
  induction values generalizing further next with
  | nil => exact silent (rest [])
  | cons value values ih => exact needed fun first => ih fun others => rest (first :: others)

/-- The function of two arguments asks for both of them and then for nothing. -/
theorem bothNeeded {next : Value → Value → Program Value}
    (rest : ∀ first second, (next first second).Silent) :
    (call.twoArguments >>= fun arguments => call.bothKnown arguments next).Follows call
      (fun _ => false) further call.arguments.listed :=
  twoArguments fun _ _ => needed fun first => needed fun second => silent (rest first second)

/-- A value that is looked through for calls is known when there are none. -/
theorem unlessCall {value : Value} {next : Value → Program Value}
    (rest : ∀ answer, (next answer).Silent) :
    (Program.resolved value >>= fun answer => call.unlessCall answer (next answer)).Follows call
      (fun _ => false) further [value] := by
  refine ⟨rfl, fun answer => ?_⟩
  change if call.isCall answer then call.unlessCall answer (next answer) = call.keep
    else Follows call _ _ [] (call.unlessCall answer (next answer))
  unfold Invocation.unlessCall
  split
  · next is_call => exact if_pos (Value.containsCall_of_isCall is_call)
  · split
    · exact silent trivial
    · exact silent (rest answer)

end Program.Follows

/-! ## The functions -/

/-- The function asks in the manner. -/
def Manner.Governs (manner : Manner) (function : Function) : Prop :=
  ∀ call : Invocation, (function call).Follows call manner.settles (manner.further call)
    (manner.declared call.arguments)

open Program

theorem Math.numbers_silent (call : Invocation) (values : List Value) :
    (Math.numbers call values).Silent := by
  induction values with
  | nil => trivial
  | cons value values ih =>
    unfold Math.numbers
    split
    · exact ih.bind fun _ => trivial
    · trivial

theorem Math.finite_silent (call : Invocation) (result : Float) :
    (Math.finite call result).Silent := by
  unfold Math.finite
  split <;> trivial

theorem Math.governs_fold (fewest : Nat) (compute : List Float → Float) :
    Manner.Governs { declared := Value.listed } (Math.fold fewest compute) :=
  fun call => .atLeast fun _ => .allNeeded fun values =>
    (numbers_silent call values).bind fun _ => finite_silent call _

theorem Math.governs_calculate :
    Manner.Governs { declared := fun whole => [whole] } Math.calculate := by
  intro call
  refine .needed fun expression => .silent ?_
  refine (call.expectText_silent "expression" expression).bind fun text => ?_
  split
  · exact finite_silent call _
  · trivial
  · trivial
  · trivial

theorem Math.governs {definition : Definition} (listed : definition ∈ Math.definitions) :
    (Manner.of definition.signature.name).Governs definition.function := by
  revert definition
  simp only [Math.definitions, List.forall_mem_cons]
  exact ⟨governs_fold 2 sum, governs_fold 1 mean, governs_fold 1 greatest, governs_fold 1 least,
    governs_calculate, List.forall_mem_nil _⟩

theorem Logic.shortCircuit_follows (call : Invocation) (decisive : Bool) (operands : List Value) :
    (Logic.shortCircuit call decisive operands).Follows call (decides decisive) (fun _ => none)
      operands := by
  induction operands with
  | nil => rfl
  | cons operand operands ih =>
    refine .known fun answer _ => ?_
    unfold Invocation.expectTruth Value.toBool decides
    cases answer.toBool? with
    | none => trivial
    | some truth =>
      simp only [Option.all_some, decide_eq_true_eq]
      change if truth = decisive then
          (if truth = decisive then pure (.bool decisive) else
            Logic.shortCircuit call decisive operands : Program Value).Silent
        else (if truth = decisive then pure (.bool decisive) else
            Logic.shortCircuit call decisive operands : Program Value).Follows call _ _ operands
      split
      · trivial
      · exact ih

theorem Logic.governs_and :
    Manner.Governs { declared := Value.listed, settles := decides false } Logic.and :=
  fun call => .atLeast fun operands => shortCircuit_follows call false operands

theorem Logic.governs_or :
    Manner.Governs { declared := Value.listed, settles := decides true } Logic.or :=
  fun call => .atLeast fun operands => shortCircuit_follows call true operands

theorem Logic.governs_not : Manner.Governs { declared := Value.listed } Logic.not :=
  fun _ => .oneArgument fun _ => .needed fun _ =>
    .silent ((Silent.ofExcept _).bind fun _ => trivial)

theorem Logic.governs_any : Manner.Governs { declared := Value.listed } Logic.any := by
  intro call
  refine .oneArgument fun list => .needed fun answer => .silent ?_
  refine (call.expectList_silent "values" answer).bind fun items => ?_
  split
  · trivial
  · exact (Silent.ofExcept _).bind fun _ => trivial

theorem Logic.governs_contains : Manner.Governs { declared := Value.listed } Logic.contains :=
  fun call => .bothNeeded fun list _ => (call.expectList_silent "list" list).bind fun _ => trivial

theorem Logic.governs_eachMemberIn :
    Manner.Governs { declared := Value.listed } Logic.eachMemberIn :=
  fun call => .bothNeeded fun members allowed =>
    (call.expectList_silent "members" members).bind fun _ =>
      (call.expectList_silent "universe" allowed).bind fun _ => trivial

theorem Logic.governs_equals : Manner.Governs { declared := Value.listed } Logic.equals :=
  fun _ => .bothNeeded fun _ _ => trivial

/-- A value whose truth is needed has one, or the choice fails. -/
theorem Logic.truth_follows {call : Invocation} {further : List Value → Option Value}
    {value : Value} {next : Option Bool → Program Value}
    (rest : ∀ truth, value.toBool? = some truth →
      (next (some truth)).Follows call (fun _ => false) further []) :
    ((do
      let truth ← Invocation.expectTruth value
      pure (some truth) : Program (Option Bool)) >>= next).Follows call (fun _ => false)
        further [] := by
  unfold Invocation.expectTruth Value.toBool
  cases known : value.toBool? with
  | none => trivial
  | some truth => exact rest truth known

theorem Logic.conditionTruth_follows {call : Invocation} {further : List Value → Option Value}
    {condition : Value} {next : Option Bool → Program Value}
    (rest : ∀ truth, truth? call condition = some truth →
      (next (some truth)).Follows call (fun _ => false) further [])
    (unknown : (next none).Follows call (fun _ => false) further []) :
    (conditionTruth call condition >>= next).Follows call (fun _ => false) further [] := by
  unfold conditionTruth
  cases condition with
  | bool truth => exact rest truth rfl
  | string name =>
    dsimp only [truth?] at rest ⊢
    cases bound : call.scope.parameters.get? name with
    | none => exact unknown
    | some value =>
      rw [bound] at rest
      exact truth_follows rest
  | null | int | float | list | map => exact truth_follows rest

/-- A choice declares its condition, and the condition chooses the branch. -/
theorem Logic.governs_choose :
    Manner.Governs
      { declared := fun arguments => arguments.listed.take 1, further := Logic.branch? }
      Logic.choose := by
  intro call
  unfold Logic.choose Invocation.threeArguments Invocation.argumentList
  cases given : call.arguments with
  | list items =>
    match items with
    | [condition, onTrue, onFalse] =>
      refine .needed fun answer => conditionTruth_follows (fun truth known => .chosen ?_) rfl
      simp only [branch?, given, known, Option.map_some]
    | [] | [_] | [_, _] | _ :: _ :: _ :: _ :: _ => trivial
  | _ => trivial

theorem Logic.governs {definition : Definition} (listed : definition ∈ Logic.definitions) :
    (Manner.of definition.signature.name).Governs definition.function := by
  revert definition
  simp only [Logic.definitions, List.forall_mem_cons]
  exact ⟨governs_and, governs_or, governs_not, governs_any, governs_contains,
    governs_eachMemberIn, governs_equals, governs_choose, List.forall_mem_nil _⟩

theorem Strings.governs_join : Manner.Governs { declared := Value.listed } Strings.join := by
  intro call
  refine .bothNeeded fun delimiter list => ?_
  refine (call.expectList_silent "values" list).bind fun parts => ?_
  split <;> trivial

theorem Strings.governs_split : Manner.Governs { declared := Value.listed } Strings.split :=
  fun call => .bothNeeded fun delimiter _ =>
    (call.expectText_silent "delimiter" delimiter).bind fun _ => trivial

theorem Substitution.finish_silent (call : Invocation) (inline : Entries Value)
    (text : List Char) : Silent (do
      let _ ← Program.compiled call.key tokenPattern
      match substitute call inline (pieces text) with
      | .ok result => pure (.string (String.ofList result))
      | .error line => Program.noting line call.node : Program Value) := by
  refine (Silent.compiled _ _).bind fun _ => ?_
  split <;> trivial

/-- Only the text is declared where there are no inline variables. -/
theorem Substitution.alone_follows (call : Invocation) (text : Value)
    {next : String → Program Value} (silent : ∀ text, (next text).Silent) :
    Follows call (fun _ => false) (fun _ => none) [text]
      (call.known text fun template => call.expectText "template" template >>= next) :=
  .needed fun template => .silent ((call.expectText_silent "template" template).bind silent)

/-- A substitution declares the text and, in a list of two, the inline variables. -/
theorem Substitution.governs_sub :
    Manner.Governs
      { declared := fun
          | .list items => items
          | whole => [whole] }
      Substitution.sub := by
  intro call
  unfold sub arguments
  cases call.arguments with
  | list items =>
    cases items with
    | nil => trivial
    | cons text others =>
      cases others with
      | nil => exact alone_follows call text fun _ => finish_silent call [] _
      | cons inline more =>
        cases more with
        | cons => trivial
        | nil =>
          refine .needed fun template =>
            .bind (call.expectText_silent "template" template) fun text => ?_
          refine .needed fun value => .silent ?_
          exact (call.expectMap_silent "variables" value).bind fun entries =>
            finish_silent call entries _
  | _ => exact alone_follows call _ fun _ => finish_silent call [] _

theorem Strings.indentCount_silent (call : Invocation) (value : Value) :
    (Strings.indentCount call value).Silent := by
  have counted : ∀ count : Int64, Silent
      (if count < 0 then call.refuse (.negativeIndent count) else pure count.toInt.toNat) := by
    intro count
    split <;> trivial
  cases value with
  | int n => exact counted n
  | float x => exact counted (Decimal.truncateToInt64 x)
  | _ => trivial

theorem Strings.governs_indent : Manner.Governs { declared := Value.listed } Strings.indent := by
  intro call
  refine .bothNeeded fun count source => (indentCount_silent call count).bind fun spaces => ?_
  dsimp only
  split <;> trivial

theorem Strings.governs_replace : Manner.Governs { declared := Value.listed } Strings.replace := by
  intro call
  refine .bothNeeded fun replacements source => ?_
  refine (call.expectMap_silent "replacements" replacements).bind fun entries => ?_
  split <;> trivial

theorem Strings.governs_matchPattern :
    Manner.Governs { declared := Value.listed } Strings.matchPattern :=
  fun call => .bothNeeded fun pattern _ =>
    (call.expectText_silent "pattern" pattern).bind fun _ =>
      (Silent.compiled _ _).bind fun _ => trivial

theorem Strings.governs_base64Decode :
    Manner.Governs { declared := fun whole => [whole] } Strings.base64Decode := by
  intro call
  refine .needed fun value =>
    .silent ((call.expectText_silent "value" value).bind fun encoded => ?_)
  split <;> trivial

theorem Strings.governs {definition : Definition} (listed : definition ∈ Strings.definitions) :
    (Manner.of definition.signature.name).Governs definition.function := by
  have base64Encode : Manner.Governs { declared := fun whole => [whole] } Strings.base64Encode :=
    fun _ => .unlessCall fun _ => trivial
  have str : Manner.Governs { declared := fun whole => [whole] } Strings.str :=
    fun _ => .unlessCall fun _ => trivial
  revert definition
  simp only [Strings.definitions, List.forall_mem_cons]
  exact ⟨governs_join, governs_split, Substitution.governs_sub, base64Encode,
    governs_base64Decode, str, governs_indent, governs_replace, governs_matchPattern,
    List.forall_mem_nil _⟩

theorem Collection.toIndex_silent (call : Invocation) (value : Value) :
    (Collection.toIndex call value).Silent := by
  unfold Collection.toIndex
  split
  · trivial
  · trivial
  · split <;> trivial
  · trivial

/-- The index is read before the list is resolved. -/
theorem Collection.governs_select :
    Manner.Governs { declared := Value.listed } Collection.select := by
  intro call
  refine .twoArguments fun index list => .needed fun answer => ?_
  refine .bind (toIndex_silent call answer) fun place => .needed fun value => .silent ?_
  refine (call.expectList_silent "list" value).bind fun items => ?_
  split <;> trivial

theorem Collection.governs_index :
    Manner.Governs { declared := Value.listed } Collection.index := by
  intro call
  refine .bothNeeded fun list value => (call.expectList_silent "list" list).bind fun items => ?_
  split <;> trivial

theorem Collection.governs_length :
    Manner.Governs { declared := Value.listed } Collection.length := by
  intro call
  refine .oneArgument fun argument => .needed fun value => .silent ?_
  cases value <;> trivial

theorem Collection.appendLists_follows (call : Invocation) (collected arguments : List Value) :
    (Collection.appendLists call collected arguments).Follows call (fun _ => false) (fun _ => none)
      arguments := by
  induction arguments generalizing collected with
  | nil => rfl
  | cons argument arguments ih =>
    refine .needed fun value => .bind (call.expectList_silent "element" value) fun items => ?_
    exact ih (collected ++ items)

theorem Collection.project_silent (call : Invocation) (key : String) (items : List Value) :
    (Collection.project call key items).Silent := by
  induction items with
  | nil => trivial
  | cons item items ih =>
    cases item with
    | map entries => exact ih.bind fun _ => trivial
    | _ => trivial

theorem Collection.governs_selectMapList :
    Manner.Governs { declared := Value.listed } Collection.selectMapList :=
  fun call => .bothNeeded fun key maps =>
    (call.expectText_silent "key" key).bind fun _ =>
      (call.expectList_silent "maps" maps).bind fun _ =>
        (project_silent call _ _).bind fun _ => trivial

theorem Collection.governs {definition : Definition}
    (listed : definition ∈ Collection.definitions) :
    (Manner.of definition.signature.name).Governs definition.function := by
  have listMerge : Manner.Governs { declared := Value.listed } Collection.listMerge :=
    fun call => .argumentList fun items => appendLists_follows call [] items
  revert definition
  simp only [Collection.definitions, List.forall_mem_cons]
  exact ⟨governs_select, governs_index, governs_length, listMerge, governs_selectMapList,
    List.forall_mem_nil _⟩

theorem Mapping.entry_follows {call : Invocation} {settles : Value → Bool}
    {further : List Value → Option Value} (line : String) :
    Follows call settles further [] (match further [] with
      | some value => Program.resolved value
      | none => Program.noting line call.node) := by
  cases found : further [] with
  | some value => exact .chosen found
  | none => rfl

/-- `FindInMap` declares its three names, and the names choose the entry. -/
theorem Mapping.governs_findInMap :
    Manner.Governs { declared := Value.listed, further := Mapping.found? } Mapping.findInMap := by
  intro call
  unfold Mapping.findInMap
  refine .threeArguments fun first second third => ?_
  refine .needed fun table => .needed fun outer => .needed fun inner => ?_
  cases table with
  | string name => exact entry_follows _
  | _ => trivial

theorem Mapping.governs_getJsonValue :
    Manner.Governs { declared := Value.listed } Mapping.getJsonValue := by
  intro call
  refine .bothNeeded fun key document => (call.expectText_silent "key" key).bind fun name => ?_
  refine (call.expectText_silent "json" document).bind fun text => ?_
  split
  · trivial
  · split <;> trivial
  · trivial

theorem Mapping.governs {definition : Definition} (listed : definition ∈ Mapping.definitions) :
    (Manner.of definition.signature.name).Governs definition.function := by
  have mergeMapToList : Manner.Governs { declared := Value.listed } Mapping.mergeMapToList :=
    fun call => .argumentList fun items => .allNeeded fun lists => by split <;> trivial
  revert definition
  simp only [Mapping.definitions, List.forall_mem_cons]
  exact ⟨governs_findInMap, governs_getJsonValue, mergeMapToList, List.forall_mem_nil _⟩

/-! ## All functions -/

/-- **Every standard function asks in the manner of its name.** -/
theorem Manner.governs {name : String} {function : Function}
    (found : Registry.standard.function? name = some function) :
    (Manner.of name).Governs function := by
  obtain ⟨category, definition, grouped, rfl, rfl⟩ :=
    Registry.standard_builtIn.exists_definition found
  cases category with
  | math => exact Math.governs grouped
  | logic => exact Logic.governs grouped
  | string => exact Strings.governs grouped
  | collection => exact Collection.governs grouped
  | mapping => exact Mapping.governs grouped

/-- **All runs of standard functions are in order**, however their requests are answered: they go
through the declared values from the first on and perhaps to a chosen one, and end at an error, at
a declared value that is not known yet, and at an answer that settles the result. -/
theorem exchanges_orderly {name : String} {function : Function}
    (found : Registry.standard.function? name = some function) (call : Invocation) {State : Type}
    (handler : Handler State) (state : State) :
    let manner := Manner.of name
    Orderly call manner.settles (manner.further call) (manner.declared call.arguments)
      ((function call).exchanges handler state)
      (((function call).run handler).resultFrom state) :=
  (Manner.governs found call).run handler state

/-- A conjunction of a true operand, a text that is neither true nor false, and a reference. -/
def undecided : Invocation :=
  ⟨"Fn::And", "And", .list [.bool true, .string "maybe", .ofCall "Ref" (.string "X")],
    ⟨Config.standard, [], .null⟩⟩

/-- Nothing is asked for after the operand without a truth. -/
theorem exchanges_orderly_undecided :
    let manner := Manner.of "And"
    let exchanges := (Logic.and undecided).exchanges (Rehearsal.handler 0) {}
    Registry.standard.function? "And" = some Logic.and ∧
      exchanges.map Prod.fst = [.bool true, .string "maybe"] ∧
      Orderly undecided manner.settles (manner.further undecided)
        (manner.declared undecided.arguments) exchanges
        (((Logic.and undecided).run (Rehearsal.handler 0)).resultFrom {}) :=
  ⟨rfl, rfl, exchanges_orderly rfl undecided (Rehearsal.handler 0) {}⟩

end CloudTemplate
