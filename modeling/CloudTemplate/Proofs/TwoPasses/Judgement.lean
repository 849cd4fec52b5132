import CloudTemplate.Proofs.TwoPasses.Completion

/-!
# Judgements on values that are not known yet

Five functions compare, search or project their two arguments as soon as neither is itself a
call. A reference that is not known yet may still stand deeper inside, and it is compared as it is
written. Whether such an early verdict stays when more parameters are known is not a matter of
course: it does exactly when judging the arguments again, with the values of these parameters in
place, gives the verdict completed with them (`Judgement.resolve_again_iff`). It does when no call
is left in the arguments (`Judgement.settled_of_containsCall_eq_false`), and a projection stays
already when no item is itself a call (`Judgement.settled_selectMapList`).
-/

set_option autoImplicit false

namespace CloudTemplate

/-- The functions that judge two values. -/
inductive Judgement where
  | equals
  | contains
  | eachMemberIn
  | index
  | selectMapList

namespace Judgement

open Resolver

def name : Judgement → String
  | .equals => "Equals"
  | .contains => "Contains"
  | .eachMemberIn => "EachMemberIn"
  | .index => "Index"
  | .selectMapList => "SelectMapList"

def function : Judgement → Function
  | .equals => Logic.equals
  | .contains => Logic.contains
  | .eachMemberIn => Logic.eachMemberIn
  | .index => Collection.index
  | .selectMapList => Collection.selectMapList

/-! ## Verdicts -/

/-- The items of an argument that must be a list. -/
def itemsOf (key argument : String) : Value → Except Error (List Value)
  | .list items => .ok items
  | other => .error (.invalidType key argument "a list" other.typeName)

/-- The text of an argument that must be one. -/
def textOf (key argument : String) : Value → Except Error String
  | .string text => .ok text
  | other => .error (.invalidType key argument "a string" other.typeName)

/-- The place of the first item that equals a value, or -1. -/
def placeOf (items : List Value) (value : Value) : Value :=
  match items.findIdx? fun item => item == value with
  | some place => .int (Int64.ofNat place)
  | none => .int (-1)

/-- The values at a key of maps; nothing where a map does not have the key. -/
def projected (key wanted : String) : List Value → Except Error (List Value)
  | [] => .ok []
  | .map entries :: items => do
    let others ← projected key wanted items
    .ok ((Entries.get? entries wanted).getD .null :: others)
  | other :: _ => .error (.invalidType key "maps" "a list of maps" other.typeName)

/-- What the call with a key decides about two values that are no calls. -/
def verdict : Judgement → (key : String) → (first second : Value) → Except Error Value
  | .equals, _, first, second => .ok (.bool (first == second))
  | .contains, key, first, second => do
    let items ← itemsOf key "list" first
    .ok (.bool (items.any fun item => item == second))
  | .eachMemberIn, key, first, second => do
    let members ← itemsOf key "members" first
    let candidates ← itemsOf key "universe" second
    .ok (.bool (members.all fun member => candidates.any fun candidate => candidate == member))
  | .index, key, first, second => do
    let items ← itemsOf key "list" first
    .ok (placeOf items second)
  | .selectMapList, key, first, second => do
    let wanted ← textOf key "key" first
    let items ← itemsOf key "maps" second
    let values ← projected key wanted items
    .ok (.list values)

/-- Judging is deciding about both arguments when they are known. -/
def judging (judgement : Judgement) (call : Invocation) : Program Value :=
  call.twoArguments >>= fun arguments => call.bothKnown arguments fun first second =>
    Program.ofExcept (judgement.verdict call.key first second)

theorem project_eq (call : Invocation) (wanted : String) (items : List Value) :
    Collection.project call wanted items = Program.ofExcept (projected call.key wanted items) := by
  induction items with
  | nil => rfl
  | cons item items ih =>
    cases item with
    | map entries =>
      unfold Collection.project projected
      rw [ih]
      cases projected call.key wanted items with
      | ok others => rfl
      | error error => rfl
    | _ => rfl

/-- The function is its judgement. -/
theorem function_eq (judgement : Judgement) (call : Invocation) :
    judgement.function call = judgement.judging call := by
  have step : ∀ next : Value → Value → Program Value,
      (∀ first second, next first second =
        Program.ofExcept (judgement.verdict call.key first second)) →
      (call.twoArguments >>= fun arguments => call.bothKnown arguments next) =
        judgement.judging call := by
    intro next same
    obtain rfl : next = _ := funext fun first => funext fun second => same first second
    rfl
  cases judgement with
  | equals => exact step _ fun first second => rfl
  | contains =>
    refine step _ fun first second => ?_
    cases first <;> rfl
  | eachMemberIn =>
    refine step _ fun first second => ?_
    cases first with
    | list members => cases second <;> rfl
    | _ => rfl
  | index =>
    refine step _ fun first second => ?_
    cases first with
    | list items =>
      change (match items.findIdx? fun item => item == second with
        | some place => pure (Value.int (Int64.ofNat place))
        | none => pure (Value.int (-1))) = Program.done (placeOf items second)
      unfold placeOf
      cases items.findIdx? fun item => item == second with
      | some place => rfl
      | none => rfl
    | _ => rfl
  | selectMapList =>
    refine step _ fun first second => ?_
    cases first with
    | string wanted =>
      cases second with
      | list items =>
        change (Collection.project call wanted items >>= fun values => pure (Value.list values)) =
          Program.ofExcept (projected call.key wanted items >>= fun values =>
            .ok (Value.list values))
        rw [project_eq]
        cases projected call.key wanted items with
        | ok values => rfl
        | error error => rfl
      | _ => rfl
    | _ => rfl

theorem standard_function? (judgement : Judgement) :
    Registry.standard.function? judgement.name = some judgement.function := by
  cases judgement <;> rfl

/-! ## Judging in one pass -/

section Pass

variable {registry : Registry} (ignores : registry.IgnoresDepth) {scope : Scope}
include ignores

/-- An argument with references only is completed. The call is kept if that is a call, and goes
on otherwise. -/
theorem outcome_known {levels : Nat} {call : Invocation} {value result : Value}
    {next : Value → Program Value} (refers : value.EveryCall scope.config Call.IsReference)
    (found : (call.known value next).outcome (outcome registry scope levels) = .ok result) :
    call.isCall (value.completed scope) = true ∧ result = call.node ∨
      call.isCall (value.completed scope) = false ∧
        (next (value.completed scope)).outcome (outcome registry scope levels) = .ok result := by
  obtain ⟨answer, answered, found⟩ := bind_eq_ok_iff.1 found
  obtain rfl : answer = value.completed scope :=
    Resolves.unique ignores ⟨levels, answered⟩ (resolves_completed ignores value refers)
  change (if call.isCall (value.completed scope) then call.keep
    else next (value.completed scope)).outcome (outcome registry scope levels) = _ at found
  cases waiting : call.isCall (value.completed scope) with
  | true =>
    rw [if_pos waiting] at found
    cases found
    exact .inl ⟨rfl, rfl⟩
  | false =>
    rw [waiting, if_neg Bool.false_ne_true] at found
    exact .inr ⟨rfl, found⟩

/-- The call is kept when an argument, completed, is a call itself. Otherwise the verdict is on the
completed arguments. -/
theorem resolves_judging (judgement : Judgement) {value result : Value} {key : String}
    {arguments : Value}
    (is_call : value.call? scope.config = some (.function key judgement.name arguments))
    (known : registry.function? judgement.name = some judgement.function)
    (refers : arguments.EveryCall scope.config Call.IsReference)
    (resolves : Resolves registry scope value result) :
    ∃ first second, arguments = .list [first, second] ∧
      (((first.completed scope).isCall scope.config = true ∨
          (second.completed scope).isCall scope.config = true) ∧ result = value ∨
        (first.completed scope).isCall scope.config = false ∧
          (second.completed scope).isCall scope.config = false ∧
          judgement.verdict key (first.completed scope) (second.completed scope) = .ok result) := by
  obtain ⟨levels, found⟩ := (resolves_function_iff is_call known).1 resolves
  obtain rfl := Value.eq_ofCall_of_call? is_call
  rw [function_eq] at found
  match arguments with
  | .list [first, second] =>
    refine ⟨first, second, rfl, ?_⟩
    have here := refers.within (.item List.mem_cons_self (.self first))
    have there := refers.within (.item (List.mem_cons_of_mem _ List.mem_cons_self) (.self second))
    rcases outcome_known ignores here found with ⟨waiting, kept⟩ | ⟨data, rest⟩
    · exact .inl ⟨.inl waiting, kept⟩
    · rcases outcome_known ignores there rest with ⟨waiting, kept⟩ | ⟨other, judged⟩
      · exact .inl ⟨.inr waiting, kept⟩
      · rw [Program.outcome_ofExcept] at judged
        exact .inr ⟨data, other, judged⟩
  | .list [] | .list [_] | .list (_ :: _ :: _ :: _) => cases found
  | .map _ | .null | .bool _ | .int _ | .float _ | .string _ => cases found

end Pass

/-! ## Judging in two passes -/

theorem projected_everyCall {config : Config} {described : Call → Prop} {key wanted : String}
    {items values : List Value} (found : projected key wanted items = .ok values)
    (all : ∀ item ∈ items, item.EveryCall config described) :
    ∀ value ∈ values, value.EveryCall config described := by
  induction items generalizing values with
  | nil =>
    cases found
    exact List.forall_mem_nil _
  | cons item items ih =>
    obtain ⟨here, others⟩ := List.forall_mem_cons.1 all
    cases item with
    | map entries =>
      unfold projected at found
      obtain ⟨further, rest, found⟩ := bind_eq_ok_iff.1 found
      cases found
      refine List.forall_mem_cons.2 ⟨?_, ih rest others⟩
      cases known : Entries.get? entries wanted with
      | none => exact .of_isScalar trivial
      | some child =>
        have member := Entries.mem_of_get?_eq_some known
        exact here.within (.child member (.self child))
    | _ => cases found

/-- Only a projection gives more than a truth or a place. -/
theorem verdict_isScalar {judgement : Judgement} (decides : judgement ≠ .selectMapList)
    {key : String} {first second result : Value}
    (found : judgement.verdict key first second = .ok result) : result.IsScalar := by
  cases judgement with
  | equals =>
    cases found
    trivial
  | contains =>
    obtain ⟨items, _, found⟩ := bind_eq_ok_iff.1 found
    cases found
    trivial
  | eachMemberIn =>
    obtain ⟨members, _, found⟩ := bind_eq_ok_iff.1 found
    obtain ⟨candidates, _, found⟩ := bind_eq_ok_iff.1 found
    cases found
    trivial
  | index =>
    obtain ⟨items, _, found⟩ := bind_eq_ok_iff.1 found
    cases found
    unfold placeOf
    split <;> trivial
  | selectMapList => exact absurd rfl decides

theorem itemsOf_eq_ok_iff {key argument : String} {value : Value} {items : List Value} :
    itemsOf key argument value = .ok items ↔ value = .list items := by
  cases value with
  | list inner => exact ⟨fun same => congrArg Value.list (Except.ok.inj same),
      fun same => congrArg Except.ok (Value.list.inj same)⟩
  | _ => exact ⟨nofun, nofun⟩

/-- A projection is made of the values at a key. -/
theorem verdict_selectMapList {key : String} {first second result : Value}
    (found : selectMapList.verdict key first second = .ok result) :
    ∃ wanted items values, second = .list items ∧ projected key wanted items = .ok values ∧
      result = .list values := by
  obtain ⟨wanted, _, found⟩ := bind_eq_ok_iff.1 found
  obtain ⟨items, listed, found⟩ := bind_eq_ok_iff.1 found
  obtain ⟨values, projects, found⟩ := bind_eq_ok_iff.1 found
  cases found
  exact ⟨wanted, items, values, itemsOf_eq_ok_iff.1 listed, projects, rfl⟩

/-- A verdict has no calls that the arguments do not have. -/
theorem verdict_everyCall (judgement : Judgement) {config : Config} {described : Call → Prop}
    {key : String} {first second result : Value} (all : second.EveryCall config described)
    (found : judgement.verdict key first second = .ok result) :
    result.EveryCall config described := by
  by_cases decides : judgement = .selectMapList
  · subst decides
    obtain ⟨wanted, items, values, rfl, projects, rfl⟩ := verdict_selectMapList found
    exact .list (projected_everyCall projects fun item member =>
      all.within (.item member (.self item)))
  · exact .of_isScalar (verdict_isScalar decides found)

/-- Judging the arguments that have been completed with more gives the verdict on those that have
been completed with less, completed with more. -/
def Settled (judgement : Judgement) (scope later : Scope) (key : String) (arguments : Value) :
    Prop :=
  ∀ first second, arguments = .list [first, second] →
    judgement.verdict key (first.completed later) (second.completed later) =
      Value.completed later <$>
        judgement.verdict key (first.completed scope) (second.completed scope)

/-- A judgement that has been made was made by its function. -/
theorem function?_of_folded (judgement : Judgement) {registry : Registry}
    (builtIn : registry.BuiltIn) {scope : Scope} {value result : Value} {key : String}
    {arguments : Value}
    (is_call : value.call? scope.config = some (.function key judgement.name arguments))
    (found : Resolves registry scope value result) (folded : result ≠ value) :
    registry.function? judgement.name = some judgement.function := by
  cases known : registry.function? judgement.name with
  | none =>
    have kept := found.eq_of_unknown is_call known
    rw [← Value.eq_ofCall_of_call? is_call] at kept
    exact absurd kept folded
  | some function =>
    have standard := builtIn _ function known
    rw [standard_function?] at standard
    exact standard.symm

section Passes

variable {registry : Registry} (builtIn : registry.BuiltIn) (scope : Scope) {more : Parameters}
  (extended : Parameters.Extends scope.parameters more) (plain : more.Plain scope.config)
include builtIn extended plain

/-- An early verdict becomes the later one exactly when it is settled. -/
theorem resolves_iff_settled (judgement : Judgement) {value : Value} {key : String}
    {arguments : Value}
    (is_call : value.call? scope.config = some (.function key judgement.name arguments))
    (distinct : value.DistinctKeys)
    (refers : arguments.EveryCall scope.config Call.IsReference) {result last : Value}
    (found : Resolves registry scope value result) (folded : result ≠ value)
    (again : Resolves registry (scope.withParameters more) value last) :
    Resolves registry (scope.withParameters more) result last ↔
      judgement.Settled scope (scope.withParameters more) key arguments := by
  have ignores := builtIn.ignoresDepth
  have known := function?_of_folded judgement builtIn is_call found folded
  obtain ⟨first, second, rfl, kept | ⟨data, other, judged⟩⟩ :=
    resolves_judging ignores judgement is_call known refers found
  · exact absurd kept.2 folded
  obtain rfl := Value.eq_ofCall_of_call? is_call
  have inside : ∀ argument ∈ [first, second], argument.Within (.list [first, second]) :=
    fun argument member => .item member (.self argument)
  have here := inside first (by simp)
  have there := inside second (by simp)
  -- Completing further makes no calls, so that the later pass reaches a verdict as well.
  have becomes : ∀ argument : Value, argument.Within (.list [first, second]) →
      Becomes registry (scope.withParameters more) (argument.completed scope)
        (argument.completed (scope.withParameters more)) := by
    intro argument member
    have deeper : argument.Within (.ofCall key (.list [first, second])) :=
      .child List.mem_cons_self member
    exact becomes_completed builtIn extended plain (Value.distinctKeys_of_within deeper distinct)
      (refers.within member)
  have data_again := (becomes first here).isCall_eq_false ignores data
  have other_again := (becomes second there).isCall_eq_false ignores other
  have call_again : (Value.ofCall key (.list [first, second])).call?
      (scope.withParameters more).config =
    some (.function key judgement.name (.list [first, second])) := is_call
  have judged_again : judgement.verdict key (first.completed (scope.withParameters more))
      (second.completed (scope.withParameters more)) = .ok last := by
    obtain ⟨_, _, same, ⟨waiting | waiting, _⟩ | ⟨_, _, judged⟩⟩ :=
      resolves_judging ignores judgement call_again known refers again
    · cases same
      rw [data_again] at waiting
      cases waiting
    · cases same
      rw [other_again] at waiting
      cases waiting
    · cases same
      exact judged
  have refers_again : result.EveryCall scope.config Call.IsReference :=
    verdict_everyCall judgement
      (Value.completed_everyCall (plain.of_extends extended) second (refers.within there)) judged
  have completes : Resolves registry (scope.withParameters more) result
      (result.completed (scope.withParameters more)) :=
    resolves_completed ignores result refers_again
  constructor
  · rintro resolves _ _ same
    cases same
    rw [judged, judged_again, resolves.unique ignores completes]
    rfl
  · intro settled
    have same := settled first second rfl
    rw [judged, judged_again] at same
    cases same
    exact completes

/-- **An early verdict becomes the later one exactly when it is settled.** The call is one of a
judging function whose arguments hold no calls but references. With enough levels, if the first
pass folds it and the single pass has a result, then the second pass ends with that result just
when judging what is known in the end gives the completed early verdict. -/
theorem resolve_again_iff (judgement : Judgement) {value : Value} {key : String}
    {arguments : Value}
    (is_call : value.call? scope.config = some (.function key judgement.name arguments))
    (distinct : value.DistinctKeys)
    (refers : arguments.EveryCall scope.config Call.IsReference) :
    ∃ enough, ∀ depth, enough ≤ depth → ∀ (result last : Value) (first second third : Trail),
      (resolve registry (scope.withMaxDepth depth) value).resultFrom first = .ok result →
      result ≠ value →
      (resolve registry ((scope.withParameters more).withMaxDepth depth) value).resultFrom second =
        .ok last →
      ((resolve registry ((scope.withParameters more).withMaxDepth depth) result).resultFrom third =
          .ok last ↔
        judgement.Settled scope (scope.withParameters more) key arguments) := by
  have ignores := builtIn.ignoresDepth
  by_cases both : ∃ result last, Resolves registry scope value result ∧ result ≠ value ∧
      Resolves registry (scope.withParameters more) value last ∧
      Resolves registry (scope.withParameters more) result last
  · obtain ⟨result, last, found, folded, again, becomes⟩ := both
    have settled := (resolves_iff_settled builtIn scope extended plain judgement is_call distinct
      refers found folded again).1 becomes
    obtain ⟨enough, yields⟩ := becomes.eventually ignores
    refine ⟨enough, fun depth reached other final first second third one _ two => ?_⟩
    obtain rfl : other = result := (resolves_of_resultFrom ignores one).unique ignores found
    obtain rfl : final = last := (resolves_of_resultFrom ignores two).unique ignores again
    exact ⟨fun _ => settled, fun _ => yields depth reached third⟩
  · refine ⟨0, fun depth _ result last first second third one folded two => ?_⟩
    have found := resolves_of_resultFrom ignores one
    have again := resolves_of_resultFrom ignores two
    have exact_when := resolves_iff_settled builtIn scope extended plain judgement is_call distinct
      refers found folded again
    constructor
    · intro three
      exact exact_when.1 (resolves_of_resultFrom ignores three)
    · intro settled
      exact absurd ⟨result, last, found, folded, again, exact_when.2 settled⟩ both

end Passes

/-- A list that is searched before all of its items are known. -/
def searchedEarly : Value :=
  .ofCall "Fn::Contains" (.list [.list [.string "b", .ofCall "Ref" (.string "Zone")], .string "b"])

/-- That a list contains a text stays true when other items become known. -/
theorem resolve_again_iff_searchedEarly :
    Registry.standard.BuiltIn ∧
      Parameters.Extends [] [("Zone", .string "a")] ∧
      Parameters.Plain Config.standard [("Zone", .string "a")] ∧
      searchedEarly.call? Config.standard = some (.function "Fn::Contains" contains.name
        (.list [.list [.string "b", .ofCall "Ref" (.string "Zone")], .string "b"])) ∧
      searchedEarly.DistinctKeys ∧
      (Value.list [.list [.string "b", .ofCall "Ref" (.string "Zone")], .string "b"]).EveryCall
        Config.standard Call.IsReference ∧
      ∃ enough, ∀ depth, enough ≤ depth → ∀ (result last : Value) (first second third : Trail),
        (resolve Registry.standard (Scope.withMaxDepth ⟨Config.standard, [], .null⟩ depth)
          searchedEarly).resultFrom first = .ok result →
        result ≠ searchedEarly →
        (resolve Registry.standard (Scope.withMaxDepth
          ⟨Config.standard, [("Zone", .string "a")], .null⟩ depth)
            searchedEarly).resultFrom second = .ok last →
        ((resolve Registry.standard (Scope.withMaxDepth
          ⟨Config.standard, [("Zone", .string "a")], .null⟩ depth) result).resultFrom third =
            .ok last ↔
          contains.Settled ⟨Config.standard, [], .null⟩
            ⟨Config.standard, [("Zone", .string "a")], .null⟩ "Fn::Contains"
            (.list [.list [.string "b", .ofCall "Ref" (.string "Zone")], .string "b"])) := by
  have extended : Parameters.Extends [] [("Zone", .string "a")] := nofun
  have plain : Parameters.Plain Config.standard [("Zone", .string "a")] := by
    intro name value found
    cases List.mem_singleton.1 (Entries.mem_of_get?_eq_some found)
    exact ⟨trivial, rfl⟩
  have distinct : searchedEarly.DistinctKeys := by
    simp [searchedEarly, Value.ofCall, Value.DistinctKeys, Value.distinctKeysOfItems_iff,
      Value.distinctKeysOfEntries_iff, Entries.Distinct, Entries.keys]
  have refers : (Value.list [.list [.string "b", .ofCall "Ref" (.string "Zone")],
      .string "b"]).EveryCall Config.standard Call.IsReference := by
    have zone : (Value.ofCall "Ref" (.string "Zone")).EveryCall Config.standard Call.IsReference :=
      .ofCall rfl trivial (.of_isScalar trivial)
    have text : (Value.string "b").EveryCall Config.standard Call.IsReference :=
      .of_isScalar trivial
    refine .list (List.forall_mem_cons.2 ⟨.list ?_, List.forall_mem_singleton.2 text⟩)
    exact List.forall_mem_cons.2 ⟨text, List.forall_mem_singleton.2 zone⟩
  exact ⟨Registry.standard_builtIn, extended, plain, rfl, distinct, refers,
    resolve_again_iff Registry.standard_builtIn ⟨Config.standard, [], .null⟩ extended plain contains
      rfl distinct refers⟩

/-- A list with a name in it that is compared before the name is known. -/
def comparedEarly : Value :=
  .ofCall "Fn::Equals" (.list [.list [.ofCall "Ref" (.string "X")], .list [.string "a"]])

/-- **Early verdicts may be wrong**: without its parameter the comparison is false, and with it it
is true, but the second pass finds only that it has been false. -/
theorem not_resolve_again_comparedEarly :
    ¬∃ enough, ∀ depth, enough ≤ depth → ∀ (result last : Value) (first second third : Trail),
      (resolve Registry.standard (Scope.withMaxDepth ⟨Config.standard, [], .null⟩ depth)
        comparedEarly).resultFrom first = .ok result →
      result ≠ comparedEarly →
      (resolve Registry.standard (Scope.withMaxDepth
        ⟨Config.standard, [("X", .string "a")], .null⟩ depth) comparedEarly).resultFrom second =
          .ok last →
      (resolve Registry.standard (Scope.withMaxDepth
        ⟨Config.standard, [("X", .string "a")], .null⟩ depth) result).resultFrom third =
          .ok last := by
  rintro ⟨enough, all⟩
  have ignores := Registry.standard_builtIn.ignoresDepth
  have found : Resolves Registry.standard ⟨Config.standard, [], .null⟩ comparedEarly
      (.bool false) := ⟨4, rfl⟩
  have again : Resolves Registry.standard ⟨Config.standard, [("X", .string "a")], .null⟩
      comparedEarly (.bool true) := ⟨4, rfl⟩
  obtain ⟨fewer, early⟩ := found.eventually ignores
  obtain ⟨more, late⟩ := again.eventually ignores
  have changed : Value.bool false ≠ comparedEarly := nofun
  have wrong := all (max enough (max fewer more)) (by omega) _ _ {} {} {}
    (early _ (by omega) {}) changed (late _ (by omega) {})
  have same := (resolves_of_resultFrom ignores wrong).eq_of_isScalar trivial
  cases same

/-! ## Settled verdicts -/

/-- A verdict that is a truth or a place is settled when it is the same for what is known in the
end. -/
theorem settled_iff_of_decides {judgement : Judgement} (decides : judgement ≠ .selectMapList)
    (scope later : Scope) (key : String) (arguments : Value) :
    judgement.Settled scope later key arguments ↔
      ∀ first second, arguments = .list [first, second] →
        judgement.verdict key (first.completed later) (second.completed later) =
          judgement.verdict key (first.completed scope) (second.completed scope) := by
  have whole : ∀ first second : Value,
      Value.completed later <$> judgement.verdict key first second =
        judgement.verdict key first second := by
    intro first second
    cases judged : judgement.verdict key first second with
    | error error => rfl
    | ok result =>
      exact congrArg Except.ok (Value.completed_of_isScalar (verdict_isScalar decides judged))
  unfold Settled
  simp only [whole]

/-- Completing what is no call neither makes a text nor loses one. -/
theorem textOf_completed {later : Scope} (key argument : String) {value : Value}
    (data : value.isCall later.config = false) :
    textOf key argument (value.completed later) = textOf key argument value := by
  cases value with
  | map entries =>
    rw [Value.completed_map (Value.isCall_eq_false_iff.1 data)]
    rfl
  | _ => rfl

/-- Projecting commutes with completing when no item is a call. -/
theorem projected_completed (later : Scope) (key wanted : String) {items : List Value}
    (data : ∀ item ∈ items, item.isCall later.config = false) :
    projected key wanted (items.map (Value.completed later)) =
      List.map (Value.completed later) <$> projected key wanted items := by
  induction items with
  | nil => rfl
  | cons item items ih =>
    obtain ⟨here, others⟩ := List.forall_mem_cons.1 data
    rw [List.map_cons]
    cases item with
    | map entries =>
      rw [Value.completed_map (Value.isCall_eq_false_iff.1 here)]
      unfold projected
      rw [ih others, Entries.get?_map]
      cases projected key wanted items with
      | error error => rfl
      | ok values =>
        cases Entries.get? entries wanted with
        | none => rfl
        | some child => rfl
    | list inner =>
      rw [Value.completed_list]
      rfl
    | _ => rfl

/-- A projection whose items are no calls commutes with completing. -/
theorem verdict_selectMapList_completed (later : Scope) (key : String) {wanted : Value}
    {items : List Value} (here : wanted.isCall later.config = false)
    (data : ∀ item ∈ items, item.isCall later.config = false) :
    selectMapList.verdict key (wanted.completed later)
        (.list (items.map (Value.completed later))) =
      Value.completed later <$> selectMapList.verdict key wanted (.list items) := by
  change (do
    let text ← textOf key "key" (wanted.completed later)
    let values ← projected key text (items.map (Value.completed later))
    .ok (Value.list values)) = Value.completed later <$> (do
      let text ← textOf key "key" wanted
      let values ← projected key text items
      .ok (Value.list values))
  rw [textOf_completed key "key" here]
  cases textOf key "key" wanted with
  | error error => rfl
  | ok text =>
    have commutes := projected_completed later key text data
    dsimp only [Bind.bind, Except.bind]
    rw [commutes]
    cases projected key text items with
    | error error => rfl
    | ok values => exact congrArg Except.ok (Value.completed_list values).symm

section Settled

variable {scope : Scope} {more : Parameters}
  (extended : Parameters.Extends scope.parameters more) (plain : more.Plain scope.config)
include extended plain

/-- Verdicts on arguments without any call left are settled. -/
theorem settled_of_containsCall_eq_false (judgement : Judgement) {key : String}
    {first second : Value} (distinct : (Value.list [first, second]).DistinctKeys)
    (refers : (Value.list [first, second]).EveryCall scope.config Call.IsReference)
    (here : (first.completed scope).containsCall scope.config = false)
    (there : (second.completed scope).containsCall scope.config = false) :
    judgement.Settled scope (scope.withParameters more) key (.list [first, second]) := by
  have same : ∀ argument ∈ [first, second],
      (argument.completed scope).containsCall scope.config = false →
      argument.completed (scope.withParameters more) = argument.completed scope := by
    intro argument member none
    have inside : argument.Within (.list [first, second]) := .item member (.self argument)
    rw [← completed_completed extended plain (Value.distinctKeys_of_within inside distinct)
      (refers.within inside)]
    exact completed_of_containsCall_eq_false none
  intro one other written
  cases written
  rw [same first (by simp) here, same second (by simp) there]
  cases judged : judgement.verdict key (first.completed scope) (second.completed scope) with
  | error error => rfl
  | ok result =>
    have none : result.containsCall scope.config = false :=
      (verdict_everyCall judgement (.of_containsCall_eq_false there) judged).containsCall_eq_false
    have complete : result.completed (scope.withParameters more) = result :=
      completed_of_containsCall_eq_false none
    exact congrArg Except.ok complete.symm

/-- Projections are settled when neither the arguments nor the items are calls, whatever calls
stand deeper inside the items. -/
theorem settled_selectMapList {key : String} {first second : Value} {items : List Value}
    (distinct : (Value.list [first, second]).DistinctKeys)
    (refers : (Value.list [first, second]).EveryCall scope.config Call.IsReference)
    (here : (first.completed scope).isCall scope.config = false)
    (listed : second.completed scope = .list items)
    (data : ∀ item ∈ items, item.isCall scope.config = false) :
    selectMapList.Settled scope (scope.withParameters more) key (.list [first, second]) := by
  have further : ∀ argument ∈ [first, second], argument.completed (scope.withParameters more) =
      (argument.completed scope).completed (scope.withParameters more) := by
    intro argument member
    have inside : argument.Within (.list [first, second]) := .item member (.self argument)
    exact (completed_completed extended plain (Value.distinctKeys_of_within inside distinct)
      (refers.within inside)).symm
  intro one other written
  cases written
  rw [further first (by simp), further second (by simp), listed, Value.completed_list]
  exact verdict_selectMapList_completed (scope.withParameters more) key here data

end Settled

end Judgement

end CloudTemplate
