import CloudTemplate.Proofs.TwoPasses.Follows

/-!
# Arguments in two passes

What the parts that functions are made of do in a first and in a later pass: how the arguments are
taken apart, how they are resolved, and what is expected of the answers. A function that is made of
such parts may be folded early (`Function.FoldsEarly`): what it settles with fewer parameters,
it settles again with more.
-/

set_option autoImplicit false

namespace CloudTemplate

/-- The programs of a call follow each other when the later pass has more parameters. -/
abbrev Invocation.Follows (registry : Registry) (call : Invocation) (more : Parameters) :
    Program Value → Program Value → Prop :=
  CloudTemplate.Follows (Becomes registry (call.scope.withParameters more))
    (·.Within call.arguments) call.node

/-- What the function settles for a call that suits it, it settles again with more parameters. -/
def Function.FoldsEarly (registry : Registry) (function : Function)
    (suits : Invocation → Prop) : Prop :=
  ∀ (call : Invocation) (more : Parameters), suits call →
    Parameters.Extends call.scope.parameters more →
    call.Follows registry more (function call) (function (call.withParameters more))

namespace Invocation

variable {registry : Registry} {call : Invocation} {more : Parameters}

/-! ## Arguments -/

/-- A call with a list of arguments. -/
theorem follows_argumentList {next after : List Value → Program Value}
    (rest : ∀ arguments, (∀ argument ∈ arguments, argument.Within call.arguments) →
      call.Follows registry more (next arguments) (after arguments)) :
    call.Follows registry more (call.argumentList >>= next)
      ((call.withParameters more).argumentList >>= after) := by
  have inside : ∀ arguments, call.arguments = .list arguments →
      ∀ argument ∈ arguments, argument.Within call.arguments := by
    intro arguments listed argument member
    rw [listed]
    exact .item member (.self argument)
  change call.Follows registry more (call.argumentList >>= next) (call.argumentList >>= after)
  unfold argumentList
  cases listed : call.arguments with
  | list arguments => exact rest arguments (inside arguments listed)
  | _ => exact .failed _ _

theorem follows_atLeast {least : Nat} {next after : List Value → Program Value}
    (rest : ∀ arguments, (∀ argument ∈ arguments, argument.Within call.arguments) →
      call.Follows registry more (next arguments) (after arguments)) :
    call.Follows registry more (call.atLeast least >>= next)
      ((call.withParameters more).atLeast least >>= after) := by
  unfold atLeast
  rw [LawfulMonad.bind_assoc, LawfulMonad.bind_assoc]
  refine follows_argumentList fun arguments inside => ?_
  by_cases few : arguments.length < least
  · rw [if_pos few]
    exact .failed _ _
  · rw [if_neg few, if_neg few]
    exact rest arguments inside

theorem follows_oneArgument {next after : Value → Program Value}
    (rest : ∀ first : Value, first.Within call.arguments →
      call.Follows registry more (next first) (after first)) :
    call.Follows registry more (call.oneArgument >>= next)
      ((call.withParameters more).oneArgument >>= after) := by
  unfold oneArgument
  rw [LawfulMonad.bind_assoc, LawfulMonad.bind_assoc]
  refine follows_argumentList fun arguments inside => ?_
  match arguments with
  | [first] => exact rest first (inside first (by simp))
  | [] | _ :: _ :: _ => exact .failed _ _

theorem follows_twoArguments {next after : Value × Value → Program Value}
    (rest : ∀ first second : Value, first.Within call.arguments → second.Within call.arguments →
      call.Follows registry more (next (first, second)) (after (first, second))) :
    call.Follows registry more (call.twoArguments >>= next)
      ((call.withParameters more).twoArguments >>= after) := by
  unfold twoArguments
  rw [LawfulMonad.bind_assoc, LawfulMonad.bind_assoc]
  refine follows_argumentList fun arguments inside => ?_
  match arguments with
  | [first, second] => exact rest first second (inside first (by simp)) (inside second (by simp))
  | [] | [_] | _ :: _ :: _ :: _ => exact .failed _ _

theorem follows_threeArguments {next after : Value × Value × Value → Program Value}
    (rest : ∀ first second third : Value, first.Within call.arguments →
      second.Within call.arguments → third.Within call.arguments →
      call.Follows registry more (next (first, second, third)) (after (first, second, third))) :
    call.Follows registry more (call.threeArguments >>= next)
      ((call.withParameters more).threeArguments >>= after) := by
  unfold threeArguments
  rw [LawfulMonad.bind_assoc, LawfulMonad.bind_assoc]
  refine follows_argumentList fun arguments inside => ?_
  match arguments with
  | [first, second, third] =>
    exact rest first second third (inside first (by simp)) (inside second (by simp))
      (inside third (by simp))
  | [] | [_] | [_, _] | _ :: _ :: _ :: _ :: _ => exact .failed _ _

/-! ## Answers -/

/-- A value that both passes ask for, and that the later pass knows if the first one does. -/
theorem follows_known (ignores : registry.IgnoresDepth) {value : Value}
    (inside : value.Within call.arguments) {next after : Value → Program Value}
    (rest : ∀ answer last, Becomes registry (call.scope.withParameters more) answer last →
      call.isCall answer = false → call.Follows registry more (next answer) (after last)) :
    call.Follows registry more (call.known value next)
      ((call.withParameters more).known value after) := by
  refine .resolve inside fun answer last becomes => ?_
  change call.Follows registry more (if call.isCall answer then call.keep else next answer)
    (if call.isCall last then call.keep else after last)
  cases data : call.isCall answer with
  | true => exact .kept _
  | false =>
    rw [if_neg Bool.false_ne_true]
    have later : call.isCall last = false := becomes.isCall_eq_false ignores data
    rw [later, if_neg Bool.false_ne_true]
    exact rest answer last becomes data

theorem follows_allKnown (ignores : registry.IgnoresDepth) {values : List Value}
    (inside : ∀ value ∈ values, value.Within call.arguments)
    {next after : List Value → Program Value}
    (rest : ∀ answers lasts,
      List.Forall₂ (Becomes registry (call.scope.withParameters more)) answers lasts →
      (∀ answer ∈ answers, call.isCall answer = false) →
      call.Follows registry more (next answers) (after lasts)) :
    call.Follows registry more (call.allKnown values next)
      ((call.withParameters more).allKnown values after) := by
  induction values generalizing next after with
  | nil => exact rest [] [] .nil (by simp)
  | cons value values ih =>
    have here := inside value List.mem_cons_self
    refine follows_known ignores here fun answer last becomes data => ?_
    refine ih (fun other member => inside other (List.mem_cons_of_mem _ member))
      fun answers lasts all others => ?_
    exact rest (answer :: answers) (last :: lasts) (.cons becomes all)
      (List.forall_mem_cons.2 ⟨data, others⟩)

/-- A text stays the text that it is. -/
theorem follows_expectText {argument : String} {answer last : Value}
    (becomes : Becomes registry (call.scope.withParameters more) answer last)
    {next after : String → Program Value}
    (rest : ∀ text, call.Follows registry more (next text) (after text)) :
    call.Follows registry more (call.expectText argument answer >>= next)
      ((call.withParameters more).expectText argument last >>= after) := by
  cases answer with
  | string text =>
    rw [becomes.eq_of_isScalar trivial]
    exact rest text
  | _ => exact .failed _ _

/-- A list becomes a list, item by item. -/
theorem follows_expectList (ignores : registry.IgnoresDepth) {argument : String}
    {answer last : Value} (becomes : Becomes registry (call.scope.withParameters more) answer last)
    {next after : List Value → Program Value}
    (rest : ∀ items lasts,
      List.Forall₂ (Becomes registry (call.scope.withParameters more)) items lasts →
      call.Follows registry more (next items) (after lasts)) :
    call.Follows registry more (call.expectList argument answer >>= next)
      ((call.withParameters more).expectList argument last >>= after) := by
  cases answer with
  | list items =>
    obtain ⟨lasts, rfl, all⟩ := (Becomes.list_iff ignores).1 becomes
    exact rest items lasts all
  | _ => exact .failed _ _

/-- Only scalars have a truth. -/
theorem isScalar_of_toBool {value : Value} {truth : Bool} (holds : value.toBool = .ok truth) :
    value.IsScalar := by
  cases value with
  | list items => cases holds
  | map entries => cases holds
  | _ => trivial

/-- What has a truth keeps it. -/
theorem follows_expectTruth {answer last : Value}
    (becomes : Becomes registry (call.scope.withParameters more) answer last)
    {next after : Bool → Program Value}
    (rest : ∀ truth, call.Follows registry more (next truth) (after truth)) :
    call.Follows registry more (expectTruth answer >>= next) (expectTruth last >>= after) := by
  unfold expectTruth
  cases holds : answer.toBool with
  | error error => exact .failed _ _
  | ok truth =>
    rw [becomes.eq_of_isScalar (isScalar_of_toBool holds), holds]
    exact rest truth

end Invocation

end CloudTemplate
