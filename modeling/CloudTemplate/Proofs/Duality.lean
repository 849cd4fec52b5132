import CloudTemplate.Proofs.Levels
import CloudTemplate.Proofs.Within

/-!
# Conjunctions, disjunctions and negations

The negation of a conjunction and the disjunction of the negations are different calls, and they are
carried out in different ways. The first resolves its operands inside the conjunction, passes its
verdict on and negates it. The second resolves every operand inside a negation of its own and waits
for the first one that holds.

Both do the same to the operands: they resolve them one after the other, with the same number of
levels, up to the first that is false, that is not known yet or that has no truth. What this walk
finds out is `Logic.refuted?`. Each of the two calls is this walk followed by the rendering of its
verdict (`Logic.resolveWithin_negation_conjunction`, `Logic.resolveWithin_disjunction_negations`),
so they agree in their results and in what they leave behind (`Logic.resolve_deMorgan`).
-/

set_option autoImplicit false

namespace CloudTemplate

namespace Logic

/-- The call that negates a value. -/
def negation (operand : Value) : Value :=
  .ofCall "Fn::Not" (.list [operand])

/-- The call that asks whether all values hold. -/
def conjunction (operands : List Value) : Value :=
  .ofCall "Fn::And" (.list operands)

/-- The call that asks whether one of the values holds. -/
def disjunction (operands : List Value) : Value :=
  .ofCall "Fn::Or" (.list operands)

/-- Resolves operands up to the first that is false, and tells whether there is one. There is no
verdict if an operand before it is not known yet. -/
def refuted? (config : Config) (resolve : Value → Tracked Value) :
    List Value → Tracked (Option Bool)
  | [] => pure (some false)
  | operand :: operands => do
    let value ← resolve operand
    if value.isCall config then pure none
    else do
      let truth ← Attempt.ofExcept value.toBool
      if truth then refuted? config resolve operands else pure (some true)

/-- A verdict as a value. Without one the call is kept. -/
def render (call : Value) : Option Bool → Value
  | some truth => .bool truth
  | none => call

/-! ## Calls that are carried out -/

theorem run_ofExcept {State α : Type} (handler : Handler State) (result : Except Error α) :
    (Program.ofExcept result).run handler = Attempt.ofExcept result := by
  cases result <;> rfl

/-- An argument is resolved, and the call is kept if the argument is a call then. -/
theorem run_known {State : Type} (handler : Handler State) (call : Invocation) (value : Value)
    (next : Value → Program Value) :
    (call.known value next).run handler =
      handler.resolve value >>= fun value =>
        if call.isCall value then pure call.node else (next value).run handler := by
  change (handler.resolve value >>= fun value =>
    (if call.isCall value then call.keep else next value).run handler) = _
  refine bind_congr fun value => ?_
  split
  · rfl
  · rfl

/-- The truth of an argument decides how a function goes on. -/
theorem run_expectTruth {State α : Type} (handler : Handler State) (value : Value)
    (next : Bool → Program α) :
    (Invocation.expectTruth value >>= next).run handler =
      Attempt.ofExcept value.toBool >>= fun truth => (next truth).run handler := by
  change ((Invocation.expectTruth value).bind next).run handler = _
  rw [Program.run_bind, Invocation.expectTruth, run_ofExcept]

/-- A call of a registered function is carried out with the values inside it resolved one level
further down. -/
theorem resolveWithin_ofCall {registry : Registry} {scope : Scope}
    (mark : scope.config.functionMark = "Fn::") (key name : String) (function : Function)
    (reference : scope.config.referenceKey ≠ key)
    (named : Text.after? "Fn::".toList key.toList = some name.toList)
    (found : registry.function? name = some function) (levels : Nat) (arguments : Value) :
    Resolver.resolveWithin registry scope (levels + 1) (.ofCall key arguments) =
      (function ⟨key, name, arguments, scope⟩).run
        (Resolver.handler (Resolver.resolveWithin registry scope levels)) := by
  change Resolver.resolveNode registry scope _ _ = _
  unfold Resolver.resolveNode
  rw [Value.call?_ofCall mark reference.symm named]
  dsimp only [Resolver.invoke]
  rw [found]

/-- A conjunction holds unless an operand is refuted. -/
theorem run_shortCircuit_false (call : Invocation) (resolve : Value → Tracked Value)
    (operands : List Value) :
    (shortCircuit call false operands).run (Resolver.handler resolve) =
      (fun verdict => render call.node (verdict.map Bool.not)) <$>
        refuted? call.scope.config resolve operands := by
  induction operands with
  | nil => rfl
  | cons operand operands ih =>
    rw [shortCircuit, refuted?, run_known, map_bind]
    refine bind_congr fun value => ?_
    change (if value.isCall call.scope.config then _ else _ : Tracked Value) = _
    split
    · rfl
    · rw [run_expectTruth, map_bind]
      refine bind_congr fun truth => ?_
      cases truth with
      | false => rfl
      | true => exact ih

/-- A list of operands is accepted unless it is empty. -/
theorem atLeast_one {call : Invocation} {operands : List Value}
    (arguments : call.arguments = .list operands) (nonempty : operands ≠ []) :
    call.atLeast 1 = pure operands := by
  have enough : ¬operands.length < 1 := by
    have := List.length_pos_iff.2 nonempty
    omega
  unfold Invocation.atLeast Invocation.argumentList
  rw [arguments, pure_bind, if_neg enough]

section Walks

variable {scope : Scope} (mark : scope.config.functionMark = "Fn::")
  (reference : scope.config.referenceKey ∉ ["Fn::Not", "Fn::And", "Fn::Or"])
include mark reference

theorem isCall_negation (operand : Value) : (negation operand).isCall scope.config = true := by
  have differs : "Fn::Not" ≠ scope.config.referenceKey := fun same => reference (by simp [← same])
  have named : Text.after? "Fn::".toList "Fn::Not".toList = some "Not".toList := rfl
  exact Value.isCall_of_call? (Value.call?_ofCall mark differs named _)

/-- A negation resolves its operand and negates its truth. -/
theorem resolveWithin_negation (levels : Nat) (operand : Value) :
    Resolver.resolveWithin Registry.standard scope (levels + 1) (negation operand) =
      Resolver.resolveWithin Registry.standard scope levels operand >>= fun value =>
        if value.isCall scope.config then pure (negation operand)
        else Attempt.ofExcept value.toBool >>= fun truth => pure (.bool !truth) := by
  have differs : scope.config.referenceKey ≠ "Fn::Not" := fun same => reference (by simp [same])
  rw [negation, resolveWithin_ofCall mark "Fn::Not" "Not" not differs rfl rfl]
  change (Invocation.known _ operand fun value => do
    let truth ← Invocation.expectTruth value
    pure (.bool !truth)).run _ = _
  rw [run_known]
  refine bind_congr fun value => ?_
  change (if value.isCall scope.config then _ else _ : Tracked Value) = _
  split
  · rfl
  · rw [run_expectTruth]
    rfl

/-- A disjunction of negations holds if an operand is refuted. -/
theorem run_shortCircuit_true (levels : Nat) {call : Invocation} (here : call.scope = scope)
    (operands : List Value) :
    (shortCircuit call true (operands.map negation)).run
        (Resolver.handler (Resolver.resolveWithin Registry.standard scope (levels + 1))) =
      render call.node <$> refuted? scope.config
        (Resolver.resolveWithin Registry.standard scope levels) operands := by
  induction operands with
  | nil => rfl
  | cons operand operands ih =>
    rw [List.map_cons, shortCircuit, refuted?, run_known, map_bind]
    change (Resolver.resolveWithin Registry.standard scope (levels + 1) (negation operand) >>=
      _) = _
    rw [resolveWithin_negation mark reference, bind_assoc]
    refine bind_congr fun value => ?_
    unfold Invocation.isCall
    rw [here]
    cases value.isCall scope.config with
    | true =>
      -- The negation is kept, and a call is no answer to the disjunction.
      rw [if_pos rfl, if_pos rfl, pure_bind, map_pure, isCall_negation mark reference, if_pos rfl]
      rfl
    | false =>
      rw [if_neg nofun, if_neg nofun, bind_assoc, map_bind]
      refine bind_congr fun truth => ?_
      rw [pure_bind, if_neg nofun, run_expectTruth]
      cases truth with
      | false => rfl
      | true => exact ih

variable {operands : List Value} (nonempty : operands ≠ [])
include nonempty

/-- A conjunction walks through its operands. -/
theorem resolveWithin_conjunction (levels : Nat) :
    Resolver.resolveWithin Registry.standard scope (levels + 1) (conjunction operands) =
      (fun verdict => render (conjunction operands) (verdict.map Bool.not)) <$>
        refuted? scope.config (Resolver.resolveWithin Registry.standard scope levels)
          operands := by
  have differs : scope.config.referenceKey ≠ "Fn::And" := fun same => reference (by simp [same])
  rw [conjunction, resolveWithin_ofCall mark "Fn::And" "And" and differs rfl rfl, and,
    atLeast_one rfl nonempty, pure_bind, run_shortCircuit_false]
  rfl

/-- The negation of a conjunction walks through the operands of the conjunction. -/
theorem resolveWithin_negation_conjunction (levels : Nat) :
    Resolver.resolveWithin Registry.standard scope (levels + 2) (negation (conjunction operands)) =
      render (negation (conjunction operands)) <$>
        refuted? scope.config (Resolver.resolveWithin Registry.standard scope levels) operands := by
  have differs : "Fn::And" ≠ scope.config.referenceKey := fun same => reference (by simp [← same])
  have named : Text.after? "Fn::".toList "Fn::And".toList = some "And".toList := rfl
  have kept : (conjunction operands).isCall scope.config = true :=
    Value.isCall_of_call? (Value.call?_ofCall mark differs named _)
  rw [resolveWithin_negation mark reference, resolveWithin_conjunction mark reference nonempty,
    bind_map_left, map_eq_pure_bind]
  refine bind_congr fun verdict => ?_
  cases verdict with
  | none => exact if_pos kept
  | some truth => cases truth <;> rfl

/-- The disjunction of negations walks through what is negated. -/
theorem resolveWithin_disjunction_negations (levels : Nat) :
    Resolver.resolveWithin Registry.standard scope (levels + 2)
        (disjunction (operands.map negation)) =
      render (disjunction (operands.map negation)) <$>
        refuted? scope.config (Resolver.resolveWithin Registry.standard scope levels) operands := by
  have differs : scope.config.referenceKey ≠ "Fn::Or" := fun same => reference (by simp [same])
  have some_negation : operands.map negation ≠ [] := by simpa using nonempty
  rw [disjunction, resolveWithin_ofCall mark "Fn::Or" "Or" or differs rfl rfl, or,
    atLeast_one rfl some_negation, pure_bind, run_shortCircuit_true mark reference levels rfl]
  rfl

/-- Whatever the levels, both calls are the same walk with its verdict rendered. -/
theorem exists_walk (levels : Nat) : ∃ walk : Tracked (Option Bool),
    Resolver.resolveWithin Registry.standard scope levels (negation (conjunction operands)) =
        render (negation (conjunction operands)) <$> walk ∧
      Resolver.resolveWithin Registry.standard scope levels (disjunction (operands.map negation)) =
        render (disjunction (operands.map negation)) <$> walk := by
  match levels with
  | 0 => exact ⟨throw (.depthExceeded scope.config.maxDepth), rfl, rfl⟩
  | 1 =>
    -- The level is used up by the outer call, and the first value inside it has none left.
    refine ⟨throw (.depthExceeded scope.config.maxDepth), ?_, ?_⟩
    · rw [resolveWithin_negation mark reference]
      rfl
    · obtain ⟨operand, others, rfl⟩ := List.exists_cons_of_ne_nil nonempty
      have differs : scope.config.referenceKey ≠ "Fn::Or" := fun same => reference (by simp [same])
      rw [disjunction, resolveWithin_ofCall mark "Fn::Or" "Or" or differs rfl rfl]
      rfl
  | levels + 2 =>
    exact ⟨_, resolveWithin_negation_conjunction mark reference nonempty levels,
      resolveWithin_disjunction_negations mark reference nonempty levels⟩

end Walks

/-- Two calls have the same truth, both are kept, or both fail with the same error. -/
inductive Agree (one other : Value) : Except Error Value → Except Error Value → Prop
  | decided (truth : Bool) : Agree one other (.ok (.bool truth)) (.ok (.bool truth))
  | kept : Agree one other (.ok one) (.ok other)
  | failed (error : Error) : Agree one other (.error error) (.error error)

/-- **De Morgan's law.** The negation of a conjunction and the disjunction of the negations have the
same truth, or both are kept, or both fail with the same error, and they leave the same trail. -/
theorem resolve_deMorgan {scope : Scope} (mark : scope.config.functionMark = "Fn::")
    (reference : scope.config.referenceKey ∉ ["Fn::Not", "Fn::And", "Fn::Or"])
    {operands : List Value} (nonempty : operands ≠ []) (trail : Trail) :
    let run value := (Resolver.resolve Registry.standard scope value).run.run trail
    let one := negation (conjunction operands)
    let other := disjunction (operands.map negation)
    Agree one other (run one).1 (run other).1 ∧ (run one).2 = (run other).2 := by
  intro run one other
  obtain ⟨walk, first, second⟩ := exists_walk mark reference nonempty scope.config.maxDepth
  have one_run : run one = (render one <$> walk).run.run trail :=
    congrArg (fun attempt : Tracked Value => attempt.run.run trail) first
  have other_run : run other = (render other <$> walk).run.run trail :=
    congrArg (fun attempt : Tracked Value => attempt.run.run trail) second
  rw [one_run, other_run]
  simp only [ExceptT.run_map, StateT.run_map]
  rcases walk.run.run trail with ⟨result, later⟩
  refine ⟨?_, rfl⟩
  match result with
  | .error error => exact .failed error
  | .ok none => exact .kept
  | .ok (some truth) => exact .decided truth

/-- Operands of which the first is decided by a parameter, and the last has no truth. -/
def undecided : List Value :=
  [.ofCall "Ref" (.string "Ready"), .ofCall "Ref" (.string "Later"), .string "maybe"]

/-- As long as nothing is known of the second operand, both calls are kept. If it is false, both are
true, and if it is true, both fail at the third. -/
theorem resolve_deMorgan_undecided :
    let found parameters value :=
      (Resolver.resolve Registry.standard ⟨Config.standard, parameters, .null⟩ value).resultFrom {}
    let one := negation (conjunction undecided)
    let other := disjunction (undecided.map negation)
    (Agree one other (found [("Ready", .bool true)] one) (found [("Ready", .bool true)] other) ∧
      found [("Ready", .bool true)] other = .ok other) ∧
    found [("Ready", .bool true), ("Later", .int 0)] one = .ok (.bool true) ∧
    found [("Ready", .bool true), ("Later", .int 1)] other =
      .error (.notBoolean (.string "maybe")) := by
  intro found one other
  have law := @resolve_deMorgan ⟨Config.standard, [("Ready", .bool true)], .null⟩ rfl
    (show Config.standard.referenceKey ∉ _ by decide) undecided (List.cons_ne_nil _ _) {}
  refine ⟨⟨law.1, ?_⟩, ?_, ?_⟩
  all_goals
    dsimp only [found]
    rw [Resolver.resolve_yields]
    rfl

end Logic

end CloudTemplate
