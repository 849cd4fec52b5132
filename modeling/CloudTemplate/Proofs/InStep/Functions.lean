import CloudTemplate.Proofs.BuiltIn
import CloudTemplate.Proofs.InStep.Collections
import CloudTemplate.Proofs.InStep.Texts
import CloudTemplate.Proofs.Origin.Functions

/-!
# Functions in step

For calls that stand side by side, built-in functions end alike (`Registry.BuiltIn.staysInStep`).
Functions on numbers and on truth end with scalars, which they compute from scalars and from values
that are equal. A choice is left out, because its condition may be written in two ways; it ends
alike when the condition has the same truth in both calls (`Logic.choose_inStep`).
-/

set_option autoImplicit false

namespace CloudTemplate

variable {first second : Value → Except Error Value} {calls : Value → Value → Prop}
  {one other : Invocation} {name : String}

open Invocation (inStep_scalar inStep_keep inStep_noted inStep_matching inStep_reading
  inStep_bothKnown inStep_allKnown inStep_atLeast inStep_oneArgument inStep_twoArguments
  inStep_threeArguments inStep_expectText inStep_expectList inStep_expectTruth)

/-! ## Functions on numbers -/

namespace Math

theorem inStep_finite (result : Float) :
    Program.InStep first second (one.EndsAlike calls other) (finite one result)
      (finite other result) := by
  unfold finite
  split
  · exact inStep_scalar (isScalar_ofNumber result)
  · exact .failed _ _

/-- Values that match are the same number, or none. -/
theorem asFloat?_eq {config : Config} {value last : Value}
    (same : value.Matches config calls last) : value.asFloat? = last.asFloat? := by
  cases value with
  | list items =>
    obtain ⟨others, rfl, -⟩ := Value.matches_list_iff.1 same
    rfl
  | map entries =>
    obtain ⟨others, rfl⟩ := same.exists_map
    rfl
  | _ => rw [same.eq_of_isScalar trivial]

theorem inStep_numbers {config : Config} {values lasts : List Value}
    (all : List.Forall₂ (Value.Matches config calls) values lasts) :
    Program.InStep first second (· = ·) (numbers one values) (numbers other lasts) := by
  induction all with
  | nil => exact .done rfl
  | @cons value last values lasts same _ ih =>
    unfold numbers
    rw [asFloat?_eq same]
    cases last.asFloat? with
    | none => exact .failed _ _
    | some number =>
      refine ih.bind fun others again equal => ?_
      subst equal
      exact .done rfl

theorem fold_staysInStep (fewest : Nat) (compute : List Float → Float) (name : String) :
    Function.StaysInStep name (fold fewest compute) := by
  intro first second calls one other along
  refine (inStep_atLeast along fewest).bind fun arguments others asked => ?_
  refine inStep_allKnown along.config asked fun answers finals all => ?_
  refine (inStep_numbers all).bind fun numbers again equal => ?_
  subst equal
  exact inStep_finite (compute numbers)

theorem calculate_staysInStep (name : String) : Function.StaysInStep name calculate := by
  intro first second calls one other along
  refine inStep_matching along.config along.whole fun answer final same => ?_
  refine (inStep_expectText same "expression").bind ?_
  rintro text _ ⟨rfl, -⟩
  cases Arithmetic.evaluate text with
  | ok result => exact inStep_finite result
  | error fault =>
    cases fault with
    | divisionByZero => exact .failed _ _
    | moduloByZero => exact .failed _ _
    | _ => exact inStep_noted _ _

end Math

/-! ## Functions on truth -/

namespace Logic

theorem inStep_shortCircuit (config : other.scope.config = one.scope.config) (decisive : Bool)
    {operands lasts : List Value}
    (asked : List.Forall₂ (fun operand last =>
      Alike (Value.Matches one.scope.config calls) (first operand) (second last)) operands lasts) :
    Program.InStep first second (one.EndsAlike calls other) (shortCircuit one decisive operands)
      (shortCircuit other decisive lasts) := by
  induction asked with
  | nil => exact inStep_scalar trivial
  | cons here _ ih =>
    refine inStep_matching config here fun answer final same => ?_
    refine (inStep_expectTruth same).bind fun truth again equal => ?_
    subst equal
    split
    · exact inStep_scalar trivial
    · exact ih

theorem and_staysInStep (name : String) : Function.StaysInStep name Logic.and := by
  intro first second calls one other along
  exact (inStep_atLeast along 1).bind fun _ _ => inStep_shortCircuit along.config false

theorem or_staysInStep (name : String) : Function.StaysInStep name Logic.or := by
  intro first second calls one other along
  exact (inStep_atLeast along 1).bind fun _ _ => inStep_shortCircuit along.config true

theorem not_staysInStep (name : String) : Function.StaysInStep name Logic.not := by
  intro first second calls one other along
  refine (inStep_oneArgument along.items).bind fun operand last asked => ?_
  refine inStep_reading along.config asked fun answer final reads _ => ?_
  refine (inStep_expectTruth reads.same).bind fun truth again equal => ?_
  subst equal
  exact inStep_scalar trivial

/-- Items that match have a true one in the same place, or none. -/
theorem anyTrue_alike {config : Config} {items lasts : List Value}
    (all : List.Forall₂ (Value.Matches config calls) items lasts) :
    Alike (· = ·) (anyTrue items) (anyTrue lasts) := by
  induction all with
  | nil => exact .found rfl
  | cons same _ ih =>
    refine (Invocation.toBool_alike same).bind fun truth again equal => ?_
    subst equal
    cases truth with
    | true => exact .found rfl
    | false => exact ih

theorem any_staysInStep (name : String) : Function.StaysInStep name Logic.any := by
  intro first second calls one other along
  refine (inStep_oneArgument along.items).bind fun argument last asked => ?_
  refine inStep_reading along.config asked fun answer final reads _ => ?_
  refine (inStep_expectList reads.same "values").bind fun items lasts ⟨_, _, all⟩ => ?_
  have waiting : items.any one.isCall = lasts.any other.isCall := by
    unfold Invocation.isCall
    rw [along.config]
    exact any_eq_of_forall₂ (fun _ _ same => same.isCall_eq) all
  rw [waiting]
  split
  · exact inStep_keep
  · refine (Program.InStep.ofExcept (anyTrue_alike all)).bind fun truth again equal => ?_
    subst equal
    exact inStep_scalar trivial

theorem contains_staysInStep : Function.StaysInStep "Contains" Logic.contains := by
  intro first second calls one other along
  refine (inStep_twoArguments along.items).bind fun arguments lasts asked => ?_
  refine inStep_bothKnown along.config asked fun list final value last reads data also known => ?_
  obtain rfl := reads.equal (by decide) data
  obtain rfl := also.equal (by decide) known
  refine (inStep_expectList reads.same "list").bind fun items others ⟨here, there, _⟩ => ?_
  cases here.symm.trans there
  exact inStep_scalar trivial

theorem eachMemberIn_staysInStep : Function.StaysInStep "EachMemberIn" Logic.eachMemberIn := by
  intro first second calls one other along
  refine (inStep_twoArguments along.items).bind fun arguments lasts asked => ?_
  refine inStep_bothKnown along.config asked fun list final value last reads data also known => ?_
  obtain rfl := reads.equal (by decide) data
  obtain rfl := also.equal (by decide) known
  refine (inStep_expectList reads.same "members").bind fun items others ⟨here, there, _⟩ => ?_
  cases here.symm.trans there
  refine (inStep_expectList also.same "universe").bind fun items others ⟨here, there, _⟩ => ?_
  cases here.symm.trans there
  exact inStep_scalar trivial

theorem equals_staysInStep : Function.StaysInStep "Equals" Logic.equals := by
  intro first second calls one other along
  refine (inStep_twoArguments along.items).bind fun arguments lasts asked => ?_
  refine inStep_bothKnown along.config asked fun list final value last reads data also known => ?_
  obtain rfl := reads.equal (by decide) data
  obtain rfl := also.equal (by decide) known
  exact inStep_scalar trivial

/-- Both answers are calls, or neither is, and then a choice is decided alike. -/
def DecideAlike (first second : Value → Except Error Value) (one other : Invocation)
    (answer final : Value) : Prop :=
  answer.isCall one.scope.config = final.isCall one.scope.config ∧
    (answer.isCall one.scope.config = false → Program.InStep first second (· = ·)
      (conditionTruth one answer) (conditionTruth other final))

/-- What a choice is given at a place of its arguments: a condition, and values that match. -/
def Choices (first second : Value → Except Error Value) (calls : Value → Value → Prop)
    (one other : Invocation) (place : Nat) (item last : Value) : Prop :=
  if place = 0 then Alike (DecideAlike first second one other) (first item) (second last)
  else Alike (Value.Matches one.scope.config calls) (first item) (second last)

/-- Two choices end alike if their conditions have the same truth. -/
theorem choose_inStep (config : other.scope.config = one.scope.config)
    (items : Value.SideBySide (Choices first second calls one other) one.arguments
      other.arguments) :
    Program.InStep first second (one.EndsAlike calls other) (choose one) (choose other) := by
  refine (inStep_threeArguments items).bind ?_
  rintro ⟨condition, onTrue, onFalse⟩ ⟨also, whenTrue, whenFalse⟩ ⟨asked, yes, no⟩
  refine Invocation.inStep_known config asked (fun _ _ decide => decide.1) ?_
  intro answer final decide data
  refine (decide.2 data).bind fun decided again equal => ?_
  subst equal
  cases decided with
  | none => exact inStep_keep
  | some truth =>
    cases truth with
    | true => exact (Program.InStep.resolved yes).imp fun _ _ same => .inr same
    | false => exact (Program.InStep.resolved no).imp fun _ _ same => .inr same

/-- Conditions that match decide a choice alike, if a text names the same parameter in both. -/
theorem decideAlike_of_matches {answer final : Value}
    (same : answer.Matches one.scope.config calls final)
    (named : ∀ text, final = .string text →
      one.scope.parameters.get? text = other.scope.parameters.get? text) :
    DecideAlike first second one other answer final := by
  refine ⟨same.isCall_eq, fun data => ?_⟩
  have read : Program.InStep first second (· = ·)
      (do
        let truth ← Invocation.expectTruth answer
        pure (some truth))
      (do
        let truth ← Invocation.expectTruth final
        pure (some truth)) :=
    (inStep_expectTruth same).bind fun truth again equal => .done (congrArg some equal)
  cases answer with
  | list items =>
    obtain ⟨others, rfl, -⟩ := Value.matches_list_iff.1 same
    exact read
  | map entries =>
    obtain ⟨others, rfl⟩ := same.exists_map
    exact read
  | string text =>
    obtain rfl := same.eq_of_isScalar trivial
    unfold conditionTruth
    dsimp only
    rw [← named text rfl]
    cases one.scope.parameters.get? text with
    | none => exact Alike.found rfl
    | some value =>
      refine (Program.InStep.ofExcept (.of_eq (fun _ => rfl) value.toBool)).bind ?_
      exact fun truth again equal => .done (congrArg some equal)
  | bool truth =>
    obtain rfl := same.eq_of_isScalar trivial
    exact .done rfl
  | _ =>
    obtain rfl := same.eq_of_isScalar trivial
    exact read

end Logic

/-! ## All functions -/

theorem Math.definitions_stayInStep : ∀ definition ∈ Math.definitions,
    Function.StaysInStep definition.signature.name definition.function := by
  simp only [Math.definitions, List.forall_mem_cons]
  exact ⟨fold_staysInStep 2 sum _, fold_staysInStep 1 mean _, fold_staysInStep 1 greatest _,
    fold_staysInStep 1 least _, calculate_staysInStep _, List.forall_mem_nil _⟩

theorem Logic.definitions_stayInStep : ∀ definition ∈ Logic.definitions,
    definition.signature.name ≠ "If" →
      Function.StaysInStep definition.signature.name definition.function := by
  simp only [Logic.definitions, List.forall_mem_cons]
  exact ⟨fun _ => and_staysInStep _, fun _ => or_staysInStep _, fun _ => not_staysInStep _,
    fun _ => any_staysInStep _, fun _ => contains_staysInStep, fun _ => eachMemberIn_staysInStep,
    fun _ => equals_staysInStep, fun other => absurd rfl other, List.forall_mem_nil _⟩

theorem Strings.definitions_stayInStep : ∀ definition ∈ Strings.definitions,
    Function.StaysInStep definition.signature.name definition.function := by
  simp only [Strings.definitions, List.forall_mem_cons]
  exact ⟨join_staysInStep, split_staysInStep, Substitution.sub_staysInStep,
    base64Encode_staysInStep _, base64Decode_staysInStep _, str_staysInStep _, indent_staysInStep,
    replace_staysInStep, matchPattern_staysInStep, List.forall_mem_nil _⟩

theorem Collection.definitions_stayInStep : ∀ definition ∈ Collection.definitions,
    Function.StaysInStep definition.signature.name definition.function := by
  simp only [Collection.definitions, List.forall_mem_cons]
  exact ⟨select_staysInStep _, index_staysInStep, length_staysInStep _, listMerge_staysInStep _,
    selectMapList_staysInStep, List.forall_mem_nil _⟩

theorem Mapping.definitions_stayInStep : ∀ definition ∈ Mapping.definitions,
    Function.StaysInStep definition.signature.name definition.function := by
  simp only [Mapping.definitions, List.forall_mem_cons]
  exact ⟨findInMap_staysInStep, getJsonValue_staysInStep, mergeMapToList_staysInStep _,
    List.forall_mem_nil _⟩

/-- **All built-in functions end alike** for calls that stand side by side, but for choices. -/
theorem Registry.BuiltIn.staysInStep {registry : Registry} (builtIn : registry.BuiltIn)
    {name : String} {function : Function} (found : registry.function? name = some function)
    (other : name ≠ "If") : Function.StaysInStep name function := by
  obtain ⟨category, definition, grouped, rfl, rfl⟩ := builtIn.exists_definition found
  cases category with
  | math => exact Math.definitions_stayInStep definition grouped
  | logic => exact Logic.definitions_stayInStep definition grouped other
  | string => exact Strings.definitions_stayInStep definition grouped
  | collection => exact Collection.definitions_stayInStep definition grouped
  | mapping => exact Mapping.definitions_stayInStep definition grouped

/-- The function of the name `If` is the choice. -/
theorem Registry.BuiltIn.function?_if {registry : Registry} (builtIn : registry.BuiltIn)
    {function : Function} (found : registry.function? "If" = some function) :
    function = Logic.choose := by
  have standard := builtIn "If" function found
  cases standard
  rfl

end CloudTemplate