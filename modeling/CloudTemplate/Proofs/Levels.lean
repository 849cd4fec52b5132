import CloudTemplate.Proofs.Outcome

/-!
# Levels

A resolution with too few levels ends in an error that says so. With more levels it either still
does, or it has found out what the value resolves to: every result that is not the want of levels
stays when levels are added (`Resolver.outcome_deepens`).

The configured maximum is what a resolution starts with, and functions could read it. Those that
do not are said to ignore it (`Function.IgnoresDepth`), and for a registry of such functions the
result does not depend on the maximum either, once it is large enough. A value *resolves* to
another one when it does so with some number of levels (`Resolver.Resolves`), and it resolves to
one value only (`Resolver.Resolves.unique`).
-/

set_option autoImplicit false

namespace CloudTemplate

/-! ## Results for want of levels -/

/-- There is no result for want of levels. -/
def Exhausted {α : Type} (result : Except Error α) : Prop :=
  ∃ bound, result = .error (.depthExceeded bound)

/-- With more levels the result stays, unless there was none for want of them. -/
def Deepens {α : Type} (less more : Except Error α) : Prop :=
  Exhausted less ∨ more = less

namespace Deepens

variable {α β : Type}

theorem refl (result : Except Error α) : Deepens result result :=
  .inr rfl

theorem bind {less more : Except Error α} {next later : α → Except Error β}
    (first : Deepens less more) (rest : ∀ value, Deepens (next value) (later value)) :
    Deepens (less >>= next) (more >>= later) := by
  rcases first with ⟨bound, rfl⟩ | rfl
  · exact .inl ⟨bound, rfl⟩
  · cases more with
    | ok value => exact rest value
    | error error => exact .refl _

theorem map {less more : Except Error α} (f : α → β) (first : Deepens less more) :
    Deepens (f <$> less) (f <$> more) := by
  rcases first with ⟨bound, rfl⟩ | rfl
  · exact .inl ⟨bound, rfl⟩
  · exact .refl _

theorem mapM {less more : α → Except Error β} (answers : ∀ value, Deepens (less value) (more value))
    (values : List α) : Deepens (values.mapM less) (values.mapM more) := by
  induction values with
  | nil => exact .refl _
  | cons value values ih =>
    rw [List.mapM_cons, List.mapM_cons]
    exact (answers value).bind fun first => ih.bind fun others => .refl _

/-- A value that was found with fewer levels is found with more. -/
theorem ok {less more : Except Error α} (deepens : Deepens less more) {value : α}
    (found : less = .ok value) : more = .ok value := by
  rcases deepens with ⟨bound, exhausted⟩ | same
  · rw [exhausted] at found
    cases found
  · rw [same, found]

end Deepens

/-- A program whose requests are answered with more levels. -/
theorem Program.outcome_deepens {α : Type} {less more : Value → Except Error Value}
    (answers : ∀ value, Deepens (less value) (more value)) (program : Program α) :
    Deepens (program.outcome less) (program.outcome more) := by
  induction program with
  | done result => exact .refl _
  | fail error => exact .refl _
  | resolve value next ih => exact (answers value).bind ih
  | compile text next ih => exact ih _
  | note line next ih => exact ih

/-! ## Values that are calls -/

/-- A map with the key of a function is a call of it, unless the key is that of references. -/
theorem Value.call?_ofCall {config : Config} (mark : config.functionMark = "Fn::")
    {key name : String} (reference : key ≠ config.referenceKey)
    (named : Text.after? "Fn::".toList key.toList = some name.toList) (arguments : Value) :
    (Value.ofCall key arguments).call? config = some (.function key name arguments) := by
  unfold ofCall call?
  dsimp only
  rw [if_neg reference, Call.functionName?, mark, named]
  exact congrArg (fun name => some (Call.function key name arguments)) String.ofList_toList

/-! ## The configured maximum -/

/-- The scope with another maximum of levels. -/
def Scope.withMaxDepth (scope : Scope) (depth : Nat) : Scope :=
  { scope with config := { scope.config with maxDepth := depth } }

/-- The invocation with another maximum of levels. -/
def Invocation.withMaxDepth (call : Invocation) (depth : Nat) : Invocation :=
  { call with scope := call.scope.withMaxDepth depth }

/-- What the function does is independent of the maximum of levels. -/
def Function.IgnoresDepth (function : Function) : Prop :=
  ∀ call depth, function (Invocation.withMaxDepth call depth) = function call

/-- No function of the registry looks at the maximum of levels. -/
def Registry.IgnoresDepth (registry : Registry) : Prop :=
  ∀ name function, registry.function? name = some function → Function.IgnoresDepth function

namespace Resolver

/-- The marks of calls are all that a configuration tells about which values are calls. -/
theorem call?_withMaxDepth (scope : Scope) (depth : Nat) (value : Value) :
    value.call? (scope.withMaxDepth depth).config = value.call? scope.config := rfl

theorem outcomeNode_deepens {registry : Registry} (ignores : registry.IgnoresDepth)
    {less more : Value → Except Error Value} (answers : ∀ value, Deepens (less value) (more value))
    (scope : Scope) (depth : Nat) (value : Value) :
    Deepens (outcomeNode registry scope less value)
      (outcomeNode registry (scope.withMaxDepth depth) more value) := by
  unfold outcomeNode
  rw [call?_withMaxDepth]
  cases value.call? scope.config with
  | none =>
    cases value with
    | map entries => exact (Deepens.mapM (fun entry => (answers entry.2).map _) entries).map _
    | list items => exact (Deepens.mapM answers items).map _
    | _ => exact .refl _
  | some call =>
    cases call with
    | reference target => exact .refl _
    | function key name arguments =>
      dsimp only
      cases found : registry.function? name with
      | none => exact .refl _
      | some function =>
        have same := ignores name function found ⟨key, name, arguments, scope⟩ depth
        dsimp only
        rw [show (⟨key, name, arguments, scope.withMaxDepth depth⟩ : Invocation) =
          Invocation.withMaxDepth ⟨key, name, arguments, scope⟩ depth from rfl, same]
        exact Program.outcome_deepens answers _

/-- **More levels keep the result**, and so does another maximum to start with. -/
theorem outcome_deepens {registry : Registry} (ignores : registry.IgnoresDepth) (scope : Scope)
    (depth : Nat) {levels more : Nat} (enough : levels ≤ more) (value : Value) :
    Deepens (outcome registry scope levels value)
      (outcome registry (scope.withMaxDepth depth) more value) := by
  induction levels generalizing more value with
  | zero => exact .inl ⟨_, rfl⟩
  | succ levels ih =>
    obtain ⟨further, rfl⟩ : ∃ further, more = further + 1 := ⟨more - 1, by omega⟩
    exact outcomeNode_deepens ignores (fun inner => ih (by omega) inner) scope depth value

/-! ## Resolution with some number of levels -/

section Calls

variable {registry : Registry} {scope : Scope} {value : Value} (levels : Nat)

/-- A reference takes one level. -/
theorem outcome_reference {target : Value}
    (is_call : value.call? scope.config = some (.reference target)) :
    outcome registry scope (levels + 1) value = .ok (Reference.outcome scope value target) := by
  change outcomeNode registry scope _ value = _
  unfold outcomeNode
  rw [is_call]

variable {key name : String} {arguments : Value}
  (is_call : value.call? scope.config = some (.function key name arguments))
include is_call

/-- The call of a known function takes one level, and its answers are found with what is left. -/
theorem outcome_function {function : Function} (known : registry.function? name = some function) :
    outcome registry scope (levels + 1) value =
      (function ⟨key, name, arguments, scope⟩).outcome (outcome registry scope levels) := by
  change outcomeNode registry scope _ value = _
  unfold outcomeNode
  rw [is_call]
  dsimp only
  rw [known]

/-- The call of an unknown function is kept. -/
theorem outcome_unknown (unknown : registry.function? name = none) :
    outcome registry scope (levels + 1) value = .ok (.ofCall key arguments) := by
  change outcomeNode registry scope _ value = _
  unfold outcomeNode
  rw [is_call]
  dsimp only
  rw [unknown]

end Calls

/-- The value resolves to the result, with some number of levels. -/
def Resolves (registry : Registry) (scope : Scope) (value result : Value) : Prop :=
  ∃ levels, outcome registry scope levels value = .ok result

/-- What a reference resolves to. -/
theorem resolves_reference {registry : Registry} {scope : Scope} {value target : Value}
    (is_call : value.call? scope.config = some (.reference target)) :
    Resolves registry scope value (Reference.outcome scope value target) :=
  ⟨1, outcome_reference 0 is_call⟩

/-- What the call of a known function resolves to. -/
theorem resolves_function_iff {registry : Registry} {scope : Scope} {value result : Value}
    {key name : String} {arguments : Value} {function : Function}
    (is_call : value.call? scope.config = some (.function key name arguments))
    (known : registry.function? name = some function) :
    Resolves registry scope value result ↔
      ∃ levels, (function ⟨key, name, arguments, scope⟩).outcome (outcome registry scope levels) =
        .ok result := by
  constructor
  · rintro ⟨_ | levels, found⟩
    · cases found
    · exact ⟨levels, (outcome_function levels is_call known).symm.trans found⟩
  · rintro ⟨levels, found⟩
    exact ⟨levels + 1, (outcome_function levels is_call known).trans found⟩

/-- The call of an unknown function resolves to itself. -/
theorem Resolves.eq_of_unknown {registry : Registry} {scope : Scope} {value result : Value}
    {key name : String} {arguments : Value}
    (is_call : value.call? scope.config = some (.function key name arguments))
    (unknown : registry.function? name = none) (resolves : Resolves registry scope value result) :
    result = .ofCall key arguments := by
  obtain ⟨_ | levels, found⟩ := resolves
  · cases found
  · exact Except.ok.inj (found.symm.trans (outcome_unknown levels is_call unknown))

/-- A value that is found with fewer levels is found with more. -/
theorem outcome_mono {registry : Registry} (ignores : registry.IgnoresDepth) {scope : Scope}
    {levels more : Nat} (enough : levels ≤ more) {value result : Value}
    (found : outcome registry scope levels value = .ok result) :
    outcome registry scope more value = .ok result :=
  (outcome_deepens ignores scope scope.config.maxDepth enough value).ok found

/-- A value resolves to one value only. -/
theorem Resolves.unique {registry : Registry} (ignores : registry.IgnoresDepth) {scope : Scope}
    {value first second : Value} (one : Resolves registry scope value first)
    (other : Resolves registry scope value second) : first = second := by
  obtain ⟨levels, found⟩ := one
  obtain ⟨more, again⟩ := other
  have here := outcome_mono ignores (Nat.le_max_left levels more) found
  have there := outcome_mono ignores (Nat.le_max_right levels more) again
  rw [here] at there
  cases there
  rfl

/-- Which maximum is configured does not matter. -/
theorem resolves_withMaxDepth_iff {registry : Registry} (ignores : registry.IgnoresDepth)
    (scope : Scope) (depth : Nat) (value result : Value) :
    Resolves registry (scope.withMaxDepth depth) value result ↔
      Resolves registry scope value result := by
  constructor
  · rintro ⟨levels, found⟩
    exact ⟨levels, (outcome_deepens ignores (scope.withMaxDepth depth) scope.config.maxDepth
      (Nat.le_refl levels) value).ok found⟩
  · rintro ⟨levels, found⟩
    exact ⟨levels, (outcome_deepens ignores scope depth (Nat.le_refl levels) value).ok found⟩

/-- From some maximum on, the resolver finds what a value resolves to. -/
theorem Resolves.eventually {registry : Registry} (ignores : registry.IgnoresDepth)
    {scope : Scope} {value result : Value} (resolves : Resolves registry scope value result) :
    ∃ enough, ∀ depth, enough ≤ depth →
      Attempt.Yields (resolve registry (scope.withMaxDepth depth) value) (.ok result) := by
  obtain ⟨levels, found⟩ := resolves
  refine ⟨levels, fun depth enough trail => ?_⟩
  rw [resolve_yields registry (scope.withMaxDepth depth) value trail]
  exact (outcome_deepens ignores scope depth enough value).ok found

/-- What the resolver finds is what the value resolves to. -/
theorem resolves_of_resultFrom {registry : Registry} (ignores : registry.IgnoresDepth)
    {scope : Scope} {depth : Nat} {value result : Value} {trail : Trail}
    (found : (resolve registry (scope.withMaxDepth depth) value).resultFrom trail = .ok result) :
    Resolves registry scope value result := by
  rw [resolve_yields registry (scope.withMaxDepth depth) value trail] at found
  exact (resolves_withMaxDepth_iff ignores scope depth value result).1 ⟨_, found⟩

end Resolver

end CloudTemplate
