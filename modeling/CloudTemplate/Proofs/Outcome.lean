import CloudTemplate.Resolver

/-!
# Outcomes without trails

A resolution leaves a trail, but what it results in does not depend on the trail that it found.
An attempt *yields* a result when it has this result from whatever state it starts
(`Attempt.Yields`). Combined attempts yield combined results, so the results of a resolution
can be computed without a state: `Program.outcome` carries a program out with a plain function in
the place of a handler, and `Resolver.outcome` is the resolution of values in this form. That
the resolver yields it (`Resolver.resolveWithin_yields`) rests on the cache: a cache holds under a
text only what compiling the text gives.
-/

set_option autoImplicit false

namespace CloudTemplate

/-- A combination of computations succeeds when both do. -/
theorem bind_eq_ok_iff {ε α β : Type} {first : Except ε α} {next : α → Except ε β} {result : β} :
    (first >>= next) = .ok result ↔ ∃ value, first = .ok value ∧ next value = .ok result := by
  cases first with
  | error error =>
    constructor
    · nofun
    · rintro ⟨value, found, _⟩
      cases found
  | ok value =>
    constructor
    · exact fun found => ⟨value, rfl, found⟩
    · rintro ⟨_, found, later⟩
      cases found
      exact later

/-- A combination of computations fails when one of them does. -/
theorem bind_eq_error_iff {ε α β : Type} {first : Except ε α} {next : α → Except ε β} {error : ε} :
    (first >>= next) = .error error ↔
      first = .error error ∨ ∃ value, first = .ok value ∧ next value = .error error := by
  cases first with
  | error met =>
    constructor
    · intro failed
      cases failed
      exact .inl rfl
    · rintro (failed | ⟨value, found, _⟩)
      · cases failed
        rfl
      · cases found
  | ok value =>
    constructor
    · exact fun failed => .inr ⟨value, rfl, failed⟩
    · rintro (failed | ⟨_, found, later⟩)
      · cases failed
      · cases found
        exact later

theorem map_eq_ok_iff {ε α β : Type} {first : Except ε α} {f : α → β} {result : β} :
    f <$> first = .ok result ↔ ∃ value, first = .ok value ∧ f value = result := by
  cases first with
  | error error =>
    constructor
    · nofun
    · rintro ⟨value, found, _⟩
      cases found
  | ok value =>
    constructor
    · exact fun found => ⟨value, rfl, Except.ok.inj found⟩
    · rintro ⟨_, found, rfl⟩
      cases found
      rfl

/-- Both computations fail, or both succeed with related results. -/
inductive Alike {α β : Type} (related : α → β → Prop) : Except Error α → Except Error β → Prop
  | failed (error other : Error) : Alike related (.error error) (.error other)
  | found {value : α} {other : β} (here : related value other) :
      Alike related (.ok value) (.ok other)

namespace Alike

variable {α β γ δ : Type} {related : α → β → Prop} {first : Except Error α}
  {second : Except Error β}

/-- Results that are the same are alike. -/
theorem of_eq {related : α → α → Prop} (refl : ∀ value, related value value)
    (result : Except Error α) : Alike related result result := by
  cases result with
  | error error => exact .failed error error
  | ok value => exact .found (refl value)

/-- What is found for a computation that is alike to itself is related to itself. -/
theorem self_of_ok {related : α → α → Prop} {result : Except Error α} {value : α}
    (alike : Alike related result result) (found : result = .ok value) : related value value := by
  subst found
  cases alike with
  | found here => exact here

/-- A computation is alike to itself if what is found is related to itself. -/
theorem of_ok {related : α → α → Prop} {result : Except Error α}
    (each : ∀ value, result = .ok value → related value value) : Alike related result result := by
  cases result with
  | error error => exact .failed error error
  | ok value => exact .found (each value rfl)

theorem bind (alike : Alike related first second) {further : γ → δ → Prop}
    {next : α → Except Error γ} {later : β → Except Error δ}
    (rest : ∀ value other, related value other → Alike further (next value) (later other)) :
    Alike further (first >>= next) (second >>= later) := by
  cases alike with
  | failed error other => exact .failed error other
  | found here => exact rest _ _ here

theorem map (alike : Alike related first second) {further : γ → δ → Prop} {f : α → γ} {g : β → δ}
    (each : ∀ value other, related value other → further (f value) (g other)) :
    Alike further (f <$> first) (g <$> second) := by
  cases alike with
  | failed error other => exact .failed error other
  | found here => exact .found (each _ _ here)

theorem imp (alike : Alike related first second) {weaker : α → β → Prop}
    (implies : ∀ value other, related value other → weaker value other) :
    Alike weaker first second := by
  cases alike with
  | failed error other => exact .failed error other
  | found here => exact .found (implies _ _ here)

/-- The related results are the ones that were found. -/
theorem and_found (alike : Alike related first second) :
    Alike (fun value other => related value other ∧ first = .ok value ∧ second = .ok other)
      first second := by
  cases alike with
  | failed error other => exact .failed error other
  | found here => exact .found ⟨here, rfl, rfl⟩

theorem exists_ok_iff (alike : Alike related first second) :
    (∃ value, first = .ok value) ↔ ∃ other, second = .ok other := by
  cases alike with
  | failed error other => exact ⟨nofun, nofun⟩
  | found here => exact ⟨fun _ => ⟨_, rfl⟩, fun _ => ⟨_, rfl⟩⟩

end Alike

/-! ## Results that do not depend on the state -/

namespace Attempt

variable {State α β : Type}

/-- The result of an attempt that starts in the given state. -/
def resultFrom (attempt : Attempt State α) (state : State) : Except Error α :=
  (attempt.run.run state).1

/-- The attempt has the result from every state. -/
def Yields (attempt : Attempt State α) (result : Except Error α) : Prop :=
  ∀ state, attempt.resultFrom state = result

/-- A combination goes on with the result and the state that its first part leaves. -/
theorem resultFrom_bind (attempt : Attempt State α) (next : α → Attempt State β)
    (state : State) :
    (attempt >>= next).resultFrom state =
      match attempt.resultFrom state with
      | .ok result => (next result).resultFrom (attempt.run.run state).2
      | .error error => .error error := by
  simp only [resultFrom, ExceptT.run_bind, StateT.run_bind]
  rcases attempt.run.run state with ⟨result, later⟩
  cases result <;> rfl

namespace Yields

theorem pure (result : α) : Yields (pure result : Attempt State α) (.ok result) :=
  fun _ => rfl

theorem throw (error : Error) : Yields (throw error : Attempt State α) (.error error) :=
  fun _ => rfl

theorem ofExcept (result : Except Error α) : Yields (ofExcept result : Attempt State α) result :=
  fun _ => rfl

theorem bind {attempt : Attempt State α} {next : α → Attempt State β} {result : Except Error α}
    {later : α → Except Error β} (first : Yields attempt result)
    (rest : ∀ value, Yields (next value) (later value)) :
    Yields (attempt >>= next) (result >>= later) := by
  intro state
  rw [resultFrom_bind, first state]
  cases result with
  | ok value => exact rest value _
  | error error => rfl

theorem map {attempt : Attempt State α} {result : Except Error α} (f : α → β)
    (first : Yields attempt result) : Yields (f <$> attempt) (f <$> result) := by
  have rest : ∀ value, Yields (Pure.pure (f value) : Attempt State β) (.ok (f value)) :=
    fun value => .pure (f value)
  have combined := first.bind rest
  rw [bind_pure_comp] at combined
  cases result with
  | ok value => exact combined
  | error error => exact combined

/-- Errors that are changed on their way do not depend on the state either. -/
theorem adapt {attempt : Attempt State α} {result : Except Error α} (f : Error → Error)
    (first : Yields attempt result) :
    Yields (ExceptT.adapt f attempt : Attempt State α) (result.mapError f) :=
  fun state => congrArg (Except.mapError f) (first state)

/-- An action on the state that cannot fail does not change what comes after it, if it always
returns the same. -/
theorem after {action : StateM State α} {returned : α} {next : α → Attempt State β}
    {result : Except Error β} (returns : ∀ state, (action.run state).1 = returned)
    (rest : Yields (next returned) result) : Yields (liftM action >>= next) result := by
  intro state
  have step : resultFrom (liftM action >>= next) state =
      (next (action.run state).1).resultFrom (action.run state).2 := rfl
  rw [step, returns state]
  exact rest _

end Yields

end Attempt

/-! ## Programs -/

namespace Program

variable {α β : Type}

/-- The result of a program when a function answers its requests for values. -/
def outcome (answer : Value → Except Error Value) : Program α → Except Error α
  | .done result => .ok result
  | .fail error => .error error
  | .resolve value next => do
    let resolved ← answer value
    outcome answer (next resolved)
  | .compile text next => outcome answer (next (Pattern.compile text))
  | .note _ next => outcome answer next

theorem outcome_ofExcept (answer : Value → Except Error Value) (result : Except Error α) :
    (ofExcept result).outcome answer = result := by
  cases result <;> rfl

/-- A combined program has the combined result. -/
theorem outcome_bind (answer : Value → Except Error Value) (program : Program α)
    (next : α → Program β) :
    (program.bind next).outcome answer =
      program.outcome answer >>= fun result => (next result).outcome answer := by
  induction program with
  | done result => rfl
  | fail error => rfl
  | resolve value rest ih =>
    simp only [bind, outcome]
    cases answer value with
    | ok resolved => exact ih resolved
    | error error => rfl
  | compile text rest ih => exact ih _
  | note line rest ih => exact ih

/-- Carrying a program out with a handler whose answers do not depend on the trail yields its
result for those answers. -/
theorem run_yields {resolve : Value → Tracked Value} {answer : Value → Except Error Value}
    (answers : ∀ value, Attempt.Yields (resolve value) (answer value)) (program : Program α) :
    Attempt.Yields (program.run (Resolver.handler resolve)) (program.outcome answer) := by
  induction program with
  | done result => exact .pure result
  | fail error => exact .throw error
  | resolve value next ih => exact (answers value).bind ih
  | compile text next ih =>
    exact .after (fun trail => trail.cache.get_fst text) (ih _)
  | note line next ih => exact .after (fun _ => rfl) ih

end Program

/-- A value that resolves to something known is gone on with. -/
theorem Invocation.outcome_known (call : Invocation) {answer : Value → Except Error Value}
    {value result : Value} (resolved : answer value = .ok result)
    (known : call.isCall result = false) (next : Value → Program Value) :
    (call.known value next).outcome answer = (next result).outcome answer := by
  change (answer value >>= fun found =>
    (if call.isCall found then call.keep else next found).outcome answer) = _
  rw [resolved]
  change (if call.isCall result then call.keep else next result).outcome answer = _
  rw [known]
  rfl

/-- A value that resolves to a call keeps the call that it is an argument of. -/
theorem Invocation.outcome_kept (call : Invocation) {answer : Value → Except Error Value}
    {value result : Value} (resolved : answer value = .ok result)
    (waiting : call.isCall result = true) (next : Value → Program Value) :
    (call.known value next).outcome answer = .ok call.node := by
  change (answer value >>= fun found =>
    (if call.isCall found then call.keep else next found).outcome answer) = _
  rw [resolved]
  change (if call.isCall result then call.keep else next result).outcome answer = _
  rw [waiting]
  rfl

/-! ## Resolution -/

/-- What a reference stands for: the value of the parameter that it names, or itself. -/
def Reference.outcome (scope : Scope) (node target : Value) : Value :=
  match target with
  | .string name => (scope.parameters.get? name).getD node
  | _ => node

/-- A reference to something that is no parameter is noted and kept. -/
theorem Reference.resolve_yields (scope : Scope) (node target : Value) :
    Attempt.Yields (liftM (resolve scope node target) : Tracked Value)
      (.ok (outcome scope node target)) := by
  unfold resolve outcome
  cases target with
  | string name =>
    cases known : scope.parameters.get? name with
    | some value => exact fun _ => by simp only [known]; rfl
    | none => exact fun _ => by simp only [known]; rfl
  | _ => exact fun _ => rfl

namespace Resolver

/-- The values at the keys of entries, which keep their keys. -/
def outcomeEntries (answer : Value → Except Error Value) (entries : List (String × Value)) :
    Except Error (List (String × Value)) :=
  entries.mapM fun entry => (entry.1, ·) <$> answer entry.2

/-- What a value resolves to, given what the values inside it resolve to. -/
def outcomeNode (registry : Registry) (scope : Scope) (answer : Value → Except Error Value)
    (value : Value) : Except Error Value :=
  match value.call? scope.config with
  | some (.reference target) => .ok (Reference.outcome scope value target)
  | some (.function key name arguments) =>
    match registry.function? name with
    | some function => (function ⟨key, name, arguments, scope⟩).outcome answer
    | none => .ok (.ofCall key arguments)
  | none =>
    match value with
    | .map entries => .map <$> outcomeEntries answer entries
    | .list items => .list <$> items.mapM answer
    | scalar => .ok scalar

/-- What a value resolves to with a number of levels. -/
def outcome (registry : Registry) (scope : Scope) : (levels : Nat) → Value → Except Error Value
  | 0, _ => .error (.depthExceeded scope.config.maxDepth)
  | levels + 1, value => outcomeNode registry scope (outcome registry scope levels) value

section Answers

variable {resolve : Value → Tracked Value} {answer : Value → Except Error Value}
  (answers : ∀ value, Attempt.Yields (resolve value) (answer value))
include answers

theorem resolveItems_yields (items : List Value) :
    Attempt.Yields (resolveItems resolve items) (items.mapM answer) := by
  induction items with
  | nil => exact .pure []
  | cons item items ih =>
    rw [List.mapM_cons]
    exact (answers item).bind fun first => ih.bind fun others => .pure (first :: others)

theorem resolveEntries_yields (entries : List (String × Value)) :
    Attempt.Yields (resolveEntries resolve entries) (outcomeEntries answer entries) := by
  induction entries with
  | nil => exact .pure []
  | cons entry entries ih =>
    obtain ⟨key, value⟩ := entry
    rw [outcomeEntries, List.mapM_cons, map_eq_pure_bind, LawfulMonad.bind_assoc]
    exact (answers value).bind fun first => ih.bind fun others => .pure ((key, first) :: others)

theorem resolveNode_yields (registry : Registry) (scope : Scope) (value : Value) :
    Attempt.Yields (resolveNode registry scope resolve value)
      (outcomeNode registry scope answer value) := by
  unfold resolveNode outcomeNode
  cases value.call? scope.config with
  | none =>
    cases value with
    | map entries => exact (resolveEntries_yields answers entries).map Value.map
    | list items => exact (resolveItems_yields answers items).map Value.list
    | _ => exact .pure _
  | some call =>
    cases call with
    | reference target => exact Reference.resolve_yields scope value target
    | function key name arguments =>
      dsimp only [invoke]
      cases registry.function? name with
      | some function => exact Program.run_yields answers _
      | none => exact .after (fun _ => rfl) (.pure _)

end Answers

/-- **Resolution yields its outcome**, whatever trail it starts with. -/
theorem resolveWithin_yields (registry : Registry) (scope : Scope) (levels : Nat) (value : Value) :
    Attempt.Yields (resolveWithin registry scope levels value)
      (outcome registry scope levels value) := by
  induction levels generalizing value with
  | zero => exact .throw _
  | succ levels ih => exact resolveNode_yields ih registry scope value

theorem resolve_yields (registry : Registry) (scope : Scope) (value : Value) :
    Attempt.Yields (resolve registry scope value)
      (outcome registry scope scope.config.maxDepth value) :=
  resolveWithin_yields registry scope scope.config.maxDepth value

end Resolver

end CloudTemplate
