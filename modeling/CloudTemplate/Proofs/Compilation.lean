import CloudTemplate.Proofs.Caching
import CloudTemplate.Proofs.Outcome

/-!
# Which patterns a resolution has compiled

Functions have patterns compiled, and which ones depends on their arguments. Since results do not
depend on the trail, the texts that a resolution has compiled do not either, and they can be
computed without a cache, next to the outcomes (`Program.compilations`, `Resolver.compilations`).
After an error no further texts follow (`afterwards`).

An action *compiles* texts when it leaves behind the cache that was asked for these texts, whatever
cache it finds (`Trail.Compiles`). Combined actions compile the texts of their parts one after the
other (`Trail.Compiles.bind`), and so the resolution of a value compiles exactly the texts that are
computed for it (`Resolver.resolveWithin_compiles`).
-/

set_option autoImplicit false

namespace CloudTemplate

/-- The texts that follow a result, of which there are none after an error. -/
def afterwards {α : Type} (result : Except Error α) (next : α → List String) : List String :=
  match result with
  | .ok value => next value
  | .error _ => []

@[simp] theorem afterwards_nil {α : Type} (result : Except Error α) :
    afterwards result (fun _ => []) = [] := by
  cases result <;> rfl

namespace Trail

/-- The action leaves the cache that it finds, asked for the texts. -/
def Compiles {α : Type} (action : StateM Trail α) (texts : List String) : Prop :=
  ∀ trail, (action.run trail).2.cache = trail.cache.after texts

namespace Compiles

variable {α β : Type} {texts later : List String}

theorem pure (result : α) : Compiles (pure result) [] :=
  fun _ => rfl

theorem note (level : LogLevel) (line : String) : Compiles (Trail.note level line) [] :=
  fun _ => rfl

theorem compile (text : String) : Compiles (Trail.compile text) [text] :=
  fun _ => rfl

/-- Actions compile their texts one after the other. What the second one compiles must be the same
for everything that the first one may return. -/
theorem bind {action : StateM Trail α} {next : α → StateM Trail β} (first : Compiles action texts)
    (rest : ∀ trail, Compiles (next (action.run trail).1) later) :
    Compiles (action >>= next) (texts ++ later) := by
  intro trail
  have step : (action >>= next).run trail =
      (next (action.run trail).1).run (action.run trail).2 := rfl
  rw [step, rest trail, first trail, PatternCache.after_append]

/-- Nothing is added by an action that compiles nothing. -/
theorem bind_silent {action : StateM Trail α} {next : α → StateM Trail β}
    (first : Compiles action texts) (rest : ∀ value, Compiles (next value) []) :
    Compiles (action >>= next) texts := by
  have whole := first.bind fun trail => rest (action.run trail).1
  rw [List.append_nil] at whole
  exact whole

/-- What is done with a result compiles nothing. -/
theorem map {action : StateM Trail α} (first : Compiles action texts) (f : α → β) :
    Compiles (f <$> action) texts :=
  first

end Compiles

end Trail

/-! ## Attempts -/

namespace Tracked

open Trail

variable {α β : Type} {texts : List String}

/-- An attempt that goes on with a result compiles what follows this result. -/
theorem bind_compiles {attempt : Tracked α} {next : α → Tracked β} {result : Except Error α}
    {later : α → List String} (yields : attempt.Yields result)
    (first : Compiles attempt.run texts) (rest : ∀ value, Compiles (next value).run (later value)) :
    Compiles (attempt >>= next).run (texts ++ afterwards result later) := by
  rw [ExceptT.run_bind]
  refine first.bind fun trail => ?_
  rw [show (attempt.run.run trail).1 = result from yields trail]
  cases result with
  | ok value => exact rest value
  | error error => exact .pure _

theorem map_compiles {attempt : Tracked α} (first : Compiles attempt.run texts) (f : α → β) :
    Compiles (f <$> attempt).run texts := by
  rw [ExceptT.run_map]
  exact first.map _

theorem bind_pure_compiles {attempt : Tracked α} (first : Compiles attempt.run texts) (f : α → β) :
    Compiles (attempt >>= fun value => pure (f value)).run texts := by
  rw [bind_pure_comp]
  exact map_compiles first f

/-- An action that cannot fail compiles its texts, and then come those of the attempt. -/
theorem after_compiles {action : StateM Trail α} {next : α → Tracked β} {returned : α}
    {later : List String} (first : Compiles action texts)
    (returns : ∀ trail, (action.run trail).1 = returned)
    (rest : Compiles (next returned).run later) :
    Compiles (liftM action >>= next : Tracked β).run (texts ++ later) := by
  have step : (liftM action >>= next : Tracked β).run = action >>= fun value => (next value).run :=
    rfl
  rw [step]
  refine first.bind fun trail => ?_
  rw [returns trail]
  exact rest

/-- Errors that are changed on their way compile nothing. -/
theorem adapt_compiles {attempt : Tracked α} (first : Compiles attempt.run texts)
    (f : Error → Error) : Compiles (ExceptT.adapt f attempt : Tracked α).run texts :=
  first.map (Except.mapError f)

end Tracked

/-! ## Texts -/

/-- The texts that a program has compiled, given what values resolve to and what their resolution
has compiled. -/
def Program.compilations {α : Type} (answer : Value → Except Error Value)
    (inner : Value → List String) : Program α → List String
  | .done _ => []
  | .fail _ => []
  | .resolve value next =>
    inner value ++
      afterwards (answer value) fun resolved => (next resolved).compilations answer inner
  | .compile text next => text :: (next (Pattern.compile text)).compilations answer inner
  | .note _ next => next.compilations answer inner

namespace Resolver

/-- The texts that the resolution of values one after the other has compiled. -/
def compilationsOfAll (answer : Value → Except Error Value) (inner : Value → List String) :
    List Value → List String
  | [] => []
  | value :: values =>
    inner value ++ afterwards (answer value) fun _ => compilationsOfAll answer inner values

/-- The texts that the resolution of a value has compiled, given what it is for the values inside
it. -/
def compilationsOfNode (registry : Registry) (scope : Scope)
    (answer : Value → Except Error Value) (inner : Value → List String) (value : Value) :
    List String :=
  match value.call? scope.config with
  | some (.reference _) => []
  | some (.function key name arguments) =>
    match registry.function? name with
    | some function => (function ⟨key, name, arguments, scope⟩).compilations answer inner
    | none => []
  | none =>
    match value with
    | .map entries => compilationsOfAll answer inner (entries.map Prod.snd)
    | .list items => compilationsOfAll answer inner items
    | _ => []

/-- The texts that the resolution of a value with a number of levels has compiled. -/
def compilationsWithin (registry : Registry) (scope : Scope) :
    (levels : Nat) → Value → List String
  | 0, _ => []
  | levels + 1, value =>
    compilationsOfNode registry scope (outcome registry scope levels)
      (compilationsWithin registry scope levels) value

/-- The texts that the resolution of a value has compiled. -/
def compilations (registry : Registry) (scope : Scope) (value : Value) : List String :=
  compilationsWithin registry scope scope.config.maxDepth value

/-- A resolution yields answers and compiles texts, value by value. -/
structure Accounts (resolve : Value → Tracked Value) (answer : Value → Except Error Value)
    (inner : Value → List String) : Prop where
  yields : ∀ value, Attempt.Yields (resolve value) (answer value)
  compiles : ∀ value, Trail.Compiles (resolve value).run (inner value)

end Resolver

/-! ## Resolution -/

open Trail in
/-- References compile nothing. -/
theorem Reference.resolve_compiles (scope : Scope) (node target : Value) :
    Compiles (liftM (resolve scope node target) : Tracked Value).run [] := by
  unfold resolve
  cases target with
  | string name =>
    cases known : scope.parameters.get? name with
    | some value => exact fun _ => by simp only [known]; rfl
    | none => exact fun _ => by simp only [known]; rfl
  | _ => exact fun _ => rfl

section Accounts

open Trail

variable {resolve : Value → Tracked Value} {answer : Value → Except Error Value}
  {inner : Value → List String} (accounts : Resolver.Accounts resolve answer inner)
include accounts

theorem Program.run_compiles {α : Type} (program : Program α) :
    Compiles (program.run (Resolver.handler resolve)).run (program.compilations answer inner) := by
  induction program with
  | done result => exact .pure _
  | fail error => exact .pure _
  | resolve value next ih =>
    exact Tracked.bind_compiles (accounts.yields value) (accounts.compiles value) ih
  | compile text next ih =>
    exact Tracked.after_compiles (.compile text) (fun trail => trail.cache.get_fst text) (ih _)
  | note line next ih => exact Tracked.after_compiles (.note .trace line) (fun _ => rfl) ih

namespace Resolver

theorem resolveItems_compiles (items : List Value) :
    Compiles (resolveItems resolve items).run (compilationsOfAll answer inner items) := by
  induction items with
  | nil => exact .pure _
  | cons item items ih =>
    exact Tracked.bind_compiles (accounts.yields item) (accounts.compiles item) fun _ =>
      Tracked.bind_pure_compiles ih _

theorem resolveEntries_compiles (entries : List (String × Value)) :
    Compiles (resolveEntries resolve entries).run
      (compilationsOfAll answer inner (entries.map Prod.snd)) := by
  induction entries with
  | nil => exact .pure _
  | cons entry entries ih =>
    exact Tracked.bind_compiles (accounts.yields _) (accounts.compiles _) fun _ =>
      Tracked.bind_pure_compiles ih _

theorem resolveNode_compiles (registry : Registry) (scope : Scope) (value : Value) :
    Compiles (resolveNode registry scope resolve value).run
      (compilationsOfNode registry scope answer inner value) := by
  unfold resolveNode compilationsOfNode
  cases value.call? scope.config with
  | none =>
    cases value with
    | map entries => exact Tracked.map_compiles (resolveEntries_compiles accounts entries) Value.map
    | list items => exact Tracked.map_compiles (resolveItems_compiles accounts items) Value.list
    | _ => exact .pure _
  | some call =>
    cases call with
    | reference target => exact Reference.resolve_compiles scope value target
    | function key name arguments =>
      dsimp only [invoke]
      cases registry.function? name with
      | some function => exact Program.run_compiles accounts _
      | none => exact Tracked.after_compiles (.note .trace _) (fun _ => rfl) (.pure _)

end Resolver

end Accounts

namespace Resolver

/-- **Resolution compiles its texts**, whatever cache it starts with. -/
theorem resolveWithin_compiles (registry : Registry) (scope : Scope) (levels : Nat)
    (value : Value) :
    Trail.Compiles (resolveWithin registry scope levels value).run
      (compilationsWithin registry scope levels value) := by
  induction levels generalizing value with
  | zero => exact .pure _
  | succ levels ih =>
    exact resolveNode_compiles ⟨resolveWithin_yields registry scope levels, ih⟩ registry scope value

theorem resolve_accounts (registry : Registry) (scope : Scope) :
    Accounts (resolve registry scope) (outcome registry scope scope.config.maxDepth)
      (compilations registry scope) :=
  ⟨resolve_yields registry scope, resolveWithin_compiles registry scope scope.config.maxDepth⟩

end Resolver

end CloudTemplate
