import CloudTemplate.Proofs.Outcome

/-!
# The counter of levels

A resolver can keep track of its levels with a counter: it goes up when a value is about to be
resolved, is compared with the limit, and goes down when the value is done, whether there was a
result or an error (`Resolver.counted`). Everything that happens meanwhile, in the children of a
value or in the functions that are called, finds the counter where it is and moves it too.

That is the same as handing down the number of levels that are left. An attempt *counts* at a depth
if it has the result and the trail of an attempt without a counter, and leaves the counter at this
depth (`Attempt.Counts`). What is combined from attempts that count at a depth counts at this depth,
so a value does if what is resolved inside it counts one deeper, and by induction on the levels that
are left the counter never goes wrong (`Resolver.counted_counts`): neither an error nor a sibling
leaves anything behind.
-/

set_option autoImplicit false

namespace CloudTemplate

/-- What a resolver with a counter keeps: how many values it is inside of, and the trail. -/
structure Count where
  depth : Nat
  trail : Trail

namespace Count

variable {α : Type}

/-- An action on the trail. -/
def onTrail (action : StateM Trail α) : StateM Count α := fun count =>
  let (result, trail) := action.run count.trail
  (result, { count with trail })

/-- Sets the counter. -/
def setDepth (depth : Nat) : StateM Count Unit :=
  modify fun count => { count with depth }

end Count

/-- A computation that counts, leaves a trail and may fail. -/
abbrev Counted := Attempt Count

namespace Resolver

/-- Answers the requests of functions with the given resolution of values. -/
def countedHandler (resolve : Value → Counted Value) : Handler Count where
  resolve := resolve
  compile text := Count.onTrail (Trail.compile text)
  note line := Count.onTrail (Trail.note .trace line)

/-- Resolves a value at the depth that the counter tells, given the resolution of the values inside
it. -/
def countedNode (registry : Registry) (scope : Scope) (resolve : Value → Counted Value)
    (value : Value) : Counted Value :=
  match value.call? scope.config with
  | some (.reference target) => liftM (Count.onTrail (Reference.resolve scope value target))
  | some (.function key name arguments) =>
    match registry.function? name with
    | some function => (function ⟨key, name, arguments, scope⟩).run (countedHandler resolve)
    | none => do
      liftM (Count.onTrail (Trail.note .trace ("passing through unsupported function " ++ key)))
      pure (.ofCall key arguments)
  | none =>
    match value with
    | .map entries => .map <$> entries.mapM fun entry => (entry.1, ·) <$> resolve entry.2
    | .list items => .list <$> items.mapM resolve
    | scalar => pure scalar

/-- Resolves a value with a counter, which goes up before and down afterwards. The fuel bounds the
recursion and has to be more than the counter can count. -/
def counted (registry : Registry) (scope : Scope) : (fuel : Nat) → Value → Counted Value
  | 0, _ => throw (.depthExceeded scope.config.maxDepth)
  | fuel + 1, value => ExceptT.mk do
    let depth := (← get).depth + 1
    if scope.config.maxDepth < depth then
      return .error (.depthExceeded scope.config.maxDepth)
    Count.setDepth depth
    let result ← (countedNode registry scope (counted registry scope fuel) value).run
    Count.setDepth (depth - 1)
    return result

end Resolver

/-! ## Counting at a depth -/

/-- The first attempt has the result and the trail of the second one, and leaves the counter at the
depth at which it found it. -/
def Attempt.Counts {α : Type} (depth : Nat) (counting : Counted α) (plain : Tracked α) : Prop :=
  ∀ trail, counting.run.run ⟨depth, trail⟩ =
    ((plain.run.run trail).1, ⟨depth, (plain.run.run trail).2⟩)

namespace Attempt.Counts

variable {α β : Type} {depth : Nat}

theorem pure (result : α) : Counts depth (pure result) (pure result) :=
  fun _ => rfl

theorem throw (error : Error) : Counts depth (throw error : Counted α) (throw error) :=
  fun _ => rfl

theorem onTrail (action : StateM Trail α) :
    Counts depth (liftM (Count.onTrail action)) (liftM action) :=
  fun _ => rfl

theorem bind {counting : Counted α} {plain : Tracked α} {next : α → Counted β}
    {later : α → Tracked β} (first : Counts depth counting plain)
    (rest : ∀ value, Counts depth (next value) (later value)) :
    Counts depth (counting >>= next) (plain >>= later) := by
  intro trail
  simp only [ExceptT.run_bind, StateT.run_bind, first trail]
  rcases plain.run.run trail with ⟨result, left⟩
  cases result with
  | ok value => exact rest value left
  | error error => rfl

theorem map {counting : Counted α} {plain : Tracked α} (f : α → β)
    (first : Counts depth counting plain) : Counts depth (f <$> counting) (f <$> plain) := by
  rw [map_eq_pure_bind, map_eq_pure_bind]
  exact first.bind fun value => .pure (f value)

end Attempt.Counts

open Attempt (Counts)

section Answers

variable {depth : Nat} {counting : Value → Counted Value} {plain : Value → Tracked Value}
  (answers : ∀ value, Counts depth (counting value) (plain value))
include answers

theorem Program.run_counts {α : Type} (program : Program α) :
    Counts depth (program.run (Resolver.countedHandler counting))
      (program.run (Resolver.handler plain)) := by
  induction program with
  | done result => exact .pure result
  | fail error => exact .throw error
  | resolve value next ih => exact (answers value).bind ih
  | compile text next ih => exact (Counts.onTrail (Trail.compile text)).bind ih
  | note line next ih => exact (Counts.onTrail (Trail.note .trace line)).bind fun _ => ih

namespace Resolver

theorem items_count (items : List Value) :
    Counts depth (items.mapM counting) (resolveItems plain items) := by
  induction items with
  | nil => exact .pure []
  | cons item items ih =>
    rw [List.mapM_cons]
    exact (answers item).bind fun first => ih.bind fun others => .pure (first :: others)

theorem entries_count (entries : List (String × Value)) :
    Counts depth (entries.mapM fun entry => (entry.1, ·) <$> counting entry.2)
      (resolveEntries plain entries) := by
  induction entries with
  | nil => exact .pure []
  | cons entry entries ih =>
    obtain ⟨key, value⟩ := entry
    rw [List.mapM_cons, map_eq_pure_bind, LawfulMonad.bind_assoc]
    exact (answers value).bind fun first => ih.bind fun others => .pure ((key, first) :: others)

theorem node_counts (registry : Registry) (scope : Scope) (value : Value) :
    Counts depth (countedNode registry scope counting value)
      (resolveNode registry scope plain value) := by
  unfold countedNode resolveNode
  cases is_call : value.call? scope.config with
  | none =>
    cases value with
    | map entries => exact (entries_count answers entries).map Value.map
    | list items => exact (items_count answers items).map Value.list
    | _ => exact .pure _
  | some call =>
    cases call with
    | reference target => exact .onTrail _
    | function key name arguments =>
      dsimp only [invoke]
      cases registry.function? name with
      | some function => exact Program.run_counts answers _
      | none => exact (Counts.onTrail _).bind fun _ => .pure _

end Resolver

end Answers

namespace Resolver

/-- **The counter is right**: with it a value has the result that it has with the levels that are
left, and afterwards the counter is what it was before. -/
theorem counted_counts (registry : Registry) (scope : Scope) {fuel depth levels : Nat}
    (level : depth + levels = scope.config.maxDepth) (enough : levels < fuel) (value : Value) :
    Counts depth (counted registry scope fuel value)
      (resolveWithin registry scope levels value) := by
  induction fuel generalizing depth levels value with
  | zero => exact absurd enough (Nat.not_lt_zero levels)
  | succ fuel ih =>
    intro trail
    cases levels with
    | zero =>
      have full : scope.config.maxDepth < depth + 1 := by omega
      change ((if scope.config.maxDepth < depth + 1 then _ else _ : StateM Count _).run _) = _
      rw [if_pos full]
      rfl
    | succ levels =>
      have room : ¬scope.config.maxDepth < depth + 1 := by omega
      have answers : ∀ value, Counts (depth + 1) (counted registry scope fuel value)
          (resolveWithin registry scope levels value) :=
        fun value => ih (by omega) (by omega) value
      have inner := node_counts answers registry scope value trail
      change ((if scope.config.maxDepth < depth + 1 then _ else _ : StateM Count _).run _) = _
      rw [if_neg room]
      -- The counter goes up before the node and down after it, with a result or without.
      let node := countedNode registry scope (counted registry scope fuel) value
      change (((node.run.run ⟨depth + 1, trail⟩).1,
        { (node.run.run ⟨depth + 1, trail⟩).2 with depth := depth }) : Except Error Value × Count) =
          _
      rw [inner]
      rfl

end Resolver

end CloudTemplate
