import CloudTemplate.Registry
import CloudTemplate.Trail

/-!
# Rehearsals

A rehearsal carries a function out without resolving anything: every value that the function
asks for is recorded and given back as it is. It shows what a function asks for, and in which
order. One of the requests can be made to fail.
-/

set_option autoImplicit false

namespace CloudTemplate

/-- What a function has asked for, the last value first, and its trail. -/
structure Rehearsal where
  asked : List Value := []
  trail : Trail := {}

namespace Rehearsal

/-- The values in the order in which the function asked for them. -/
def requests (rehearsal : Rehearsal) : List Value :=
  rehearsal.asked.reverse

/-- Records a value and gives it back, or fails if this is the request number `failing`. -/
def answer (failing : Nat) (value : Value) : Attempt Rehearsal Value := do
  let rehearsal ← get
  let asked := value :: rehearsal.asked
  set { rehearsal with asked }
  if asked.length = failing then throw .divisionByZero else pure value

/-- Carries an action on the trail out in a rehearsal. -/
def onTrail {α : Type} (action : StateM Trail α) : StateM Rehearsal α := do
  let rehearsal ← get
  let (result, trail) := action.run rehearsal.trail
  set { rehearsal with trail }
  pure result

/-- Answers the requests of a function in a rehearsal. -/
def handler (failing : Nat) : Handler Rehearsal where
  resolve := answer failing
  compile text := onTrail (Trail.compile text)
  note line := onTrail (Trail.note .trace line)

/-- Carries a function out, if the registry has it. -/
def perform (registry : Registry) (call : Invocation) (failing : Nat) :
    Option (Except Error Value × Rehearsal) :=
  (registry.function? call.name).map fun function =>
    ((function call).run (handler failing)).run.run {}

end Rehearsal

end CloudTemplate
