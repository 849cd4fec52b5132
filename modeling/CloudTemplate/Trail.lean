import CloudTemplate.Function.Program
import CloudTemplate.Pattern.Compile

/-!
# Trails

What a resolution leaves behind besides its result: the patterns it had compiled, and the lines
it noted. Both stay when the resolution fails.
-/

set_option autoImplicit false

namespace CloudTemplate

/-- How important a line is. -/
inductive LogLevel where
  | trace
  | debug
  | warn
  deriving Repr, DecidableEq

/-- A line that was noted. -/
structure LogLine where
  level : LogLevel
  text : String
  deriving Repr, DecidableEq

/-- The compiled patterns, and the lines with the last one first. -/
structure Trail where
  cache : PatternCache := .empty
  noted : List LogLine := []

namespace Trail

/-- The lines in the order in which they were noted. -/
def lines (trail : Trail) : List LogLine :=
  trail.noted.reverse

/-- Notes a line. -/
def note (level : LogLevel) (text : String) : StateM Trail Unit :=
  modify fun trail => { trail with noted := ⟨level, text⟩ :: trail.noted }

/-- Has a pattern compiled, or takes it from the cache. -/
def compile (text : String) : StateM Trail (Except Pattern.Fault Pattern) := do
  let trail ← get
  let (compiled, cache) := trail.cache.get text
  set { trail with cache }
  pure compiled

end Trail

/-- A computation that leaves a trail and may fail. -/
abbrev Tracked := Attempt Trail

end CloudTemplate
