import CloudTemplate.Entries
import CloudTemplate.Pattern.Reader
import CloudTemplate.Pattern.Size
import CloudTemplate.Pattern.Match

/-!
# Compiled patterns

A text is compiled by reading it as a pattern that is not too large. A cache keeps every pattern
that was compiled, so that it is compiled once; texts that are no patterns are not kept. What a
cache gives for a text does not depend on what it was asked before (`PatternCache.get_fst`).
-/

set_option autoImplicit false

namespace CloudTemplate

/-- The pattern that a text describes, unless it is too large. -/
def Pattern.compile (text : String) : Except Pattern.Fault Pattern := do
  let pattern ← Pattern.read text
  if pattern.isTooLarge then .error .tooLarge else .ok pattern

/-- The patterns compiled so far, by their texts. -/
structure PatternCache where
  patterns : Entries Pattern := []
  /-- Every text is kept with the pattern that it describes. -/
  faithful : ∀ text pattern, patterns.get? text = some pattern →
    Pattern.compile text = .ok pattern := by simp

namespace PatternCache

/-- A cache without patterns. -/
def empty : PatternCache := {}

/-- The number of patterns in the cache. -/
def size (cache : PatternCache) : Nat :=
  cache.patterns.length

/-- Keeps the pattern that a text describes. -/
def add (cache : PatternCache) (text : String) (pattern : Pattern)
    (compiled : Pattern.compile text = .ok pattern) : PatternCache where
  patterns := cache.patterns.insert text pattern
  faithful := by
    intro wanted found known
    rw [Entries.get?_insert] at known
    split at known
    · next same =>
      cases known
      exact same ▸ compiled
    · exact cache.faithful wanted found known

/-- The pattern of a text, and the cache that holds it. -/
def get (cache : PatternCache) (text : String) : Except Pattern.Fault Pattern × PatternCache :=
  match cache.patterns.get? text with
  | some pattern => (.ok pattern, cache)
  | none =>
    match compiled : Pattern.compile text with
    | .ok pattern => (.ok pattern, cache.add text pattern compiled)
    | .error fault => (.error fault, cache)

/-- A cache gives for a text what compiling it gives. -/
theorem get_fst (cache : PatternCache) (text : String) :
    (cache.get text).1 = Pattern.compile text := by
  unfold get
  split
  · next pattern known => exact (cache.faithful text pattern known).symm
  · split
    · next pattern compiled => exact compiled.symm
    · next fault failed => exact failed.symm

end PatternCache

end CloudTemplate
