import CloudTemplate.Unicode.CharSet

/-!
# Patterns

A regular expression as a tree, with everything resolved that its notation leaves to flags:
what a class contains, what a place must look like, how often a part is repeated. Which of
several matches is preferred is not recorded, because a pattern is only asked whether it
matches somewhere. Groups are recorded, because they count for the size of a pattern.
-/

set_option autoImplicit false

namespace CloudTemplate

/-- What the place between two characters of a text must look like. -/
inductive Pattern.Look where
  | textStart
  | textEnd
  /-- The start of a line. Lines end at line feeds, or also at carriage returns. -/
  | lineStart (carriageReturns : Bool)
  | lineEnd (carriageReturns : Bool)
  /-- What stands before and after: a word character, none, or either. Word characters are those
  of the whole standard or those of ASCII. -/
  | word (before after : Option Bool) (unicode : Bool)
  /-- A word character on one side and none on the other, or not so. -/
  | wordBoundary (expected : Bool) (unicode : Bool)
  deriving Repr, DecidableEq

/-- A regular expression. -/
inductive Pattern where
  | empty
  /-- One character of a set. -/
  | chars (set : Unicode.CharSet)
  | look (look : Pattern.Look)
  | sequence (first second : Pattern)
  | either (left right : Pattern)
  /-- A part in parentheses, which may be to capture what it matches. -/
  | group (captures : Bool) (body : Pattern)
  /-- The body at least `least` times, and at most `greatest` times if there is such a bound. -/
  | repeated (body : Pattern) (least : Nat) (greatest : Option Nat)
  deriving Repr, DecidableEq, Inhabited

namespace Pattern

/-- The greatest nesting of parts. -/
def maxNesting : Nat := 250

/-- Why a text is no pattern. -/
inductive Fault where
  /-- The text ended inside a class, a group, an escape or a repetition. -/
  | unexpectedEnd
  | unopenedGroup
  | unclosedGroup
  | unclosedClass
  /-- A repetition that has nothing to repeat. -/
  | nothingToRepeat
  | invalidCount
  | invalidRange
  | invalidEscape
  | invalidCodePoint
  | invalidGroupName
  | duplicateGroupName
  | invalidFlag
  | lookAround
  | backReference
  | unknownProperty
  /-- A class that could match a part of a character only. -/
  | partialCharacter
  | nestedTooDeeply
  | tooLarge
  deriving Repr, DecidableEq

end Pattern

end CloudTemplate
