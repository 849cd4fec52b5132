import CloudTemplate.Pattern.Basic
import CloudTemplate.Pattern.Bracket

/-!
# Reading patterns

A pattern is a choice of sequences of parts, and a part is a character, a class, an escape, a
group or a repetition of the part before it. Flags hold for the rest of the group in which they
are set, across its choices. A name belongs to one group only. Parts may be nested up to a
limit.
-/

set_option autoImplicit false

namespace CloudTemplate.Pattern

open Unicode

/-- A part of a pattern, with its nesting. A setting of flags is a part that cannot be
repeated. -/
structure Part where
  pattern : Pattern
  nesting : Nat := 0
  repeatable : Bool := true

/-- What holds at a place of a pattern: the flags, and the names of the groups before it. -/
structure Scope where
  flags : Flags
  names : List (List Char) := []

/-! ## Combining parts -/

/-- One part after the other; the parts are given from the last to the first. -/
def sequenceOf (parts : List Part) : Part :=
  match parts with
  | [] => { pattern := .empty }
  | [part] => part
  | last :: earlier =>
    { pattern := earlier.foldl (fun rest part => .sequence part.pattern rest) last.pattern
      nesting := (parts.foldl (fun nesting part => max nesting part.nesting) 0) + 1 }

/-- A choice between parts, given from the last to the first. -/
def choiceOf (parts : List Part) : Part :=
  match parts with
  | [] => { pattern := .empty }
  | [part] => part
  | last :: earlier =>
    { pattern := earlier.foldl (fun rest part => .either part.pattern rest) last.pattern
      nesting := (parts.foldl (fun nesting part => max nesting part.nesting) 0) + 1 }

/-- A part repeated. -/
def Part.repeated (part : Part) (least : Nat) (greatest : Option Nat) : Part :=
  { pattern := .repeated part.pattern least greatest, nesting := part.nesting + 1 }

/-- Repeats the last of the parts. -/
def repeatLast (parts : List Part) (least : Nat) (greatest : Option Nat) :
    Except Fault (List Part) :=
  match parts with
  | part :: parts =>
    if part.repeatable then .ok (part.repeated least greatest :: parts)
    else .error .nothingToRepeat
  | [] => .error .nothingToRepeat

/-! ## Single parts -/

/-- One character, or its other cases too. -/
def literal (flags : Flags) (c : Char) : Pattern :=
  .chars (if flags.unicode || c.toNat < 0x80 then fold flags (CharSet.single c)
    else CharSet.single c)

/-- Any character but those that end lines. -/
def dot (flags : Flags) : Except Fault Pattern :=
  if !flags.unicode then .error .partialCharacter
  else if flags.dotAll then .ok (.chars CharSet.all)
  else
    let ends := if flags.carriageReturns then [(0x0A, 0x0A), (0x0D, 0x0D)] else [(0x0A, 0x0A)]
    .ok (.chars (CharSet.complement ⟨ends⟩))

/-- What a primitive part matches. -/
def Primitive.pattern (flags : Flags) : Primitive → Pattern
  | .literal c => Pattern.literal flags c
  | .set members => .chars members
  | .look place => .look place

/-- Reads a part that is no group and no repetition. -/
def single (flags : Flags) (c : Char) (rest : List Char) : Except Fault (Part × List Char) :=
  match c with
  | '\\' => do
    let (primitive, rest) ← escape flags rest
    .ok ({ pattern := primitive.pattern flags }, rest)
  | '[' => do
    let (operand, rest) ← bracket flags rest
    .ok ({ pattern := .chars operand.set, nesting := operand.nesting }, rest)
  | '.' => do
    let pattern ← dot flags
    .ok ({ pattern }, rest)
  | '^' =>
    let place := if flags.multiLine then Look.lineStart flags.carriageReturns else .textStart
    .ok ({ pattern := .look place }, rest)
  | '$' =>
    let place := if flags.multiLine then Look.lineEnd flags.carriageReturns else .textEnd
    .ok ({ pattern := .look place }, rest)
  | c => .ok ({ pattern := literal flags c }, rest)

/-- The least and the greatest number of repetitions that a sign stands for. -/
def repetition? (c : Char) : Option (Nat × Option Nat) :=
  match c with
  | '?' => some (0, some 1)
  | '*' => some (0, none)
  | '+' => some (1, none)
  | _ => none

/-- Drops the mark of a repetition that prefers fewer rounds. -/
def dropReluctant : List Char → List Char
  | '?' :: rest => rest
  | rest => rest

/-! ## Groups -/

/-- What the start of a group says. -/
inductive Opening where
  /-- Settings for the rest of the surrounding group. -/
  | settings (settings : List (Char × Bool))
  /-- A group with settings of its own. -/
  | group (settings : List (Char × Bool))
  | numbered
  | named (name : List Char)

/-- Whether a group is to capture what it matches. -/
def Opening.captures : Opening → Bool
  | .numbered | .named _ => true
  | .settings _ | .group _ => false

/-- Reads the start of a group after its parenthesis. -/
def opening (text : List Char) : Except Fault (Opening × List Char) :=
  match text with
  | '?' :: '=' :: _ => .error .lookAround
  | '?' :: '!' :: _ => .error .lookAround
  | '?' :: '<' :: '=' :: _ => .error .lookAround
  | '?' :: '<' :: '!' :: _ => .error .lookAround
  | '?' :: 'P' :: '<' :: rest | '?' :: '<' :: rest => do
    let (name, rest) ← groupName true rest
    .ok (.named name, rest)
  | '?' :: rest => do
    let (settings, close, rest) ← Pattern.settings [] true false rest
    if close = ':' then .ok (.group settings, rest)
    else if settings = [] then .error .nothingToRepeat
    else .ok (.settings settings, rest)
  | rest => .ok (.numbered, rest)

/-- The scope inside a group. -/
def Scope.enter (scope : Scope) : Opening → Except Fault Scope
  | .settings settings | .group settings =>
    .ok { scope with flags := scope.flags.setAll settings }
  | .numbered => .ok scope
  | .named name =>
    if name ∈ scope.names then .error .duplicateGroupName
    else .ok { scope with names := name :: scope.names }

/-! ## Patterns -/

/-- Reads the rest of a group up to its closing parenthesis or the end of the text, given the
choices before and the parts of the present choice, each from the last to the first. -/
def choices : Nat → Scope → (before present : List Part) → List Char →
    Except Fault (Part × List (List Char) × List Char)
  | 0, _, _, _, _ => .error .unexpectedEnd
  | fuel + 1, scope, before, present, text =>
    match skip scope.flags text with
    | [] => .ok (choiceOf (sequenceOf present :: before), scope.names, [])
    | ')' :: rest => .ok (choiceOf (sequenceOf present :: before), scope.names, ')' :: rest)
    | '|' :: rest => choices fuel scope (sequenceOf present :: before) [] rest
    | '(' :: rest => do
      let (start, rest) ← opening (skip scope.flags rest)
      let inner ← scope.enter start
      match start with
      | .settings _ =>
        let part : Part := { pattern := .empty, repeatable := false }
        choices fuel inner before (part :: present) rest
      | _ =>
        let (part, names, rest) ← choices fuel inner [] [] rest
        match rest with
        | ')' :: rest =>
          let group : Part :=
            { pattern := .group start.captures part.pattern, nesting := part.nesting + 1 }
          choices fuel { scope with names } before (group :: present) rest
        | _ => .error .unclosedGroup
    | '\x7b' :: rest => do
      let ((least, greatest), rest) ← bounds scope.flags rest
      let present ← repeatLast present least greatest
      choices fuel scope before present (dropReluctant (skip scope.flags rest))
    | c :: rest =>
      match repetition? c with
      | some (least, greatest) => do
        let present ← repeatLast present least greatest
        choices fuel scope before present (dropReluctant rest)
      | none => do
        let (part, rest) ← single scope.flags c rest
        choices fuel scope before (part :: present) rest

/-- The pattern that a text describes. -/
def read (text : String) : Except Fault Pattern := do
  let text := text.toList
  let (part, _, rest) ← choices (text.length + 1) ⟨{}, []⟩ [] [] text
  if rest ≠ [] then .error .unopenedGroup
  else if maxNesting < part.nesting then .error .nestedTooDeeply
  else .ok part.pattern

end CloudTemplate.Pattern
