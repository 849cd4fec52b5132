import CloudTemplate.Pattern.Escape

/-!
# Bracketed classes

A class in brackets lists characters, ranges, named classes and other brackets; what it lists is
united. Two lists can be intersected or subtracted, and operators are applied from the left.
A caret at the start negates the whole class. Letters are folded before a class is negated and
before operators are applied.

Along with its set, a class carries how deeply it is nested.
-/

set_option autoImplicit false

namespace CloudTemplate.Pattern

open Unicode

/-- A set that has been read, with its nesting. -/
structure Operand where
  set : CharSet
  nesting : Nat

/-- The items of a class that stand next to each other. -/
structure Items where
  set : CharSet := CharSet.empty
  count : Nat := 0
  nesting : Nat := 0

/-- Adds an item. -/
def Items.add (items : Items) (set : CharSet) (nesting : Nat) : Items :=
  ⟨items.set.union set, items.count + 1, max items.nesting nesting⟩

/-- The union of the items. Two or more items count as one level of nesting. -/
def Items.operand (items : Items) : Operand :=
  ⟨items.set, if items.count < 2 then items.nesting else items.nesting + 1⟩

/-- The operators between the lists of a class. -/
inductive SetOperator where
  | intersection
  | difference
  | symmetricDifference
  deriving Repr, DecidableEq

/-- Reads an operator. -/
def setOperator? : List Char → Option (SetOperator × List Char)
  | '&' :: '&' :: rest => some (.intersection, rest)
  | '-' :: '-' :: rest => some (.difference, rest)
  | '~' :: '~' :: rest => some (.symmetricDifference, rest)
  | _ => none

/-- The set of an operator at two sets. -/
def SetOperator.apply (operator : SetOperator) (left right : CharSet) : CharSet :=
  match operator with
  | .intersection => left.intersection right
  | .difference => left.difference right
  | .symmetricDifference => left.symmetricDifference right

/-- Applies the operator that waits for its right side, if there is one. -/
def applyPending (flags : Flags) (pending : Option (Operand × SetOperator)) (right : Operand) :
    Operand :=
  match pending with
  | none => right
  | some (left, operator) =>
    ⟨operator.apply (fold flags left.set) (fold flags right.set),
      max left.nesting right.nesting + 1⟩

/-! ## Items -/

/-- The character of a class. Outside Unicode it has to be in ASCII. -/
def classLiteral (flags : Flags) (c : Char) : Except Fault Char :=
  if flags.unicode || c.toNat < 0x80 then .ok c else .error .partialCharacter

/-- Reads an escape or a single character. -/
def primitive (flags : Flags) (text : List Char) : Except Fault (Primitive × List Char) :=
  match text with
  | [] => .error .unclosedClass
  | '\\' :: rest => escape flags rest
  | c :: rest => .ok (.literal c, rest)

/-- The set of an item that is no range. -/
def itemSet (flags : Flags) : Primitive → Except Fault CharSet
  | .literal c => do
    let c ← classLiteral flags c
    .ok (CharSet.single c)
  | .set set => .ok set
  | .look _ => .error .invalidEscape

/-- The character that decides about a minus sign in front of this text. Blanks do not count,
and of a comment only the sign that starts it does not, so it can lie inside a comment. -/
def deciding? (flags : Flags) (afterMinus : List Char) : Option Char :=
  if flags.verbose then
    match afterMinus.dropWhile Text.isBlank with
    | '#' :: comment => (comment.dropWhile Text.isBlank).head?
    | text => text.head?
  else afterMinus.head?

/-- Whether a minus sign in front of this text joins the bounds of a range. -/
def joinsRange (flags : Flags) (afterMinus : List Char) : Bool :=
  match deciding? flags afterMinus with
  | some c => c != ']' && c != '-'
  | none => true

/-- Reads a character, a range or a named class. -/
def item (flags : Flags) (text : List Char) : Except Fault (CharSet × List Char) := do
  let (first, rest) ← primitive flags text
  match skip flags rest with
  | [] => .error .unclosedClass
  | '-' :: afterMinus =>
    if joinsRange flags afterMinus then
      let (second, rest) ← primitive flags (skip flags afterMinus)
      match first, second with
      | .literal low, .literal high =>
        let low ← classLiteral flags low
        let high ← classLiteral flags high
        if low ≤ high then .ok (CharSet.range low.toNat high.toNat, rest)
        else .error .invalidRange
      | _, _ => .error .invalidRange
    else
      let set ← itemSet flags first
      .ok (set, '-' :: afterMinus)
  | rest =>
    let set ← itemSet flags first
    .ok (set, rest)

/-- Reads an ASCII class between colons, after the bracket before the first colon. -/
def asciiItem? (text : List Char) : Option (CharSet × Bool × List Char) :=
  match text with
  | ':' :: rest =>
    let (negated, rest) := match rest with
      | '^' :: rest => (true, rest)
      | rest => (false, rest)
    match rest.span (· ≠ ':') with
    | (name, ':' :: ']' :: rest) =>
      (asciiClass? (String.ofList name)).map fun set => (set, negated, rest)
    | _ => none
  | _ => none

/-! ## Classes -/

/-- Reads minus signs, which stand for themselves at the start of a class. -/
def leadingMinus (flags : Flags) : Nat → Items → List Char → Items × List Char
  | 0, items, text => (items, text)
  | fuel + 1, items, text =>
    match text with
    | '-' :: rest => leadingMinus flags fuel (items.add (CharSet.single '-') 0) (skip flags rest)
    | text => (items, text)

/-- Reads the start of a class after its bracket: the caret, minus signs, and a closing bracket
that stands for itself. -/
def classStart (flags : Flags) (text : List Char) : Bool × Items × List Char :=
  let text := skip flags text
  let (negated, text) := match text with
    | '^' :: rest => (true, skip flags rest)
    | text => (false, text)
  let (items, text) := leadingMinus flags text.length {} text
  match items.count, text with
  | 0, ']' :: rest => (negated, items.add (CharSet.single ']') 0, rest)
  | _, _ => (negated, items, text)

/-- Reads the rest of a class, given what waits for its right side and the items of that side
so far. Inside another class `[:` may start an ASCII class. -/
def classRest (flags : Flags) : Nat → Option (Operand × SetOperator) → Items → List Char →
    Except Fault (Operand × List Char)
  | 0, _, _, _ => .error .unclosedClass
  | fuel + 1, pending, items, text =>
    match skip flags text with
    | [] => .error .unclosedClass
    | ']' :: rest => .ok (applyPending flags pending items.operand, rest)
    | '[' :: rest =>
      match asciiItem? rest with
      | some (set, negated, rest) => do
        let set ← negate flags negated (fold flags set)
        classRest flags fuel pending (items.add set 0) rest
      | none => do
        let (negated, nested, rest) := classStart flags rest
        let (operand, rest) ← classRest flags fuel none nested rest
        let set ← negate flags negated (fold flags operand.set)
        classRest flags fuel pending (items.add set (operand.nesting + 1)) rest
    | text =>
      match setOperator? text with
      | some (operator, rest) =>
        let left := applyPending flags pending items.operand
        classRest flags fuel (some (left, operator)) {} rest
      | none => do
        let (set, rest) ← item flags text
        classRest flags fuel pending (items.add set 0) rest

/-- Reads a class after its bracket. -/
def bracket (flags : Flags) (text : List Char) : Except Fault (Operand × List Char) := do
  let (negated, items, rest) := classStart flags text
  let (operand, rest) ← classRest flags (rest.length + 1) none items rest
  let set ← negate flags negated (fold flags operand.set)
  .ok (⟨set, operand.nesting + 1⟩, rest)

end CloudTemplate.Pattern
