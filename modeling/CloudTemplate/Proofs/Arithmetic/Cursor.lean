import CloudTemplate.Proofs.Arithmetic.Expression
import CloudTemplate.Proofs.Utf8

/-!
# A parser with a cursor

The readers hand on texts. A parser of bytes has the whole text all the time and moves a place over
it. This module has the parser in this form (`Cursor.parse`), with the places that the cursor has
left. It gets stuck when it cuts the text inside a character. It gets stuck as well when it repeats
itself more often than the text has characters, so a run that does not get stuck is one without
bounds.

A text is cut at the size of its front (`Text.from?_append`, `Text.upTo?_append`), which is between
two of its characters (`Text.IsBoundary`).
-/

set_option autoImplicit false

namespace CloudTemplate

namespace Text

/-- The text from a byte on, unless the byte is inside a character or behind the text. -/
def from? : List Char → Nat → Option (List Char)
  | text, 0 => some text
  | [], _ + 1 => none
  | c :: text, place + 1 =>
    if c.utf8Size ≤ place + 1 then from? text (place + 1 - c.utf8Size) else none

/-- The text up to a byte, unless the byte is inside a character or behind the text. -/
def upTo? : List Char → Nat → Option (List Char)
  | _, 0 => some []
  | [], _ + 1 => none
  | c :: text, place + 1 =>
    if c.utf8Size ≤ place + 1 then (c :: ·) <$> upTo? text (place + 1 - c.utf8Size) else none

theorem exists_utf8Size_cons (c : Char) (text : List Char) :
    ∃ size, utf8Size (c :: text) = size + 1 ∧ c.utf8Size ≤ size + 1 ∧
      size + 1 - c.utf8Size = utf8Size text := by
  have size : utf8Size (c :: text) = c.utf8Size + utf8Size text := by
    rw [utf8Size_eq, utf8Size_eq, String.utf8Len_cons, Nat.add_comm]
  have positive := c.utf8Size_pos
  exact ⟨utf8Size (c :: text) - 1, by omega, by omega, by omega⟩

theorem from?_append (before text : List Char) :
    from? (before ++ text) (utf8Size before) = some text := by
  induction before with
  | nil => cases text <;> rfl
  | cons c before ih =>
    obtain ⟨size, same, fits, others⟩ := exists_utf8Size_cons c before
    rw [same, List.cons_append, from?, if_pos fits, others]
    exact ih

theorem upTo?_append (before text : List Char) :
    upTo? (before ++ text) (utf8Size before) = some before := by
  induction before with
  | nil => cases text <;> rfl
  | cons c before ih =>
    obtain ⟨size, same, fits, others⟩ := exists_utf8Size_cons c before
    rw [same, List.cons_append, upTo?, if_pos fits, others, ih]
    rfl

theorem after?_eq_none_iff {lead text : List Char} :
    after? lead text = none ↔ ∀ rest, text ≠ lead ++ rest := by
  rw [Option.eq_none_iff_forall_not_mem]
  exact forall_congr' fun rest => not_congr after?_eq_some_iff

/-- The byte is between characters of the text, at its start or at its end. -/
def IsBoundary (text : List Char) (place : Nat) : Prop :=
  ∃ before after, text = before ++ after ∧ utf8Size before = place

end Text

namespace Arithmetic

/-- The operators of a chain in the order in which they are tried: `//` before `/`. -/
def Chain.attempts : Chain → List Operator
  | .sum => [.add, .subtract]
  | .product => [.floorDivide, .multiply, .divide, .modulo]

/-- A place in a text, and the places before. -/
structure Cursor where
  place : Nat := 0
  passed : List Nat := []

namespace Cursor

/-- What is parsed with a cursor, or nothing when the text is cut inside a character or a call goes
on for too long. The cursor stays where it is after a fault. -/
abbrev Parse (α : Type) := ExceptT (Fault Nat) (StateT Cursor Option) α

/-! ## The parser -/

section Parser

variable (input : List Char)

/-- Where the cursor is. -/
def here : Parse Nat := do
  return (← get).place

/-- There is no result and no fault. -/
def stuck {α : Type} : Parse α :=
  ExceptT.mk (StateT.lift none)

/-- Moves the cursor by a number of bytes. -/
def advance (size : Nat) : Parse Unit :=
  modify fun cursor => ⟨cursor.place + size, cursor.place :: cursor.passed⟩

/-- What is cut off a text, if it can be cut. -/
def cut (part : Option (List Char)) : Parse (List Char) :=
  ExceptT.mk (StateT.lift (Except.ok <$> part))

/-- The text after the cursor. -/
def remaining : Parse (List Char) := do
  cut (Text.from? input (← here))

/-- The text of the given size from a byte on. -/
def slice (start size : Nat) : Parse (List Char) := do
  let rest ← cut (Text.from? input start)
  cut (Text.upTo? rest size)

def skipBlanks : Parse Unit := do
  let rest ← remaining input
  advance (Text.utf8Size rest - Text.utf8Size (Text.trimStart rest))

/-- Moves the cursor over a token, if the text goes on with it. -/
def eat (token : List Char) : Parse Bool := do
  let rest ← remaining input
  if (Text.after? token rest).isSome then
    advance (Text.utf8Size token)
    return true
  else return false

/-- Moves the cursor over the first operator that the text goes on with. -/
def eatFirst : List Operator → Parse (Option Operator)
  | [] => return none
  | operator :: operators => do
    if ← eat input operator.symbol then return some operator else eatFirst operators

/-- The result, or the fault, which has no place. -/
def ofExcept (result : Except (Fault Nat) Float) : Parse Float :=
  ExceptT.mk (pure result)

/-- Parses operators and operands as long as there are any. -/
def parseChainFrom (kind : Chain) (operand : Parse Float) : (bound : Nat) → Float → Parse Float
  | 0, _ => stuck
  | bound + 1, left => do
    skipBlanks input
    match ← eatFirst input kind.attempts with
    | none => return left
    | some operator =>
      let right ← operand
      let left ← ofExcept (operator.apply left right)
      parseChainFrom kind operand bound left

/-- Parses an operand, and then operators and operands. -/
def parseChain (kind : Chain) (operand : Parse Float) (bound : Nat) : Parse Float := do
  let left ← operand
  parseChainFrom input kind operand bound left

/-- Parses a power, which calls itself for the exponent. -/
def parsePower (signed : Parse Float) : (bound : Nat) → Parse Float
  | 0 => stuck
  | bound + 1 => do
    let base ← signed
    skipBlanks input
    if ← eat input Operator.power.symbol then
      let exponent ← parsePower signed bound
      ofExcept (Operator.power.apply base exponent)
    else return base

/-- Parses a signed operand, and calls itself after a sign. -/
def parseSigned (operand : Parse Float) : (bound : Nat) → Parse Float
  | 0 => stuck
  | bound + 1 => do
    skipBlanks input
    if ← eat input ['+'] then parseSigned operand bound
    else if ← eat input ['-'] then
      let x ← parseSigned operand bound
      return -x
    else operand

/-- Parses an operand, given the parser of what stands in parentheses. -/
def parseOperand (inner : Parse Float) : Parse Float := do
  skipBlanks input
  let start ← here
  match ← remaining input with
  | [] => throw .unexpectedEnd
  | '(' :: _ =>
    advance 1
    let x ← inner
    skipBlanks input
    if ← eat input [')'] then return x
    else throw (.missingParenthesis (← here))
  | c :: rest =>
    if isPart c then
      let size := Text.utf8Size ((c :: rest).takeWhile isPart)
      let literal ← slice input start size
      advance size
      match Decimal.unsigned? literal with
      | some x => return x
      | none => throw (.invalidNumber (String.ofList literal) start)
    else throw (.unexpectedCharacter c start)

/-- Parses a sum. -/
def parseSum (bound : Nat) : (nesting : Nat) → Parse Float
  | 0 => stuck
  | nesting + 1 =>
    let signed := parseSigned input (parseOperand input (parseSum bound nesting)) bound
    let product := parseChain input .product (parsePower input signed bound) bound
    parseChain input .sum product bound

/-- Parses a text as one expression. -/
def parse : Parse Float := do
  let bound := input.length + 1
  let x ← parseSum input bound bound
  skipBlanks input
  match ← remaining input with
  | [] => return x
  | c :: _ => throw (.unexpectedCharacter c (← here))

end Parser

end Cursor

end Arithmetic

end CloudTemplate
