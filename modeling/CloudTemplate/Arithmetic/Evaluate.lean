import CloudTemplate.Arithmetic.Basic
import CloudTemplate.Decimal.Reader
import CloudTemplate.Text.Blank
import CloudTemplate.Text.Affix
import CloudTemplate.Text.Utf8

/-!
# Evaluating expressions

An expression is evaluated while it is read, from the left to the right. The grammar, in the
order in which its operators bind:

* a sum is made of products with `+` and `-` between them;
* a product is made of powers with `*`, `/`, `//` and `%` between them;
* a power is a signed operand, and perhaps `**` and another power;
* a signed operand is an operand after any number of signs;
* an operand is a number, or a sum in parentheses.

Sums and products group from the left, powers from the right, and a sign binds tighter than a
power. Blanks may stand before every token. A reader hands on the text after what it has read,
and a fault keeps the text at its place, so a position is the number of bytes before that text.
-/

set_option autoImplicit false

namespace CloudTemplate.Arithmetic

/-- Reads a number off the front of a text. -/
abbrev Reader := List Char → Except (Fault (List Char)) (Float × List Char)

/-- The operator between products that a text starts with, and the text after it. -/
def sumOperator? : List Char → Option (Operator × List Char)
  | '+' :: text => some (.add, text)
  | '-' :: text => some (.subtract, text)
  | _ => none

/-- The operator between powers that a text starts with, and the text after it. -/
def productOperator? : List Char → Option (Operator × List Char)
  | '/' :: '/' :: text => some (.floorDivide, text)
  | '*' :: text => some (.multiply, text)
  | '/' :: text => some (.divide, text)
  | '%' :: text => some (.modulo, text)
  | _ => none

/-- Reads operators and operands as long as there are any, and applies them from the left. -/
def chainFrom (operator? : List Char → Option (Operator × List Char)) (operand : Reader) :
    Nat → Float → Reader
  | 0, left, text => .ok (left, text)
  | fuel + 1, left, text => do
    let text := Text.trimStart text
    match operator? text with
    | none => .ok (left, text)
    | some (operator, text) =>
      let (right, text) ← operand text
      let left ← operator.apply left right
      chainFrom operator? operand fuel left text

/-- Reads an operand, and then operators and operands. -/
def chain (operator? : List Char → Option (Operator × List Char)) (operand : Reader) : Reader :=
  fun text => do
    let (left, text) ← operand text
    chainFrom operator? operand (text.length + 1) left text

/-- Reads a number made of digits and points, as many as there are. -/
def literal : Reader := fun text =>
  let isPart := fun c => Decimal.isDigit c || c == '.'
  let digits := text.takeWhile isPart
  match Decimal.unsigned? digits with
  | some x => .ok (x, text.dropWhile isPart)
  | none => .error (.invalidNumber (String.ofList digits) text)

/-- Reads an operand, given the reader of what stands in parentheses. -/
def operand (inner : Reader) : Reader := fun text =>
  let text := Text.trimStart text
  match text with
  | [] => .error .unexpectedEnd
  | '(' :: rest => do
    let (x, rest) ← inner rest
    let rest := Text.trimStart rest
    match rest with
    | ')' :: rest => .ok (x, rest)
    | rest => .error (.missingParenthesis rest)
  | c :: _ =>
    if Decimal.isDigit c || c == '.' then literal text
    else .error (.unexpectedCharacter c text)

/-- Reads an operand after any number of signs. -/
def signed (operand : Reader) : Nat → Reader
  | 0, text => operand text
  | fuel + 1, text =>
    match Text.trimStart text with
    | '+' :: text => signed operand fuel text
    | '-' :: text => (signed operand fuel text).map fun (x, rest) => (-x, rest)
    | text => operand text

/-- Reads a power, which groups from the right. -/
def power (signed : Reader) : Nat → Reader
  | 0, text => signed text
  | fuel + 1, text => do
    let (base, text) ← signed text
    match Text.trimStart text with
    | '*' :: '*' :: text => do
      let (exponent, text) ← power signed fuel text
      let x ← Operator.power.apply base exponent
      .ok (x, text)
    | text => .ok (base, text)

/-- Reads a sum, with at most `nesting` parentheses inside each other. -/
def sum : (nesting : Nat) → Reader
  | 0, _ => .error .unexpectedEnd
  | nesting + 1, text =>
    let enough := text.length + 1
    let signed := signed (operand (sum nesting)) enough
    chain sumOperator? (chain productOperator? (power signed enough)) text

/-- The number of bytes of `text` before `rest`, which ends it. -/
def position (text rest : List Char) : Nat :=
  Text.utf8Size text - Text.utf8Size rest

/-- Reads a trimmed text as one expression. -/
def evaluateTrimmed (text : List Char) : Except (Fault (List Char)) Float := do
  let (x, rest) ← sum (text.length + 1) text
  match Text.trimStart rest with
  | [] => .ok x
  | c :: rest => .error (.unexpectedCharacter c (c :: rest))

/-- The value of the expression that a text holds. Blanks around it do not count, neither for
the value nor for the positions of faults. -/
def evaluate (text : String) : Except (Fault Nat) Float :=
  let trimmed := Text.trim text.toList
  (evaluateTrimmed trimmed).mapError (Fault.map (position trimmed))

end CloudTemplate.Arithmetic
