import CloudTemplate.Decimal.Binary

/-!
# Arithmetic on numbers

The operators of arithmetic expressions and what they do to two numbers. A divisor must not be
zero, and what happens then depends on the operator. Why reading an expression stopped is an
`Arithmetic.Fault`; its places are characters still to be read while reading goes on, and byte
offsets once it has ended.
-/

set_option autoImplicit false

namespace CloudTemplate.Arithmetic

/-- An operator between two numbers. -/
inductive Operator where
  | add
  | subtract
  | multiply
  | divide
  | floorDivide
  | modulo
  | power
  deriving Repr, DecidableEq

/-- Why an expression has no value. -/
inductive Fault (Place : Type) where
  /-- A character that cannot stand at its place. -/
  | unexpectedCharacter (c : Char) (place : Place)
  /-- The text ended where an operand was needed. -/
  | unexpectedEnd
  /-- No closing parenthesis where one was needed. -/
  | missingParenthesis (place : Place)
  /-- Digits and points that are no number. -/
  | invalidNumber (literal : String) (place : Place)
  | divisionByZero
  | moduloByZero
  deriving Repr, DecidableEq

namespace Fault

variable {Place Other : Type}

/-- The same fault with its place described in another way. -/
def map (describe : Place → Other) : Fault Place → Fault Other
  | .unexpectedCharacter c place => .unexpectedCharacter c (describe place)
  | .unexpectedEnd => .unexpectedEnd
  | .missingParenthesis place => .missingParenthesis (describe place)
  | .invalidNumber literal place => .invalidNumber literal (describe place)
  | .divisionByZero => .divisionByZero
  | .moduloByZero => .moduloByZero

/-- Whether the text is no expression at all, in contrast to one without a value. -/
def isSyntactic : Fault Place → Bool
  | .divisionByZero | .moduloByZero => false
  | _ => true

/-- The fault in words. -/
def message : Fault Nat → String
  | .unexpectedCharacter c place =>
    "Unexpected character '" ++ c.toString ++ "' at position " ++ toString place
  | .unexpectedEnd => "Unexpected end of expression"
  | .missingParenthesis place => "Missing closing parenthesis at position " ++ toString place
  | .invalidNumber literal place =>
    "Invalid number literal at position " ++ toString place ++ ": " ++ literal
  | .divisionByZero => "Division by zero"
  | .moduloByZero => "Modulo by zero"

end Fault

/-- The value of an operator at two numbers. -/
def Operator.apply {Place : Type} (operator : Operator) (left right : Float) :
    Except (Fault Place) Float :=
  match operator with
  | .add => .ok (left + right)
  | .subtract => .ok (left - right)
  | .multiply => .ok (left * right)
  | .divide => if right == 0.0 then .error .divisionByZero else .ok (left / right)
  | .floorDivide =>
    if right == 0.0 then .error .divisionByZero else .ok (Decimal.floor (left / right))
  | .modulo =>
    if right == 0.0 then .error .moduloByZero else .ok (Decimal.remainder left right)
  | .power => .ok (Float.pow left right)

end CloudTemplate.Arithmetic
