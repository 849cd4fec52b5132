/-!
# Error codes

Every kind of error has a number, and the numbers are grouped in ranges by what went wrong.
-/

set_option autoImplicit false

namespace CloudTemplate

/-- The number of a kind of error. -/
structure ErrorCode where
  number : UInt16
  deriving Repr, DecidableEq

namespace ErrorCode

/-- What an error is about. -/
inductive Category where
  /-- The shape and the kind of arguments. -/
  | argument
  | arithmetic
  /-- Regular expressions. -/
  | pattern
  /-- Documents and encodings. -/
  | encoding
  /-- The order and the evaluation of conditions. -/
  | condition
  /-- Limits, and the registry. -/
  | limit
  deriving Repr, DecidableEq

/-- The code in words: two letters and at least four digits. -/
def text (code : ErrorCode) : String :=
  let digits := Nat.toDigits 10 code.number.toNat
  "RS" ++ String.ofList (List.replicate (4 - digits.length) '0' ++ digits)

/-- The category of a code. -/
def category (code : ErrorCode) : Category :=
  if 1 ≤ code.number ∧ code.number ≤ 20 then .argument
  else if 21 ≤ code.number ∧ code.number ≤ 30 then .arithmetic
  else if code.number = 31 then .pattern
  else if 32 ≤ code.number ∧ code.number ≤ 40 then .encoding
  else if 41 ≤ code.number ∧ code.number ≤ 50 then .condition
  else .limit

/-- A short title for a code. -/
def title (code : ErrorCode) : String :=
  match code.number.toNat with
  | 1 => "Invalid function arguments"
  | 2 => "Invalid argument type"
  | 3 => "Index out of bounds"
  | 4 => "Value is not a boolean"
  | 21 => "Division by zero"
  | 22 => "Modulo by zero"
  | 23 => "Non-finite arithmetic result"
  | 31 => "Invalid regular expression"
  | 32 => "Invalid JSON document"
  | 33 => "Invalid Base64 payload"
  | 41 => "Circular condition dependency"
  | 42 => "Condition cannot be statically evaluated"
  | 43 => "Condition evaluation failed"
  | 51 => "Nesting depth exceeded"
  | 52 => "Function already registered"
  | _ => "Unknown error"

end ErrorCode

end CloudTemplate
