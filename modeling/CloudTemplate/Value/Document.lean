import CloudTemplate.Value.Basic
import CloudTemplate.Json.Basic

/-!
# Values and documents

A document becomes a value by keeping its structure. Integers beyond 64 bits with a sign
become binary numbers. A value becomes a document in the same way; infinite and undefined
numbers, for which documents have no form, become null.
-/

set_option autoImplicit false

namespace CloudTemplate.Value

/-- The value of a number in a document. -/
def ofJsonNumber : Json.Number → Value
  | .integer n =>
    if Int64.minValue.toInt ≤ n ∧ n ≤ Int64.maxValue.toInt then .int (Int64.ofInt n)
    else .float (Float.ofInt n)
  | .real x => .float x

mutual
/-- The value of a document. -/
def ofJson : Json → Value
  | .null => .null
  | .bool b => .bool b
  | .number n => ofJsonNumber n
  | .string s => .string s
  | .array items => .list (ofJsonItems items)
  | .object entries => .map (ofJsonEntries entries)

/-- The values of the items. -/
def ofJsonItems : List Json → List Value
  | [] => []
  | item :: items => ofJson item :: ofJsonItems items

/-- The values at the keys. -/
def ofJsonEntries : List (String × Json) → List (String × Value)
  | [] => []
  | (key, child) :: entries => (key, ofJson child) :: ofJsonEntries entries
end

mutual
/-- The document of a value. -/
def toJson : Value → Json
  | .null => .null
  | .bool b => .bool b
  | .int n => .number (.integer n.toInt)
  | .float x => if Decimal.isFinite x then .number (.real x) else .null
  | .string s => .string s
  | .list items => .array (toJsonItems items)
  | .map entries => .object (toJsonEntries entries)

/-- The documents of the items. -/
def toJsonItems : List Value → List Json
  | [] => []
  | item :: items => toJson item :: toJsonItems items

/-- The documents at the keys. -/
def toJsonEntries : List (String × Value) → List (String × Json)
  | [] => []
  | (key, child) :: entries => (key, toJson child) :: toJsonEntries entries
end

end CloudTemplate.Value
