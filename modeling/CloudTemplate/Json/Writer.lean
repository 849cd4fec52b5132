import CloudTemplate.Json.Basic
import CloudTemplate.Decimal.Layout

/-!
# Writing documents

The compact form of a document: no blanks, keys in their order, and in strings only those
characters escaped that must be.
-/

set_option autoImplicit false

namespace CloudTemplate.Json

/-- A number is written positionally when its leading digit has an exponent between -5 and 15,
a whole one with a point and a zero; of two equally near shortest decimals it takes the one
whose last digit is even. -/
def numberLayout : Decimal.Layout where
  tie := .toEven
  window := some (-5, 15)
  wholeMark := true

/-- A number as text. There is no text for infinite and undefined numbers. -/
def Number.text : Number → String
  | .integer n => toString n
  | .real x => (numberLayout.finite? x).getD "null"

/-- The digit of a value below sixteen, in lower case. -/
def hexDigit (n : Nat) : Char :=
  Nat.digitChar n

/-- A character inside a string. -/
def escape (c : Char) : List Char :=
  if c = '"' then ['\\', '"']
  else if c = '\\' then ['\\', '\\']
  else if c = '\x08' then ['\\', 'b']
  else if c = '\t' then ['\\', 't']
  else if c = '\n' then ['\\', 'n']
  else if c = '\x0c' then ['\\', 'f']
  else if c = '\r' then ['\\', 'r']
  else if c.toNat < 0x20 then
    ['\\', 'u', '0', '0', hexDigit (c.toNat / 16), hexDigit (c.toNat % 16)]
  else [c]

/-- A string between quotes. -/
def printString (s : String) : List Char :=
  '"' :: (s.toList.flatMap escape ++ ['"'])

mutual
/-- The compact form of a document. -/
def print : Json → List Char
  | .null => ['n', 'u', 'l', 'l']
  | .bool true => ['t', 'r', 'u', 'e']
  | .bool false => ['f', 'a', 'l', 's', 'e']
  | .number n => n.text.toList
  | .string s => printString s
  | .array items => '[' :: (printItems items ++ [']'])
  | .object entries => '\x7b' :: (printEntries entries ++ ['\x7d'])

/-- Items with commas between them. -/
def printItems : List Json → List Char
  | [] => []
  | [item] => print item
  | item :: next :: items => print item ++ ',' :: printItems (next :: items)

/-- Entries with commas between them. -/
def printEntries : List (String × Json) → List Char
  | [] => []
  | [(key, value)] => printString key ++ ':' :: print value
  | (key, value) :: next :: entries =>
    printString key ++ ':' :: (print value ++ ',' :: printEntries (next :: entries))
end

/-- The compact form of a document, as a string. -/
def compact (document : Json) : String :=
  String.ofList document.print

end CloudTemplate.Json
