/-!
# Reading numbers

A decimal literal stands for the binary number nearest to it. Literals may have any number of
digits and any exponent: those that are certain to overflow, or to vanish, are decided from
their length alone, and the rest is rounded once.
-/

set_option autoImplicit false

namespace CloudTemplate.Decimal

/-- Whether the character is one of the ten ASCII digits. -/
def isDigit (c : Char) : Bool :=
  '0' ≤ c && c ≤ '9'

/-- The natural number that ASCII digits stand for. -/
def natOfDigits (digits : List Char) : Nat :=
  digits.foldl (fun n c => 10 * n + (c.toNat - '0'.toNat)) 0

/-- The leading digits of a text, and what follows them. -/
def spanDigits (text : List Char) : List Char × List Char :=
  (text.takeWhile isDigit, text.dropWhile isDigit)

/-- The binary number nearest to `coefficient · 10 ^ exponent`, or infinity beyond the greatest. -/
def nearest (coefficient : Nat) (exponent : Int) : Float :=
  if coefficient = 0 then 0.0
  else
    let magnitude := (Nat.toDigits 10 coefficient).length + exponent
    if magnitude < -400 then 0.0
    else if 400 < magnitude then 1.0 / 0.0
    else if 0 ≤ exponent then Float.ofScientific coefficient false exponent.toNat
    else Float.ofScientific coefficient true (-exponent).toNat

/-- The exponent part of a literal: nothing, or a letter `e`, a sign and digits. -/
def exponent? : List Char → Option Int
  | [] => some 0
  | mark :: text =>
    if mark = 'e' ∨ mark = 'E' then
      let (negative, digits) := match text with
        | '+' :: digits => (false, digits)
        | '-' :: digits => (true, digits)
        | digits => (false, digits)
      if digits ≠ [] ∧ digits.all isDigit then
        some (if negative then -(natOfDigits digits : Int) else natOfDigits digits)
      else none
    else none

/-- The number of an unsigned literal: digits with a point somewhere among them or none, at
least one digit, and perhaps an exponent. -/
def unsigned? (text : List Char) : Option Float :=
  let (whole, rest) := spanDigits text
  let (fraction, rest) := match rest with
    | '.' :: rest => spanDigits rest
    | rest => ([], rest)
  if whole = [] ∧ fraction = [] then none
  else
    (exponent? rest).map fun exponent =>
      nearest (natOfDigits (whole ++ fraction)) (exponent - fraction.length)

/-- The number of a literal with an optional sign, or one of the words for infinity and the
undefined number, whose case does not matter. -/
def read? (text : List Char) : Option Float :=
  let (negative, magnitude) := match text with
    | '-' :: magnitude => (true, magnitude)
    | '+' :: magnitude => (false, magnitude)
    | magnitude => (false, magnitude)
  let word := String.ofList (magnitude.map Char.toLower)
  let number :=
    if word = "inf" ∨ word = "infinity" then some (1.0 / 0.0)
    else if word = "nan" then some (0.0 / 0.0)
    else unsigned? magnitude
  number.map fun x => if negative then -x else x

end CloudTemplate.Decimal
