/-!
# Binary floating-point numbers taken apart

A finite number is a mantissa times a power of two. Everything here that rounds toward an
integer, takes a remainder or asks whether a number is whole works on that pair in exact
integer arithmetic, and a result that is a number again is put together from it.
-/

set_option autoImplicit false

namespace CloudTemplate.Decimal

/-- A binary floating-point number: the finite ones are `± mantissa · 2 ^ exponent`. -/
inductive Binary where
  | nan
  | infinite (negative : Bool)
  | finite (negative : Bool) (mantissa : Nat) (exponent : Int)
  deriving Repr, DecidableEq, Inhabited

namespace Binary

/-- Takes a number apart. The mantissa of a normal number has 53 bits; zero and the subnormal
numbers have the least exponent. -/
def ofFloat (x : Float) : Binary :=
  let bits : Nat := x.toBits.toNat
  let negative := bits / Nat.pow 2 63 == 1
  let biased : Nat := bits / Nat.pow 2 52 % Nat.pow 2 11
  let fraction : Nat := bits % Nat.pow 2 52
  if biased = Nat.pow 2 11 - 1 then
    if fraction = 0 then .infinite negative else .nan
  else if biased = 0 then
    .finite negative fraction (-1074)
  else
    .finite negative (fraction + Nat.pow 2 52) ((biased : Int) - 1075)

/-- Puts `± mantissa · 2 ^ exponent` together, for a mantissa of at most 53 bits and an
exponent that keeps the number in range: then nothing is rounded. -/
def assemble (negative : Bool) (mantissa : Nat) (exponent : Int) : Float :=
  let sign : Nat := if negative then Nat.pow 2 63 else 0
  let shift := 52 - Nat.log2 mantissa
  let lowered := exponent - shift
  let magnitude : Nat :=
    if mantissa = 0 then 0
    else if -1074 ≤ lowered then
      (lowered + 1075).toNat * Nat.pow 2 52 + (mantissa * Nat.pow 2 shift - Nat.pow 2 52)
    else
      mantissa * Nat.pow 2 (exponent + 1074).toNat
  Float.ofBits (UInt64.ofNat (sign + magnitude))

/-- The magnitude of a finite number rounded down to an integer. -/
def wholePart (mantissa : Nat) (exponent : Int) : Nat :=
  if 0 ≤ exponent then mantissa * Nat.pow 2 exponent.toNat
  else mantissa / Nat.pow 2 (-exponent).toNat

/-- Whether the magnitude is a whole number. -/
def isWhole (mantissa : Nat) (exponent : Int) : Bool :=
  0 ≤ exponent || mantissa % Nat.pow 2 (-exponent).toNat == 0

/-- An integer with the given sign. -/
def signed (negative : Bool) (magnitude : Nat) : Int :=
  if negative then -(magnitude : Int) else magnitude

end Binary

/-- Whether the number is neither infinite nor undefined. -/
def isFinite (x : Float) : Bool :=
  match Binary.ofFloat x with
  | .finite .. => true
  | _ => false

/-- The integer that the number is, if it is one. Both zeros are the integer zero. -/
def integer? (x : Float) : Option Int :=
  match Binary.ofFloat x with
  | .finite negative mantissa exponent =>
    if Binary.isWhole mantissa exponent then
      some (Binary.signed negative (Binary.wholePart mantissa exponent))
    else none
  | _ => none

/-- The nearest integer toward zero that fits 64 bits: numbers beyond the range give its ends,
and an undefined one gives zero. -/
def truncateToInt64 (x : Float) : Int64 :=
  match Binary.ofFloat x with
  | .nan => 0
  | .infinite negative => if negative then Int64.minValue else Int64.maxValue
  | .finite negative mantissa exponent =>
    let whole := Binary.signed negative (Binary.wholePart mantissa exponent)
    if whole < Int64.minValue.toInt then Int64.minValue
    else if Int64.maxValue.toInt < whole then Int64.maxValue
    else Int64.ofInt whole

/-- The greatest whole number that is not above `x`. Whole, infinite and undefined numbers are
kept as they are, the sign of a zero included. -/
def floor (x : Float) : Float :=
  match Binary.ofFloat x with
  | .finite negative mantissa exponent =>
    if Binary.isWhole mantissa exponent then x
    else
      let whole := Binary.wholePart mantissa exponent
      if negative then Binary.assemble true (whole + 1) 0 else Binary.assemble false whole 0
  | _ => x

/-- The remainder of `x` by `y` with the sign of `x`, exact whatever the two magnitudes. It is
undefined for an infinite `x` and for a zero `y`, and an infinite `y` leaves `x` as it is. -/
def remainder (x y : Float) : Float :=
  let undefined := Float.ofBits 0x7FF8000000000000
  match Binary.ofFloat x, Binary.ofFloat y with
  | .finite .., .infinite _ => x
  | .finite negative dividend exponent, .finite _ divisor divisorExponent =>
    if divisor = 0 then undefined
    else
      let least := min exponent divisorExponent
      let left := dividend * Nat.pow 2 (exponent - least).toNat
      let right := divisor * Nat.pow 2 (divisorExponent - least).toNat
      Binary.assemble negative (left % right) least
  | _, _ => undefined

end CloudTemplate.Decimal
