import CloudTemplate.Decimal.Binary

/-!
# The shortest decimal of a binary number

A finite number stands for every real that rounds to it: an interval around it, whose ends
belong to it when the mantissa is even. Its shortest decimal is the decimal in that interval
with the fewest digits, and of those the one nearest to the number.

The search takes the grids of decimals with one digit, two digits and so on. On each grid
only the two neighbours of the number have to be tried, because a grid that has any point in
the interval has one of them there. When both neighbours are equally near, a `Tie` decides.
All comparisons are between natural numbers.
-/

set_option autoImplicit false

namespace CloudTemplate.Decimal

/-- Which of two equally near neighbours is taken. -/
inductive Tie where
  /-- The one whose last digit is even. -/
  | toEven
  /-- The one further from zero. -/
  | up
  deriving Repr, DecidableEq

/-- The magnitude `coefficient · 10 ^ exponent`, the coefficient without trailing zeros. -/
structure Magnitude where
  coefficient : Nat
  exponent : Int
  deriving Repr, DecidableEq

namespace Magnitude

/-- The digits of the coefficient. -/
def digits (decimal : Magnitude) : List Char :=
  Nat.toDigits 10 decimal.coefficient

/-- Moves trailing zeros of the coefficient into the exponent, at most `limit` of them. -/
def strip : (limit : Nat) → Magnitude → Magnitude
  | 0, decimal => decimal
  | limit + 1, decimal =>
    if decimal.coefficient % 10 = 0 then
      strip limit ⟨decimal.coefficient / 10, decimal.exponent + 1⟩
    else decimal

end Magnitude

/-- The reals that round to a number, as fractions over one denominator: the number itself and
the two ends of the interval around it. -/
structure Interval where
  value : Nat
  low : Nat
  high : Nat
  denominator : Nat
  /-- Whether the ends round to the number too. -/
  closed : Bool
  deriving Repr

namespace Interval

/-- The interval of `mantissa · 2 ^ exponent`. Below a power of two the neighbour is half as
far away as above it, except among the least numbers. -/
def around (mantissa : Nat) (exponent : Int) : Interval :=
  let below : Nat := if mantissa = Nat.pow 2 52 ∧ -1074 < exponent then 1 else 2
  let quarter := exponent - 2
  let scale : Nat := if 0 ≤ quarter then Nat.pow 2 quarter.toNat else 1
  let denominator : Nat := if 0 ≤ quarter then 1 else Nat.pow 2 (-quarter).toNat
  { value := 4 * mantissa * scale
    low := (4 * mantissa - below) * scale
    high := (4 * mantissa + 2) * scale
    denominator
    closed := mantissa % 2 == 0 }

/-- Whether `n / divisor`, with the fractions taken `scale` times, lies in the interval. -/
def holds (interval : Interval) (scale divisor n : Nat) : Bool :=
  let point := n * divisor
  if interval.closed then
    interval.low * scale ≤ point && point ≤ interval.high * scale
  else
    interval.low * scale < point && point < interval.high * scale

/-- The least `k` with `value < 10 ^ k`, for a positive value. -/
def magnitude (interval : Interval) : Int :=
  if interval.denominator ≤ interval.value then
    (Nat.toDigits 10 (interval.value / interval.denominator)).length
  else
    let digits := (Nat.toDigits 10 (interval.denominator / interval.value)).length
    if interval.denominator = interval.value * Nat.pow 10 (digits - 1) then 2 - digits
    else 1 - digits

/-- The neighbour of the value on the grid of `10 ^ exponent` that is to be taken, if one of
the two lies in the interval. -/
def candidate? (interval : Interval) (tie : Tie) (exponent : Int) : Option Nat :=
  let scale : Nat := if 0 ≤ exponent then 1 else Nat.pow 10 (-exponent).toNat
  let divisor : Nat :=
    if 0 ≤ exponent then interval.denominator * Nat.pow 10 exponent.toNat
    else interval.denominator
  let value := interval.value * scale
  let below := value / divisor
  match interval.holds scale divisor below, interval.holds scale divisor (below + 1) with
  | false, false => none
  | true, false => some below
  | false, true => some (below + 1)
  | true, true =>
    let twice := 2 * value
    let middle := (2 * below + 1) * divisor
    if twice < middle then some below
    else if middle < twice then some (below + 1)
    else match tie with
      | .up => some (below + 1)
      | .toEven => some (if below % 2 = 0 then below else below + 1)

/-- Tries the grid of `10 ^ exponent` and then finer ones. Seventeen digits are enough for
every number, so the last grid is taken without a test. -/
def search (interval : Interval) (tie : Tie) : (grids : Nat) → (exponent : Int) → Magnitude
  | 0, exponent => ⟨(interval.candidate? tie exponent).getD 0, exponent⟩
  | grids + 1, exponent =>
    match interval.candidate? tie exponent with
    | some coefficient => ⟨coefficient, exponent⟩
    | none => search interval tie grids (exponent - 1)

end Interval

/-- The shortest decimal of the positive number `mantissa · 2 ^ exponent`. -/
def shortest (tie : Tie) (mantissa : Nat) (exponent : Int) : Magnitude :=
  let interval := Interval.around mantissa exponent
  (interval.search tie 17 (interval.magnitude - 1)).strip 400

end CloudTemplate.Decimal
