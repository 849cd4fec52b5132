import CloudTemplate.Decimal.Shortest

/-!
# Writing numbers

A `Layout` holds the decisions of a number format: which decimals are written positionally,
whether a whole number shows that it is not an integer, and which way ties go. The digits
themselves are those of the shortest decimal.
-/

set_option autoImplicit false

namespace CloudTemplate.Decimal

/-- The decisions of a number format. -/
structure Layout where
  /-- Which of two equally near shortest decimals is written. -/
  tie : Tie
  /-- The exponents of the leading digit for which the number is written positionally; without
  a window that is always so. -/
  window : Option (Int × Int)
  /-- Whether a whole number is written with a point and a zero. -/
  wholeMark : Bool
  deriving Repr

namespace Layout

/-- Whether a number whose leading digit has this exponent is written positionally. -/
def isPositional (layout : Layout) (exponent : Int) : Bool :=
  match layout.window with
  | none => true
  | some (least, greatest) => least ≤ exponent && exponent ≤ greatest

/-- The digits with the point `point` places after their start. -/
def positional (layout : Layout) (digits : List Char) (point : Int) : List Char :=
  if point ≤ 0 then
    '0' :: '.' :: (List.replicate (-point).toNat '0' ++ digits)
  else
    let places := point.toNat
    if digits.length ≤ places then
      digits ++ List.replicate (places - digits.length) '0' ++
        (if layout.wholeMark then ['.', '0'] else [])
    else
      digits.take places ++ '.' :: digits.drop places

/-- One digit, the point and the other digits, and the exponent with its sign. -/
def scientific (digits : List Char) (exponent : Int) : List Char :=
  let mantissa := match digits with
    | [] => ['0']
    | [digit] => [digit]
    | digit :: rest => digit :: '.' :: rest
  let sign := if exponent < 0 then '-' else '+'
  mantissa ++ 'e' :: sign :: Nat.toDigits 10 exponent.natAbs

/-- A magnitude as text. -/
def magnitude (layout : Layout) (decimal : Magnitude) : List Char :=
  let digits := decimal.digits
  let point := decimal.exponent + digits.length
  if layout.isPositional (point - 1) then layout.positional digits point
  else scientific digits (point - 1)

/-- A finite number as text, or nothing for an infinite or undefined one. The sign of a zero is
written. -/
def finite? (layout : Layout) (x : Float) : Option String :=
  match Binary.ofFloat x with
  | .finite negative mantissa exponent =>
    let digits :=
      if mantissa = 0 then layout.positional ['0'] 1
      else layout.magnitude (shortest layout.tie mantissa exponent)
    some (String.ofList (if negative then '-' :: digits else digits))
  | _ => none

end Layout

/-- Numbers in plain text are always written positionally, and whole ones like integers. -/
def plain : Layout where
  tie := .up
  window := none
  wholeMark := false

/-- Any number in plain text. -/
def text (x : Float) : String :=
  match Binary.ofFloat x with
  | .nan => "NaN"
  | .infinite negative => if negative then "-inf" else "inf"
  | .finite .. => (plain.finite? x).getD ""

end CloudTemplate.Decimal
