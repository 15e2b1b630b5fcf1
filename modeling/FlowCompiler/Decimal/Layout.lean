import FlowCompiler.Decimal.Shortest

/-!
# The text of a float

A float is written with its shortest digits. Its leading exponent `e` decides the layout: from
`-5` to `15` the digits stand in their places around the point, a whole number with `.0` behind
it; otherwise one digit stands before the point and `e` follows with its sign.
-/

namespace FlowCompiler.Decimal

/-- The exponents of the first digit that are written in place. -/
def inPlace (exponent : Int) : Bool :=
  -5 ≤ exponent && exponent < 16

/-- The digits of a decimal. -/
def digits (number : Decimal) : List Char :=
  Nat.toDigits 10 number.coefficient

/-- Digits in their places around the point, the first of them at `10 ^ exponent`. -/
def positional (digits : List Char) (exponent : Int) : List Char :=
  if exponent < 0 then
    ['0', '.'] ++ List.replicate (-exponent - 1).toNat '0' ++ digits
  else
    let whole := exponent.toNat + 1
    if digits.length ≤ whole then
      digits ++ List.replicate (whole - digits.length) '0' ++ ['.', '0']
    else
      digits.take whole ++ ['.'] ++ digits.drop whole

/-- One digit, the further ones behind a point, and the exponent with its sign. -/
def scientific (digits : List Char) (exponent : Int) : List Char :=
  let sign := if exponent < 0 then '-' else '+'
  let point := if digits.length ≤ 1 then [] else '.' :: digits.drop 1
  digits.take 1 ++ point ++ ['e', sign] ++ Nat.toDigits 10 exponent.natAbs

/-- The text of a decimal that is not negative. -/
def layout (number : Decimal) : List Char :=
  let shown := number.digits
  let exponent := number.exponent + shown.length - 1
  if inPlace exponent then positional shown exponent else scientific shown exponent

/-- Whether the sign bit of a float is set. -/
def hasSign (value : Float) : Bool :=
  0x8000000000000000 ≤ value.toBits.toNat

/-- The text of a finite float. A zero keeps its sign. -/
def floatText (value : Float) : List Char :=
  (if hasSign value then ['-'] else []) ++ layout (shortest (Binary.ofFloat value))

end FlowCompiler.Decimal
