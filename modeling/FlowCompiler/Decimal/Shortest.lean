/-!
# Shortest decimals

A 64-bit float stands for every real number that rounds to it. `shortest` finds, among the decimals
in that interval, one with the fewest significant digits, and of those the nearest to the float; of
two equally near ones it takes the even one.

All arithmetic is on natural numbers: a float is `coefficient · 2 ^ exponent` (`Binary`), and it is
compared with the points of a decimal grid by cross multiplication.
-/

namespace FlowCompiler

/-- The number `coefficient · 2 ^ exponent`. -/
structure Binary where
  /-- The integer factor. -/
  coefficient : Nat
  /-- The power of two. -/
  exponent : Int
deriving DecidableEq, Repr

/-- The number `coefficient · 10 ^ exponent`. -/
structure Decimal where
  /-- The integer factor. -/
  coefficient : Nat
  /-- The power of ten. -/
  exponent : Int
deriving DecidableEq, Repr

/-- The quotient `numerator / denominator`, for a denominator that is not zero. -/
structure Ratio where
  /-- What is divided. -/
  numerator : Nat
  /-- What it is divided by. -/
  denominator : Nat
deriving DecidableEq, Repr

namespace Ratio

/-- The ratio times `base ^ exponent`. -/
def scale (ratio : Ratio) (base : Nat) (exponent : Int) : Ratio :=
  if 0 ≤ exponent then
    ⟨ratio.numerator * Nat.pow base exponent.toNat, ratio.denominator⟩
  else
    ⟨ratio.numerator, ratio.denominator * Nat.pow base (-exponent).toNat⟩

/-- Whether the first ratio is the smaller one. -/
def less (left right : Ratio) : Bool :=
  left.numerator * right.denominator < right.numerator * left.denominator

/-- The largest integer that is not above the ratio. -/
def floor (ratio : Ratio) : Nat :=
  ratio.numerator / ratio.denominator

end Ratio

namespace Binary

/-- The least coefficient of a normal float, the fifty-second power of two. -/
def leastNormal : Nat := 0x10000000000000

/-- The number of values of a float's exponent field. -/
def fieldSize : Nat := 0x800

/-- The exponent of the smallest floats. -/
def leastExponent : Int := -1074

/-- The magnitude of a finite float. -/
def ofFloat (value : Float) : Binary :=
  let bits : Nat := value.toBits.toNat
  let fraction : Nat := bits % leastNormal
  let field : Nat := bits / leastNormal % fieldSize
  if field = 0 then
    ⟨fraction, leastExponent⟩
  else
    ⟨leastNormal + fraction, leastExponent + (field - 1 : Nat)⟩

/-- The number as a ratio. -/
def toRatio (number : Binary) : Ratio :=
  Ratio.scale ⟨number.coefficient, 1⟩ 2 number.exponent

/-- The upper end of the numbers that round to this one: half a step above it. -/
def upper (number : Binary) : Ratio :=
  toRatio ⟨2 * number.coefficient + 1, number.exponent - 1⟩

/-- The lower end of the numbers that round to this one: half a step below it. Below a power of two
the step is half as long. -/
def lower (number : Binary) : Ratio :=
  if number.coefficient = leastNormal ∧ leastExponent < number.exponent then
    toRatio ⟨4 * number.coefficient - 1, number.exponent - 2⟩
  else
    toRatio ⟨2 * number.coefficient - 1, number.exponent - 1⟩

/-- Whether the ratio rounds to the number. The ends of the interval do when the coefficient is
even, because ties go to the even neighbour. -/
def absorbs (number : Binary) (ratio : Ratio) : Bool :=
  if number.coefficient % 2 = 0 then
    !ratio.less number.lower && !number.upper.less ratio
  else
    number.lower.less ratio && ratio.less number.upper

end Binary

namespace Decimal

/-- The number as a ratio. -/
def toRatio (number : Decimal) : Ratio :=
  Ratio.scale ⟨number.coefficient, 1⟩ 10 number.exponent

/-- The number with its trailing zeros moved into the power of ten; at most `room` of them. -/
def dropZeros (room : Nat) (number : Decimal) : Decimal :=
  match room with
  | 0 => number
  | room + 1 =>
    if number.coefficient % 10 = 0 then
      dropZeros room ⟨number.coefficient / 10, number.exponent + 1⟩
    else
      number

/-- The exponent of the first significant digit, found by trying downwards from `high`. -/
def leading (ratio : Ratio) (high : Int) (room : Nat) : Int :=
  match room with
  | 0 => high
  | room + 1 =>
    if ratio.less (toRatio ⟨1, high⟩) then leading ratio (high - 1) room else high

/-- Of the two points of the grid `10 ^ exponent` around the number, the one that rounds to it; of
two such points the nearer one, and the even one when they are equally near. -/
def onGrid (number : Binary) (exponent : Int) : Option Decimal :=
  let value := number.toRatio
  let below := (value.scale 10 (-exponent)).floor
  let low : Decimal := ⟨below, exponent⟩
  let high : Decimal := ⟨below + 1, exponent⟩
  let middle := toRatio ⟨10 * below + 5, exponent - 1⟩
  match number.absorbs low.toRatio, number.absorbs high.toRatio with
  | false, false => none
  | true, false => some low
  | false, true => some high
  | true, true =>
    if value.less middle then some low
    else if middle.less value then some high
    else if below % 2 = 0 then some low
    else some high

/-- The first of the grids, from the coarsest down, that has a point which rounds to the number. The
finest grid tried is that of `room` further digits. -/
def firstGrid (number : Binary) (exponent : Int) (room : Nat) : Decimal :=
  match onGrid number exponent, room with
  | some point, _ => point
  | none, 0 => ⟨(number.toRatio.scale 10 (-exponent)).floor, exponent⟩
  | none, room + 1 => firstGrid number (exponent - 1) room

/-- The shortest decimal that rounds to the number: seventeen digits always suffice. -/
def shortest (number : Binary) : Decimal :=
  if number.coefficient = 0 then
    ⟨0, 0⟩
  else
    let start := leading number.toRatio 308 632
    dropZeros 17 (firstGrid number start 16)

end Decimal

end FlowCompiler
