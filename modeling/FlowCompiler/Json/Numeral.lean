import FlowCompiler.Json.Basic
import FlowCompiler.Json.Step

/-!
# Numbers in a text

`readNumeral` takes the characters of a number apart: sign, whole digits, fraction and exponent.
`Numeral.value?` says what number they stand for. An integer that fits in 64 bits is kept as it is.
Any other number is a float: its leading digits are gathered into an integer below `2 ^ 64`, which
is multiplied or divided by a power of ten, each step rounding. There is no number beyond the
largest float.
-/

namespace FlowCompiler.Json

/-- The sign and the digits of the power of ten. -/
structure Exponent where
  /-- Whether a minus sign stands before the digits. -/
  negative : Bool
  /-- The digits; at least one. -/
  digits : List Char
deriving DecidableEq, Repr

/-- The parts of a number's text. -/
structure Numeral where
  /-- Whether a minus sign stands before the digits. -/
  negative : Bool
  /-- The digits before the point; at least one. -/
  whole : List Char
  /-- The digits behind the point; none when there is no point. -/
  fraction : List Char
  /-- The exponent. -/
  exponent : Option Exponent
deriving DecidableEq, Repr

/-- The value of a decimal digit. -/
def digitValue (c : Char) : Nat :=
  c.toNat - '0'.toNat

/-- Takes a digit and those that follow it. -/
def spanDigits (digit : Char) (text : List Char) : Step (List Char) (digit :: text) :=
  ⟨digit :: text.takeWhile Char.isDigit, text.dropWhile Char.isDigit,
    Nat.lt_succ_of_le (List.dropWhile_sublist Char.isDigit).length_le⟩

/-! ## Reading -/

/-- Reads the digits that must stand at the front of the text; `atEnd` says what it means if the
text ends instead. -/
def readDigits (atEnd : Cause) : Reader (List Char)
  | [] => .error (.peek atEnd [])
  | c :: rest =>
    if c.isDigit then
      .ok (spanDigits c rest)
    else
      .error (.peek .malformedNumber (c :: rest))

/-- Reads the digits before the point: a zero stands alone. -/
def readWhole (atEnd : Cause) : Reader (List Char)
  | '0' :: c :: rest =>
    if c.isDigit then
      .error (.peek .malformedNumber (c :: rest))
    else
      .ok (.one ['0'])
  | text => readDigits atEnd text

/-- Reads the digits behind the letter of the exponent, with their sign. -/
def readExponent (atEnd : Cause) : Reader Exponent
  | '+' :: rest => (readDigits atEnd rest).map fun step =>
    (step.map fun digits => ⟨false, digits⟩).afterChar
  | '-' :: rest => (readDigits atEnd rest).map fun step =>
    (step.map fun digits => ⟨true, digits⟩).afterChar
  | text => (readDigits atEnd text).map fun step => step.map fun digits => ⟨false, digits⟩

/-- A step from behind the first character that a step has left, as one from where that began. -/
def continueAfter {α β : Type} {text rest : List Char} {c : Char} (first : Step α text)
    (h : first.rest = c :: rest) (step : Step β rest) : Step β text :=
  step.after <| by
    have := first.shorter
    rw [h, List.length_cons] at this
    omega

/-- Reads the exponent, if one follows the digits that have been read. -/
def readScale {text : List Char} (atEnd : Cause) (numeral : Step Numeral text) :
    Except Fault (Step Numeral text) :=
  match h : numeral.rest with
  | [] => .ok numeral
  | c :: rest =>
    if c = 'e' || c = 'E' then
      (readExponent atEnd rest).map fun step =>
        continueAfter numeral h
          (step.map fun exponent => { numeral.value with exponent := some exponent })
    else
      .ok numeral

/-- Reads the fraction, if there is one, and then the exponent. -/
def readTail {text : List Char} (atEnd : Cause) (numeral : Step Numeral text) :
    Except Fault (Step Numeral text) :=
  match h : numeral.rest with
  | '.' :: rest =>
    match readDigits atEnd rest with
    | .error fault => .error fault
    | .ok step =>
      readScale atEnd <| continueAfter numeral h
        (step.map fun digits => { numeral.value with fraction := digits })
  | _ => readScale atEnd numeral

/-- Reads the characters of a number; `atEnd` is the cause when the text ends where a digit must
stand. -/
def readNumeral (atEnd : Cause) : Reader Numeral
  | '-' :: rest =>
    match readWhole atEnd rest with
    | .error fault => .error fault
    | .ok step => readTail atEnd (step.map fun digits => ⟨true, digits, [], none⟩).afterChar
  | text =>
    match readWhole atEnd text with
    | .error fault => .error fault
    | .ok step => readTail atEnd (step.map fun digits => ⟨false, digits, [], none⟩)

/-! ## Value -/

/-- The least integer that does not fit in 64 bits. -/
def wordSize : Nat := 0x10000000000000000

/-- Extends an integer by digits as long as it stays below the word size; the second part holds the
digits that are left. -/
def gather (value : Nat) : List Char → Nat × List Char
  | [] => (value, [])
  | digit :: rest =>
    let extended := 10 * value + digitValue digit
    if extended < wordSize then gather extended rest else (value, digit :: rest)

/-- The power of ten nearest to `10 ^ exponent`; exponents up to 308 occur. -/
def powerOfTen (exponent : Nat) : Float :=
  Float.ofScientific 1 false exponent

/-- Divides by a power of ten, at most `10 ^ 308` at a time. -/
def divideByPower (value : Float) (exponent : Nat) : Float :=
  if exponent ≤ 308 then
    value / powerOfTen exponent
  else if value == 0 then
    value
  else
    divideByPower (value / powerOfTen 308) (exponent - 308)
termination_by exponent

/-- The float for `significand · 10 ^ exponent`, or `none` when it is too large. -/
def scaleFloat? (significand : Nat) (exponent : Int) : Option Float :=
  let value := (UInt64.ofNat significand).toFloat
  if exponent < 0 then
    some (divideByPower value exponent.natAbs)
  else if exponent ≤ 308 then
    let scaled := value * powerOfTen exponent.natAbs
    if scaled.isInf then none else some scaled
  else if significand = 0 then
    some value
  else
    none

namespace Exponent

/-- The largest exponent that is computed with. -/
def limit : Nat := 0x7FFFFFFF

/-- Reads digits behind those of `value` up to the one that takes the exponent past its limit;
`none` when none does, else the digits behind that one. -/
def excessFrom (value : Nat) : List Char → Option (List Char)
  | [] => none
  | digit :: rest =>
    let extended := 10 * value + digitValue digit
    if extended ≤ limit then excessFrom extended rest else some rest

/-- The digits behind the one that takes the exponent past its limit. -/
def excess (exponent : Exponent) : Option (List Char) :=
  excessFrom 0 exponent.digits

/-- The power of ten that the exponent stands for. -/
def value (exponent : Exponent) : Int :=
  let size : Nat := exponent.digits.foldl (fun value digit => 10 * value + digitValue digit) 0
  if exponent.negative then -size else size

end Exponent

namespace Numeral

/-- The float with the sign of the numeral. -/
def signed (numeral : Numeral) (magnitude : Float) : Float :=
  if numeral.negative then -magnitude else magnitude

/-- The integer that the leading digits form, and the power of ten that goes with it when the
exponent is left out. Whole digits that do not fit raise the power, fraction digits that fit
lower it. -/
def significand (numeral : Numeral) : Nat × Int :=
  let whole := gather 0 numeral.whole
  let both := gather whole.1 numeral.fraction
  (both.1, (whole.2.length : Int) - (numeral.fraction.length - both.2.length : Nat))

/-- The value of a numeral without fraction and exponent, when it is kept as an integer. -/
def integer? (numeral : Numeral) : Option Int :=
  let whole := gather 0 numeral.whole
  if whole.2 ≠ [] ∨ numeral.fraction ≠ [] ∨ numeral.exponent.isSome then
    none
  else if !numeral.negative then
    some whole.1
  else if whole.1 = 0 ∨ wordSize < 2 * whole.1 then
    none
  else
    some (-whole.1)

/-- The value of a numeral as a float, or `none` when it is too large. -/
def float? (numeral : Numeral) : Option Float :=
  let (significand, power) := numeral.significand
  let magnitude :=
    match numeral.exponent with
    | none => scaleFloat? significand power
    | some exponent =>
      if exponent.excess.isNone then
        scaleFloat? significand (power + exponent.value)
      else if significand = 0 ∨ exponent.negative then
        some 0
      else
        none
  magnitude.map numeral.signed

/-- The number that the numeral stands for, or `none` when it is too large. -/
def value? (numeral : Numeral) : Option Number :=
  match numeral.integer? with
  | some value => some (.whole value)
  | none => numeral.float?.map .real

/-- The digits of a numeral that is too large which are not looked at: those behind the one that
takes the exponent past its limit. -/
def unread (numeral : Numeral) : List Char :=
  (numeral.exponent.bind Exponent.excess).getD []

end Numeral

/-- Reads a number. -/
def readNumber : Reader Number := fun text =>
  match readNumeral .endInValue text with
  | .error fault => .error fault
  | .ok step =>
    match step.value.value? with
    | some value => .ok (step.map fun _ => value)
    | none => .error (.behind .numberTooLarge (step.value.unread ++ step.rest))

end FlowCompiler.Json
