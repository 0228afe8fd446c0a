import ScriptScan.Json

/-!
# ScriptScan.Json.Number

From the written form of a number to its value and back.

The significand of a double is kept in a word of 64 bits: digits that no longer
fit are left out, and the result is scaled by one power of ten.
-/

namespace ScriptScan

namespace Json

/-- A number as it is written: its sign, the digits before and after the point,
and the exponent.  A number without point and exponent has neither of the last two. -/
structure Numeral where
  negative : Bool
  whole : List Nat
  fraction : Option (List Nat)
  exponent : Option Int

namespace Numeral

/-- A significand is a word of 64 bits. -/
def significandLimit : Nat := Nat.pow 2 64

/-- Appends digits to a significand as long as it fits a word, and gives the
digits that are left. -/
def absorb (significand : Nat) : List Nat → Nat × List Nat
  | [] => (significand, [])
  | d :: ds =>
    if significand * 10 + d < significandLimit then absorb (significand * 10 + d) ds
    else (significand, d :: ds)

/-- Divides by a power of ten, in steps that are powers a double can hold. -/
def divideByTens (x : Float) (tens : Nat) : Float :=
  if tens ≤ 308 then x / Float.ofScientific 1 false tens
  else if x == 0.0 then x
  else divideByTens (x / Float.ofScientific 1 false 308) (tens - 308)
termination_by tens

/-- A significand scaled by a power of ten.  There is no value for a number that
is too large for a double. -/
def scale? (significand : Nat) (tens : Int) : Option Float :=
  let x := Float.ofNat significand
  if tens < 0 then
    some (divideByTens x tens.natAbs)
  else if tens ≤ 308 then
    let y := x * Float.ofScientific 1 false tens.toNat
    if y.isInf then none else some y
  else if significand = 0 then some x
  else none

/-- The value of a number as a double. -/
def float? (numeral : Numeral) : Option Float :=
  let fraction := numeral.fraction.getD []
  let (significand, left) := absorb 0 numeral.whole
  let (significand, unused) := absorb significand fraction
  let tens := (left.length : Int) - (fraction.length - unused.length : Nat)
    + numeral.exponent.getD 0
  (scale? significand tens).map fun x => if numeral.negative then -x else x

/-- The value of a number.  It is an integer if it is written as one, fits a word
of 64 bits, signed if it is negative, and is not a negative zero. -/
def value? (numeral : Numeral) : Option Json :=
  match numeral.fraction, numeral.exponent, absorb 0 numeral.whole with
  | none, none, (n, []) =>
    if !numeral.negative then some (.integer n)
    else if 0 < n ∧ n ≤ Nat.pow 2 63 then some (.integer (-n))
    else numeral.float?.map .real
  | _, _, _ => numeral.float?.map .real

end Numeral

/-- A double in decimal, with all its digits: every double has finitely many.  An
infinity and a value that is no number are written as null. -/
def realText (x : Float) : String :=
  let bits := x.toBits.toNat
  let exponent := bits / Nat.pow 2 52 % Nat.pow 2 11
  let fraction := bits % Nat.pow 2 52
  let sign := if bits < Nat.pow 2 63 then "" else "-"
  let mantissa := if exponent = 0 then fraction else fraction + Nat.pow 2 52
  let scale := max exponent 1
  if exponent = 2047 then "null"
  else if 1075 ≤ scale then sign ++ toString (mantissa * Nat.pow 2 (scale - 1075)) ++ ".0"
  else
    let places := 1075 - scale
    let digits := (Nat.toDigits 10 (mantissa * Nat.pow 5 places)).leftpad (places + 1) '0'
    let whole := digits.take (digits.length - places)
    let decimals := (digits.drop (digits.length - places)).reverse.dropWhile (· == '0')
    let shown := if decimals.isEmpty then ['0'] else decimals.reverse
    sign ++ String.ofList whole ++ "." ++ String.ofList shown

end Json

end ScriptScan
