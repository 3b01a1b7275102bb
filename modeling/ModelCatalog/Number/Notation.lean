import ModelCatalog.Number.Shortest

/-!
# Numbers as text

Integers are written in decimal. Other numbers are written with the fewest digits that read back and always show a point or an
exponent: positionally from `0.00001` up to below `1e+16`, else with one digit before the point and a signed exponent.
-/

namespace ModelCatalog

/-- A number that is written as an integer, or one that is not. They are kept apart: `1` is not written as `1.0`. -/
inductive Number where
  | int (n : Int)
  | real (x : Binary64)
  deriving DecidableEq, Repr

namespace Binary64

/-- `n` zeros. -/
def zeros (n : Nat) : String := String.ofList (List.replicate n '0')

/-- Digits with the decimal point after the first `point` of them, where `-5 < point ≤ 16`. -/
def positional (digits : List Char) (point : Int) : String :=
  if point ≤ 0 then "0." ++ zeros point.natAbs ++ String.ofList digits
  else
    let fraction := digits.drop point.natAbs
    String.ofList (digits.take point.natAbs) ++ zeros (point.natAbs - digits.length) ++ "."
      ++ if fraction.isEmpty then "0" else String.ofList fraction

/-- Digits in the form `d.ddde±x`, without the point when there is one digit. -/
def exponential (digits : List Char) (exponent : Int) : String :=
  let fraction := digits.drop 1
  String.ofList (digits.take 1) ++ (if fraction.isEmpty then "" else "." ++ String.ofList fraction)
    ++ (if exponent < 0 then "e-" else "e+") ++ toString exponent.natAbs

/-- The text of a magnitude. -/
def magnitudeText (units : Nat) : String :=
  if units = 0 then "0.0"
  else
    let decimal := shortest units
    let digits := Nat.toDigits 10 decimal.digits
    let point := decimal.exponent + digits.length
    if -5 < point ∧ point ≤ 16 then positional digits point else exponential digits (point - 1)

/-- The text of a number that is not written as an integer. -/
def text (x : Binary64) : String :=
  (if x.negative then "-" else "") ++ magnitudeText x.units

end Binary64

namespace Number

/-- The text of a number. -/
def text : Number → String
  | int n => toString n
  | real x => x.text

/-- The number rounded to double precision. -/
def toBinary64 : Number → Binary64
  | int n => .ofInt n
  | real x => x

/-- The integer at most `bound`, when the number is written as one and is not negative. -/
def toNat? (bound : Nat) : Number → Option Nat
  | int n => if 0 ≤ n ∧ n ≤ bound then some n.toNat else none
  | real _ => none

/-- Equality of numbers of one kind: integers are compared exactly, the others by value, so both zeros are equal. -/
def same : Number → Number → Bool
  | int m, int n => m == n
  | real x, real y => x.value == y.value
  | _, _ => false

end Number

end ModelCatalog
