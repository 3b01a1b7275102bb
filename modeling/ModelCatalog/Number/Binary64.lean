/-!
# Double-precision numbers

A finite double-precision number is a whole multiple of the least positive one, `2 ^ -1074`. `Binary64` keeps that multiple and the
sign, so comparison is comparison of integers and every rounding step is exact arithmetic on natural numbers followed by one
rounding to 53 significant bits.
-/

namespace ModelCatalog

/-- A finite double-precision number: its sign and its magnitude, counted in units of `2 ^ -1074`. Negative zero is kept apart
from zero. -/
structure Binary64 where
  negative : Bool
  units : Nat
  deriving DecidableEq, Repr

namespace Binary64

/-- The number of units in one. -/
def one : Nat := 1 <<< 1074

/-- The least magnitude that is out of range, `2 ^ 1024`. -/
def limit : Nat := 1 <<< 2098

/-- The value in units, with its sign. Both zeros have the value zero. -/
def value (x : Binary64) : Int :=
  if x.negative then -(x.units : Int) else x.units

/-- The whole number nearest to `num / den`, a tie going to the even one. -/
def roundQuotient (num den : Nat) : Nat :=
  let whole := num / den
  let twice := 2 * (num % den)
  if twice < den then whole
  else if den < twice then whole + 1
  else whole + whole % 2

/-- How many low bits of a magnitude of `whole` units fall outside its 53 significant bits. -/
def spareBits (whole : Nat) : Nat := whole.log2 + 1 - 53

/-- The magnitude nearest to `num / den` units among those with at most 53 significant bits. -/
def roundUnits (num den : Nat) : Nat :=
  let spare := spareBits (num / den)
  roundQuotient num (den <<< spare) <<< spare

/-- The number nearest to an integer. -/
def ofInt (n : Int) : Binary64 where
  negative := n < 0
  units := roundUnits (n.natAbs * one) 1

/-- The magnitude nearest to `10 ^ k`. -/
def powerOfTen (k : Nat) : Nat := roundUnits (Nat.pow 10 k * one) 1

/-- The rounded product of two magnitudes. -/
def mulUnits (a b : Nat) : Nat := roundUnits (a * b) one

/-- The rounded quotient of two magnitudes. -/
def divUnits (a b : Nat) : Nat := roundUnits (a * one) b

/-- The greatest power of ten that is in range. -/
def maxPower : Nat := 308

/-- A magnitude divided by `10 ^ k`, rounded after each division by a power that is in range. -/
def shrink (units k : Nat) : Nat :=
  if k ≤ maxPower then divUnits units (powerOfTen k)
  else if units = 0 then 0
  else shrink (divUnits units (powerOfTen maxPower)) (k - maxPower)
termination_by k
decreasing_by simp only [maxPower] at *; omega

/-- The magnitude of `digits * 10 ^ exponent`, reached from the rounded digits by one multiplication, or by divisions, each
rounded; `none` beyond the range. The result can differ from the nearest number in the last place. -/
def scale? (digits : Nat) (exponent : Int) : Option Nat :=
  let start := roundUnits (digits * one) 1
  if exponent < 0 then some (shrink start exponent.natAbs)
  else if exponent.natAbs ≤ maxPower then
    let product := mulUnits start (powerOfTen exponent.natAbs)
    if product < limit then some product else none
  else if start = 0 then some 0
  else none

/-- The magnitude nearest to `digits * 10 ^ exponent`; `none` beyond the range. An exponent past the bounds settles the answer
without the power being computed. -/
def nearest? (digits : Nat) (exponent : Int) : Option Nat :=
  if digits = 0 then some 0
  else
    let places := (Nat.toDigits 10 digits).length
    if exponent + places > 400 then none
    else if exponent + places < -400 then some 0
    else
      let units :=
        if exponent < 0 then roundUnits (digits * one) (Nat.pow 10 exponent.natAbs)
        else roundUnits (digits * Nat.pow 10 exponent.natAbs * one) 1
      if units < limit then some units else none

end Binary64

end ModelCatalog
