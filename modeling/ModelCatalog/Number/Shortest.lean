import ModelCatalog.Number.Binary64

/-!
# The fewest digits that read back

Every decimal in the interval of reals that round to a magnitude reads back as that magnitude. `shortest` takes the coarsest decimal
grid with a point in the interval and, of its points there, the one nearest to the magnitude.
-/

namespace ModelCatalog.Binary64

/-- The reals that round to a magnitude, in quarters of a unit; the ends belong to it when `closed`. -/
structure Interval where
  low : Nat
  centre : Nat
  high : Nat
  closed : Bool

/-- The interval of a magnitude. Below a power of two the neighbours stand half as far apart. -/
def interval (units : Nat) : Interval :=
  let gap := 1 <<< spareBits units
  let significand := units / gap
  let below := if significand = 1 <<< 52 ∧ 1 < gap then gap else 2 * gap
  { low := 4 * units - below
    centre := 4 * units
    high := 4 * units + 2 * gap
    closed := significand % 2 == 0 }

/-- Whether the fraction `num / den` lies in the interval. -/
def Interval.holds (i : Interval) (num den : Nat) : Bool :=
  if i.closed then i.low * den ≤ num && num ≤ i.high * den
  else i.low * den < num && num < i.high * den

/-- A decimal number `digits * 10 ^ exponent`. -/
structure Decimal where
  digits : Nat
  exponent : Int
  deriving DecidableEq, Repr

/-- The finest decimal grid in use is that of `10 ^ -324`: each interval holds one of its points. -/
def finest : Nat := 324

/-- The point of the grid of `10 ^ (q - finest)` to use: the nearer of the magnitude's two neighbours on the grid that are in the
interval, an even one on a tie. -/
def gridPoint? (i : Interval) (q : Nat) : Option Nat :=
  -- Quarters of a unit are `2 ^ -1076`; both sides are scaled by `10 ^ finest * 2 ^ 1076`.
  let scale := Nat.pow 10 finest
  let step := Nat.pow 10 q * (4 * one)
  let below := i.centre * scale / step
  let lowIn := i.holds (below * step) scale
  let highIn := i.holds ((below + 1) * step) scale
  if lowIn && highIn then
    let twice := 2 * (i.centre * scale % step)
    some (if twice < step then below else if step < twice then below + 1 else below + below % 2)
  else if lowIn then some below
  else if highIn then some (below + 1)
  else none

/-- The first grid with a point in the interval, from `10 ^ (q - finest)` downwards. -/
def firstGrid (i : Interval) : Nat → Decimal
  | 0 => ⟨(gridPoint? i 0).getD 0, -(finest : Int)⟩
  | q + 1 =>
    match gridPoint? i (q + 1) with
    | some 0 | none => firstGrid i q
    | some digits => ⟨digits, (q + 1 : Int) - finest⟩

/-- The decimal with the fewest digits that reads back as a positive magnitude, and of those the nearest to it. -/
def shortest (units : Nat) : Decimal :=
  firstGrid (interval units) (Nat.toDigits 10 (units * Nat.pow 10 finest / one)).length

end ModelCatalog.Binary64
