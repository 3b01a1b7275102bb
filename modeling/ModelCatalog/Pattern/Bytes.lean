/-!
# Ranges of characters as ranges of bytes

The UTF-8 forms of the code points of a range, as sequences of byte ranges: each sequence stands for all ways to choose a byte from each of
its ranges, and the sequences come in the order of the code points.
-/

namespace ModelCatalog.Pattern

/-- The bytes from the first to the last. -/
structure ByteRange where
  first : Nat
  last : Nat
  deriving DecidableEq

/-- The sequences of the numbers from `first` to `last` that are written with one byte, whose least value is `base`, and then `rest`
bytes of six bits each. -/
def byteSequences (base : Nat) : Nat → Nat → Nat → List (List ByteRange)
  | 0, first, last => [[⟨base + first, base + last⟩]]
  | rest + 1, first, last =>
    let unit := 1 <<< (6 * (rest + 1))
    let low := first / unit
    let high := last / unit
    let within (a b start stop : Nat) := (byteSequences 0x80 rest start stop).map (⟨base + a, base + b⟩ :: ·)
    if low = high then within low low (first % unit) (last % unit)
    else
      let startsWhole := first % unit = 0
      let endsWhole := last % unit = unit - 1
      let wholeLow := if startsWhole then low else low + 1
      let wholeHigh := if endsWhole then high else high - 1
      (if startsWhole then [] else within low low (first % unit) (unit - 1))
        ++ (if wholeLow ≤ wholeHigh then within wholeLow wholeHigh 0 (unit - 1) else [])
        ++ (if endsWhole then [] else within high high 0 (last % unit))

/-- The code points that are written with as many bytes: the first and the last one, the least value of the first byte, and how many
bytes follow it. -/
def byteLengths : List (Nat × Nat × Nat × Nat) :=
  [(0, 0x7F, 0, 0), (0x80, 0x7FF, 0xC0, 1), (0x800, 0xFFFF, 0xE0, 2), (0x10000, 0x10FFFF, 0xF0, 3)]

/-- The sequences of the code points from `first` to `last`. -/
def utf8Sequences (first last : Nat) : List (List ByteRange) :=
  byteLengths.flatMap fun (low, high, base, rest) =>
    if last < low ∨ high < first then [] else byteSequences base rest (max first low) (min last high)

end ModelCatalog.Pattern
