import ModelCatalog.Toml.Text
import ModelCatalog.Toml.Value

/-!
# Values of TOML that are not nested

Strings, words, numbers, dates and times.
-/

namespace ModelCatalog.Toml

/-! ### Numbers -/

/-- The digits up to a character that is neither a digit nor an underscore in front of one. -/
def moreDigits? (digit? : Char → Option Nat) : List Char → Option (List Nat × List Char)
  | '_' :: c :: rest =>
    match digit? c with
    | some d => (moreDigits? digit? rest).map fun (ds, rest) => (d :: ds, rest)
    | none => none
  | c :: rest =>
    match digit? c with
    | some d => (moreDigits? digit? rest).map fun (ds, rest) => (d :: ds, rest)
    | none => if c = '_' then none else some ([], c :: rest)
  | [] => some ([], [])

/-- At least one digit; an underscore may stand between two of them. -/
def digitRun? (digit? : Char → Option Nat) : List Char → Option (List Nat × List Char)
  | c :: rest => do
    let first ← digit? c
    let (ds, rest) ← moreDigits? digit? rest
    return (first :: ds, rest)
  | [] => none

/-- Decimal digits that do not begin with a zero, or a zero alone. -/
def wholeRun? : List Char → Option (List Nat × List Char)
  | '0' :: rest => some ([0], rest)
  | cs => digitRun? Json.digit? cs

/-- The value of digits in a base. -/
def valueOf (base : Nat) (ds : List Nat) : Nat := ds.foldl (fun n d => base * n + d) 0

/-- A sign, if there is one, and whether it is a minus sign. -/
def sign : List Char → Bool × List Char
  | '-' :: rest => (true, rest)
  | '+' :: rest => (false, rest)
  | cs => (false, cs)

/-- The value of a digit below a base of at most 16. -/
def digitIn? (base : Nat) (c : Char) : Option Nat := (Json.hexValue? c).filter (· < base)

/-- An integer of 64 bits with its sign. -/
def intOf? (n : Int) : Option Value := if Int64.minValue.toInt ≤ n ∧ n ≤ Int64.maxValue.toInt then some (.int n) else none

/-- An integer in a base other than ten, behind its prefix. -/
def readBased? (base : Nat) (cs : List Char) : Option (Value × List Char) := do
  let (ds, rest) ← digitRun? (digitIn? base) cs
  return (← intOf? (valueOf base ds), rest)

/-- An integer. -/
def readInt? : List Char → Option (Value × List Char)
  | '0' :: 'x' :: rest => readBased? 16 rest
  | '0' :: 'o' :: rest => readBased? 8 rest
  | '0' :: 'b' :: rest => readBased? 2 rest
  | cs => do
    let (negative, cs) := sign cs
    let (ds, rest) ← wholeRun? cs
    let n : Int := valueOf 10 ds
    return (← intOf? (if negative then -n else n), rest)

/-- An exponent, if there is one. -/
def exponent? : List Char → Option (Option Int × List Char)
  | 'e' :: cs | 'E' :: cs => do
    let (negative, cs) := sign cs
    let (ds, rest) ← digitRun? Json.digit? cs
    let n : Int := valueOf 10 ds
    return (some (if negative then -n else n), rest)
  | cs => some (none, cs)

/-- The digits behind a point, if there is one. -/
def fraction? : List Char → Option (List Nat × List Char)
  | '.' :: cs => digitRun? Json.digit? cs
  | cs => some ([], cs)

/-- A number with a fraction or an exponent. Below the range it is infinite; above it there is none. -/
def readReal? (cs : List Char) : Option (Value × List Char) := do
  let (negative, cs) := sign cs
  let (whole, cs) ← wholeRun? cs
  let (fraction, cs) ← fraction? cs
  let (exponent, rest) ← exponent? cs
  if fraction.isEmpty && exponent.isNone then none
  match Binary64.nearest? (valueOf 10 (whole ++ fraction)) (exponent.getD 0 - fraction.length) with
  | some units => return (.number (.real ⟨negative, units⟩), rest)
  | none => if negative then return (.unbounded, rest) else none

/-- An infinite number, or what is not a number. -/
def readSpecial? (cs : List Char) : Option (Value × List Char) :=
  match (sign cs).2 with
  | 'i' :: 'n' :: 'f' :: rest => some (.unbounded, rest)
  | 'n' :: 'a' :: 'n' :: rest => some (.unbounded, rest)
  | _ => none

/-! ### All of them -/

/-- A value that is not nested. A part of a longer value that could be read as a shorter one leaves a rest that no value can have
behind it, so the order of the forms only has to try the longer ones first. -/
def readScalar? (cs : List Char) : Option (Value × List Char) :=
  ((readString? cs).map fun (s, rest) => (.text s, rest)) <|> (Json.dropWord? "true" cs).map (.bool true, ·)
    <|> (Json.dropWord? "false" cs).map (.bool false, ·) <|> ((readMomentText? cs).map fun (s, rest) => (.moment s, rest))
    <|> readReal? cs <|> readInt? cs <|> readSpecial? cs

end ModelCatalog.Toml
