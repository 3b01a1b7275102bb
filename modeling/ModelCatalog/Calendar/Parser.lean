import ModelCatalog.Calendar.Basic
import ModelCatalog.Json.Parser
import ModelCatalog.Text.Blank

/-!
# Reading points of time

A point of time is a date and time with an offset in the form of RFC 3339, a date and time without offset, a date, or a time of day.
The last three are read leniently: numbers may have blanks in front of them and need not be filled up with zeros, and a year with a sign
may have any number of digits.
-/

namespace ModelCatalog.Moment

/-- The number in the leading digits, of which there is at least one; at most `most` of them are read. -/
def number? (most : Nat) (cs : List Char) : Option (Nat × List Char) :=
  let ds := (cs.take most).takeWhile Char.isDigit
  if ds.isEmpty then none
  else some ((ds.filterMap Json.digit?).foldl (fun n d => 10 * n + d) 0, cs.drop ds.length)

/-- The number in exactly `width` leading digits. -/
def numberOf? (width : Nat) (cs : List Char) : Option (Nat × List Char) :=
  if (cs.take width).length = width && (cs.take width).all Char.isDigit then number? width cs else none

/-- A character that has to come first. -/
def mark? (c : Char) : List Char → Option (List Char)
  | d :: rest => if d = c then some rest else none
  | [] => none

/-- A fraction of a second, which is not kept, if there is one. -/
def fraction? : List Char → Option (List Char)
  | '.' :: rest =>
    match rest with
    | c :: _ => if c.isDigit then some (rest.dropWhile Char.isDigit) else none
    | [] => none
  | cs => some cs

/-! ### The form of RFC 3339 -/

/-- The offset from universal time. Only its form matters, and that it is less than a day. -/
def offset? : List Char → Option (List Char)
  | 'Z' :: rest | 'z' :: rest => some rest
  | sign :: rest => do
    if sign ≠ '+' ∧ sign ≠ '-' ∧ sign ≠ '−' then none
    let (hours, rest) ← numberOf? 2 rest
    let (minutes, rest) ← numberOf? 2 (← mark? ':' rest)
    if hours < 24 ∧ minutes < 60 then return rest else none
  | [] => none

/-- Whether a character may stand between date and time. -/
def isSeparator (c : Char) : Bool := c = 'T' || c = 't' || c = ' '

/-- A date and time with an offset, all numbers at their full width. -/
def readStrict? (cs : List Char) : Option Moment := do
  let (year, cs) ← numberOf? 4 cs
  let (month, cs) ← numberOf? 2 (← mark? '-' cs)
  let (day, cs) ← numberOf? 2 (← mark? '-' cs)
  match cs with
  | [] => none
  | c :: cs => do
    if !isSeparator c then none
    let (hour, cs) ← numberOf? 2 cs
    let (minute, cs) ← numberOf? 2 (← mark? ':' cs)
    let (second, cs) ← numberOf? 2 (← mark? ':' cs)
    let rest ← offset? (← fraction? cs)
    if rest.isEmpty then return both (← Date.of? year month day) (← DayTime.of? hour minute second) else none

/-! ### The lenient forms -/

/-- A number of at most two digits, with or without blanks in front. -/
def twoDigits? (cs : List Char) : Option (Nat × List Char) := number? 2 (Text.dropBlanks cs)

/-- A year: up to four digits, or any number of digits behind a sign. -/
def year? (cs : List Char) : Option (Int × List Char) :=
  match Text.dropBlanks cs with
  | '-' :: rest => (number? rest.length rest).map fun (n, rest) => (-(n : Int), rest)
  | '+' :: rest => (number? rest.length rest).map fun (n, rest) => ((n : Int), rest)
  | rest => (number? 4 rest).map fun (n, rest) => ((n : Int), rest)

/-- A date at the beginning of a text. -/
def readDate? (cs : List Char) : Option (Date × List Char) := do
  let (year, cs) ← year? cs
  let (month, cs) ← twoDigits? (← mark? '-' cs)
  let (day, cs) ← twoDigits? (← mark? '-' cs)
  return (← Date.of? year month day, cs)

/-- A time of day at the beginning of a text. -/
def readTime? (cs : List Char) : Option (DayTime × List Char) := do
  let (hour, cs) ← twoDigits? cs
  let (minute, cs) ← twoDigits? (← mark? ':' cs)
  let (second, cs) ← twoDigits? (← mark? ':' cs)
  let cs ← fraction? cs
  return (← DayTime.of? hour minute second, cs)

/-- A value that takes up the whole text. -/
def whole? {α : Type} : α × List Char → Option α
  | (value, []) => some value
  | _ => none

/-- A date and time without offset, with a `T` or any number of blanks between them. -/
def readBoth? (cs : List Char) : Option Moment := do
  let (day, rest) ← readDate? cs
  let timeBehind (rest : List Char) : Option DayTime := readTime? rest >>= whole?
  let clock ← ((mark? 'T' rest).bind timeBehind) <|> timeBehind (Text.dropBlanks rest)
  return both day clock

/-- The point of time in a text. -/
def parse? (s : String) : Option Moment :=
  let cs := s.toList
  readStrict? cs <|> readBoth? cs <|> ((readDate? cs >>= whole?).map date) <|> ((readTime? cs >>= whole?).map time)

end ModelCatalog.Moment
