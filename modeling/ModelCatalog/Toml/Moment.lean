import ModelCatalog.Calendar.Parser

/-!
# Dates and times of TOML as text

Dates and times are kept as text in a normal form: `T` between date and time, nine places of a second at most and no zero at their end.
`readMomentText?` reads one that stands in a document; `normalMoment?` makes one of a string, with other bounds for hours and offsets.
-/

namespace ModelCatalog.Toml

/-- A fraction of a second to the ninth place, without zeros at its end, as text. -/
def secondFraction (cs : List Char) : String × List Char :=
  match cs with
  | '.' :: rest =>
    let places := ((rest.takeWhile Char.isDigit).take 9).reverse.dropWhile (· = '0')
    (if places.isEmpty then "" else "." ++ String.ofList places.reverse, rest.dropWhile Char.isDigit)
  | _ => ("", cs)

/-- A time of day with hours up to a bound, as text. -/
def clock? (lastHour : Nat) (cs : List Char) : Option (String × List Char) := do
  let (hour, rest) ← Moment.numberOf? 2 cs
  let (minute, rest) ← Moment.numberOf? 2 (← Moment.mark? ':' rest)
  let (second, rest) ← Moment.numberOf? 2 (← Moment.mark? ':' rest)
  if lastHour < hour ∨ 59 < minute ∨ 60 < second then none
  let behind ← Moment.fraction? rest
  return (String.ofList (cs.take 8) ++ (secondFraction rest).1, behind)

/-- A date, as text. -/
def day? (cs : List Char) : Option (String × List Char) := do
  let (year, rest) ← Moment.numberOf? 4 cs
  let (month, rest) ← Moment.numberOf? 2 (← Moment.mark? '-' rest)
  let (day, rest) ← Moment.numberOf? 2 (← Moment.mark? '-' rest)
  return ((← Date.of? year month day).text, rest)

/-! ### In a document -/

/-- An offset from universal time, as text. No offset has a plus sign. -/
def offset? : List Char → Option (String × List Char)
  | 'Z' :: rest | 'z' :: rest => some ("Z", rest)
  | c :: rest => do
    if c ≠ '+' ∧ c ≠ '-' then none
    let (hours, behind) ← Moment.numberOf? 2 rest
    let (minutes, behind) ← Moment.numberOf? 2 (← Moment.mark? ':' behind)
    if 24 ≤ hours ∨ 60 ≤ minutes then none
    let mark := if hours = 0 ∧ minutes = 0 then "+" else String.singleton c
    return (mark ++ String.ofList (rest.take 5), behind)
  | [] => none

/-- A time of day behind a date, with or without an offset. -/
def clockBehind? : List Char → Option (String × List Char)
  | c :: rest => do
    if !Moment.isSeparator c then none
    let (clock, rest) ← clock? 23 rest
    match offset? rest with
    | some (offset, rest) => return ("T" ++ clock ++ offset, rest)
    | none => return ("T" ++ clock, rest)
  | [] => none

/-- A date, a time of day, or both. -/
def readMomentText? (cs : List Char) : Option (String × List Char) :=
  match day? cs with
  | some (day, rest) =>
    match clockBehind? rest with
    | some (clock, rest) => some (day ++ clock, rest)
    | none => some (day, rest)
  | none => clock? 23 cs

/-! ### In a string -/

/-- An offset from universal time of at most a day, and nothing behind it. -/
def wholeOffset? : List Char → Option String
  | [] => some ""
  | ['Z'] | ['z'] => some "Z"
  | c :: rest => do
    if c ≠ '+' ∧ c ≠ '-' then none
    let (hours, rest) ← Moment.numberOf? 2 rest
    let (minutes, rest) ← Moment.numberOf? 2 (← Moment.mark? ':' rest)
    let total := 60 * hours + minutes
    if !rest.isEmpty ∨ 24 * 60 < total then none
    let mark := if total = 0 then "+" else String.singleton c
    return mark ++ Date.padded 2 (total / 60) ++ ":" ++ Date.padded 2 (total % 60)

/-- The normal form of a string that is a date, a time of day, or both. The hour may be 24. -/
def normalMoment? (s : String) : Option String := do
  let cs := s.toList
  if cs[2]? = some ':' then
    let (clock, rest) ← clock? 24 cs
    if rest.isEmpty then return clock else none
  else
    let (day, rest) ← day? cs
    match rest with
    | [] => return day
    | c :: rest =>
      if !Moment.isSeparator c then none
      let (clock, rest) ← clock? 24 rest
      return day ++ "T" ++ clock ++ (← wholeOffset? rest)

end ModelCatalog.Toml
