import ModelCatalog.Json.Basic
import ModelCatalog.Json.Outline

/-!
# Reading JSON text

`Json.read?` keeps the members of objects as they stand in the text, but for those that an outline leaves out; `Json.parse?` reads the
whole and also sorts them. A number without point and exponent that fits 64 bits, signed or not, is an integer, every other number is
rounded to double precision; `-0` is not an integer. Values nested more than 127 levels deep, numbers beyond the range of double precision
and escapes of unpaired surrogates are refused, except in what is left out.
-/

namespace ModelCatalog.Json

/-- How deep lists and objects may be nested. -/
def maxDepth : Nat := 127

/-- The text without leading blanks. -/
def skipBlanks (cs : List Char) : List Char :=
  cs.dropWhile fun c => c == ' ' || c == '\n' || c == '\t' || c == '\r'

/-- The value of a decimal digit. -/
def digit? (c : Char) : Option Nat := if c.isDigit then some (c.toNat - '0'.toNat) else none

/-- The value of a hexadecimal digit. -/
def hexValue? (c : Char) : Option Nat :=
  if c.isDigit then some (c.toNat - '0'.toNat)
  else if 'a' ≤ c ∧ c ≤ 'f' then some (c.toNat - 'a'.toNat + 10)
  else if 'A' ≤ c ∧ c ≤ 'F' then some (c.toNat - 'A'.toNat + 10)
  else none

/-- The leading decimal digits and the rest. -/
def digits (cs : List Char) : List Nat × List Char :=
  ((cs.takeWhile Char.isDigit).filterMap digit?, cs.dropWhile Char.isDigit)

/-- Appends digits to a number as long as it fits 64 bits; the digits from the first that does not are left over. -/
def absorb (n : Nat) : List Nat → Nat × List Nat
  | [] => (n, [])
  | d :: rest => if 10 * n + d < UInt64.size then absorb (10 * n + d) rest else (n, d :: rest)

/-- The digits before the point: `0` alone, or digits that do not start with it. -/
def wholeDigits? (cs : List Char) : Option (List Nat × List Char) :=
  match digits cs with
  | ([], _) => none
  | (0 :: _ :: _, _) => none
  | found => some found

/-- A point followed by at least one digit, or nothing. -/
def fractionDigits? : List Char → Option (List Nat × List Char)
  | '.' :: cs =>
    match digits cs with
    | ([], _) => none
    | found => some found
  | cs => some ([], cs)

/-- The digits of an exponent with an optional sign. -/
def exponentDigits? (cs : List Char) : Option (Int × List Char) :=
  let (negative, cs) := match cs with
    | '-' :: rest => (true, rest)
    | '+' :: rest => (false, rest)
    | rest => (false, rest)
  match digits cs with
  | ([], _) => none
  | (ds, rest) =>
    let n : Nat := ds.foldl (fun n d => 10 * n + d) 0
    some (if negative then -(n : Int) else n, rest)

/-- An exponent, or nothing. -/
def exponent? : List Char → Option (Option Int × List Char)
  | 'e' :: cs | 'E' :: cs => (exponentDigits? cs).map fun (n, rest) => (some n, rest)
  | cs => some (none, cs)

/-- The number with the given parts. Digits that do not fit 64 bits are counted but their values are dropped. -/
def numberOf? (negative : Bool) (whole fraction : List Nat) (isInt : Bool) (exponent : Int) : Option Number :=
  let (start, wholeLeft) := absorb 0 whole
  let (significand, fractionLeft) := absorb start fraction
  let shift := exponent + wholeLeft.length - (fraction.length - fractionLeft.length : Nat)
  if isInt && wholeLeft.isEmpty && !negative then some (.int significand)
  else if isInt && wholeLeft.isEmpty && 0 < significand && Int64.minValue.toInt ≤ -(significand : Int) then
    some (.int (-(significand : Int)))
  else (Binary64.scale? significand shift).map fun units => .real ⟨negative, units⟩

/-- A number. -/
def readNumber? (cs : List Char) : Option (Number × List Char) := do
  let (negative, cs) := match cs with
    | '-' :: rest => (true, rest)
    | rest => (false, rest)
  let (whole, afterWhole) ← wholeDigits? cs
  let (fraction, afterFraction) ← fractionDigits? afterWhole
  let (exponent, rest) ← exponent? afterFraction
  let isInt := fraction.isEmpty && exponent.isNone
  let n ← numberOf? negative whole fraction isInt (exponent.getD 0)
  return (n, rest)

/-- Four hexadecimal digits. -/
def hex4? : List Char → Option (Nat × List Char)
  | a :: b :: c :: d :: rest => do
    let a ← hexValue? a
    let b ← hexValue? b
    let c ← hexValue? c
    let d ← hexValue? d
    return (((a * 16 + b) * 16 + c) * 16 + d, rest)
  | _ => none

/-- The character after `\u`. A high surrogate needs a low one behind it, a low one never comes first. -/
def unicodeEscape? (cs : List Char) : Option (Char × List Char) := do
  let (high, rest) ← hex4? cs
  if 0xD800 ≤ high ∧ high < 0xDC00 then
    match rest with
    | '\\' :: 'u' :: rest =>
      let (low, rest) ← hex4? rest
      if 0xDC00 ≤ low ∧ low < 0xE000 then
        return (Char.ofNat (0x10000 + (high - 0xD800) * 0x400 + (low - 0xDC00)), rest)
      else none
    | _ => none
  else if 0xDC00 ≤ high ∧ high < 0xE000 then none
  else return (Char.ofNat high, rest)

/-- The character that a one-letter escape stands for. -/
def simpleEscape? : Char → Option Char
  | '"' => some '"'
  | '\\' => some '\\'
  | '/' => some '/'
  | 'b' => some '\x08'
  | 'f' => some '\x0c'
  | 'n' => some '\n'
  | 'r' => some '\r'
  | 't' => some '\t'
  | _ => none

/-- The rest of a string behind its opening quotation mark. `read` holds the characters so far, the last one first, and `fuel` bounds
the number of those to come. -/
def readString? (read : List Char) : Nat → List Char → Option (String × List Char)
  | 0, _ => none
  | _ + 1, [] => none
  | _ + 1, '"' :: rest => some (String.ofList read.reverse, rest)
  | fuel + 1, '\\' :: 'u' :: rest =>
    match unicodeEscape? rest with
    | some (c, rest) => readString? (c :: read) fuel rest
    | none => none
  | fuel + 1, '\\' :: e :: rest =>
    match simpleEscape? e with
    | some c => readString? (c :: read) fuel rest
    | none => none
  | fuel + 1, c :: rest => if c.toNat < 32 || c == '\\' then none else readString? (c :: read) fuel rest

/-- The text behind a word. -/
def dropWord? (word : String) (cs : List Char) : Option (List Char) :=
  if word.toList.isPrefixOf cs then some (cs.drop word.length) else none

/-! ### Passing over values -/

/-- The text behind a number of any size. -/
def skipNumber? (cs : List Char) : Option (List Char) := do
  let (_, cs) ← wholeDigits? (if cs.head? = some '-' then cs.drop 1 else cs)
  let (_, cs) ← fractionDigits? cs
  match cs with
  | 'e' :: cs | 'E' :: cs =>
    match digits (if cs.head? = some '-' ∨ cs.head? = some '+' then cs.drop 1 else cs) with
    | ([], _) => none
    | (_, cs) => return cs
  | cs => return cs

/-- The text behind a string whose opening quotation mark is passed. An escape may stand for half a character. -/
def skipString? : List Char → Option (List Char)
  | [] => none
  | '"' :: rest => some rest
  | '\\' :: 'u' :: a :: b :: c :: d :: rest => if (hex4? [a, b, c, d]).isSome then skipString? rest else none
  | '\\' :: e :: rest => if (simpleEscape? e).isSome then skipString? rest else none
  | c :: rest => if c.toNat < 32 || c == '\\' then none else skipString? rest

/-- What comes next in a value that is passed over. -/
inductive Expected where
  | value
  | member
  /-- What may follow a value. -/
  | behind

/-- The text behind a value of any depth. The closing brackets that are still to come are given, the next one first. Each call but the last
one consumes a character, so more fuel than the text has characters is enough. -/
def skip? : Nat → Expected → List Char → List Char → Option (List Char)
  | 0, _, _, _ => none
  | fuel + 1, .value, closing, cs =>
    match skipBlanks cs with
    | '"' :: rest =>
      match skipString? rest with
      | some rest => skip? fuel .behind closing rest
      | none => none
    | '[' :: rest =>
      match skipBlanks rest with
      | ']' :: rest => skip? fuel .behind closing rest
      | rest => skip? fuel .value (']' :: closing) rest
    | '\x7b' :: rest =>
      match skipBlanks rest with
      | '\x7d' :: rest => skip? fuel .behind closing rest
      | rest => skip? fuel .member ('\x7d' :: closing) rest
    | rest =>
      match dropWord? "true" rest <|> dropWord? "false" rest <|> dropWord? "null" rest <|> skipNumber? rest with
      | some rest => skip? fuel .behind closing rest
      | none => none
  | fuel + 1, .member, closing, cs =>
    match skipBlanks cs with
    | '"' :: rest =>
      match (skipString? rest).map skipBlanks with
      | some (':' :: rest) => skip? fuel .value closing rest
      | _ => none
    | _ => none
  | _ + 1, .behind, [], cs => some cs
  | fuel + 1, .behind, close :: closing, cs =>
    match skipBlanks cs with
    | ',' :: rest => skip? fuel (if close = ']' then .value else .member) (close :: closing) rest
    | c :: rest => if c = close then skip? fuel .behind closing rest else none
    | [] => none

/-! ### Values -/

mutual

/-- A value, with `depth` levels of nesting left; `root` is the outline of the outermost value and `outline` that of this one. Each call of
the three readers but those from a list or an object to a part consumes a character, so twice the length of the text is fuel enough. -/
def readValue? (root : Outline) : Nat → Nat → Outline → List Char → Option (Json × List Char)
  | 0, _, _, _ => none
  | fuel + 1, depth, outline, cs =>
    let outline := match outline with
      | .again => root
      | outline => outline
    match skipBlanks cs with
    | '"' :: rest => (readString? [] (rest.length + 1) rest).map fun (s, rest) => (.text s, rest)
    | '[' :: rest =>
      if depth = 0 then none
      else
        match skipBlanks rest with
        | ']' :: rest => some (.list [], rest)
        | rest => (readItems? root fuel (depth - 1) outline 0 rest).map fun (items, rest) => (.list items, rest)
    | '\x7b' :: rest =>
      if depth = 0 then none
      else
        match skipBlanks rest with
        | '\x7d' :: rest => some (.object [], rest)
        | rest => (readMembers? root fuel (depth - 1) outline rest).map fun (members, rest) => (.object members, rest)
    | 't' :: rest => (dropWord? "true" ('t' :: rest)).map (.bool true, ·)
    | 'f' :: rest => (dropWord? "false" ('f' :: rest)).map (.bool false, ·)
    | 'n' :: rest => (dropWord? "null" ('n' :: rest)).map (.null, ·)
    | rest => (readNumber? rest).map fun (n, rest) => (.number n, rest)

/-- The items of a list from the one at `position` up to its closing bracket. -/
def readItems? (root : Outline) : Nat → Nat → Outline → Nat → List Char → Option (List Json × List Char)
  | 0, _, _, _, _ => none
  | fuel + 1, depth, outline, position, cs => do
    let (item, rest) ← readValue? root fuel depth (outline.item position) cs
    match skipBlanks rest with
    | ',' :: rest =>
      let (items, rest) ← readItems? root fuel depth outline (position + 1) rest
      return (item :: items, rest)
    | ']' :: rest => return ([item], rest)
    | _ => none

/-- The members of an object up to its closing bracket. -/
def readMembers? (root : Outline) : Nat → Nat → Outline → List Char → Option (List (String × Json) × List Char)
  | 0, _, _, _ => none
  | fuel + 1, depth, outline, cs => do
    match skipBlanks cs with
    | '"' :: rest =>
      let (name, rest) ← readString? [] (rest.length + 1) rest
      match skipBlanks rest with
      | ':' :: rest =>
        let (member, rest) ←
          match outline.member? name with
          | some inner => (readValue? root fuel depth inner rest).map fun (value, rest) => ([(name, value)], rest)
          | none => (skip? (rest.length + 1) .value [] rest).map ([], ·)
        match skipBlanks rest with
        | ',' :: rest =>
          let (members, rest) ← readMembers? root fuel depth outline rest
          return (member ++ members, rest)
        | '\x7d' :: rest => return (member, rest)
        | _ => none
      | _ => none
    | _ => none

end

/-- The value of a text as far as an outline asks for it, members of objects as they stand. -/
def read? (outline : Outline) (s : String) : Option Json := do
  let cs := s.toList
  let (value, rest) ← readValue? outline (2 * cs.length + 2) maxDepth outline cs
  match skipBlanks rest with
  | [] => return value
  | _ => none

/-- The value of a text, objects being dictionaries. -/
def parse? (s : String) : Option Json := (read? .whole s).map sorted

end ModelCatalog.Json
