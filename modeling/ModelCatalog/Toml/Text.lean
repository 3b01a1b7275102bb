import ModelCatalog.Json.Parser

/-!
# Strings and keys of TOML

The parts of a TOML document that are made of characters only: blanks, ends of lines, comments, strings in their four forms, and dotted
keys. Each reader gives what it reads and the rest of the text.
-/

namespace ModelCatalog.Toml

/-- How many parts a dotted key may have, and how deep lists and inline tables may be nested. -/
def maxDepth : Nat := 79

/-! ### Blanks, lines and comments -/

def isGap (c : Char) : Bool := c = ' ' || c = '\t'

/-- The text without leading blanks on the line. -/
def dropGap (cs : List Char) : List Char := cs.dropWhile isGap

/-- Whether a character may stand in a line of text: no control character but the tabulator does. -/
def isText (c : Char) : Bool := c = '\t' || ' ' ≤ c && c ≠ '\x7f'

/-- The text behind the end of a line, which is a line feed with or without a carriage return before it. -/
def lineFeed? : List Char → Option (List Char)
  | '\n' :: rest => some rest
  | '\r' :: '\n' :: rest => some rest
  | _ => none

/-- The text without leading blanks and ends of lines. -/
def dropLines : List Char → List Char
  | '\n' :: rest => dropLines rest
  | '\r' :: '\n' :: rest => dropLines rest
  | c :: rest => if isGap c then dropLines rest else c :: rest
  | [] => []

/-- The text without leading blanks, ends of lines and comments. -/
def dropComments (inComment : Bool) : List Char → List Char
  | '\n' :: rest => dropComments false rest
  | '\r' :: '\n' :: rest => dropComments false rest
  | c :: rest =>
    if inComment then (if isText c then dropComments true rest else c :: rest)
    else if c = '#' then dropComments true rest
    else if isGap c then dropComments false rest
    else c :: rest
  | [] => []

/-- The text behind the end of a line that holds nothing more than blanks and a comment. The text may end instead. -/
def endLine? (cs : List Char) : Option (List Char) :=
  let rest := match dropGap cs with
    | '#' :: rest => rest.dropWhile isText
    | rest => rest
  if rest.isEmpty then some [] else lineFeed? rest

/-! ### Strings -/

/-- The character with a number, if there is one. -/
def charOf? (n : Nat) : Option Char :=
  if n < 0xD800 ∨ 0xDFFF < n ∧ n < 0x110000 then some (Char.ofNat n) else none

/-- The character given by exactly `width` hexadecimal digits. -/
def hexChar? (width : Nat) (cs : List Char) : Option (Char × List Char) := do
  if (cs.take width).length ≠ width then none
  let n := (← (cs.take width).mapM Json.hexValue?).foldl (fun n d => 16 * n + d) 0
  return (← charOf? n, cs.drop width)

/-- The character that an escape behind a backslash stands for. -/
def escape? : List Char → Option (Char × List Char)
  | 'u' :: rest => hexChar? 4 rest
  | 'U' :: rest => hexChar? 8 rest
  | '/' :: _ => none
  | c :: rest => (Json.simpleEscape? c).map fun d => (d, rest)
  | [] => none

/-- The rest of a string on one line behind its opening quotation mark. `read` holds the characters so far, the last one first, and
`fuel` bounds the number of those to come. Only a string in double quotes has escapes. -/
def readLine? (quote : Char) (read : List Char) : Nat → List Char → Option (String × List Char)
  | 0, _ => none
  | _ + 1, [] => none
  | fuel + 1, c :: rest =>
    if c = quote then some (String.ofList read.reverse, rest)
    else if c = '\\' && quote = '"' then
      match escape? rest with
      | some (d, rest) => readLine? quote (d :: read) fuel rest
      | none => none
    else if isText c then readLine? quote (c :: read) fuel rest
    else none

/-- The rest of a string on several lines behind its opening quotation marks. Three marks end it; up to two more in front of them belong
to it. A backslash at the end of a line takes out all blanks and ends of lines that follow. -/
def readBlock? (quote : Char) (read : List Char) : Nat → List Char → Option (String × List Char)
  | 0, _ => none
  | _ + 1, [] => none
  | fuel + 1, c :: rest =>
    if c = quote then
      let run := ((c :: rest).takeWhile (· = quote)).length
      if run < 3 then readBlock? quote (List.replicate run quote ++ read) fuel ((c :: rest).drop run)
      else
        let marks := min run 5
        some (String.ofList (read.reverse ++ List.replicate (marks - 3) quote), (c :: rest).drop marks)
    else if c = '\\' && quote = '"' then
      match lineFeed? (dropGap rest) with
      | some rest => readBlock? quote read fuel (dropLines rest)
      | none =>
        match escape? rest with
        | some (d, rest) => readBlock? quote (d :: read) fuel rest
        | none => none
    else
      match lineFeed? (c :: rest) with
      | some rest => readBlock? quote ('\n' :: read) fuel rest
      | none => if isText c then readBlock? quote (c :: read) fuel rest else none

/-- A string. The end of a line right behind the opening marks of a string on several lines does not belong to it. -/
def readString? (cs : List Char) : Option (String × List Char) :=
  match cs with
  | '"' :: '"' :: '"' :: rest => readBlock? '"' [] cs.length ((lineFeed? rest).getD rest)
  | '\'' :: '\'' :: '\'' :: rest => readBlock? '\'' [] cs.length ((lineFeed? rest).getD rest)
  | '"' :: rest => readLine? '"' [] cs.length rest
  | '\'' :: rest => readLine? '\'' [] cs.length rest
  | _ => none

/-! ### Keys -/

/-- Whether a character may stand in a key without quotes. -/
def isBare (c : Char) : Bool := c.isAlphanum || c = '-' || c = '_'

/-- A part of a key: a string on one line, or characters without quotes. -/
def keyPart? (cs : List Char) : Option (String × List Char) :=
  match cs with
  | '"' :: rest => readLine? '"' [] cs.length rest
  | '\'' :: rest => readLine? '\'' [] cs.length rest
  | _ =>
    let bare := cs.takeWhile isBare
    if bare.isEmpty then none else some (String.ofList bare, cs.dropWhile isBare)

/-- A key of at most `most` parts with dots between them; blanks may stand around each part. -/
def keyParts? : Nat → List Char → Option (List String × List Char)
  | 0, _ => none
  | most + 1, cs => do
    let (part, rest) ← keyPart? (dropGap cs)
    match dropGap rest with
    | '.' :: rest =>
      let (parts, rest) ← keyParts? most rest
      return (part :: parts, rest)
    | rest => return ([part], rest)

/-- A key. -/
def readKey? (cs : List Char) : Option (List String × List Char) := keyParts? maxDepth cs

end ModelCatalog.Toml
