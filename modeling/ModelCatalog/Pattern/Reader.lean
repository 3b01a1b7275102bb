import ModelCatalog.Json.Parser
import ModelCatalog.Pattern.Basic
import ModelCatalog.Text.Current
import ModelCatalog.Text.Folding
import ModelCatalog.Text.Named

/-!
# Reading patterns: characters, flags and escapes

What the reader of patterns keeps while it goes through a pattern, and the parts of a pattern that are not nested.
-/

namespace ModelCatalog.Pattern

open Text (CharSet)

/-- The flags in force at a place of a pattern. -/
structure Flags where
  ignoreCase : Bool := false
  multiLine : Bool := false
  /-- Whether the dot stands for a line feed, too. -/
  dotAll : Bool := false
  /-- Whether characters beyond ASCII belong to classes. -/
  unicode : Bool := true
  /-- Whether a carriage return ends a line, too. -/
  crlf : Bool := false
  /-- Whether blanks and comments in the pattern do not count. -/
  spaced : Bool := false
  /-- Whether few repetitions are better than many without a question mark. -/
  swapped : Bool := false

/-- The rest of a pattern, the flags in force, and the number and the names of groups so far. -/
structure Reader where
  rest : List Char
  flags : Flags
  groups : Nat := 0
  names : List String := []

/-- Reads a part of a pattern, or finds it malformed. -/
abbrev Read (α : Type) := StateT Reader Option α

/-- The rest of a pattern. -/
def rest : Read (List Char) := return (← get).rest

def setRest (cs : List Char) : Read Unit := modify fun r => { r with rest := cs }

def flags : Read Flags := return (← get).flags

def setFlags (f : Flags) : Read Unit := modify fun r => { r with flags := f }

/-- The next character; there has to be one. -/
def peek : Read Char := do
  match ← rest with
  | c :: _ => return c
  | [] => failure

/-- Whether a character comes next. -/
def nextIs (c : Char) : Read Bool := return (← rest).head? = some c

/-- The text behind blanks and comments, a comment being what stands between a `#` and the end of the line. -/
def dropSpace (inComment : Bool) : List Char → List Char
  | [] => []
  | c :: rest =>
    if inComment then dropSpace (c ≠ '\n') rest
    else if Text.isBlank c then dropSpace false rest
    else if c = '#' then dropSpace true rest
    else c :: rest

/-- Goes past blanks and comments where they do not count. -/
def skipSpace : Read Unit := do
  if (← flags).spaced then setRest (dropSpace false (← rest))

/-- Goes past a character. -/
def bump : Read Unit := do setRest ((← rest).drop 1)

/-- Goes past a character and what does not count behind it. -/
def advance : Read Unit := do
  bump
  skipSpace

/-- Goes past a text if it comes next. -/
def bumpIf (s : String) : Read Bool := do
  let cs ← rest
  if s.toList.isPrefixOf cs then
    setRest (cs.drop s.length)
    return true
  else return false

/-! ### Sets of characters -/

/-- The characters that differ from those of a set at most in case. -/
def foldSet (f : Flags) (s : CharSet) : CharSet := if f.unicode then s.fold else s.foldAscii

/-- Folds a set where case does not count, and then takes its complement if asked to. Without Unicode a complement would hold parts
of characters, so there is none. -/
def finishSet (f : Flags) (negated : Bool) (s : CharSet) : Read CharSet := do
  if negated && !f.unicode then failure
  let s := if f.ignoreCase then foldSet f s else s
  return if negated then s.compl else s

def asciiDigits : CharSet := .range 0x30 0x39

def asciiUpper : CharSet := .range 0x41 0x5A

def asciiLower : CharSet := .range 0x61 0x7A

def asciiLetters : CharSet := asciiUpper.union asciiLower

def asciiSpaces : CharSet := .ofRanges [(0x09, 0x0D), (0x20, 0x20)]

def asciiWord : CharSet := .unionAll [asciiDigits, asciiLetters, .single '_']

/-- The set of digits, blanks or word characters that a letter stands for; a capital letter stands for the complement. -/
def letterSet (letter : Char) : Read CharSet := do
  let f ← flags
  let s := match letter.toLower with
    | 'd' => if f.unicode then Text.Category.decimal else asciiDigits
    | 's' => if f.unicode then Text.Property.whiteSpace else asciiSpaces
    | _ => if f.unicode then Text.Property.word else asciiWord
  finishSet { f with ignoreCase := false } letter.isUpper s

/-- The named sets of ASCII characters. -/
def asciiSet? : String → Option CharSet
  | "alnum" => some (asciiDigits.union asciiLetters)
  | "alpha" => some asciiLetters
  | "ascii" => some (.range 0x00 0x7F)
  | "blank" => some (.ofRanges [(0x09, 0x09), (0x20, 0x20)])
  | "cntrl" => some (.ofRanges [(0x00, 0x1F), (0x7F, 0x7F)])
  | "digit" => some asciiDigits
  | "graph" => some (.range 0x21 0x7E)
  | "lower" => some asciiLower
  | "print" => some (.range 0x20 0x7E)
  | "punct" => some ((CharSet.range 0x21 0x7E).diff (asciiDigits.union asciiLetters))
  | "space" => some asciiSpaces
  | "upper" => some asciiUpper
  | "word" => some asciiWord
  | "xdigit" => some Text.Property.asciiHexDigit
  | _ => none

/-! ### Escapes -/

/-- What a primitive part of a pattern stands for. -/
inductive Atom where
  /-- A character; `isByte` says that it was given as a byte in two hexadecimal digits. -/
  | literal (c : Char) (isByte : Bool)
  | set (s : CharSet)
  | look (l : Look)

/-- The character of a code point in hexadecimal digits. -/
def hexChar (digits : List Char) : Read Char := do
  if digits.isEmpty then failure
  let values ← digits.mapM fun c => (Json.hexValue? c : Option Nat)
  let n := values.foldl (fun n d => 16 * n + d) 0
  if n < 0xD800 ∨ 0xDFFF < n ∧ n ≤ 0x10FFFF then return Char.ofNat n else failure

/-- As many hexadecimal digits as asked for. -/
def hexDigits : Nat → Read (List Char)
  | 0 => return []
  | n + 1 => do
    let c ← peek
    advance
    return c :: (← hexDigits n)

/-- The characters up to a closing brace, which is passed. -/
def untilBrace : Nat → Read (List Char)
  | 0 => failure
  | fuel + 1 => do
    let c ← peek
    if c = '\x7d' then
      bump
      return []
    advance
    return c :: (← untilBrace fuel)

/-- What stands between an opening brace that comes next and its closing brace. -/
def braced : Read (List Char) := do
  advance
  untilBrace ((← rest).length + 1)

/-- A character given by its code point, in braces or in a fixed number of digits that depends on the letter before. -/
def hexEscape (letter : Char) : Read Atom := do
  advance
  if ← nextIs '\x7b' then
    let c ← hexChar (← braced)
    skipSpace
    return .literal c false
  else
    let width := if letter = 'x' then 2 else if letter = 'u' then 4 else 8
    return .literal (← hexChar (← hexDigits width)) (letter = 'x')

/-- Splits at the first occurrence of a text. -/
def splitAt? (mark : List Char) : List Char → Option (List Char × List Char)
  | [] => none
  | c :: rest =>
    if mark.isPrefixOf (c :: rest) then some ([], (c :: rest).drop mark.length)
    else (splitAt? mark rest).map fun (before, behind) => (c :: before, behind)

/-- The set of characters that a property in braces stands for, a name or a name and a value, and whether the mark between these asks for
its complement. -/
def propertySet? (query : List Char) : Option (CharSet × Bool) :=
  let parts := (splitAt? ['!', '='] query).map (·, true) <|> (splitAt? [':'] query <|> splitAt? ['='] query).map (·, false)
  match parts with
  | some ((name, value), negated) => (CharSet.valued? (String.ofList name) (String.ofList value)).map (·, negated)
  | none => (CharSet.named? (String.ofList query)).map (·, false)

/-- The characters with a property, or those without it when the letter is a capital one. -/
def propertyEscape (letter : Char) : Read Atom := do
  advance
  let f ← flags
  if !f.unicode then failure
  let query ←
    if ← nextIs '\x7b' then braced
    else do
      let c ← peek
      if c = '\\' then failure
      bump
      pure [c]
  let (s, negated) ← (propertySet? query : Option (CharSet × Bool))
  return .set (← finishSet f ((letter = 'P') != negated) s)

/-- A word edge that is named in braces, if a name stands there. -/
def namedEdge (unicode : Bool) : Read (Option Look) := do
  let here ← get
  advance
  let isNameChar (c : Char) : Bool := c.isAlpha || c = '-'
  if !isNameChar (← peek) then
    set here
    return none
  let name ← untilBrace ((← rest).length + 1)
  match String.ofList name with
  | "start" => return some (.wordStart unicode)
  | "end" => return some (.wordEnd unicode)
  | "start-half" => return some (.wordStartHalf unicode)
  | "end-half" => return some (.wordEndHalf unicode)
  | _ => failure

/-- Whether a character can be escaped to stand for itself. -/
def isEscapable (c : Char) : Bool := c.toNat < 128 && !c.isAlphanum && c ≠ '<' && c ≠ '>'

/-- What an escape stands for. The backslash comes next. -/
def escape : Read Atom := do
  bump
  let c ← peek
  let unicode := (← flags).unicode
  if c = 'x' ∨ c = 'u' ∨ c = 'U' then hexEscape c
  else if c = 'p' ∨ c = 'P' then propertyEscape c
  else do
    bump
    if isEscapable c then return .literal c false
    else
      match c with
      | 'd' | 's' | 'w' | 'D' | 'S' | 'W' => return .set (← letterSet c)
      | 'a' => return .literal '\x07' false
      | 'f' => return .literal '\x0c' false
      | 't' => return .literal '\t' false
      | 'n' => return .literal '\n' false
      | 'r' => return .literal '\r' false
      | 'v' => return .literal '\x0b' false
      | 'A' => return .look .textStart
      | 'z' => return .look .textEnd
      | 'b' =>
        if ← nextIs '\x7b' then return .look ((← namedEdge unicode).getD (.wordEdge unicode))
        else return .look (.wordEdge unicode)
      | 'B' => return .look (.notWordEdge unicode)
      | '<' => return .look (.wordStart unicode)
      | '>' => return .look (.wordEnd unicode)
      | _ => failure

/-! ### Flags and names of groups -/

/-- The flags with one of them set or cleared. -/
def Flags.with? (f : Flags) (letter : Char) (on : Bool) : Option Flags :=
  match letter with
  | 'i' => some { f with ignoreCase := on }
  | 'm' => some { f with multiLine := on }
  | 's' => some { f with dotAll := on }
  | 'u' => some { f with unicode := on }
  | 'R' => some { f with crlf := on }
  | 'x' => some { f with spaced := on }
  | 'U' => some { f with swapped := on }
  | _ => none

/-- The letters of flags up to a colon or a closing parenthesis, which is passed; gives back the flags and which of the two it was.
`seen` holds the letters so far, the last one first. A letter comes once, and so does the minus sign, which is not the last. -/
def flagLetters (f : Flags) (seen : List Char) : Nat → Read (Flags × Bool × Bool)
  | 0 => failure
  | fuel + 1 => do
    let c ← peek
    bump
    if c = ':' ∨ c = ')' then
      if seen.head? = some '-' then failure
      return (f, c = ':', seen.isEmpty)
    if seen.contains c then failure
    if c = '-' then flagLetters f (c :: seen) fuel
    else do
      let f ← (f.with? c (!seen.contains '-') : Option Flags)
      flagLetters f (c :: seen) fuel

/-- The number of the next group. Groups are numbered from 1 in the order of their opening parentheses. -/
def nextGroup : Read Nat := do
  modify fun r => { r with groups := r.groups + 1 }
  return (← get).groups

/-- Whether a character may stand in the name of a group. -/
def isNameChar (c : Char) : Bool :=
  c = '_' || c = '.' || c = '[' || c = ']' || Text.Current.alphabetic.contains c || Text.Current.number.contains c

/-- The name of a group up to a closing angle bracket, which is passed. It begins with a letter or an underscore, and each name is
given once. -/
def groupName : Read Unit := do
  let cs ← rest
  let name := cs.takeWhile (· ≠ '>')
  let isSound := match name with
    | [] => false
    | c :: rest => (c = '_' || Text.Current.alphabetic.contains c) && rest.all isNameChar
  let r ← get
  let text := String.ofList name
  if !isSound || name.length = cs.length || r.names.contains text then failure
  set { r with rest := cs.drop (name.length + 1), names := text :: r.names }

end ModelCatalog.Pattern
