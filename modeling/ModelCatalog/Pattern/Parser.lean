import ModelCatalog.Pattern.Reader
import ModelCatalog.Pattern.Size

/-!
# Reading patterns

`Pattern.compile?` reads a pattern into a regular expression. Patterns have no look-around and no back-references. Nesting is limited, and
so is the size of an expression.
-/

namespace ModelCatalog.Pattern

open Text (CharSet)

/-- How deep a pattern may be nested. -/
def maxDepth : Nat := 250

/-- How often something may be repeated at most. -/
def maxCount : Nat := UInt32.size - 1

/-- A part of a pattern with the depth of its nesting. -/
structure Nested (α : Type) where
  value : α
  depth : Nat

/-- The depth of something made of parts: none without parts, that of a single part, else one more than the greatest. -/
def jointDepth : List Nat → Nat
  | [] => 0
  | [d] => d
  | ds => ds.foldl max 0 + 1

/-! ### Classes -/

/-- How two classes are combined. -/
inductive SetOperator where
  | both
  | without
  | either

/-- The characters of a combination of classes. -/
def SetOperator.apply (a b : CharSet) : SetOperator → CharSet
  | both => a.inter b
  | without => a.diff b
  | either => a.symmDiff b

/-- The left side of a combination of classes whose right side is still to come. -/
structure Pending where
  operator : SetOperator
  left : Nested CharSet

/-- The union of the items of a class. -/
def unionOf (items : List (Nested CharSet)) : Nested CharSet where
  value := .unionAll (items.map Nested.value)
  depth := jointDepth (items.map Nested.depth)

/-- Joins the items so far to the left side that waits for them. -/
def joinPending (f : Flags) (pending : Option Pending) (items : List (Nested CharSet)) : Nested CharSet :=
  let right := unionOf items
  match pending with
  | none => right
  | some p =>
    let finish (s : CharSet) : CharSet := if f.ignoreCase then foldSet f s else s
    { value := p.operator.apply (finish p.left.value) (finish right.value), depth := max p.left.depth right.depth + 1 }

/-- The operator that two equal characters stand for. -/
def operator? : List Char → Option SetOperator
  | '&' :: '&' :: _ => some .both
  | '-' :: '-' :: _ => some .without
  | '~' :: '~' :: _ => some .either
  | _ => none

/-- A literal character as a member of a class: without Unicode it is an ASCII character. -/
def classChar (c : Char) : Read Char := do
  if !(← flags).unicode && 128 ≤ c.toNat then failure
  return c

/-- A character or a set in a class. -/
def classAtom : Read Atom := do
  let c ← peek
  if c = '\\' then escape
  else do
    bump
    return .literal c false

/-- The next character but one, seen past blanks and a number sign where they do not count. -/
def peekBehind : Read (Option Char) := do
  let cs := (← rest).drop 1
  if (← flags).spaced then
    match Text.dropBlanks cs with
    | '#' :: cs => return (Text.dropBlanks cs).head?
    | cs => return cs.head?
  else return cs.head?

/-- A range, a character or a set in a class. -/
def classRange : Read CharSet := do
  let first ← classAtom
  skipSpace
  let c ← peek
  let behind ← peekBehind
  if c ≠ '-' ∨ behind = some ']' ∨ behind = some '-' then
    match first with
    | .literal c _ => return .single (← classChar c)
    | .set s => return s
    | .look _ => failure
  else do
    advance
    match first, ← classAtom with
    | .literal low _, .literal high _ =>
      let low ← classChar low
      let high ← classChar high
      if high < low then failure
      return .between low high
    | _, _ => failure

/-- A named set of ASCII characters such as `[:alpha:]`, if one comes next. -/
def asciiClass : Read (Option CharSet) := do
  match ← rest with
  | '[' :: ':' :: cs =>
    let (negated, cs) := match cs with
      | '^' :: cs => (true, cs)
      | cs => (false, cs)
    let name := cs.takeWhile (· ≠ ':')
    match asciiSet? (String.ofList name), cs.drop name.length with
    | some s, ':' :: ']' :: cs =>
      setRest cs
      return some (← finishSet (← flags) negated s)
    | _, _ => return none
  | _ => return none

/-- Hyphens at the beginning of a class, which stand for themselves. -/
def leadingHyphens : Nat → Read (List (Nested CharSet))
  | 0 => failure
  | fuel + 1 => do
    if ← nextIs '-' then
      advance
      return ⟨.single '-', 0⟩ :: (← leadingHyphens fuel)
    else return []

mutual

/-- A class from its opening bracket, which comes next, to its closing one. -/
def readClass : Nat → Read (Nested CharSet)
  | 0 => failure
  | fuel + 1 => do
    advance
    let negated ← nextIs '^'
    if negated then advance
    let hyphens ← leadingHyphens ((← rest).length + 1)
    let items ←
      if hyphens.isEmpty && (← nextIs ']') then do
        advance
        pure [⟨.single ']', 0⟩]
      else pure hyphens
    let inner ← readClassItems fuel none items
    return ⟨← finishSet (← flags) negated inner.value, inner.depth + 1⟩

/-- The items of a class behind those given, the last one of which comes first, up to its closing bracket, which is passed. -/
def readClassItems : Nat → Option Pending → List (Nested CharSet) → Read (Nested CharSet)
  | 0, _, _ => failure
  | fuel + 1, pending, items => do
    skipSpace
    let c ← peek
    if c = '[' then
      match ← asciiClass with
      | some s => readClassItems fuel pending (⟨s, 0⟩ :: items)
      | none =>
        let nested ← readClass fuel
        readClassItems fuel pending (nested :: items)
    else if c = ']' then
      bump
      return joinPending (← flags) pending items
    else
      match operator? (← rest) with
      | some operator =>
        bump
        bump
        readClassItems fuel (some { operator, left := joinPending (← flags) pending items }) []
      | none =>
        let s ← classRange
        readClassItems fuel pending (⟨s, 0⟩ :: items)

end

/-! ### Expressions -/

/-- A part of a sequence: an expression, or flags for what follows. -/
inductive Item where
  | part (r : Nested Regex)
  | setting

def Item.regex : Item → Regex
  | part r => r.value
  | setting => .empty

def Item.depth : Item → Nat
  | part r => r.depth
  | setting => 0

/-- Items one after another, the last one given first. -/
def sequence (items : List Item) : Nested Regex where
  value := .concat (items.reverse.map Item.regex)
  depth := jointDepth (items.map Item.depth)

/-- The expression of a character. -/
def charRegex (c : Char) (isByte : Bool) : Read Regex := do
  let f ← flags
  if !f.unicode && isByte && 128 ≤ c.toNat then failure
  return if f.ignoreCase then .ofSet (foldSet f (.single c)) (!f.unicode) else .literal [c]

def Atom.regex : Atom → Read Regex
  | .literal c isByte => charRegex c isByte
  | .set s => return .ofSet s (!(← flags).unicode)
  | .look l => return .look l

/-- The expression of a dot. Without Unicode it would match parts of characters. -/
def dot : Read Regex := do
  let f ← flags
  if !f.unicode then failure
  return .ofSet (if f.dotAll then .all else if f.crlf then CharSet.compl (.ofCodes [0x0A, 0x0D]) else (CharSet.single '\n').compl)
    false

def lineStart : Read Regex := do
  let f ← flags
  return .look (if f.multiLine then if f.crlf then .crlfStart else .lineStart else .textStart)

def lineEnd : Read Regex := do
  let f ← flags
  return .look (if f.multiLine then if f.crlf then .crlfEnd else .lineEnd else .textEnd)

/-- An expression that is not nested: an escape, a dot, an edge of a line, or a character. -/
def primitive : Read Regex := do
  let c ← peek
  match c with
  | '\\' => (← escape).regex
  | '.' =>
    bump
    dot
  | '^' =>
    bump
    lineStart
  | '$' =>
    bump
    lineEnd
  | c =>
    bump
    charRegex c false

/-- The digits of a count; blanks between them do not count where they never do. -/
def countDigits : Nat → Read (List Nat)
  | 0 => failure
  | fuel + 1 => do
    match (← rest).head?.bind Json.digit? with
    | some d =>
      advance
      return d :: (← countDigits fuel)
    | none => return []

/-- A count with or without blanks around it; none without digits. -/
def count? : Read (Option Nat) := do
  setRest (Text.dropBlanks (← rest))
  let ds ← countDigits ((← rest).length + 1)
  setRest (Text.dropBlanks (← rest))
  skipSpace
  if ds.isEmpty then return none
  let n : Nat := ds.foldl (fun n d => 10 * n + d) 0
  if n ≤ maxCount then return some n else failure

/-- The bounds of a counted repetition, from its opening brace, which comes next, to its closing one. -/
def countBounds : Read (Nat × Option Nat) := do
  advance
  let least ← count?
  let c ← peek
  let bounds ←
    if c = ',' then do
      advance
      if ← nextIs '\x7d' then pure (← (least : Option Nat), none)
      else do
        let least ← (least : Option Nat)
        let most ← (← count? : Option Nat)
        pure (least, some most)
    else do
      let n ← (least : Option Nat)
      pure (n, some n)
  if !(← nextIs '\x7d') then failure
  advance
  match bounds with
  | (least, some most) => if most < least then failure
  | _ => pure ()
  return bounds

/-- The last of the items so far, repeated. A question mark behind the repetition says that few are better than many, or the opposite
where that is so without it. -/
def repeated (items : List Item) (least : Nat) (most : Option Nat) : Read (List Item) := do
  let lazy := (← bumpIf "?") != (← flags).swapped
  match items with
  | .part r :: before => return .part ⟨.repeated least most lazy r.value, r.depth + 1⟩ :: before
  | _ => failure

mutual

/-- Alternatives up to the end of the pattern or of a group. -/
def readAlternatives : Nat → Read (List (Nested Regex))
  | 0 => failure
  | fuel + 1 => do
    let first ← readSequence fuel []
    if ← nextIs '|' then
      bump
      return first :: (← readAlternatives fuel)
    else return [first]

/-- The parts of a sequence behind those given, the last one of which comes first. -/
def readSequence : Nat → List Item → Read (Nested Regex)
  | 0, _ => failure
  | fuel + 1, items => do
    skipSpace
    match (← rest).head? with
    | none | some '|' | some ')' => return sequence items
    | some '(' =>
      let item ← readGroup fuel
      readSequence fuel (item :: items)
    | some '[' =>
      let s ← readClass fuel
      readSequence fuel (.part ⟨.ofSet s.value (!(← flags).unicode), s.depth⟩ :: items)
    | some '?' =>
      bump
      readSequence fuel (← repeated items 0 (some 1))
    | some '*' =>
      bump
      readSequence fuel (← repeated items 0 none)
    | some '+' =>
      bump
      readSequence fuel (← repeated items 1 none)
    | some '\x7b' =>
      let (least, most) ← countBounds
      readSequence fuel (← repeated items least most)
    | some _ =>
      let r ← primitive
      readSequence fuel (.part ⟨r, 0⟩ :: items)

/-- A group from its opening parenthesis, which comes next, to its closing one; or flags for what follows. Flags set within a group
end with it. -/
def readGroup : Nat → Read Item
  | 0 => failure
  | fuel + 1 => do
    let outer ← flags
    advance
    for lookAround in ["?=", "?!", "?<=", "?<!"] do
      if ← bumpIf lookAround then failure
    let mut number : Option Nat := none
    if (← bumpIf "?P<") || (← bumpIf "?<") then
      number := some (← nextGroup)
      groupName
    else if ← bumpIf "?" then
      let (inner, isGroup, isEmpty) ← flagLetters outer [] ((← rest).length + 1)
      if !isGroup then
        if isEmpty then failure
        setFlags inner
        return .setting
      setFlags inner
    else
      number := some (← nextGroup)
    let alternatives ← readAlternatives fuel
    if !(← nextIs ')') then failure
    bump
    setFlags outer
    let r := Regex.alternation (alternatives.map Nested.value)
    return .part ⟨number.elim r (.group · r), jointDepth (alternatives.map Nested.depth) + 1⟩

end

/-- The regular expression of a pattern. -/
def compile? (source : String) (ignoreCase : Bool) : Option Regex := do
  let cs := source.toList
  let (alternatives, reader) ← (readAlternatives (3 * cs.length + 3)).run { rest := cs, flags := { ignoreCase } }
  let r := Regex.alternation (alternatives.map Nested.value)
  if reader.rest.isEmpty && jointDepth (alternatives.map Nested.depth) ≤ maxDepth && r.fits then return r else none

end ModelCatalog.Pattern
