import Std.Data.HashMap
import ModelCatalog.Pattern.Basic
import ModelCatalog.Pattern.Bytes

/-!
# The size of an expression

An expression is taken only if the two automata on bytes that recognize it, one that reads forward and one that reads backward, each have
at most `maxBytes`. An automaton has a state for each byte of a literal, and some for each set, repetition and alternative; a state has
`stateBytes`, and more for the transitions that it holds. `Regex.fits` counts states and bytes as the automata grow, without building them.
-/

namespace ModelCatalog.Pattern

open Text (CharSet)

/-- The bytes that an automaton may have. -/
def maxBytes : Nat := 10 * 1024 * 1024

/-- The bytes of a state without its transitions. -/
def stateBytes : Nat := 32

/-- The bytes of a range of bytes with the state it leads to. -/
def rangeBytes : Nat := 8

/-- The bytes of a choice of a further state. -/
def choiceBytes : Nat := 4

/-- How far an automaton has grown. -/
structure Extent where
  states : Nat := 0
  /-- The bytes of all transitions. -/
  transitions : Nat := 0

/-- Counts a part of an automaton, unless it gets too big. -/
abbrev Count := StateT Extent Option

/-- Adds states and bytes of transitions. -/
def grow (states transitions : Nat) : Count Unit := fun e =>
  let e : Extent := ⟨e.states + states, e.transitions + transitions⟩
  if stateBytes * e.states + e.transitions ≤ maxBytes then some ((), e) else none

/-- Adds a state and gives back its number. -/
def newState (transitions : Nat) : Count Nat := do
  let number := (← get).states
  grow 1 transitions
  return number

/-- The way in which an automaton reads. -/
inductive Direction where
  | forward
  | backward
  deriving DecidableEq

/-! ### Sets -/

/-- A hash of some numbers, by which a store of bounded size is addressed. -/
def slot (size : Nat) (ns : List Nat) : Nat :=
  (ns.foldl (fun (h : UInt64) n => (h ^^^ n.toUInt64) * 1099511628211) 14695981039346656037).toNat % size

/-- States that can be shared, by slot: what each stands for, and its number. A later state takes the slot of an earlier one. -/
abbrev Shared (α : Type) := Std.HashMap Nat (α × Nat)

/-- A state of a kind: one that is shared, or a new one. -/
def sharedState {α : Type} [DecidableEq α] (key : α) (slot transitions : Nat) : StateT (Shared α) Count Nat := do
  match (← get)[slot]? with
  | some (known, number) =>
    if known = key then return number
  | none => pure ()
  let number ← (newState transitions : Count Nat)
  modify (·.insert slot (key, number))
  return number

/-- A range of bytes and the state it leads to. -/
structure Step where
  first : Nat
  last : Nat
  next : Nat
  deriving DecidableEq

/-- Puts a sequence to those that begin with the same range. -/
def putGroup (s : List ByteRange) (groups : List (ByteRange × List (List ByteRange))) : List (ByteRange × List (List ByteRange)) :=
  match s, groups with
  | [], groups => groups
  | r :: behind, (head, tails) :: rest => if r = head then (head, (behind :: tails)) :: rest else (r, [behind]) :: (head, tails) :: rest
  | r :: behind, [] => [(r, [behind])]

/-- The state from which some sequences of at most `depth` ranges lead to the state `target`. States with the same steps are shared. -/
def sequencesState (target : Nat) : Nat → List (List ByteRange) → StateT (Shared (List Step)) Count Nat
  | 0, _ => return target
  | depth + 1, sequences => do
    let groups := sequences.foldr putGroup []
    if groups.isEmpty then return target
    let steps ← groups.mapM fun (head, tails) => return ⟨head.first, head.last, ← sequencesState target depth tails⟩
    sharedState steps (slot 10000 (steps.flatMap fun s => [s.first, s.last, s.next])) (rangeBytes * steps.length)

/-- The state from which a sequence leads back to the state `next`, one state for each range. States with the same step are shared. -/
def chain (next : Nat) : List ByteRange → StateT (Shared Step) Count Nat
  | [] => return next
  | r :: rest => do
    let state ← sharedState ⟨r.first, r.last, next⟩ (slot 1000 [next, r.first, r.last]) 0
    chain state rest

/-- Adds the states of a set. -/
def countSet (d : Direction) (s : CharSet) : Count Unit := do
  let ranges := s.ranges
  if ranges.all (·.2 < 0x80) then
    grow 1 0
    grow 1 (rangeBytes * ranges.length)
  else
    let sequences := ranges.flatMap fun r => utf8Sequences r.1 r.2
    match d with
    | .forward =>
      let target ← newState 0
      let _ ← (sequencesState target 4 sequences).run {}
    | .backward =>
      grow 1 0
      let target ← newState 0
      let _ ← (sequences.forM fun s => do
        let _ ← chain target s
        grow 0 choiceBytes).run {}

/-! ### Literals -/

/-- The bytes of a literal in the order in which they are read. -/
def literalBytes (d : Direction) (cs : List Char) : List UInt8 :=
  let bytes := (String.ofList cs).toUTF8.toList
  if d = .forward then bytes else bytes.reverse

/-- Splits at the empty lists. An empty list behind nothing but empty lists does not count twice. -/
def segments : List (List UInt8) → List (List (List UInt8))
  | [] => [[]]
  | [] :: rest => [] :: segments rest
  | s :: rest =>
    match segments rest with
    | first :: others => (s :: first) :: others
    | [] => [[s]]

/-- What follows the first bytes of some lists, for each first byte. -/
def tailsByHead (ss : List (List UInt8)) : List (List (List UInt8)) :=
  let heads := (ss.filterMap List.head?).eraseDups
  heads.map fun b => ss.filterMap fun
    | c :: rest => if c = b then some rest else none
    | [] => none

/-- Adds the states of a tree of literals, which share their beginnings as far as the order of the literals allows. -/
def countTree : Nat → List (List UInt8) → Count Unit
  | 0, _ => pure ()
  | depth + 1, literals => do
    let literals := match literals.span List.isEmpty with
      | (_ :: _, rest) => [] :: rest
      | ([], rest) => rest
    let segments := segments literals
    let choices ← segments.mapM fun segment => do
      let tails := tailsByHead segment
      tails.forM fun t => if t.all List.isEmpty then pure () else countTree depth t
      match tails.length with
      | 0 => return 0
      | 1 => grow 1 0
      | n => grow 1 (rangeBytes * n)
      return 1
    grow 1 (choiceBytes * (choices.foldl (· + ·) 0 + (segments.length - 1)))

/-- The literals that an expression has to choose from, if it has nothing else. -/
def literals? (r : Regex) : Option (List (List Char)) :=
  r.alternatives.mapM fun
    | .literal cs => some cs
    | _ => none

/-- Adds the states of a choice of literals. -/
def countLiterals (d : Direction) (literals : List (List Char)) : Count Nat := do
  grow 1 0
  let depth := literals.foldl (fun n cs => max n (literalBytes d cs).length) 0
  countTree depth.succ (literals.map (literalBytes d))
  return 0

/-! ### Repetitions -/

/-- Adds a part a number of further times, each joined to the end of the one before. A part gives back, and so do these, the bytes that
joining something to its end adds. -/
def countMore (part : Count Nat) : Nat → Nat → Count Nat
  | 0, toEnd => return toEnd
  | n + 1, toEnd => do
    let next ← part
    grow 0 toEnd
    countMore part n next

/-- Adds a part a number of times. -/
def countExactly (part : Count Nat) : Nat → Count Nat
  | 0 => do
    grow 1 0
    return 0
  | n + 1 => do countMore part n (← part)

/-- Adds a part that may be left out a number of times, each with a choice before it. -/
def countOptional (part : Count Nat) : Nat → Nat → Count Nat
  | 0, toEnd => return toEnd
  | n + 1, toEnd => do
    grow 1 0
    let next ← part
    grow 0 (toEnd + 2 * choiceBytes)
    countOptional part n next

/-- Adds a part at least a number of times. A part that may match the empty text needs a further choice if it may be left out. -/
def countAtLeast (part : Count Nat) (mayBeEmpty : Bool) : Nat → Count Nat
  | 0 =>
    if mayBeEmpty then do
      let toEnd ← part
      grow 1 toEnd
      grow 2 (4 * choiceBytes)
      return 0
    else do
      grow 1 0
      let toEnd ← part
      grow 0 (choiceBytes + toEnd)
      return choiceBytes
  | 1 => do
    let toEnd ← part
    grow 1 (toEnd + choiceBytes)
    return choiceBytes
  | n + 2 => do
    let before ← countExactly part (n + 1)
    let toEnd ← part
    grow 1 (before + toEnd + choiceBytes)
    return choiceBytes

/-- Adds a part repeated. -/
def countTimes (part : Count Nat) (mayBeEmpty : Bool) (least : Nat) : Option Nat → Count Nat
  | none => countAtLeast part mayBeEmpty least
  | some most => do
    if least = 0 ∧ most = 1 then
      grow 1 0
      let toEnd ← part
      grow 1 (toEnd + 2 * choiceBytes)
      return 0
    let toEnd ← countExactly part least
    if most ≤ least then return toEnd
    grow 1 0
    let toEnd ← countOptional part (most - least) toEnd
    grow 0 toEnd
    return 0

/-! ### Expressions -/

/-- The number of characters of the shortest match, none where a part of the expression has no match at all. -/
def shortest? : Regex → Option Nat
  | .empty => some 0
  | .literal cs => some cs.length
  | .oneOf s _ => if s.isEmpty then none else some 1
  | .look _ => some 0
  | .group _ r => shortest? r
  | .times least _ _ r => (shortest? r).map (least * ·)
  | .seq a b => do return (← shortest? a) + (← shortest? b)
  | .alt a b => do return min (← shortest? a) (← shortest? b)

/-- Whether every match begins with a condition. -/
def opensWith (l : Look) : Regex → Bool
  | .look k => k = l
  | .group _ r => opensWith l r
  | .times least _ _ r => 0 < least && opensWith l r
  | .seq a b => opensWith l a || a.isBlank && opensWith l b
  | .alt a b => opensWith l a && opensWith l b
  | _ => false

/-- Whether every match ends with a condition. -/
def closesWith (l : Look) : Regex → Bool
  | .look k => k = l
  | .group _ r => closesWith l r
  | .times least _ _ r => 0 < least && closesWith l r
  | .seq a b => closesWith l b || b.isBlank && closesWith l a
  | .alt a b => closesWith l a && closesWith l b
  | _ => false

mutual

/-- Adds the states of an expression. The result is the number of bytes that joining something to its end adds. -/
def count (d : Direction) : Regex → Count Nat
  | .empty => do
    grow 1 0
    return 0
  | .literal cs => do
    grow (literalBytes d cs).length 0
    return 0
  | .oneOf s _ => do
    countSet d s
    return 0
  | .look _ => do
    grow 1 0
    return 0
  | .group _ r =>
    match d with
    | .forward => do
      grow 1 0
      let toEnd ← count d r
      grow 1 toEnd
      return 0
    | .backward => count d r
  | .times least most _ r => countTimes (count d r) ((shortest? r).getD 0 = 0) least most
  | .seq a b =>
    match d with
    | .forward => do
      let toEnd ← count d a
      let last ← count d b
      grow 0 toEnd
      return last
    | .backward => do
      let toEnd ← count d b
      let last ← count d a
      grow 0 toEnd
      return last
  | .alt a b =>
    match literals? (.alt a b) with
    | some literals => countLiterals d literals
    | none => do countSecond d (← count d a) b

/-- Adds the states of the second alternative and of those behind it; joining something to the end of the first one adds as many bytes as
given. -/
def countSecond (d : Direction) (first : Nat) : Regex → Count Nat
  | .alt b rest => do
    let second ← count d b
    grow 2 (first + second + 2 * choiceBytes)
    countRest d rest
  | b => do
    let second ← count d b
    grow 2 (first + second + 2 * choiceBytes)
    return 0

/-- Adds the states of the third and later alternatives. -/
def countRest (d : Direction) : Regex → Count Nat
  | .alt a rest => do
    let toEnd ← count d a
    grow 0 (toEnd + choiceBytes)
    countRest d rest
  | r => do
    let toEnd ← count d r
    grow 0 (toEnd + choiceBytes)
    return 0

end

/-- Adds the states of a whole expression. Unless it is bound to the edge of the text where reading begins, an automaton may skip
characters first. -/
def countWhole (d : Direction) (r : Regex) : Count Unit := do
  let isBound := match d with
    | .forward => opensWith .textStart r
    | .backward => closesWith .textEnd r
  if isBound then grow 1 0 else grow 3 (rangeBytes + 2 * choiceBytes)
  let toEnd ← count d (if d = .forward then .group 0 r else r)
  grow 1 toEnd

end ModelCatalog.Pattern

namespace ModelCatalog

/-- Whether neither automaton of an expression gets too big. A choice of very many literals needs no automaton. -/
def Regex.fits (r : Regex) : Bool :=
  (Pattern.literals? r).any (3000 ≤ ·.length)
    || [Pattern.Direction.forward, .backward].all fun d => ((Pattern.countWhole d r).run {}).isSome

end ModelCatalog
