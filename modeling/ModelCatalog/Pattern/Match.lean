import ModelCatalog.Pattern.Basic

/-!
# Where an expression occurs

Places in a text of `n` characters are numbered from `0` to `n`, and a set of places is a natural number whose bits say which places are
in it. An expression is first laid over the text: a `Track` says for each of its characters and conditions at which places they hold.
`Track.step` then takes the places where a match may begin to those where it may end, so an expression occurs in a text when the places
that it reaches from anywhere are not empty.
-/

namespace ModelCatalog

open Text (CharSet)

/-- The word characters, beyond ASCII or not. -/
def wordChars (unicode : Bool) : CharSet :=
  if unicode then Text.Property.word else .ofRanges [(0x30, 0x39), (0x41, 0x5A), (0x5F, 0x5F), (0x61, 0x7A)]

/-- Whether a condition holds between the character before a place and the one behind it. -/
def Look.holds (before behind : Option Char) (l : Look) : Bool :=
  let isWord (unicode : Bool) (c : Option Char) : Bool := c.any (wordChars unicode).contains
  match l with
  | textStart => before.isNone
  | textEnd => behind.isNone
  | lineStart => before.isNone || before = some '\n'
  | lineEnd => behind.isNone || behind = some '\n'
  | crlfStart => before.isNone || before = some '\n' || before = some '\r' && behind ≠ some '\n'
  | crlfEnd => behind.isNone || behind = some '\r' || behind = some '\n' && before ≠ some '\r'
  | wordEdge unicode => isWord unicode before != isWord unicode behind
  | notWordEdge unicode => isWord unicode before == isWord unicode behind
  | wordStart unicode => !isWord unicode before && isWord unicode behind
  | wordEnd unicode => isWord unicode before && !isWord unicode behind
  | wordStartHalf unicode => !isWord unicode before
  | wordEndHalf unicode => !isWord unicode behind

/-- The set of the places that pass a test, given the character before each place and the characters behind it; `place` is the first
one. -/
def placesFrom (test : Option Char → List Char → Bool) (place : Nat) (before : Option Char) : List Char → Nat
  | [] => if test before [] then 1 <<< place else 0
  | c :: rest =>
    (if test before (c :: rest) then 1 <<< place else 0) ||| placesFrom test (place + 1) (some c) rest

/-- The places of a text that pass a test. -/
def places (test : Option Char → List Char → Bool) (text : List Char) : Nat := placesFrom test 0 none text

/-- Applies a function a number of times, or until nothing changes. -/
def repeatStep (f : Nat → Nat) : Nat → Nat → Nat
  | 0, s => s
  | rounds + 1, s =>
    let next := f s
    if next = s then s else repeatStep f rounds next

/-- Adds to a set of places, a number of times, those that a function leads to from the places that are new, until there are none. -/
def spread (f : Nat → Nat) : Nat → Nat → Nat → Nat
  | 0, seen, _ => seen
  | rounds + 1, seen, new =>
    let all := seen ||| f new
    if all = seen then seen else spread f rounds all (all ^^^ seen)

/-- An expression laid over a text. -/
inductive Track where
  /-- Stays at the places where a condition holds. -/
  | stay (places : Nat)
  /-- Goes on by some characters from the places with characters that fit behind them. -/
  | advance (places : Nat) (length : Nat)
  | times (least : Nat) (most : Option Nat) (t : Track)
  | seq (a b : Track)
  | alt (a b : Track)

/-- Lays an expression over a text. -/
def Regex.track (text : List Char) : Regex → Track
  | empty => .stay (places (fun _ _ => true) text)
  | literal cs => .advance (places (fun _ rest => cs.isPrefixOf rest) text) cs.length
  | oneOf s _ => .advance (places (fun _ rest => rest.head?.any s.contains) text) 1
  | look l => .stay (places (fun before rest => l.holds before rest.head?) text)
  | group _ r => track text r
  | times least most _ r => .times least most (track text r)
  | seq a b => .seq (track text a) (track text b)
  | alt a b => .alt (track text a) (track text b)

/-- The places where a match may end that begins in one of some places of a text with `length` characters. No step goes back, so after as
many rounds as there are places a further round leads nowhere new. -/
def Track.step (length : Nat) : Track → Nat → Nat
  | stay places, s => s &&& places
  | advance places n, s => (s &&& places) <<< n
  | seq a b, s => step length b (step length a s)
  | alt a b, s => step length a s ||| step length b s
  | times least most t, s =>
    let start := repeatStep (step length t) (min least (length + 1)) s
    let rounds := match most with
      | some most => min (most - least) (length + 1)
      | none => length + 1
    spread (step length t) rounds start start

/-- Whether the expression occurs in a text. -/
def Regex.occursIn (r : Regex) (s : String) : Bool :=
  let text := s.toList
  (r.track text).step text.length (1 <<< (text.length + 1) - 1) != 0

end ModelCatalog
