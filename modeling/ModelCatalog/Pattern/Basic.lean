import ModelCatalog.Text.Property

/-!
# Regular expressions

A regular expression, and the functions that put one together: `Regex.ofSet`, `Regex.concat`, `Regex.alternation` and `Regex.repeated`.
They join neighbouring characters to one literal and single characters to one set, take a common beginning out of alternatives, and leave
out what matches nothing but the empty text. Sequences and alternatives are nested to the right. Two parts that match the same texts can
still be told apart, and a beginning is common only if it is the same in all.
-/

namespace ModelCatalog

open Text (CharSet)

/-- A condition on the place between two characters. `unicode` says whether word characters beyond ASCII count. -/
inductive Look where
  | textStart
  | textEnd
  | lineStart
  | lineEnd
  /-- The start of a line that a carriage return may end, too. -/
  | crlfStart
  | crlfEnd
  /-- A place between a word character and another character, or the edge of the text. -/
  | wordEdge (unicode : Bool)
  | notWordEdge (unicode : Bool)
  | wordStart (unicode : Bool)
  | wordEnd (unicode : Bool)
  /-- A place with no word character before it. -/
  | wordStartHalf (unicode : Bool)
  /-- A place with no word character behind it. -/
  | wordEndHalf (unicode : Bool)
  deriving DecidableEq

/-- A regular expression. -/
inductive Regex where
  | empty
  /-- Characters one after another. -/
  | literal (cs : List Char)
  /-- A character of a set. `ofBytes` says that the set was read as one of bytes, which are ASCII characters. -/
  | oneOf (set : CharSet) (ofBytes : Bool)
  | look (l : Look)
  /-- A group that can be referred to, by its number. -/
  | group (number : Nat) (r : Regex)
  /-- At least `least` and at most `most` times. `lazy` says that few are better than many. -/
  | times (least : Nat) (most : Option Nat) (lazy : Bool) (r : Regex)
  | seq (a b : Regex)
  | alt (a b : Regex)
  deriving DecidableEq

namespace Regex

/-- The parts of a sequence. -/
def parts : Regex → List Regex
  | empty => []
  | seq a b => a :: parts b
  | r => [r]

def ofParts : List Regex → Regex
  | [] => empty
  | [r] => r
  | r :: rest => seq r (ofParts rest)

def alternatives : Regex → List Regex
  | alt a b => a :: alternatives b
  | r => [r]

/-- One of some expressions; of none, one that matches nothing. -/
def ofAlternatives : List Regex → Regex
  | [] => oneOf .empty false
  | [r] => r
  | r :: rest => alt r (ofAlternatives rest)

/-- The expression of a set of characters. -/
def ofSet (s : CharSet) (ofBytes : Bool) : Regex :=
  match s.only? with
  | some c => literal [c]
  | none => oneOf s (ofBytes && !s.isEmpty)

/-- Puts an expression before others, joining neighbouring literals. -/
def consPart (r : Regex) (rest : List Regex) : List Regex :=
  match r, rest with
  | literal cs, literal ds :: rest => literal (cs ++ ds) :: rest
  | r, rest => r :: rest

/-- Expressions one after another. -/
def concat (rs : List Regex) : Regex := ofParts ((rs.flatMap parts).foldr consPart [])

/-- The set that an expression is, if it is one. -/
def set? : Regex → Option CharSet
  | oneOf s _ => some s
  | _ => none

/-- The set of the single character that an expression is, if it is one. -/
def singleSet? : Regex → Option CharSet
  | literal [c] => some (.single c)
  | _ => none

def isSequence : Regex → Bool
  | seq _ _ => true
  | _ => false

/-- The longest common beginning of two lists. -/
def commonPrefix : List Regex → List Regex → List Regex
  | a :: as, b :: bs => if a = b then a :: commonPrefix as bs else []
  | _, _ => []

/-- One of some expressions, in as many rounds as common beginnings may be taken out of them one after another. -/
def alternationWithin : Nat → List Regex → Regex
  | 0, rs => ofAlternatives rs
  | rounds + 1, rs =>
    let rs := rs.flatMap alternatives
    match rs with
    | [] => oneOf .empty false
    | [r] => r
    | first :: others =>
      match rs.mapM singleSet? <|> rs.mapM set? with
      | some sets => ofSet (.unionAll sets) false
      | none =>
        let common := others.foldl (fun common r => commonPrefix common r.parts) first.parts
        if rs.all isSequence && !common.isEmpty then
          concat (common ++ [alternationWithin rounds (rs.map fun r => concat (r.parts.drop common.length))])
        else ofAlternatives rs

/-- One of some expressions. Each round takes away at least one part of the expressions, so there are no more rounds than parts. -/
def alternation (rs : List Regex) : Regex := alternationWithin ((rs.flatMap alternatives).flatMap parts).length.succ rs

/-- Whether nothing but the empty text can match. -/
def isBlank : Regex → Bool
  | empty => true
  | literal _ => false
  | oneOf _ _ => false
  | look _ => true
  | group _ r => isBlank r
  | times _ most _ r => most.isSome && isBlank r
  | seq a b => isBlank a && isBlank b
  | alt a b => isBlank a && isBlank b

/-- An expression repeated. What matches the empty text only is repeated once at most. -/
def repeated (least : Nat) (most : Option Nat) (lazy : Bool) (r : Regex) : Regex :=
  let (least, most) := if isBlank r then (min least 1, some (min (most.getD 1) 1)) else (least, most)
  if least = 0 ∧ most = some 0 then empty
  else if least = 1 ∧ most = some 1 then r
  else times least most lazy r

end Regex

end ModelCatalog
