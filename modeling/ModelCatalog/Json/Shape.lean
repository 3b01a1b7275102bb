import ModelCatalog.Json.Basic

/-!
# Reading structures from JSON

A structure is written as an object with its members by name, or as a list of its members in declared order. `Json.slots?` says for each
declared member how it was given; `Slot.required?` and its kin turn that into a value.
-/

namespace ModelCatalog.Json

/-- How a declared member was given. -/
inductive Slot where
  | given (value : Json)
  /-- An object without the member. -/
  | unnamed
  /-- A list that ends before the member. -/
  | cutOff

/-- The members of an object whose names are among the given ones. -/
def membersNamed (names : List String) (members : List (String × Json)) : List Json :=
  (members.filter fun entry => names.contains entry.1).map Prod.snd

/-- The slots of the declared members, each of which goes by one or more names. A member given twice and a list that is too long are
refused; other members of an object do not matter. -/
def slots? (declared : List (List String)) : Json → Option (List Slot)
  | .object members =>
    declared.mapM fun names =>
      match membersNamed names members with
      | [] => some .unnamed
      | [value] => some (.given value)
      | _ => none
  | .list items =>
    if items.length ≤ declared.length then
      some (items.map .given ++ List.replicate (declared.length - items.length) .cutOff)
    else none
  | _ => none

namespace Slot

variable {α : Type}

/-- A member that must be given. -/
def required? (read? : Json → Option α) : Slot → Option α
  | given value => read? value
  | _ => none

/-- A member with a value of its own when it is not given. -/
def orElse? (default : α) (read? : Json → Option α) : Slot → Option α
  | given value => read? value
  | _ => some default

/-- A member that may be null, or be left out altogether. -/
def nullable? (read? : Json → Option α) : Slot → Option (Option α)
  | given .null => some none
  | given value => (read? value).map some
  | _ => some none

/-- A member that may be null, or be left out of an object but not of a list. -/
def nullableInObject? (read? : Json → Option α) : Slot → Option (Option α)
  | given .null => some none
  | given value => (read? value).map some
  | unnamed => some none
  | cutOff => none

end Slot

/-- A truth value. -/
def readBool? : Json → Option Bool
  | bool b => some b
  | _ => none

/-- A text. -/
def readText? : Json → Option String
  | text s => some s
  | _ => none

/-- A count of at most 64 bits. -/
def readCount? : Json → Option Nat
  | number n => n.toNat? (UInt64.size - 1)
  | _ => none

/-- A list of values of one type. -/
def readList? {α : Type} (read? : Json → Option α) : Json → Option (List α)
  | list items => items.mapM read?
  | _ => none

/-- A dictionary of values of one type; of several members of one name the last stays, but all must be readable. -/
def readDict? {α : Type} (read? : Json → Option α) : Json → Option (Dict α)
  | object members => (members.mapM fun entry => (read? entry.2).map (Prod.mk entry.1)).map Dict.of
  | _ => none

/-- Any value, brought into order. -/
def readAny? (value : Json) : Option { v : Json // v.IsSorted } := some ⟨value.sorted, value.isSorted_sorted⟩

/-- A dictionary of any values, brought into order. -/
def readRecord? : Json → Option { d : Dict Json // MembersSorted d }
  | object members => some ⟨.of (sortedMembers members), (isSorted_sorted (object members)).2⟩
  | _ => none

end ModelCatalog.Json
