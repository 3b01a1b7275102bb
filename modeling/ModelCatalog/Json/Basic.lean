import ModelCatalog.Json.Dict
import ModelCatalog.Number.Notation

/-!
# JSON values

`Json` is a value of the data format. An object lists its members in the order they were written; `Json.sorted` brings every object
into ascending order of names, the last of several members of one name standing for all, so that the value is `Json.IsSorted`.
-/

namespace ModelCatalog

/-- A JSON value. -/
inductive Json where
  | null
  | bool (b : Bool)
  | number (n : Number)
  | text (s : String)
  | list (items : List Json)
  | object (members : List (String × Json))
  deriving Repr, Inhabited

namespace Json

/-- A whole number. -/
def int (n : Int) : Json := .number (.int n)

/-- A count. -/
def nat (n : Nat) : Json := .number (.int n)

mutual

/-- The value with every object a dictionary. -/
def sorted : Json → Json
  | list items => .list (sortedItems items)
  | object members => .object (Dict.ofList (sortedMembers members))
  | other => other

def sortedItems : List Json → List Json
  | [] => []
  | item :: rest => sorted item :: sortedItems rest

def sortedMembers : List (String × Json) → List (String × Json)
  | [] => []
  | (name, value) :: rest => (name, sorted value) :: sortedMembers rest

end

mutual

/-- Every object in the value lists its members in ascending order of names, each once. -/
def IsSorted : Json → Prop
  | list items => ItemsSorted items
  | object members => Entries.Sorted members ∧ MembersSorted members
  | null | bool _ | number _ | text _ => True

def ItemsSorted : List Json → Prop
  | [] => True
  | item :: rest => IsSorted item ∧ ItemsSorted rest

def MembersSorted : List (String × Json) → Prop
  | [] => True
  | (_, value) :: rest => IsSorted value ∧ MembersSorted rest

end

mutual

instance decidableIsSorted : (v : Json) → Decidable v.IsSorted
  | list items => decidableItemsSorted items
  | object members => @instDecidableAnd _ _ (inferInstanceAs (Decidable (Entries.Sorted members))) (decidableMembersSorted members)
  | null | bool _ | number _ | text _ => .isTrue trivial

instance decidableItemsSorted : (items : List Json) → Decidable (ItemsSorted items)
  | [] => .isTrue trivial
  | item :: rest => @instDecidableAnd _ _ (decidableIsSorted item) (decidableItemsSorted rest)

instance decidableMembersSorted : (members : List (String × Json)) → Decidable (MembersSorted members)
  | [] => .isTrue trivial
  | (_, value) :: rest => @instDecidableAnd _ _ (decidableIsSorted value) (decidableMembersSorted rest)

end

theorem membersSorted_iff {members : List (String × Json)} : MembersSorted members ↔ ∀ e ∈ members, e.2.IsSorted := by
  induction members with
  | nil => simp [MembersSorted]
  | cons e members ih => simp [MembersSorted, ih]

mutual

/-- Bringing a value into order does so. -/
theorem isSorted_sorted : (v : Json) → v.sorted.IsSorted
  | list items => itemsSorted_sorted items
  | object members =>
    ⟨(Dict.of (sortedMembers members)).sorted,
      membersSorted_iff.2 fun _ he =>
        membersSorted_iff.1 (membersSorted_sorted members) _ ((Entries.mem_of_mem_extend he).resolve_right List.not_mem_nil)⟩
  | null | bool _ | number _ | text _ => trivial

theorem itemsSorted_sorted : (items : List Json) → ItemsSorted (sortedItems items)
  | [] => trivial
  | item :: rest => ⟨isSorted_sorted item, itemsSorted_sorted rest⟩

theorem membersSorted_sorted : (members : List (String × Json)) → MembersSorted (sortedMembers members)
  | [] => trivial
  | (_, value) :: rest => ⟨isSorted_sorted value, membersSorted_sorted rest⟩

end

mutual

/-- Equality of values. Numbers of one kind are compared by value, an integer is never equal to a number of the other kind. -/
def same : Json → Json → Bool
  | null, null => true
  | bool a, bool b => a == b
  | number a, number b => a.same b
  | text a, text b => a == b
  | list a, list b => sameItems a b
  | object a, object b => sameMembers a b
  | _, _ => false

def sameItems : List Json → List Json → Bool
  | [], [] => true
  | a :: as, b :: bs => same a b && sameItems as bs
  | _, _ => false

def sameMembers : List (String × Json) → List (String × Json) → Bool
  | [], [] => true
  | (m, a) :: as, (n, b) :: bs => m == n && same a b && sameMembers as bs
  | _, _ => false

end

/-- Whether the value is null. -/
def isNull : Json → Bool
  | null => true
  | _ => false

/-- The text of a text value. -/
def text? : Json → Option String
  | text s => some s
  | _ => none

/-- The members of an object, or none. -/
def members : Json → Dict Json
  | object members => .of members
  | _ => .empty

end Json

end ModelCatalog
