import Mathlib.Data.List.Forall2
import ModelCatalog.Json.Shape
import ModelCatalog.Proofs.Json.Dict
import ModelCatalog.Proofs.Lists

/-!
# Reading what was written

A value is in order when every object in it is a dictionary (`Json.IsSorted`); reading such a value gives it back. Of an object that is a
dictionary, each declared member is what the dictionary holds under the one name of the member that is in use (`Json.slots?_object`).
-/

namespace ModelCatalog

namespace Json

/-! ## Values in order -/

mutual

/-- A value in order is not changed by bringing it into order. -/
theorem IsSorted.sorted_eq : {v : Json} → v.IsSorted → v.sorted = v
  | list _, h => congrArg list (ItemsSorted.sortedItems_eq h)
  | object members, ⟨hnames, hvalues⟩ => by
    rw [sorted, MembersSorted.sortedMembers_eq hvalues, Dict.ofList_of_sorted hnames]
  | null, _ | bool _, _ | number _, _ | text _, _ => rfl

theorem ItemsSorted.sortedItems_eq : {items : List Json} → ItemsSorted items → sortedItems items = items
  | [], _ => rfl
  | _ :: _, ⟨hfirst, hrest⟩ => by rw [sortedItems, hfirst.sorted_eq, ItemsSorted.sortedItems_eq hrest]

theorem MembersSorted.sortedMembers_eq : {members : List (String × Json)} → MembersSorted members → sortedMembers members = members
  | [], _ => rfl
  | _ :: _, ⟨hfirst, hrest⟩ => by rw [sortedMembers, hfirst.sorted_eq, MembersSorted.sortedMembers_eq hrest]

end

theorem IsSorted.readAny? {v : Json} (h : v.IsSorted) : Json.readAny? v = some ⟨v, h⟩ := congrArg some (Subtype.ext h.sorted_eq)

/-- A dictionary of values in order is read without a change. -/
theorem MembersSorted.readRecord? {d : Dict Json} (h : MembersSorted d) : Json.readRecord? (object d) = some ⟨d, h⟩ :=
  congrArg some (Subtype.ext ((congrArg Dict.of h.sortedMembers_eq).trans d.of_entries))

/-! ## Lists -/

/-- A list is read back when each of its items is. -/
theorem readList?_map {α : Type} {read? : Json → Option α} {write : α → Json} {l : List α}
    (h : ∀ a ∈ l, read? (write a) = some a) : readList? read? (.list (l.map write)) = some l := by
  have hitems : l.mapM (read? ∘ write) = some (l.map id) := mapM_of_forall h
  rw [readList?, List.mapM_map, hitems, List.map_id]

theorem readList?_texts (texts : List String) : readList? readText? (.list (texts.map .text)) = some texts :=
  readList?_map fun _ _ => rfl

/-! ## Values that may be absent -/

theorem Slot.nullable?_given {α : Type} {read? : Json → Option α} (hnull : read? .null = none) {value : Json} {a : α}
    (h : read? value = some a) : (given value).nullable? read? = some (some a) := by
  cases value with
  | null =>
    rw [hnull] at h
    cases h
  | bool | number | text | list | object => exact congrArg (Option.map some) h

/-- A value that is written as null when it is absent is read back. -/
theorem Slot.nullable?_getD {α : Type} {read? : Json → Option α} (hnull : read? .null = none) {write : α → Json} {a : Option α}
    (h : ∀ x ∈ a, read? (write x) = some x) : (given ((a.map write).getD .null)).nullable? read? = some a := by
  cases a with
  | none => rfl
  | some x => exact nullable?_given hnull (h x rfl)

/-! ## Members of a dictionary -/

/-- How a member is given by a dictionary that may hold it. -/
def Slot.ofMember : Option Json → Slot
  | some value => .given value
  | none => .unnamed

@[simp] theorem Slot.ofMember_some (value : Json) : ofMember (some value) = .given value := rfl

@[simp] theorem readText?_text (s : String) : readText? (text s) = some s := rfl

@[simp] theorem readBool?_bool (b : Bool) : readBool? (bool b) = some b := rfl

@[simp] theorem Slot.required?_given {α : Type} (read? : Json → Option α) (value : Json) : (given value).required? read? = read? value := rfl

@[simp] theorem Slot.orElse?_given {α : Type} (default : α) (read? : Json → Option α) (value : Json) :
    (given value).orElse? default read? = read? value := rfl

theorem membersNamed_singleton {l : Entries Json} (hl : l.Sorted) (name : String) : membersNamed [name] l = (l.get? name).toList := by
  induction l with
  | nil => rfl
  | cons e l ih =>
    obtain ⟨hlt, hrest⟩ := List.pairwise_cons.1 hl
    have htail := ih hrest
    rw [membersNamed, List.filter_cons, Entries.get?_cons]
    by_cases he : e.1 = name
    · have hnone : Entries.get? l name = none := Entries.get?_eq_none_of_lt (he ▸ hlt)
      rw [hnone] at htail
      rw [if_pos (by simpa using he), if_pos he, List.map_cons]
      exact congrArg (e.2 :: ·) htail
    · rw [if_neg (by simpa using he), if_neg he]
      exact htail

/-- Where a dictionary holds nothing under the other names of a member, the member is what it holds under the one in use. -/
theorem membersNamed_eq (d : Dict Json) {names : List String} {name : String} (hname : name ∈ names)
    (hothers : ∀ other ∈ names, other ≠ name → d.get? other = none) : membersNamed names d = (d.get? name).toList := by
  rw [Dict.get?, ← membersNamed_singleton d.sorted, membersNamed, membersNamed]
  refine congrArg (List.map Prod.snd) (List.filter_congr fun e he => ?_)
  rw [Bool.eq_iff_iff, List.contains_iff_mem, List.contains_iff_mem, List.mem_singleton]
  refine ⟨fun hmem => ?_, fun heq => heq ▸ hname⟩
  by_contra hne
  have hsome := (Dict.get?_isSome_iff d e.1).2 (List.mem_map_of_mem he)
  rw [hothers e.1 hmem hne] at hsome
  cases hsome

/-- The slots of a dictionary, where for each declared member one name is in use. -/
theorem slots?_object (d : Dict Json) {declared : List (List String)} (names : List String)
    (h : List.Forall₂ (fun declaredNames name =>
      name ∈ declaredNames ∧ ∀ other ∈ declaredNames, other ≠ name → d.get? other = none) declared names) :
    slots? declared (.object d) = some (names.map fun name => .ofMember (d.get? name)) := by
  induction h with
  | nil => rfl
  | @cons declaredNames name _ _ hname _ ih =>
    rw [slots?] at ih
    rw [slots?, List.mapM_cons, ih, membersNamed_eq d hname.1 hname.2, List.map_cons]
    cases d.get? name <;> rfl

/-- The slots of a dictionary for members with one name each. -/
theorem slots?_object_single (d : Dict Json) (names : List String) :
    slots? (names.map ([·])) (.object d) = some (names.map fun name => .ofMember (d.get? name)) := by
  refine slots?_object d names ?_
  rw [List.forall₂_map_left_iff, List.forall₂_same]
  intro name _
  exact ⟨List.mem_singleton_self name, fun other hother hne => absurd (List.mem_singleton.1 hother) hne⟩

end Json

end ModelCatalog
