import Mathlib.Data.String.Basic
import ModelCatalog.Proofs.Number.Notation
import ModelCatalog.Store.QuerySet

/-!
# The order of values

`Json.sortOrder` compares two values in one of four ways, and which one depends on both. Still it is one order: every value has a class,
an amount and a wording, and values are ordered by these, one after the other (`sortOrder_eq`). Values of different classes are compared by
their compact texts, and those begin with characters that are ordered as the classes are (`leadingClass`).
-/

namespace ModelCatalog

/-- A text that begins with a lesser character comes first. -/
theorem compare_of_begins_lt {kind kind' : Char → Prop} {s t : String} (hs : Begins kind s) (ht : Begins kind' t)
    (hlt : ∀ c d, kind c → kind' d → c < d) : compare s t = .lt := by
  obtain ⟨c, rest, hc, hkind⟩ := hs
  obtain ⟨d, rest', hd, hkind'⟩ := ht
  refine compareOfLessAndEq_eq_lt.2 ?_
  rw [String.lt_iff_toList_lt, hc, hd]
  exact List.Lex.rel (hlt c d hkind hkind')

namespace Json

/-! ## The key of a value -/

/-- The class of a value. Null comes first, then texts, numbers, lists, truth values and objects. -/
def sortClass : Json → Nat
  | null => 0
  | text _ => 1
  | number _ => 2
  | list _ => 3
  | bool _ => 4
  | object _ => 5

/-- The amount by which numbers and truth values are ordered. -/
def sortAmount : Json → Int
  | number n => n.toBinary64.value
  | bool b => b.toNat
  | _ => 0

/-- The wording by which texts, lists and objects are ordered. -/
def sortWording : Json → String
  | text s => s
  | list items => (list items).compact
  | object members => (object members).compact
  | _ => ""

/-- Values by class, then by amount, then by wording. -/
def keyOrder : Json → Json → Ordering := compareLex (compareOn sortClass) (compareLex (compareOn sortAmount) (compareOn sortWording))

/-! ## Compact texts tell classes apart -/

/-- The class of the values whose compact text begins with a character, for values other than null. -/
def leadingClass (c : Char) : Nat :=
  if c < '-' then 1
  else if c < '[' then 2
  else if c < 'f' then 3
  else if c < '\x7b' then 4
  else 5

theorem lt_of_leadingClass_lt {c d : Char} (h : leadingClass c < leadingClass d) : c < d := by
  by_contra hle
  have hbelow : ∀ bound : Char, c < bound → d < bound := fun _ => lt_of_le_of_lt (not_lt.1 hle)
  unfold leadingClass at h
  grind

/-- Numbers begin with characters of their class. -/
theorem leadingClass_of_number {c : Char} (h : c = '-' ∨ IsDigit c) : leadingClass c = 2 := by
  rcases h with rfl | h
  · rfl
  · obtain ⟨hlow, hhigh⟩ := h.bounds
    have hmark : ¬ c < '-' := not_lt.2 (le_trans (by decide) hlow)
    have hbracket : c < '[' := lt_of_le_of_lt hhigh (by decide)
    rw [leadingClass, if_neg hmark, if_pos hbracket]

/-- The compact text of a value begins with a character of the value's class. -/
theorem compact_begins {a : Json} (ha : a ≠ null) : Begins (fun c => leadingClass c = a.sortClass) a.compact := by
  cases a with
  | null => exact absurd rfl ha
  | bool b =>
    cases b with
    | true => exact ⟨'t', ['r', 'u', 'e'], rfl, rfl⟩
    | false => exact ⟨'f', ['a', 'l', 's', 'e'], rfl, rfl⟩
  | number n => exact (Number.text_begins n).imp fun _ => leadingClass_of_number
  | text s =>
    have hmark : Begins (fun c => leadingClass c = 1) "\"" := ⟨'"', [], rfl, rfl⟩
    exact (hmark.append _).append _
  | list items =>
    have hmark : Begins (fun c => leadingClass c = 3) "[" := ⟨'[', [], rfl, rfl⟩
    exact (hmark.append _).append _
  | object members =>
    have hmark : Begins (fun c => leadingClass c = 5) "\x7b" := ⟨'\x7b', [], rfl, rfl⟩
    exact (hmark.append _).append _

/-- Compact texts of values of different classes are ordered as the classes. -/
theorem compare_compact {a b : Json} (ha : a ≠ null) (hb : b ≠ null) (h : a.sortClass ≠ b.sortClass) :
    compare a.compact b.compact = compare a.sortClass b.sortClass := by
  have hlt : ∀ {a b : Json}, a ≠ null → b ≠ null → a.sortClass < b.sortClass → compare a.compact b.compact = .lt :=
    fun ha hb h => compare_of_begins_lt (compact_begins ha) (compact_begins hb) fun c d hc hd =>
      lt_of_leadingClass_lt (hc.symm ▸ hd.symm ▸ h)
  rcases Nat.lt_or_gt_of_ne h with h | h
  · rw [hlt ha hb h, Nat.compare_eq_lt.2 h]
  · rw [Std.OrientedCmp.gt_of_lt (hlt hb ha h), Nat.compare_eq_gt.2 h]

/-! ## One order -/

/-- The class decides where it differs. -/
theorem keyOrder_of_sortClass_ne {a b : Json} (h : a.sortClass ≠ b.sortClass) : keyOrder a b = compare a.sortClass b.sortClass := by
  have hne : compare a.sortClass b.sortClass ≠ .eq := fun heq => h (Nat.compare_eq_eq.1 heq)
  rw [keyOrder, compareLex, compareOn]
  cases hclass : compare a.sortClass b.sortClass with
  | eq => exact absurd hclass hne
  | lt | gt => rfl

/-- Within a class the amount decides, then the wording. -/
theorem keyOrder_of_sortClass_eq {a b : Json} (h : a.sortClass = b.sortClass) :
    keyOrder a b = (compare a.sortAmount b.sortAmount).then (compare a.sortWording b.sortWording) := by
  rw [keyOrder, compareLex, compareOn, Nat.compare_eq_eq.2 h]
  rfl

theorem sortClass_pos {a : Json} (ha : a ≠ null) : 0 < a.sortClass := by
  cases a with
  | null => exact absurd rfl ha
  | bool | number | text | list | object => exact Nat.succ_pos _

theorem sortOrder_of_sortClass_ne {a b : Json} (h : a.sortClass ≠ b.sortClass) : a.sortOrder b = compare a.sortClass b.sortClass := by
  unfold sortOrder
  split
  · exact absurd rfl h
  · rename_i hb
    exact (Nat.compare_eq_lt.2 (sortClass_pos hb)).symm
  · rename_i ha
    exact (Nat.compare_eq_gt.2 (sortClass_pos ha)).symm
  · exact absurd rfl h
  · exact absurd rfl h
  · exact absurd rfl h
  · rename_i ha hb _ _ _ _
    exact compare_compact ha hb h

theorem sortOrder_of_sortClass_eq {a b : Json} (h : a.sortClass = b.sortClass) :
    a.sortOrder b = (compare a.sortAmount b.sortAmount).then (compare a.sortWording b.sortWording) := by
  cases a with
  | null =>
    cases b with
    | null => rfl
    | bool | number | text | list | object => cases h
  | bool x =>
    cases b with
    | bool y => cases x <;> cases y <;> rfl
    | null | number | text | list | object => cases h
  | number m =>
    cases b with
    | number n => exact Ordering.then_eq.symm
    | null | bool | text | list | object => cases h
  | text s =>
    cases b with
    | text t => rfl
    | null | bool | number | list | object => cases h
  | list items =>
    cases b with
    | list items' => rfl
    | null | bool | number | text | object => cases h
  | object members =>
    cases b with
    | object members' => rfl
    | null | bool | number | text | list => cases h

/-- Values are ordered by their keys. -/
theorem sortOrder_eq (a b : Json) : a.sortOrder b = keyOrder a b := by
  by_cases h : a.sortClass = b.sortClass
  · rw [sortOrder_of_sortClass_eq h, keyOrder_of_sortClass_eq h]
  · rw [sortOrder_of_sortClass_ne h, keyOrder_of_sortClass_ne h]

instance : Std.TransCmp keyOrder := inferInstanceAs (Std.TransCmp (compareLex _ _))

instance : Std.TransCmp sortOrder := by
  have h : sortOrder = keyOrder := funext fun a => funext fun b => sortOrder_eq a b
  rw [h]
  infer_instance

end Json

end ModelCatalog
