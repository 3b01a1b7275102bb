import ModelCatalog.Query.Lookup

/-!
# Equality of values is an equivalence

`Json.same` and `Json.equals` identify values that are written differently: both zeros, and for `equals` also an integer and the number
it rounds to. Each value has a plain form, and two values are equal exactly when their plain forms are (`same_iff`, `equals_iff`). From
that `equals` is reflexive, symmetric and transitive, which is what primary keys rest on.
-/

namespace ModelCatalog

/-! ## Plain forms of numbers -/

/-- The number, with zero in place of negative zero. -/
def Binary64.plain (x : Binary64) : Binary64 := if x.units = 0 then ⟨false, 0⟩ else x

theorem Binary64.value_eq_iff (x y : Binary64) : x.value = y.value ↔ x.plain = y.plain := by
  obtain ⟨s, m⟩ := x
  obtain ⟨t, n⟩ := y
  -- both sides say that the magnitudes are equal, and the signs too unless they are zero
  have hvalue : value ⟨s, m⟩ = value ⟨t, n⟩ ↔ m = n ∧ (s = t ∨ m = 0) := by
    cases s <;> cases t <;>
      simp only [value, Bool.false_eq_true, Bool.true_eq_false, if_true, if_false, true_or, false_or, and_true] <;>
      omega
  have hplain : plain ⟨s, m⟩ = plain ⟨t, n⟩ ↔ m = n ∧ (s = t ∨ m = 0) := by
    unfold plain
    by_cases hm : m = 0
    · by_cases hn : n = 0
      · simp only [hm, hn, if_true, or_true, and_self]
      · simp only [hm, hn, if_true, if_false, mk.injEq, Ne.symm hn, and_false, false_and]
    · by_cases hn : n = 0
      · simp only [hm, hn, if_true, if_false, mk.injEq, and_false, false_and]
      · simp only [hm, hn, if_false, mk.injEq, or_false, and_comm]
  rw [hvalue, hplain]

/-- The number, with zero in place of negative zero. -/
def Number.plain : Number → Number
  | int n => .int n
  | real x => .real x.plain

theorem Number.same_iff (m n : Number) : m.same n = true ↔ m.plain = n.plain := by
  cases m <;> cases n <;> simp [same, plain, Binary64.value_eq_iff]

/-! ## Plain forms of values -/

namespace Json

mutual

/-- The value, with zero in place of negative zero. -/
def plain : Json → Json
  | number n => .number n.plain
  | list items => .list (plainItems items)
  | object members => .object (plainMembers members)
  | null => .null
  | bool b => .bool b
  | text s => .text s

def plainItems : List Json → List Json
  | [] => []
  | item :: rest => plain item :: plainItems rest

def plainMembers : List (String × Json) → List (String × Json)
  | [] => []
  | (name, value) :: rest => (name, plain value) :: plainMembers rest

end

mutual

/-- Values are the same exactly when their plain forms are equal. -/
theorem same_iff : (a b : Json) → (a.same b = true ↔ a.plain = b.plain)
  | null, b => by cases b <;> simp [same, plain]
  | bool x, b => by cases b <;> simp [same, plain]
  | number m, b => by cases b <;> simp [same, plain, Number.same_iff]
  | text s, b => by cases b <;> simp [same, plain]
  | list items, b => by
    cases b with
    | list others => simp [same, plain, sameItems_iff items others]
    | _ => simp [same, plain]
  | object members, b => by
    cases b with
    | object others => simp [same, plain, sameMembers_iff members others]
    | _ => simp [same, plain]

theorem sameItems_iff : (as bs : List Json) → (sameItems as bs = true ↔ plainItems as = plainItems bs)
  | [], [] => by simp [sameItems, plainItems]
  | [], _ :: _ => by simp [sameItems, plainItems]
  | _ :: _, [] => by simp [sameItems, plainItems]
  | a :: as, b :: bs => by simp [sameItems, plainItems, same_iff a b, sameItems_iff as bs]

theorem sameMembers_iff :
    (as bs : List (String × Json)) → (sameMembers as bs = true ↔ plainMembers as = plainMembers bs)
  | [], [] => by simp [sameMembers, plainMembers]
  | [], _ :: _ => by simp [sameMembers, plainMembers]
  | _ :: _, [] => by simp [sameMembers, plainMembers]
  | (m, a) :: as, (n, b) :: bs => by
    simp [sameMembers, plainMembers, same_iff a b, sameMembers_iff as bs]

end

/-- What a value is to a lookup: a number counts as the double-precision number it rounds to. -/
def lookupForm : Json → Json
  | number n => .number (.real n.toBinary64.plain)
  | other => other.plain

/-- Values are equal to a lookup exactly when their forms are equal. -/
theorem equals_iff (a b : Json) : a.equals b = true ↔ a.lookupForm = b.lookupForm := by
  cases a with
  | number m =>
    cases b <;> simp [equals, lookupForm, same, plain, Binary64.value_eq_iff]
  | _ =>
    cases b <;> simp [equals, lookupForm, same_iff, plain]

@[simp] theorem equals_refl (a : Json) : a.equals a = true := (equals_iff a a).2 rfl

theorem equals_symm {a b : Json} (h : a.equals b = true) : b.equals a = true :=
  (equals_iff b a).2 ((equals_iff a b).1 h).symm

theorem equals_comm (a b : Json) : a.equals b = b.equals a := by
  rw [Bool.eq_iff_iff]
  exact ⟨equals_symm, equals_symm⟩

theorem equals_trans {a b c : Json} (h : a.equals b = true) (h' : b.equals c = true) : a.equals c = true :=
  (equals_iff a c).2 (((equals_iff a b).1 h).trans ((equals_iff b c).1 h'))

/-- Equal values are equal to the same values. -/
theorem equals_congr {a b : Json} (h : a.equals b = true) (c : Json) : a.equals c = b.equals c := by
  rw [Bool.eq_iff_iff]
  exact ⟨equals_trans (equals_symm h), equals_trans h⟩

/-- Only null is equal to null. -/
theorem equals_null (a : Json) : a.equals .null = a.isNull := by
  cases a <;> rfl

/-- A value is null when it is equal to one that is. -/
theorem isNull_congr {a b : Json} (h : a.equals b = true) : a.isNull = b.isNull := by
  rw [← equals_null, ← equals_null, equals_congr h]

/-- A value that is equal to a key is not null. -/
theorem equals_of_not_null {v key : Json} (hkey : key.isNull = false) : v.equals key = (!v.isNull && v.equals key) := by
  cases heq : v.equals key with
  | false => rw [Bool.and_false]
  | true =>
    rw [Json.isNull_congr heq, hkey]
    rfl

end Json

/-- A value is what an exact lookup looks for when the two are equal. -/
theorem Lookup.holds_exact (expected value : Json) : (exact expected).holds value = value.equals expected := by
  unfold holds
  split
  · rename_i hnull
    obtain rfl : value = .null := by
      cases value with
      | null => rfl
      | _ => cases hnull
    rw [Json.equals_comm, Json.equals_null]
    rfl
  · rfl

end ModelCatalog
