import ModelCatalog.Number.Notation

/-!
# Texts of numbers

The text of a number is not empty, and its first character is a digit or a minus sign (`Number.text_begins`). All of it is digits, signs, a
decimal point and the mark of an exponent (`Number.text_consists`).
-/

namespace ModelCatalog

/-- Whether a text begins with a character of a kind. -/
def Begins (kind : Char → Prop) (s : String) : Prop := ∃ c rest, s.toList = c :: rest ∧ kind c

namespace Begins

variable {kind kind' : Char → Prop} {s : String}

theorem append (h : Begins kind s) (t : String) : Begins kind (s ++ t) := by
  obtain ⟨c, rest, hs, hc⟩ := h
  exact ⟨c, rest ++ t.toList, by rw [String.toList_append, hs, List.cons_append], hc⟩

theorem imp (h : Begins kind s) (himp : ∀ c, kind c → kind' c) : Begins kind' s := by
  obtain ⟨c, rest, hs, hc⟩ := h
  exact ⟨c, rest, hs, himp c hc⟩

/-- The first of some characters that all are of a kind. -/
theorem ofList_take {cs : List Char} (hne : cs ≠ []) (hall : ∀ c ∈ cs, kind c) {n : Nat} (hn : 0 < n) :
    Begins kind (String.ofList (cs.take n)) := by
  obtain ⟨c, rest, rfl⟩ := List.exists_cons_of_ne_nil hne
  cases n with
  | zero => cases hn
  | succ k => exact ⟨c, rest.take k, String.toList_ofList, hall c List.mem_cons_self⟩

end Begins

/-- A digit. -/
def IsDigit (c : Char) : Prop := c.isDigit = true

theorem IsDigit.bounds {c : Char} (h : IsDigit c) : '0' ≤ c ∧ c ≤ '9' := by
  rw [IsDigit, Char.isDigit, Bool.and_eq_true, decide_eq_true_eq, decide_eq_true_eq] at h
  exact h

/-- The decimal digits of a number. -/
theorem begins_toDigits (n : Nat) {k : Nat} (hk : 0 < k) : Begins IsDigit (String.ofList ((Nat.toDigits 10 n).take k)) :=
  Begins.ofList_take Nat.toDigits_ne_nil (fun _ => Nat.isDigit_of_mem_toDigits (by decide) (by decide)) hk

theorem begins_toString (n : Nat) : Begins IsDigit (toString n) := by
  rw [Nat.toString_eq_ofList_toDigits, ← List.take_length (l := Nat.toDigits 10 n)]
  exact begins_toDigits n (List.length_pos_iff.2 Nat.toDigits_ne_nil)

namespace Binary64

/-- A magnitude begins with a digit: positionally with zero or the first digit, else with the digit before the point. -/
theorem magnitudeText_begins (units : Nat) : Begins IsDigit (magnitudeText units) := by
  unfold magnitudeText
  split
  · exact ⟨'0', ['.', '0'], rfl, rfl⟩
  · simp only
    split
    · unfold positional
      split
      · have hzero : Begins IsDigit "0." := ⟨'0', ['.'], rfl, rfl⟩
        exact (hzero.append _).append _
      · rename_i hpoint
        exact ((begins_toDigits _ (by omega)).append _).append _ |>.append _
    · exact (((begins_toDigits _ Nat.one_pos).append _).append _).append _

end Binary64

namespace Number

/-- A number begins with a digit or a minus sign. -/
theorem text_begins (n : Number) : Begins (fun c => c = '-' ∨ IsDigit c) n.text := by
  cases n with
  | int n =>
    cases n with
    | ofNat n => exact (begins_toString n).imp fun _ => Or.inr
    | negSucc n =>
      have hminus : Begins (fun c => c = '-' ∨ IsDigit c) "-" := ⟨'-', [], rfl, Or.inl rfl⟩
      exact hminus.append _
  | real x =>
    rw [text, Binary64.text]
    split
    · have hminus : Begins (fun c => c = '-' ∨ IsDigit c) "-" := ⟨'-', [], rfl, Or.inl rfl⟩
      exact hminus.append _
    · rw [String.empty_append]
      exact (Binary64.magnitudeText_begins x.units).imp fun _ => Or.inr

end Number

/-! ## All characters -/

/-- Whether all characters of a text are of a kind. -/
def Consists (kind : Char → Bool) (s : String) : Prop := ∀ c ∈ s.toList, kind c = true

instance (kind : Char → Bool) (s : String) : Decidable (Consists kind s) :=
  decidable_of_iff (s.toList.all kind = true) List.all_eq_true

namespace Consists

variable {kind : Char → Bool} {s t : String}

theorem append (hs : Consists kind s) (ht : Consists kind t) : Consists kind (s ++ t) := by
  rw [Consists, String.toList_append]
  exact List.forall_mem_append.2 ⟨hs, ht⟩

theorem ofList {cs : List Char} (h : ∀ c ∈ cs, kind c = true) : Consists kind (String.ofList cs) := by
  rw [Consists, String.toList_ofList]
  exact h

end Consists

/-- Whether a character can stand in the text of a number. -/
def isNumberChar (c : Char) : Bool := c.isDigit || c == '-' || c == '+' || c == '.' || c == 'e'

theorem isNumberChar_of_isDigit {c : Char} (h : c.isDigit = true) : isNumberChar c = true := by
  simp [isNumberChar, h]

theorem consists_toDigits {n : Nat} {cs : List Char} (h : cs ⊆ Nat.toDigits 10 n) : Consists isNumberChar (String.ofList cs) :=
  Consists.ofList fun _ hc => isNumberChar_of_isDigit (Nat.isDigit_of_mem_toDigits (by decide) (by decide) (h hc))

theorem consists_toString (n : Nat) : Consists isNumberChar (toString n) := by
  rw [Nat.toString_eq_ofList_toDigits]
  exact consists_toDigits (List.Subset.refl _)

namespace Binary64

theorem consists_zeros (n : Nat) : Consists isNumberChar (zeros n) :=
  Consists.ofList fun c hc => by
    rw [List.eq_of_mem_replicate hc]
    rfl

theorem consists_positional (n : Nat) (point : Int) : Consists isNumberChar (positional (Nat.toDigits 10 n) point) := by
  unfold positional
  split
  · have hpoint : Consists isNumberChar "0." := by decide
    exact (hpoint.append (consists_zeros _)).append (consists_toDigits (List.Subset.refl _))
  · have hpoint : Consists isNumberChar "." := by decide
    have hwhole := consists_toDigits (n := n) (List.take_subset point.natAbs _)
    refine ((hwhole.append (consists_zeros _)).append hpoint).append ?_
    split
    · decide
    · exact consists_toDigits (List.drop_subset _ _)

theorem consists_exponential (n : Nat) (exponent : Int) : Consists isNumberChar (exponential (Nat.toDigits 10 n) exponent) := by
  have hpoint : Consists isNumberChar "." := by decide
  refine (((consists_toDigits (List.take_subset _ _)).append ?_).append ?_).append (consists_toString _)
  · split
    · decide
    · exact hpoint.append (consists_toDigits (List.drop_subset _ _))
  · split <;> decide

theorem magnitudeText_consists (units : Nat) : Consists isNumberChar (magnitudeText units) := by
  unfold magnitudeText
  split
  · decide
  · simp only
    split
    · exact consists_positional _ _
    · exact consists_exponential _ _

end Binary64

namespace Number

/-- The text of a number consists of digits, signs, points and the mark of an exponent. -/
theorem text_consists (n : Number) : Consists isNumberChar n.text := by
  have hminus : Consists isNumberChar "-" := by decide
  cases n with
  | int n =>
    cases n with
    | ofNat n => exact consists_toString n
    | negSucc n => exact hminus.append (consists_toString (n + 1))
  | real x =>
    refine Consists.append ?_ (Binary64.magnitudeText_consists x.units)
    split
    · exact hminus
    · decide

end Number

end ModelCatalog
