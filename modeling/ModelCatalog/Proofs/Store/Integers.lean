import ModelCatalog.Proofs.Json.Equality
import ModelCatalog.Proofs.Lists
import ModelCatalog.Proofs.Number.Rounding
import ModelCatalog.Proofs.Store.Calls
import ModelCatalog.Proofs.Store.Reading

/-!
# How integers are compared

Two integers are compared as the double-precision numbers that they round to. Every test of one integer against another goes by the
integers themselves exactly when rounding keeps the two apart (`comparedExactly_iff`), and rows are found under integer keys exactly when it
keeps the key apart from those that are stored. Rounding does so for all integers below `2 ^ 53` in magnitude, and for integers of 64 bits
that differ by `2 ^ 12` or more.
-/

namespace ModelCatalog

/-- Whether two integers that round to one number are equal. -/
def Binary64.KeepsApart (a b : Int) : Prop := (ofInt a).value = (ofInt b).value → a = b

theorem Binary64.keepsApart_of_lt {a b : Int} (h : a.natAbs < exactLimit ∨ b.natAbs < exactLimit) : KeepsApart a b := by
  intro hvalue
  by_contra hne
  rcases Int.lt_or_gt_of_ne hne with hlt | hlt
  · exact Int.ne_of_lt (ofInt_value_lt hlt h) hvalue
  · exact Int.ne_of_lt (ofInt_value_lt hlt h.symm) hvalue.symm

/-- Integers of 64 bits are kept apart when they differ by `2 ^ 12` or more. -/
theorem Binary64.keepsApart_of_far {a b : Int} (ha : a.natAbs ≤ 2 ^ 64) (hb : b.natAbs ≤ 2 ^ 64) (h : 2 ^ 12 ≤ (a - b).natAbs) :
    KeepsApart a b := by
  intro hvalue
  by_contra hne
  rcases Int.lt_or_gt_of_ne hne with hlt | hlt
  · exact Int.ne_of_lt (ofInt_value_lt_of_far (by omega) (by omega) (by omega)) hvalue
  · exact Int.ne_of_lt (ofInt_value_lt_of_far (by omega) (by omega) (by omega)) hvalue.symm

/-- The bound is the least one. -/
theorem Binary64.not_keepsApart_exactLimit : ¬KeepsApart (2 ^ 53) (2 ^ 53 + 1) := by
  intro h
  have hvalue : (ofInt (2 ^ 53)).value = (ofInt (2 ^ 53 + 1)).value := by decide +kernel
  exact absurd (h hvalue) (by decide)

/-- The order of two integers is that of the numbers they round to. -/
theorem Binary64.compare_value {a b : Int} (h : KeepsApart a b) : compare (ofInt a).value (ofInt b).value = compare a b := by
  rcases Int.lt_trichotomy a b with hlt | rfl | hlt
  · have hvalue := lt_of_le_of_ne (ofInt_value_mono (Int.le_of_lt hlt)) fun heq => Int.ne_of_lt hlt (h heq)
    rw [Int.compare_eq_lt.2 hlt, Int.compare_eq_lt.2 hvalue]
  · rw [Int.compare_eq_eq.2 rfl, Int.compare_eq_eq.2 rfl]
  · have hvalue := lt_of_le_of_ne (ofInt_value_mono (Int.le_of_lt hlt)) fun heq => Int.ne_of_gt hlt (h heq.symm)
    rw [Int.compare_eq_gt.2 hlt, Int.compare_eq_gt.2 hvalue]

namespace Json

theorem equals_int (a b : Int) : (int a).equals (int b) = true ↔ (Binary64.ofInt a).value = (Binary64.ofInt b).value := beq_iff_eq

theorem compare?_int (a b : Int) : (int a).compare? (int b) = some (compare (Binary64.ofInt a).value (Binary64.ofInt b).value) := rfl

theorem equals_int_iff {a b : Int} (h : Binary64.KeepsApart a b) : (int a).equals (int b) = true ↔ a = b := by
  rw [equals_int]
  refine ⟨h, ?_⟩
  rintro rfl
  rfl

/-- The integer of a number that is written as one. -/
def int? : Json → Option Int
  | number (.int n) => some n
  | _ => none

end Json

/-- What a comparison says of two integers. -/
def Comparison.Relates (a b : Int) : Comparison → Prop
  | above => b < a
  | atLeast => b ≤ a
  | below => a < b
  | atMost => a ≤ b

theorem Comparison.holds_compare (c : Comparison) (a b : Int) : c.holds (some (compare a b)) = true ↔ c.Relates a b := by
  rcases Int.lt_trichotomy a b with hlt | rfl | hlt
  · rw [Int.compare_eq_lt.2 hlt]
    cases c <;> simp [holds, Relates] <;> omega
  · rw [Int.compare_eq_eq.2 rfl]
    cases c <;> simp [holds, Relates]
  · rw [Int.compare_eq_gt.2 hlt]
    cases c <;> simp [holds, Relates] <;> omega

/-! ## Lookups -/

/-- Whether every test of a stored integer `a` against an integer `b` goes by the integers. -/
structure ComparedExactly (a b : Int) : Prop where
  equal : (Json.int a).equals (Json.int b) = true ↔ a = b
  order : (Json.int a).compare? (Json.int b) = some (compare a b)
  exact : (Lookup.exact (.int b)).holds (.int a) = true ↔ a = b
  /-- An item of the operand of `in` is one more way to match. -/
  oneOf : ∀ values, (Lookup.oneOf (.int b :: values)).holds (.int a) = true ↔ a = b ∨ (Lookup.oneOf values).holds (.int a) = true
  comparison : ∀ c : Comparison, (Lookup.compare c (.int b)).holds (.int a) = true ↔ c.Relates a b
  low : ∀ high, (Lookup.range (.int b) high).holds (.int a) = true ↔ b ≤ a ∧ (Lookup.compare .atMost high).holds (.int a) = true
  high : ∀ low, (Lookup.range low (.int b)).holds (.int a) = true ↔ (Lookup.compare .atLeast low).holds (.int a) = true ∧ a ≤ b
  key : ∀ column (row : Row), row.get? column = some (.int a) → (Table.hasKey column (.int b) row = true ↔ a = b)

namespace ComparedExactly

variable {a b : Int}

theorem of_keepsApart (h : Binary64.KeepsApart a b) : ComparedExactly a b := by
  have hequal := Json.equals_int_iff h
  have horder : (Json.int a).compare? (Json.int b) = some (compare a b) := by
    rw [Json.compare?_int, Binary64.compare_value h]
  have hcomparison : ∀ c : Comparison, (Lookup.compare c (.int b)).holds (.int a) = true ↔ c.Relates a b := fun c => by
    change c.holds ((Json.int a).compare? (Json.int b)) = true ↔ _
    rw [horder]
    exact c.holds_compare a b
  refine ⟨hequal, horder, ?_, fun values => ?_, hcomparison, fun high => ?_, fun low => ?_, fun column row hrow => ?_⟩
  · rw [Lookup.holds_exact]
    exact hequal
  · change (Json.int b :: values).any (Json.int a).equals = true ↔ _ ∨ values.any (Json.int a).equals = true
    rw [List.any_cons, Bool.or_eq_true, hequal]
  · exact Bool.and_eq_true_iff.trans (and_congr_left' (hcomparison .atLeast))
  · exact Bool.and_eq_true_iff.trans (and_congr_right' (hcomparison .atMost))
  · rw [Table.hasKey, hrow]
    exact hequal

end ComparedExactly

/-- Integers are compared exactly when rounding keeps them apart, and only then. -/
theorem comparedExactly_iff (a b : Int) : ComparedExactly a b ↔ Binary64.KeepsApart a b :=
  ⟨fun h hvalue => h.equal.1 ((Json.equals_int a b).2 hvalue), ComparedExactly.of_keepsApart⟩

/-- Rounding never turns the order of two integers around. -/
theorem compare?_ne_gt {a b : Int} (h : a ≤ b) : (Json.int a).compare? (Json.int b) ≠ some .gt := by
  rw [Json.compare?_int]
  intro hgt
  have hlt := Int.compare_eq_gt.1 (Option.some.inj hgt)
  exact Int.not_lt.2 (Binary64.ofInt_value_mono h) hlt

/-! ## Primary keys -/

/-- Whether a row holds an integer in a column. -/
def holdsInteger (column : String) (k : Int) (row : Row) : Bool := (row.get? column).bind Json.int? == some k

section Keys

variable {r : Registry} {s : Store} {m : Model} {column : String} {k : Int}

/-- The keys of a table are integers that rounding keeps apart from another one. -/
def KeysApart (column : String) (k : Int) (rows : List Row) : Prop :=
  ∀ row ∈ rows, ∃ n : Int, row.get? column = some (.int n) ∧ Binary64.KeepsApart n k

theorem hasKey_eq_holdsInteger {rows : List Row} (h : KeysApart column k rows) {row : Row} (hrow : row ∈ rows) :
    Table.hasKey column (.int k) row = holdsInteger column k row := by
  obtain ⟨n, hn, hapart⟩ := h row hrow
  rw [Bool.eq_iff_iff, (ComparedExactly.of_keepsApart hapart).key column row hn, holdsInteger, hn]
  exact (beq_iff_eq.trans (Option.some_inj)).symm

theorem position?_eq (h : KeysApart column k (s.rows m.name)) :
    (s.table m.name).position? column (.int k) = (s.rows m.name).findIdx? (holdsInteger column k) :=
  findIdx?_congr_of_mem fun _ hrow => hasKey_eq_holdsInteger h hrow

theorem get_eq (hm : r.model? m.name = some m) (hcolumn : m.keyColumn = .ok column) (h : KeysApart column k (s.rows m.name)) :
    QuerySet.get r s { model := m.name } (.int k) = match (s.rows m.name).filter (holdsInteger column k) with
      | [] => .error (.noRow m.name (.int k))
      | [row] => .ok row
      | _ => .error (.manyRows m.name (.int k)) := by
  rw [(QuerySet.isPlain_of m.name).get hm hcolumn, List.filter_congr fun row hrow => hasKey_eq_holdsInteger h hrow]
  rfl

/-- A row with an integer key is stored exactly when no stored row holds that integer. -/
theorem exists_insertRow_iff (hm : r.model? m.name = some m) (hcolumn : m.keyColumn = .ok column)
    (h : KeysApart column k (s.rows m.name)) {values : Row} (haccepts : m.accepts values = true)
    (hkey : m.newRecord values column = some (.int k)) :
    (∃ row s', s.insertRow r m.name values = .ok (row, s')) ↔ (s.rows m.name).any (holdsInteger column k) = false := by
  obtain ⟨columns, hcolumns⟩ := (m.toColumns_isOk_iff values).2 haccepts
  have hnew : keyIn column (m.complete columns) = .int k := by rw [keyIn_complete hcolumns, hkey, Option.getD_some]
  have hfree : (s.table m.name).position? column (.int k) = none ↔ (s.rows m.name).any (holdsInteger column k) = false := by
    rw [position?_eq h, List.findIdx?_eq_none_iff, List.any_eq_false]
    simp
  rw [← hfree]
  constructor
  · rintro ⟨row, s', hrow⟩
    obtain ⟨m', columns', column', hm', hcolumns', hcolumn', hcase⟩ := Store.insertRow_ok_iff.1 hrow
    obtain rfl : m = m' := Option.some.inj (hm.symm.trans hm')
    obtain rfl : columns = columns' := Except.ok.inj (hcolumns.symm.trans hcolumns')
    obtain rfl : column = column' := Except.ok.inj (hcolumn.symm.trans hcolumn')
    rw [hnew] at hcase
    rcases hcase with ⟨hnull, -⟩ | ⟨-, hposition, -⟩
    · cases hnull
    · exact hposition
  · intro hposition
    refine ⟨_, _, Store.insertRow_ok_iff.2 ⟨m, columns, column, hm, hcolumns, hcolumn, Or.inr ⟨?_, ?_, rfl, rfl⟩⟩⟩
    · rw [hnew]
      rfl
    · rw [hnew]
      exact hposition

end Keys

/-- Rounding decides whether two integers are told apart: lookups compare them exactly when it keeps them apart, as it does where one of
them is below `2 ^ 53` in magnitude and where two of 64 bits differ by `2 ^ 12` or more, and does not for `2 ^ 53` and the next. The order
is never turned around. Where rounding keeps a key apart from the stored integer keys, rows are found, read and refused by the integers. -/
theorem integers_compared_exactly_iff (a b : Int) :
    ((ComparedExactly a b ↔ Binary64.KeepsApart a b) ∧
      (a.natAbs < 2 ^ 53 ∨ b.natAbs < 2 ^ 53 → Binary64.KeepsApart a b) ∧
      (a.natAbs ≤ 2 ^ 64 → b.natAbs ≤ 2 ^ 64 → 2 ^ 12 ≤ (a - b).natAbs → Binary64.KeepsApart a b) ∧
      ¬Binary64.KeepsApart (2 ^ 53) (2 ^ 53 + 1) ∧
      (a ≤ b → (Json.int a).compare? (Json.int b) ≠ some .gt)) ∧
    ∀ (r : Registry) (s : Store) (m : Model) (column : String), r.model? m.name = some m → m.keyColumn = .ok column →
      KeysApart column b (s.rows m.name) →
      (s.table m.name).position? column (.int b) = (s.rows m.name).findIdx? (holdsInteger column b) ∧
      (QuerySet.get r s { model := m.name } (.int b) = match (s.rows m.name).filter (holdsInteger column b) with
        | [] => .error (.noRow m.name (.int b))
        | [row] => .ok row
        | _ => .error (.manyRows m.name (.int b))) ∧
      ∀ values : Row, m.accepts values = true → m.newRecord values column = some (.int b) →
        ((∃ row s', s.insertRow r m.name values = .ok (row, s')) ↔ (s.rows m.name).any (holdsInteger column b) = false) := by
  refine ⟨⟨comparedExactly_iff a b, Binary64.keepsApart_of_lt, Binary64.keepsApart_of_far, Binary64.not_keepsApart_exactLimit,
    compare?_ne_gt⟩, ?_⟩
  intro r s m column hm hcolumn hkeys
  exact ⟨position?_eq hkeys, get_eq hm hcolumn hkeys, fun values haccepts hkey => exists_insertRow_iff hm hcolumn hkeys haccepts hkey⟩

/-- A model whose rows bring an integer as their key. -/
def plots : Model where
  name := "Plot"
  fields := [.plain { name := "number", kind := .scalar .bigInteger, primaryKey := true }]

/-- A small number stays apart from one that is itself rounded. -/
theorem plots_told_apart :
    let r : Registry := { models := [plots] }
    let s := Store.afterCalls r [.create "Plot" (.of [("number", .int 5)])]
    r.model? plots.name = some plots ∧ plots.keyColumn = .ok "number" ∧ KeysApart "number" (2 ^ 53 + 1) (s.rows "Plot") ∧
      QuerySet.get r s { model := "Plot" } (.int (2 ^ 53 + 1)) = .error (.noRow "Plot" (.int (2 ^ 53 + 1))) ∧
      ∃ row s', s.insertRow r "Plot" (.of [("number", .int (2 ^ 53 + 1))]) = .ok (row, s') := by
  intro r s
  have hm : r.model? plots.name = some plots := rfl
  have hcolumn : plots.keyColumn = .ok "number" := rfl
  have hrows : s.rows plots.name = [.of [("number", .int 5)]] := rfl
  obtain ⟨⟨-, hsmall, -⟩, hkeys⟩ := integers_compared_exactly_iff 5 (2 ^ 53 + 1)
  have hapart : KeysApart "number" (2 ^ 53 + 1) (s.rows plots.name) := by
    rw [hrows]
    exact List.forall_mem_singleton.2 ⟨5, rfl, hsmall (Or.inl (by decide))⟩
  obtain ⟨-, hget, hinsert⟩ := hkeys r s plots "number" hm hcolumn hapart
  rw [hrows] at hget hinsert
  exact ⟨hm, hcolumn, hapart, hget, (hinsert (.of [("number", .int (2 ^ 53 + 1))]) rfl rfl).2 (by decide)⟩

end ModelCatalog
