import ModelCatalog.Proofs.Json.Dict
import ModelCatalog.Proofs.Json.Equality
import ModelCatalog.Proofs.Schema.Built
import ModelCatalog.Store.Basic

/-!
# What a write stores

Submitted values come under names of fields; a table holds them by column. `Model.given` says what a submission gives for a column,
`Model.accepts` whether it can be stored at all; `toColumns` computes both. `Model.newRecord` is what a new row holds then.
-/

namespace ModelCatalog

/-! ## Submitted values -/

/-- The name of a reference comes before that of its column. -/
theorem Reference.name_lt_column (ref : Reference) : ref.name < ref.column := by
  rw [String.lt_iff_toList_lt, Reference.column, String.toList_append]
  have h := List.Lex.append_left (· < ·) (List.Lex.nil (a := '_') (l := ['i', 'd'])) ref.name.toList
  rw [List.append_nil] at h
  exact h

namespace Model

/-- What submitted values give for a column: the last one submitted under a name of its field. -/
def given (m : Model) (values : Entries Json) (column : String) : Option Json :=
  (values.reverse.find? fun e => m.column? e.1 = some column).map Prod.snd

/-- Whether each submitted value is for a field that is stored and takes it. -/
def accepts (m : Model) (values : Entries Json) : Bool :=
  values.all fun e => (m.fieldAnsweringTo? e.1).any fun f => f.column?.isSome && takes f e.2

/-- What a new row of submitted values holds: in each column of the model what was given for it, else what the column holds when empty. -/
def newRecord (m : Model) (values : Row) (column : String) : Option Json :=
  (m.fields.find? fun f => f.column? = some column).map fun f => (m.given values column).getD (emptyValue f)

/-- The step of `toColumns` for one submitted value. -/
def putColumn (m : Model) (row : Row) (entry : String × Json) : Outcome Row :=
  match m.columnFor? entry.1 entry.2 with
  | some column => .ok (row.insert column entry.2)
  | none => .error (.onField entry.1 ("'" ++ m.name ++ "' has no writable field with this name.") "invalid")

theorem toColumns_eq (m : Model) (values : Row) : m.toColumns values = values.entries.foldlM m.putColumn .empty := rfl

/-- A value has a column that takes it exactly when its field is stored and takes it, and then it is the column of its name. -/
theorem columnFor?_eq (m : Model) (name : String) (value : Json) :
    m.columnFor? name value = if (m.fieldAnsweringTo? name).any fun f => takes f value then m.column? name else none := by
  unfold columnFor? column?
  cases m.fieldAnsweringTo? name <;> rfl

/-- A later value for the same column wins. -/
theorem given_cons (m : Model) (e : String × Json) (values : Entries Json) (column : String) :
    m.given (e :: values) column = (m.given values column).or (if m.column? e.1 = some column then some e.2 else none) := by
  rw [given, given, List.reverse_cons, List.find?_append, Option.map_or]
  by_cases h : m.column? e.1 = some column <;> simp [h]

theorem accepts_cons (m : Model) (e : String × Json) (values : Entries Json) :
    m.accepts (e :: values) = ((m.columnFor? e.1 e.2).isSome && m.accepts values) := by
  rw [accepts, List.all_cons, columnFor?_eq, accepts]
  unfold column?
  congr 1
  cases m.fieldAnsweringTo? e.1 with
  | none => rfl
  | some f => by_cases h : takes f e.2 = true <;> simp [h]

/-- Writing submitted values over a row succeeds exactly when all are accepted; the row then holds what was given, over what it held. -/
theorem foldlM_putColumn (m : Model) (values : Entries Json) (row : Row) :
    (m.accepts values = true ∧ ∃ columns, values.foldlM m.putColumn row = .ok columns ∧
      ∀ c, columns.get? c = (m.given values c).or (row.get? c)) ∨
    (m.accepts values = false ∧ ∃ e, values.foldlM m.putColumn row = .error e) := by
  induction values generalizing row with
  | nil => exact Or.inl ⟨rfl, row, rfl, fun c => rfl⟩
  | cons e values ih =>
    rw [accepts_cons, List.foldlM_cons]
    cases hcol : m.columnFor? e.1 e.2 with
    | none =>
      refine Or.inr ⟨rfl, ?_⟩
      rw [putColumn, hcol]
      exact ⟨_, rfl⟩
    | some column =>
      have hput : m.putColumn row e = .ok (row.insert column e.2) := by rw [putColumn, hcol]
      have hname : m.column? e.1 = some column := by
        rw [columnFor?_eq] at hcol
        split at hcol
        · exact hcol
        · cases hcol
      rw [hput]
      rcases ih (row.insert column e.2) with ⟨hacc, columns, hrun, hget⟩ | ⟨hacc, err, hrun⟩
      · refine Or.inl ⟨by simp [hacc], columns, hrun, ?_⟩
        intro c
        rw [hget, given_cons, Dict.get?_insert, hname, Option.or_assoc]
        by_cases hc : column = c <;> simp [hc]
      · exact Or.inr ⟨by simp [hacc], err, hrun⟩

/-- Submitted values have columns exactly when the model accepts them. -/
theorem toColumns_isOk_iff (m : Model) (values : Row) : (∃ columns, m.toColumns values = .ok columns) ↔ m.accepts values = true := by
  rw [toColumns_eq]
  rcases m.foldlM_putColumn values .empty with ⟨hacc, columns, hrun, -⟩ | ⟨hacc, e, hrun⟩
  · exact ⟨fun _ => hacc, fun _ => ⟨columns, hrun⟩⟩
  · rw [hrun, hacc]
    exact ⟨nofun, nofun⟩

/-- The columns of submitted values hold what is given for them. -/
theorem get?_toColumns {m : Model} {values columns : Row} (h : m.toColumns values = .ok columns) (c : String) :
    columns.get? c = m.given values c := by
  rw [toColumns_eq] at h
  rcases m.foldlM_putColumn values .empty with ⟨-, columns', hrun, hget⟩ | ⟨-, e, hrun⟩
  · rw [hrun] at h
    cases h
    rw [hget, Dict.get?_empty, Option.or_none]
  · rw [hrun] at h
    cases h

/-- Values that come by column are their own columns. -/
theorem toColumns_of_column {m : Model} {values columns : Row}
    (hcolumn : ∀ e ∈ values, ∀ column, m.column? e.1 = some column → column = e.1) (h : m.toColumns values = .ok columns) :
    columns = values := by
  have hput : ∀ (entries : Entries Json) (row columns : Row), entries ⊆ values.entries →
      entries.foldlM m.putColumn row = .ok columns → columns = row.extend entries := by
    intro entries
    induction entries with
    | nil => exact fun row columns _ h => (Outcome.pure_ok_iff.1 h).symm
    | cons e entries ih =>
      intro row columns hsubset h
      obtain ⟨he, hrest⟩ := List.cons_subset.1 hsubset
      rw [List.foldlM_cons] at h
      obtain ⟨next, hnext, h⟩ := Outcome.bind_ok_iff.1 h
      unfold putColumn at hnext
      split at hnext
      · rename_i column hfor
        rw [columnFor?_eq] at hfor
        split at hfor
        · cases hnext
          rw [Dict.extend_cons, ← hcolumn e he column hfor]
          exact ih _ _ hrest h
        · cases hfor
      · cases hnext
  exact (hput values .empty columns (List.Subset.refl _) h).trans values.of_entries

/-- The column of a name is a name of the same column. -/
theorem IsSound.column?_column {m : Model} (h : m.IsSound) {name column : String} (hcolumn : m.column? name = some column) :
    m.column? column = some column := by
  obtain ⟨f, hf, hfc⟩ := Option.bind_eq_some_iff.1 hcolumn
  have hmem := (h.fieldAnsweringTo?_eq_some_iff.1 hf).1
  exact Option.bind_eq_some_iff.2 ⟨f, h.fieldAnsweringTo?_eq_some_iff.2 ⟨hmem, Field.answersTo_column hfc⟩, hfc⟩

/-- The names of a reference are those of its column. -/
theorem IsSound.column?_eq_reference_iff {m : Model} (h : m.IsSound) {ref : Reference} (href : Field.reference ref ∈ m.fields)
    {name : String} : m.column? name = some ref.column ↔ name = ref.name ∨ name = ref.column := by
  rw [← List.mem_pair]
  constructor
  · intro hname
    obtain ⟨f, hf, hfc⟩ := Option.bind_eq_some_iff.1 hname
    obtain ⟨hmem, hanswers⟩ := h.fieldAnsweringTo?_eq_some_iff.1 hf
    obtain rfl := h.eq_of_column hmem href hfc rfl
    exact ((Field.reference ref).answersTo_iff name).1 hanswers
  · intro hname
    exact Option.bind_eq_some_iff.2 ⟨.reference ref, h.fieldAnsweringTo?_of_mem href hname, rfl⟩

/-- What is given for the column of a reference: the value under the column's name, or else the one under the reference's own. -/
theorem IsSound.given_reference {m : Model} (h : m.IsSound) {ref : Reference} (href : Field.reference ref ∈ m.fields)
    (values : Row) : m.given values ref.column = (values.get? ref.column).or (values.get? ref.name) := by
  obtain ⟨entries, hsorted⟩ := values
  simp only [Dict.get?]
  induction entries with
  | nil => rfl
  | cons e entries ih =>
    obtain ⟨hlater, hsorted⟩ := List.pairwise_cons.1 hsorted
    rw [given_cons, ih hsorted, Entries.get?_cons, Entries.get?_cons]
    -- the name of the column comes after the reference's own, so a value under it is the later one
    by_cases hname : e.1 = ref.name
    · have hnone : Entries.get? entries ref.name = none := Entries.get?_eq_none_of_lt (hname ▸ hlater)
      rw [if_pos ((h.column?_eq_reference_iff href).2 (Or.inl hname)), if_pos hname,
        if_neg (hname ▸ ref.name_lt_column.ne), hnone, Option.or_none]
    · rw [if_neg hname]
      by_cases hcolumn : e.1 = ref.column
      · have hnone : Entries.get? entries ref.column = none := Entries.get?_eq_none_of_lt (hcolumn ▸ hlater)
        have hnone' : Entries.get? entries ref.name = none :=
          Entries.get?_eq_none_of_lt fun e' he' => lt_trans ref.name_lt_column (hcolumn ▸ hlater e' he')
        rw [if_pos ((h.column?_eq_reference_iff href).2 (Or.inr hcolumn)), if_pos hcolumn, hnone, hnone']
        rfl
      · have hother : m.column? e.1 ≠ some ref.column := fun heq =>
          ((h.column?_eq_reference_iff href).1 heq).elim hname hcolumn
        rw [if_neg hother, if_neg hcolumn, Option.or_none]

/-! ## Complete rows -/

/-- The step of `complete` for one field. -/
def fill (row : Row) (f : Field) : Row :=
  match f.column? with
  | some column => if row.contains column then row else row.insert column (emptyValue f)
  | none => row

theorem complete_eq (m : Model) (row : Row) : m.complete row = m.fields.foldl fill row := rfl

/-- Filling in a field changes nothing but its column, and that only when it holds nothing. -/
theorem get?_fill (row : Row) (f : Field) (c : String) :
    (fill row f).get? c = (row.get? c).or (if f.column? = some c then some (emptyValue f) else none) := by
  unfold fill
  cases hf : f.column? with
  | none => simp
  | some column =>
    by_cases hc : column = c
    · subst hc
      cases hrow : row.get? column <;> simp [Dict.contains, hrow]
    · simp only
      split
      · simp [hc]
      · rw [Dict.get?_insert, if_neg hc]
        simp [hc]

/-- A complete row holds what it held, and in every other column of the model what the column holds when empty. -/
theorem get?_complete (m : Model) (row : Row) (c : String) :
    (m.complete row).get? c = (row.get? c).or ((m.fields.find? fun f => f.column? = some c).map emptyValue) := by
  rw [complete_eq]
  induction m.fields generalizing row with
  | nil => simp
  | cons f fields ih =>
    rw [List.foldl_cons, ih, get?_fill, Option.or_assoc, List.find?_cons]
    by_cases h : f.column? = some c <;> simp [h]

/-- A value can be given only for a column of the model. -/
theorem exists_column_of_given {m : Model} {values : Row} {c : String} {v : Json} (h : m.given values c = some v) :
    ∃ f ∈ m.fields, f.column? = some c := by
  obtain ⟨e, he, -⟩ := Option.map_eq_some_iff.1 h
  have hcol := List.find?_some he
  obtain ⟨f, hf, hfc⟩ := Option.bind_eq_some_iff.1 (of_decide_eq_true hcol)
  exact ⟨f, List.mem_of_find?_eq_some hf, hfc⟩

/-- A new row, completed from its submitted values. -/
theorem get?_newRow {m : Model} {values columns : Row} (h : m.toColumns values = .ok columns) :
    (m.complete columns).get? = m.newRecord values := by
  funext c
  rw [get?_complete, get?_toColumns h, newRecord]
  cases hg : m.given values c with
  | none => simp
  | some v =>
    obtain ⟨f, hf, hfc⟩ := exists_column_of_given hg
    cases hfind : m.fields.find? fun f => f.column? = some c with
    | none => exact absurd (List.find?_eq_none.1 hfind f hf) (by simp [hfc])
    | some g => rfl

/-- A new row holds in a column what was given for it, else what the column's field is when empty. -/
theorem IsSound.newRecord_eq {m : Model} (h : m.IsSound) {f : Field} (hf : f ∈ m.fields) {c : String} (hc : f.column? = some c)
    (values : Row) : m.newRecord values c = some ((m.given values c).getD (emptyValue f)) := by
  cases hfind : m.fields.find? fun f => f.column? = some c with
  | none => exact absurd (List.find?_eq_none.1 hfind f hf) (by simp [hc])
  | some g =>
    have hgc : g.column? = some c := by simpa using List.find?_some hfind
    rw [newRecord, hfind, h.eq_of_column hf (List.mem_of_find?_eq_some hfind) hc hgc]
    rfl

/-- A key that the store assigns is null until then in a row that does not bring it. -/
theorem IsSound.newRecord_key {m : Model} (h : m.IsSound) {column : String} (hcolumn : m.keyColumn = .ok column)
    (hauto : m.assignsKeys = true) {values : Row} (hgiven : m.given values column = none) :
    m.newRecord values column = some .null := by
  obtain ⟨f, hf, -, hkey, column', hfc, hcolumn'⟩ := h.keyColumn
  rw [hcolumn] at hcolumn'
  cases hcolumn'
  rw [h.newRecord_eq hf hfc, hgiven, Option.getD_none]
  cases f with
  | plain c => rfl
  | reference | inverse | links =>
    rw [assignsKeys, hkey] at hauto
    cases hauto

/-- What a new row holds in the column of a field for a value: a key that is null is the next one, where the store assigns keys. -/
def keyed (m : Model) (nextKey : Nat) (f : Field) (value : Json) : Json :=
  if m.assignsKeys && f.isPrimaryKey && value.isNull then .nat nextKey else value

/-- A reference takes every value as it is. -/
theorem IsSound.keyed_reference {m : Model} (h : m.IsSound) {ref : Reference} (href : Field.reference ref ∈ m.fields) (nextKey : Nat)
    (value : Json) : m.keyed nextKey (.reference ref) value = value := by
  refine if_neg fun hassigned => ?_
  rw [Bool.and_eq_true, Bool.and_eq_true] at hassigned
  obtain ⟨⟨hauto, hkey⟩, -⟩ := hassigned
  rw [assignsKeys, h.keyField?_eq_some href hkey] at hauto
  cases hauto

end Model

end ModelCatalog
