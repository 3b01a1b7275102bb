import ModelCatalog.Proofs.Store.Writes

/-!
# Calls to a store and the stores they reach

`Call` is a call that may write, with any arguments; `Store.afterCalls` runs calls from the empty store, each on the store that the one
before has left, whether it succeeded or failed. `TableStep` says once what a successful call can do to the table of its model
(`Call.run_ok`), and every invariant of the stores so reached follows from it (`Store.table_afterCalls`). The first is `IsStored`: a row has
a value in each column of its model, and a primary key that is not null.
-/

namespace ModelCatalog

/-! ## Calls -/

/-- A call that may write to a store. -/
inductive Call where
  /-- Stores a row given as JSON that passes the validators. -/
  | insert (model : String) (values : Json)
  /-- Stores a row without asking the validators. -/
  | create (model : String) (values : Row)
  | update (model : String) (key : Json) (values : Row)
  | delete (model : String) (key : Json)

namespace Call

/-- The model whose table the call is about. -/
def model : Call → String
  | insert model _ | create model _ | update model _ _ | delete model _ => model

/-- The write that the call makes. -/
def write (r : Registry) : Call → Write Unit
  | insert model values => discard (Write.insertJson r model values)
  | create model values => discard (Write.insertRow r model values)
  | update model key values => discard (Write.updateRow r model key values)
  | delete model key => Write.deleteRow r model key

/-- The store that the call gives, or why it fails. -/
def run (r : Registry) (s : Store) (c : Call) : Outcome Store := ((c.write r).result s).map Prod.snd

/-- The store after the call, whether it succeeds or fails. -/
def after (r : Registry) (s : Store) (c : Call) : Store := ((c.write r).on s).2

/-- A call that fails leaves the store as it was. -/
theorem isAtomic_write (r : Registry) (c : Call) : (c.write r).IsAtomic := by
  cases c with
  | insert model values => exact (Write.isAtomic_insertJson r model values).discard
  | create model values => exact (Write.isAtomic_insertRow r model values).discard
  | update model key values => exact (Write.isAtomic_updateRow r model key values).discard
  | delete model key => exact Write.isAtomic_deleteRow r model key

variable {r : Registry} {s s' : Store} {c : Call}

theorem after_of_ok (h : c.run r s = .ok s') : c.after r s = s' := by
  obtain ⟨⟨_, after⟩, hwrite, rfl⟩ := Outcome.map_ok_iff.1 h
  rw [Call.after, (isAtomic_write r c).on_eq, hwrite]

theorem after_of_error {f : Failure} (h : c.run r s = .error f) : c.after r s = s := by
  rw [Call.after, (isAtomic_write r c).on_eq]
  unfold run at h
  cases hwrite : (c.write r).result s with
  | ok p =>
    rw [hwrite] at h
    cases h
  | error e => rfl

theorem run_eq_ok (h : (c.run r s).toOption.isSome = true) : c.run r s = .ok (c.after r s) := by
  obtain ⟨s', hrun⟩ := Outcome.isSome_toOption_iff.1 h
  rw [hrun, after_of_ok hrun]

theorem run_insert (model : String) (values : Json) : (insert model values).run r s = (s.insertJson r model values).map Prod.snd :=
  Write.result_discard _ _

theorem run_create (model : String) (values : Row) : (create model values).run r s = (s.insertRow r model values).map Prod.snd :=
  Write.result_discard _ _

theorem run_update (model : String) (key : Json) (values : Row) :
    (update model key values).run r s = (s.updateRow r model key values).map Prod.snd :=
  Write.result_discard _ _

end Call

/-- The store after calls one after another, from the empty store. -/
def Store.afterCalls (r : Registry) (calls : List Call) : Store := calls.foldl (Call.after r) []

theorem Store.afterCalls_append (r : Registry) (calls : List Call) (c : Call) :
    Store.afterCalls r (calls ++ [c]) = c.after r (Store.afterCalls r calls) := List.foldl_concat _ _ _ _

/-- A store that calls lead to. -/
def Store.IsReachable (r : Registry) (s : Store) : Prop := ∃ calls, s = Store.afterCalls r calls

/-! ## Steps of a table -/

/-- What a successful call can do to the table of its model, whose primary key is in `column`: the key it stores, if it stores one, and the
table after it. -/
inductive TableStep (m : Model) (column : String) (t : Table) : Option Json → Table → Prop where
  /-- A new row gets the next key. -/
  | assign (values columns : Row) (hcols : m.toColumns values = .ok columns)
      (hnull : (keyIn column (m.complete columns)).isNull = true) (hauto : m.assignsKeys = true) :
      TableStep m column t (some (.nat t.nextKey))
        { rows := t.rows ++ [(m.complete columns).insert column (.nat t.nextKey)], nextKey := (t.nextKey + 1) % Table.keyLimit }
  /-- A new row brings its key. -/
  | append (values columns : Row) (hcols : m.toColumns values = .ok columns)
      (hkey : (keyIn column (m.complete columns)).isNull = false)
      (hfree : t.position? column (keyIn column (m.complete columns)) = none) :
      TableStep m column t (some (keyIn column (m.complete columns)))
        { rows := t.rows ++ [m.complete columns], nextKey := t.nextAfter (keyIn column (m.complete columns)) }
  /-- A row is overwritten. -/
  | change (key : Json) (values changes : Row) (place : Nat) (hcols : m.toColumns values = .ok changes)
      (hplace : t.position? column key = some place) (hcheck : Store.checkNewKey t column place changes = .ok ()) :
      TableStep m column t (changes.get? column)
        { t with rows := t.rows.set place (((t.rows[place]?).getD .empty).extend changes) }
  /-- A row is removed. -/
  | remove (key : Json) (place : Nat) (hplace : t.position? column key = some place) :
      TableStep m column t none { t with rows := t.rows.eraseIdx place }

namespace Call

/-- The key that a call stores when it succeeds: for a new row that of its values, or the next key when they have none. -/
def storedKey? (m : Model) (column : String) (nextKey : Nat) : Call → Option Json
  | insert _ (.object values) | create _ values =>
    let key := (m.newRecord values column).getD .null
    some (if key.isNull then .nat nextKey else key)
  | update _ _ values => m.given values column
  | insert _ _ | delete _ _ => none

end Call

theorem Store.insertRow_step {r : Registry} {s s' : Store} {model : String} {values row : Row}
    (h : s.insertRow r model values = .ok (row, s')) :
    ∃ m column t, r.model? model = some m ∧ m.keyColumn = .ok column ∧
      TableStep m column (s.table model) ((Call.create model values).storedKey? m column (s.table model).nextKey) t ∧
      s' = s.insert model t := by
  obtain ⟨m, columns, column, hm, hcols, hcolumn, h⟩ := Store.insertRow_ok_iff.1 h
  rcases h with ⟨hnull, hauto, rfl, rfl⟩ | ⟨hnull, hfree, rfl, rfl⟩
  · refine ⟨m, column, _, hm, hcolumn, ?_, rfl⟩
    simp only [Call.storedKey?, ← keyIn_complete hcols, hnull, if_true]
    exact .assign values columns hcols hnull hauto
  · refine ⟨m, column, _, hm, hcolumn, ?_, rfl⟩
    simp only [Call.storedKey?, ← keyIn_complete hcols, hnull, Bool.false_eq_true, if_false]
    exact .append values columns hcols hnull hfree

/-- A successful call is a step of the table of its model, and every other table stays. -/
theorem Call.run_ok {r : Registry} {s s' : Store} {c : Call} (h : c.run r s = .ok s') :
    ∃ m column t, r.model? c.model = some m ∧ m.keyColumn = .ok column ∧
      TableStep m column (s.table c.model) (c.storedKey? m column (s.table c.model).nextKey) t ∧ s' = s.insert c.model t := by
  cases c with
  | insert model values =>
    rw [run_insert] at h
    obtain ⟨⟨row, s'⟩, hrun, rfl⟩ := Outcome.map_ok_iff.1 h
    obtain ⟨submitted, rfl, -, hrow⟩ := Store.insertJson_ok_iff.1 hrun
    exact Store.insertRow_step hrow
  | create model values =>
    rw [run_create] at h
    obtain ⟨⟨row, s'⟩, hrun, rfl⟩ := Outcome.map_ok_iff.1 h
    exact Store.insertRow_step hrun
  | update model key values =>
    rw [run_update] at h
    obtain ⟨⟨row, s'⟩, hrun, rfl⟩ := Outcome.map_ok_iff.1 h
    obtain ⟨m, changes, column, place, hm, hcols, hcolumn, hplace, hcheck, rfl, rfl⟩ := Store.updateRow_ok_iff.1 hrun
    refine ⟨m, column, _, hm, hcolumn, ?_, rfl⟩
    rw [storedKey?, ← Model.get?_toColumns hcols]
    exact .change key values changes place hcols hplace hcheck
  | delete model key =>
    obtain ⟨m, column, place, hm, hcolumn, hplace, rfl⟩ := Store.deleteRow_ok_iff.1 h
    exact ⟨m, column, _, hm, hcolumn, .remove key place hplace, rfl⟩

/-- A successful call on a model is a step of its table. -/
theorem Call.table_step {r : Registry} {s s' : Store} {c : Call} {m : Model} {column : String} (hm : r.model? m.name = some m)
    (hcolumn : m.keyColumn = .ok column) (hc : c.model = m.name) (hrun : c.run r s = .ok s') :
    TableStep m column (s.table m.name) (c.storedKey? m column (s.table m.name).nextKey) (s'.table m.name) := by
  obtain ⟨m', column', t, hm', hcolumn', hstep, rfl⟩ := Call.run_ok hrun
  rw [hc] at hm' hstep ⊢
  obtain ⟨rfl, rfl⟩ := Registry.model?_keyColumn_unique hm hcolumn hm' hcolumn'
  rw [Store.table_insert, if_pos rfl]
  exact hstep

/-- A call leaves the tables of other models as they are. -/
theorem Call.table_after_of_ne {r : Registry} {s : Store} {c : Call} {name : String} (hc : c.model ≠ name) :
    (c.after r s).table name = s.table name := by
  cases hrun : c.run r s with
  | ok s' =>
    obtain ⟨m, column, t, -, -, -, rfl⟩ := Call.run_ok hrun
    rw [Call.after_of_ok hrun, Store.table_insert, if_neg hc]
  | error f => rw [Call.after_of_error hrun]

/-- A call from a reachable store leads to a reachable store. -/
theorem Store.IsReachable.run {r : Registry} {s s' : Store} (hs : s.IsReachable r) {c : Call} (h : c.run r s = .ok s') :
    s'.IsReachable r := by
  obtain ⟨calls, rfl⟩ := hs
  refine ⟨calls ++ [c], ?_⟩
  rw [Store.afterCalls_append, Call.after_of_ok h]

/-- A new row comes behind those there are. -/
theorem Store.rows_insertRow {r : Registry} {s s' : Store} {model : String} {values row : Row}
    (h : s.insertRow r model values = .ok (row, s')) : s'.rows model = s.rows model ++ [row] := by
  obtain ⟨m, columns, column, -, -, -, h⟩ := Store.insertRow_ok_iff.1 h
  rcases h with ⟨-, -, rfl, rfl⟩ | ⟨-, -, rfl, rfl⟩
  · rw [Store.rows, Store.table_insert, if_pos rfl]
  · rw [Store.rows, Store.table_insert, if_pos rfl]

/-- A new row is in the store after. -/
theorem Store.insertRow_mem {r : Registry} {s s' : Store} {model : String} {values row : Row}
    (h : s.insertRow r model values = .ok (row, s')) : row ∈ s'.rows model := by
  rw [Store.rows_insertRow h]
  exact List.mem_append_right _ (List.mem_singleton_self _)

/-- A new row holds in each column what was given for it, or what its field is when empty; an assigned key takes the place of null. -/
theorem Store.get?_insertRow {r : Registry} {s s' : Store} {m : Model} (hm : r.model? m.name = some m) (hsound : m.IsSound)
    {values row : Row} (h : s.insertRow r m.name values = .ok (row, s')) {f : Field} (hf : f ∈ m.fields) {c : String}
    (hc : f.column? = some c) :
    row.get? c = some (m.keyed (s.table m.name).nextKey f ((m.given values c).getD (Model.emptyValue f))) := by
  obtain ⟨m', columns, column, hm', hcols, hcolumn, h⟩ := Store.insertRow_ok_iff.1 h
  obtain rfl := Option.some.inj (hm.symm.trans hm')
  have hvalue := hsound.newRecord_eq hf hc values
  have hkey := hsound.isPrimaryKey_iff hf hc hcolumn
  rw [Model.keyed]
  rw [keyIn_complete hcols] at h
  by_cases hname : c = column
  · subst hname
    rw [hvalue, Option.getD_some] at h
    rw [hkey.2 rfl, Bool.and_true]
    rcases h with ⟨hnull, hauto, rfl, -⟩ | ⟨hnull, -, rfl, -⟩
    · rw [hauto, hnull, Dict.get?_insert_self]
      rfl
    · rw [hnull, Bool.and_false, Model.get?_newRow hcols]
      exact hvalue
  · rw [Bool.eq_false_iff.2 (mt hkey.1 hname), Bool.and_false, Bool.false_and]
    rcases h with ⟨-, -, rfl, -⟩ | ⟨-, -, rfl, -⟩
    · rw [Dict.get?_insert, if_neg (Ne.symm hname), Model.get?_newRow hcols]
      exact hvalue
    · rw [Model.get?_newRow hcols]
      exact hvalue

/-- A changed row is in the store after. -/
theorem Store.updateRow_mem {r : Registry} {s s' : Store} {model : String} {key : Json} {values row : Row}
    (h : s.updateRow r model key values = .ok (row, s')) : row ∈ s'.rows model := by
  obtain ⟨m, changes, column, place, -, -, -, hplace, -, rfl, rfl⟩ := Store.updateRow_ok_iff.1 h
  obtain ⟨hlt, -, -⟩ := List.findIdx?_eq_some_iff_getElem.1 hplace
  rw [Store.rows, Store.table_insert, if_pos rfl]
  exact List.mem_set hlt _

/-! ## Invariants of tables -/

namespace Store

/-- What holds of empty tables and is kept by every step of a model's table holds of all tables of the stores that calls reach. -/
theorem table_afterCalls {r : Registry} (P : Model → String → Table → Prop)
    (start : ∀ m column, m.keyColumn = .ok column → P m column {})
    (step : ∀ m column t key? t', r.model? m.name = some m → m.keyColumn = .ok column → P m column t →
      TableStep m column t key? t' → P m column t')
    (calls : List Call) {column : String} {m : Model} (hm : r.model? m.name = some m) (hcolumn : m.keyColumn = .ok column) :
    P m column ((afterCalls r calls).table m.name) := by
  have key : ∀ s : Store, P m column (s.table m.name) → P m column (Store.table (calls.foldl (Call.after r) s) m.name) := by
    induction calls with
    | nil => exact fun s h => h
    | cons c calls ih =>
      intro s h
      refine ih _ ?_
      by_cases hname : c.model = m.name
      · cases hrun : c.run r s with
        | ok s' =>
          rw [Call.after_of_ok hrun]
          exact step m column _ _ _ hm hcolumn h (Call.table_step hm hcolumn hname hrun)
        | error f =>
          rw [Call.after_of_error hrun]
          exact h
      · rw [Call.table_after_of_ne hname]
        exact h
  exact key [] (start m column hcolumn)

end Store

/-- What a stored row of a model is: it has a value in each column and a primary key that is not null. -/
structure IsStored (m : Model) (column : String) (row : Row) : Prop where
  complete : ∀ f ∈ m.fields, ∀ c, f.column? = some c → (row.get? c).isSome = true
  key : (keyIn column row).isNull = false

namespace IsStored

variable {m : Model} {column : String} {row : Row}

theorem get?_key (h : IsStored m column row) : row.get? column = some (keyIn column row) := by
  have hkey := h.key
  unfold keyIn at *
  cases hrow : row.get? column with
  | none =>
    rw [hrow] at hkey
    cases hkey
  | some v => rfl

end IsStored

/-- A completed row has a value in each column. -/
theorem Model.complete_isSome {m : Model} {f : Field} {c : String} (hf : f ∈ m.fields) (hc : f.column? = some c) (row : Row) :
    ((m.complete row).get? c).isSome = true := by
  rw [Model.get?_complete, Option.isSome_or, Bool.or_eq_true, Option.isSome_map, List.find?_isSome]
  exact Or.inr ⟨f, hf, by simp [hc]⟩

/-- Every row a step leaves in the table is a stored row, when those before were. -/
theorem TableStep.isStored {m : Model} {column : String} {t t' : Table} {key? : Option Json} (h : TableStep m column t key? t')
    (ht : ∀ row ∈ t.rows, IsStored m column row) : ∀ row ∈ t'.rows, IsStored m column row := by
  cases h with
  | assign values columns hcols hnull hauto =>
    intro row hrow
    rcases List.mem_append.1 hrow with hrow | hrow
    · exact ht row hrow
    · rw [List.mem_singleton] at hrow
      subst hrow
      refine ⟨fun f hf c hc => ?_, ?_⟩
      · rw [Dict.get?_insert]
        split
        · rfl
        · exact Model.complete_isSome hf hc columns
      · rw [keyIn, Dict.get?_insert_self]
        rfl
  | append values columns hcols hkey hfree =>
    intro row hrow
    rcases List.mem_append.1 hrow with hrow | hrow
    · exact ht row hrow
    · rw [List.mem_singleton] at hrow
      subst hrow
      exact ⟨fun f hf c hc => Model.complete_isSome hf hc columns, hkey⟩
  | change key values changes place hcols hplace hcheck =>
    intro row hrow
    rcases List.mem_or_eq_of_mem_set hrow with hrow | rfl
    · exact ht row hrow
    · obtain ⟨hlt, -, -⟩ := List.findIdx?_eq_some_iff_getElem.1 hplace
      have hold := ht _ (List.getElem_mem hlt)
      rw [List.getElem?_eq_getElem hlt, Option.getD_some]
      refine ⟨fun f hf c hc => ?_, ?_⟩
      · rw [Dict.get?_extend_entries, Option.isSome_or, hold.complete f hf c hc, Bool.or_true]
      · rw [keyIn, Dict.get?_extend_entries]
        cases hnew : changes.get? column with
        | none =>
          rw [Option.none_or]
          exact hold.key
        | some k => exact (Store.checkNewKey_ok_iff.1 hcheck k hnew).1
  | remove key place hplace =>
    intro row hrow
    exact ht row (List.mem_of_mem_eraseIdx hrow)

/-- The rows of every store that calls reach are stored rows of their models. -/
theorem Store.isStored {r : Registry} {s : Store} (hs : s.IsReachable r) {column : String} {m : Model}
    (hm : r.model? m.name = some m) (hcolumn : m.keyColumn = .ok column) : ∀ row ∈ s.rows m.name, IsStored m column row := by
  obtain ⟨calls, rfl⟩ := hs
  exact table_afterCalls (fun m column t => ∀ row ∈ t.rows, IsStored m column row) (fun _ _ _ => by simp)
    (fun _ _ _ _ _ _ _ ht hstep => hstep.isStored ht) calls hm hcolumn

/-! ## Columns of stored rows -/

/-- Whether a row holds values in columns of a model only. -/
def Model.HoldsColumns (m : Model) (row : Row) : Prop := ∀ c, (row.get? c).isSome = true → ∃ f ∈ m.fields, f.column? = some c

namespace Model.HoldsColumns

variable {m : Model} {row columns : Row}

/-- Submitted values are brought to columns of the model. -/
theorem of_toColumns {values : Row} (h : m.toColumns values = .ok columns) : m.HoldsColumns columns := by
  intro c hc
  obtain ⟨v, hv⟩ := Option.isSome_iff_exists.1 hc
  rw [Model.get?_toColumns h] at hv
  exact exists_column_of_given hv

theorem complete (h : m.HoldsColumns row) : m.HoldsColumns (m.complete row) := by
  intro c hc
  rw [Model.get?_complete, Option.isSome_or, Bool.or_eq_true] at hc
  rcases hc with hc | hc
  · exact h c hc
  · rw [Option.isSome_map, List.find?_isSome] at hc
    simpa using hc

theorem insert (h : m.HoldsColumns row) {column : String} (hcolumn : ∃ f ∈ m.fields, f.column? = some column) (v : Json) :
    m.HoldsColumns (row.insert column v) := by
  intro c hc
  rw [Dict.get?_insert] at hc
  split at hc
  · rename_i heq
    exact heq ▸ hcolumn
  · exact h c hc

theorem extend (h : m.HoldsColumns row) (hcolumns : m.HoldsColumns columns) : m.HoldsColumns (row.extend columns) := by
  intro c hc
  rw [Dict.get?_extend_entries, Option.isSome_or, Bool.or_eq_true] at hc
  rcases hc with hc | hc
  · exact hcolumns c hc
  · exact h c hc

end Model.HoldsColumns

/-- The primary key column is one of the model's. -/
theorem Model.exists_field_of_keyColumn {m : Model} {column : String} (h : m.keyColumn = .ok column) :
    ∃ f ∈ m.fields, f.column? = some column := by
  unfold Model.keyColumn at h
  split at h
  · rename_i c hc
    cases h
    obtain ⟨f, hf, hfc⟩ := Option.bind_eq_some_iff.1 hc
    exact ⟨f, List.mem_of_find?_eq_some hf, hfc⟩
  · cases h

/-- Every row a step leaves in the table holds columns only, when those before did. -/
theorem TableStep.holdsColumns {m : Model} {column : String} (hcolumn : m.keyColumn = .ok column) {t t' : Table} {key? : Option Json}
    (h : TableStep m column t key? t') (ht : ∀ row ∈ t.rows, m.HoldsColumns row) : ∀ row ∈ t'.rows, m.HoldsColumns row := by
  intro row hrow
  cases h with
  | assign values columns hcols hnull hauto =>
    rcases List.mem_append.1 hrow with hrow | hrow
    · exact ht row hrow
    · rw [List.mem_singleton.1 hrow]
      exact (Model.HoldsColumns.of_toColumns hcols).complete.insert (Model.exists_field_of_keyColumn hcolumn) _
  | append values columns hcols hkey hfree =>
    rcases List.mem_append.1 hrow with hrow | hrow
    · exact ht row hrow
    · rw [List.mem_singleton.1 hrow]
      exact (Model.HoldsColumns.of_toColumns hcols).complete
  | change key values changes place hcols hplace hcheck =>
    rcases List.mem_or_eq_of_mem_set hrow with hrow | rfl
    · exact ht row hrow
    · obtain ⟨hlt, -, -⟩ := List.findIdx?_eq_some_iff_getElem.1 hplace
      rw [List.getElem?_eq_getElem hlt, Option.getD_some]
      exact (ht _ (List.getElem_mem hlt)).extend (Model.HoldsColumns.of_toColumns hcols)
  | remove key place hplace => exact ht row (List.mem_of_mem_eraseIdx hrow)

/-- The rows of every store that calls reach hold columns of their model only. -/
theorem Store.holdsColumns {r : Registry} {s : Store} (hs : s.IsReachable r) {column : String} {m : Model}
    (hm : r.model? m.name = some m) (hcolumn : m.keyColumn = .ok column) : ∀ row ∈ s.rows m.name, m.HoldsColumns row := by
  obtain ⟨calls, rfl⟩ := hs
  exact table_afterCalls (fun m _ t => ∀ row ∈ t.rows, m.HoldsColumns row) (fun _ _ _ => by simp)
    (fun _ _ _ _ _ _ hcolumn ht hstep => hstep.holdsColumns hcolumn ht) calls hm hcolumn

/-- A stored row holds nothing under the name of a field that is not the field's column. -/
theorem Store.get?_eq_none {r : Registry} {s : Store} (hs : s.IsReachable r) {column : String} {m : Model}
    (hm : r.model? m.name = some m) (hcolumn : m.keyColumn = .ok column) (hsound : m.IsSound) {f : Field} (hf : f ∈ m.fields)
    {name : String} (hname : f.answersTo name = true) (hother : f.column? ≠ some name) {row : Row} (hrow : row ∈ s.rows m.name) :
    row.get? name = none := by
  by_contra hsome
  obtain ⟨g, hg, hgc⟩ := Store.holdsColumns hs hm hcolumn row hrow name (Option.isSome_iff_ne_none.2 hsome)
  have hsame : g = f := Model.eq_of_names_nodup hsound.names_nodup hg hf (Field.answersTo_column hgc) hname
  exact hother (hsame ▸ hgc)

end ModelCatalog
