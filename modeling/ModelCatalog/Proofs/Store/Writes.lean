import ModelCatalog.Proofs.Store.Rows

/-!
# What a write does

A `Write` gives its outcome and the store afterwards. For each write one equivalence says when it succeeds and what the store is then
(`Store.insertRow_ok_iff` and its like). One that fails leaves the store as it was (`Write.IsAtomic`): a write may change the store in several
steps, but no step that can fail comes behind the first of them.
-/

namespace ModelCatalog

/-- The primary key of a row; null when it has none. -/
def keyIn (column : String) (row : Row) : Json := (row.get? column).getD .null

/-- The key of a new row is the one submitted for it, if there is one. -/
theorem keyIn_complete {m : Model} {values columns : Row} (h : m.toColumns values = .ok columns) (column : String) :
    keyIn column (m.complete columns) = (m.newRecord values column).getD .null := by
  rw [keyIn, Model.get?_newRow h]

/-- A row has a key exactly when its own, which is not null, is equal to it. -/
theorem hasKey_eq {column : String} {row : Row} (h : (keyIn column row).isNull = false) (key : Json) :
    Table.hasKey column key row = (keyIn column row).equals key := by
  unfold Table.hasKey keyIn at *
  cases hrow : row.get? column with
  | none =>
    rw [hrow] at h
    cases h
  | some v => rfl

/-- A row has its own key. -/
theorem hasKey_self {column : String} {row : Row} {key : Json} (h : keyIn column row = key) (hnull : key.isNull = false) :
    Table.hasKey column key row = true := by
  rw [hasKey_eq (h ▸ hnull), h]
  exact Json.equals_refl key

/-! ## Steps of a write -/

namespace Write

variable {α β : Type}

theorem on_lift (o : Outcome α) (s : Store) : (liftM o : Write α).on s = (o, s) := rfl

theorem on_bind (w : Write α) (next : α → Write β) (s : Store) :
    (w >>= next).on s =
      match w.on s with
      | (.ok value, after) => (next value).on after
      | (.error f, after) => (.error f, after) := by
  unfold on
  rw [ExceptT.run_bind, StateT.run_bind]
  generalize w.run.run s = p
  obtain ⟨outcome, after⟩ := p
  cases outcome <;> rfl

theorem on_discard (w : Write α) (s : Store) : (discard w : Write PUnit).on s = ((w.on s).1.map fun _ => ⟨⟩, (w.on s).2) := by
  have hbind : (discard w : Write PUnit).on s = (w >>= fun _ => pure ⟨⟩ : Write PUnit).on s := rfl
  rw [hbind, on_bind]
  generalize w.on s = p
  obtain ⟨outcome, after⟩ := p
  cases outcome <;> rfl

/-- The store behind a write does not depend on what is done with its value. -/
theorem result_discard (w : Write α) (s : Store) :
    ((discard w : Write PUnit).result s).map Prod.snd = (w.result s).map Prod.snd := by
  rw [result, on_discard, result]
  cases (w.on s).1 <;> rfl

/-- A step that does not touch the store. -/
theorem result_lift_bind (o : Outcome α) (next : α → Write β) (s : Store) :
    (liftM o >>= next : Write β).result s = o >>= fun value => (next value).result s := by
  rw [result, on_bind, on_lift]
  cases o <;> rfl

/-- A step that looks at the store. -/
theorem result_get_bind (next : Store → Write β) (s : Store) : (get >>= next : Write β).result s = (next s).result s := rfl

/-- A step that changes the store. -/
theorem result_changeTable_bind (model : String) (change : Table → Table) (next : Unit → Write β) (s : Store) :
    (changeTable model change >>= next).result s = (next ()).result (s.insert model (change (s.table model))) := rfl

end Write

/-! ## Writes that succeed -/

namespace Store

theorem table_insert (s : Store) (model : String) (t : Table) (name : String) :
    Store.table (s.insert model t) name = if model = name then t else s.table name := by
  rw [table, Dict.get?_insert]
  split <;> rfl

/-- A new row gets a key when it has none and the store assigns keys, or when its own is new. -/
theorem giveKey_ok_iff {m : Model} {t : Table} {column : String} {row keyed : Row} {next : Nat} :
    giveKey m column t row = .ok (keyed, next) ↔
      (keyIn column row).isNull = true ∧ m.assignsKeys = true ∧ keyed = row.insert column (.nat t.nextKey) ∧
          next = (t.nextKey + 1) % Table.keyLimit ∨
        (keyIn column row).isNull = false ∧ t.position? column (keyIn column row) = none ∧ keyed = row ∧
          next = t.nextAfter (keyIn column row) := by
  unfold giveKey keyIn
  dsimp only
  constructor
  · intro h
    split at h
    · rename_i hnull
      split at h
      · rename_i hauto
        cases h
        exact Or.inl ⟨hnull, hauto, rfl, rfl⟩
      · cases h
    · rename_i hnull
      split at h
      · cases h
      · rename_i hfree
        cases h
        exact Or.inr ⟨Bool.not_eq_true _ ▸ hnull, Option.not_isSome_iff_eq_none.1 hfree, rfl, rfl⟩
  · rintro (⟨hnull, hauto, rfl, rfl⟩ | ⟨hnull, hfree, rfl, rfl⟩)
    · rw [if_pos hnull, if_pos hauto]
    · rw [if_neg (by rw [hnull]; exact Bool.false_ne_true), if_neg (by rw [hfree]; exact Bool.false_ne_true)]

/-- The counter moves on, and then the row comes behind the others. -/
theorem result_append (s : Store) (model : String) (row : Row) (next : Nat) :
    Write.result (do
      Write.changeTable model fun t => { t with nextKey := next }
      Write.changeTable model fun t => { t with rows := t.rows ++ [row] }
      return row) s = .ok (row, s.insert model { rows := s.rows model ++ [row], nextKey := next }) := by
  rw [Write.result_changeTable_bind, Write.result_changeTable_bind, table_insert, if_pos rfl, Dict.insert_insert_self]
  rfl

/-- A row is stored when its values have columns and its key is new, or is left out and assigned by the store. -/
theorem insertRow_ok_iff {r : Registry} {s s' : Store} {model : String} {values row : Row} :
    s.insertRow r model values = .ok (row, s') ↔
      ∃ m columns column, r.model? model = some m ∧ m.toColumns values = .ok columns ∧ m.keyColumn = .ok column ∧
        ((keyIn column (m.complete columns)).isNull = true ∧ m.assignsKeys = true ∧
            row = (m.complete columns).insert column (.nat (s.table model).nextKey) ∧
            s' = s.insert model
              { rows := s.rows model ++ [row], nextKey := ((s.table model).nextKey + 1) % Table.keyLimit } ∨
          (keyIn column (m.complete columns)).isNull = false ∧
            (s.table model).position? column (keyIn column (m.complete columns)) = none ∧
            row = m.complete columns ∧
            s' = s.insert model
              { rows := s.rows model ++ [row], nextKey := (s.table model).nextAfter (keyIn column row) }) := by
  simp only [insertRow, Write.insertRow, Write.result_lift_bind, Write.result_get_bind, Outcome.bind_ok_iff, Registry.model_ok_iff, result_append,
    Except.ok.injEq, Prod.mk.injEq]
  constructor
  · rintro ⟨m, hm, columns, hcols, column, hcolumn, ⟨keyed, next⟩, hkey, rfl, rfl⟩
    refine ⟨m, columns, column, hm, hcols, hcolumn, ?_⟩
    rcases giveKey_ok_iff.1 hkey with ⟨hnull, hauto, rfl, rfl⟩ | ⟨hnull, hfree, rfl, rfl⟩
    · exact Or.inl ⟨hnull, hauto, rfl, rfl⟩
    · exact Or.inr ⟨hnull, hfree, rfl, rfl⟩
  · rintro ⟨m, columns, column, hm, hcols, hcolumn, h⟩
    refine ⟨m, hm, columns, hcols, column, hcolumn, ?_⟩
    rcases h with ⟨hnull, hauto, rfl, rfl⟩ | ⟨hnull, hfree, rfl, rfl⟩
    · exact ⟨(_, _), giveKey_ok_iff.2 (Or.inl ⟨hnull, hauto, rfl, rfl⟩), rfl, rfl⟩
    · exact ⟨(_, _), giveKey_ok_iff.2 (Or.inr ⟨hnull, hfree, rfl, rfl⟩), rfl, rfl⟩

/-- A row is overwritten when there is one with the key, the values have columns, and a new key among them is free. -/
theorem updateRow_ok_iff {r : Registry} {s s' : Store} {model : String} {key : Json} {values row : Row} :
    s.updateRow r model key values = .ok (row, s') ↔
      ∃ m changes column place, r.model? model = some m ∧ m.toColumns values = .ok changes ∧ m.keyColumn = .ok column ∧
        (s.table model).position? column key = some place ∧ checkNewKey (s.table model) column place changes = .ok () ∧
        row = (((s.rows model)[place]?).getD .empty).extend changes ∧
        s' = s.insert model { s.table model with rows := (s.rows model).set place row } := by
  simp only [updateRow, Write.updateRow, Write.result_lift_bind, Write.result_get_bind, Outcome.bind_ok_iff, Registry.model_ok_iff]
  constructor
  · rintro ⟨m, hm, changes, hchanges, column, hcolumn, h⟩
    split at h
    · cases h
    · rename_i place hplace
      rw [Write.result_lift_bind] at h
      obtain ⟨_, hcheck, h⟩ := Outcome.bind_ok_iff.1 h
      cases h
      exact ⟨m, changes, column, place, hm, hchanges, hcolumn, hplace, hcheck, rfl, rfl⟩
  · rintro ⟨m, changes, column, place, hm, hchanges, hcolumn, hplace, hcheck, rfl, rfl⟩
    refine ⟨m, hm, changes, hchanges, column, hcolumn, ?_⟩
    rw [hplace]
    simp only
    rw [Write.result_lift_bind]
    exact Outcome.bind_ok_iff.2 ⟨(), hcheck, rfl⟩

/-- A row is removed when there is one with the key. -/
theorem deleteRow_ok_iff {r : Registry} {s s' : Store} {model : String} {key : Json} :
    s.deleteRow r model key = .ok s' ↔
      ∃ m column place, r.model? model = some m ∧ m.keyColumn = .ok column ∧
        (s.table model).position? column key = some place ∧
        s' = s.insert model { s.table model with rows := (s.rows model).eraseIdx place } := by
  rw [deleteRow, Outcome.map_ok_iff]
  constructor
  · rintro ⟨⟨_, after⟩, h, rfl⟩
    simp only [Write.deleteRow, Write.result_lift_bind, Write.result_get_bind, Outcome.bind_ok_iff, Registry.model_ok_iff] at h
    obtain ⟨m, hm, column, hcolumn, h⟩ := h
    split at h
    · cases h
    · rename_i place hplace
      cases h
      exact ⟨m, column, place, hm, hcolumn, hplace, rfl⟩
  · rintro ⟨m, column, place, hm, hcolumn, hplace, rfl⟩
    refine ⟨((), _), ?_, rfl⟩
    simp only [Write.deleteRow, Write.result_lift_bind, Write.result_get_bind, Outcome.bind_ok_iff, Registry.model_ok_iff]
    refine ⟨m, hm, column, hcolumn, ?_⟩
    rw [hplace]
    rfl

/-- Values given as a JSON object are stored when they pass the validators. -/
theorem insertJson_object (r : Registry) (s : Store) (model : String) (values : Entries Json) :
    s.insertJson r model (.object values) = r.validate model values >>= fun _ => s.insertRow r model values := by
  rw [insertJson, Write.insertJson, Write.insertValid, Write.result_lift_bind]
  rfl

theorem insertJson_ok_iff {r : Registry} {s s' : Store} {model : String} {values : Json} {row : Row} :
    s.insertJson r model values = .ok (row, s') ↔
      ∃ submitted : Entries Json, values = .object submitted ∧ r.validate model submitted = .ok () ∧
        s.insertRow r model submitted = .ok (row, s') := by
  cases values with
  | object submitted =>
    rw [insertJson_object, Outcome.bind_ok_iff]
    constructor
    · rintro ⟨_, hvalid, hrow⟩
      exact ⟨submitted, rfl, hvalid, hrow⟩
    · rintro ⟨_, heq, hvalid, hrow⟩
      cases heq
      exact ⟨(), hvalid, hrow⟩
  | null | bool | number | text | list =>
    constructor
    · exact nofun
    · rintro ⟨_, heq, -⟩
      cases heq

/-- A new key is free when it is not null and no other row has it. -/
theorem checkNewKey_ok_iff {t : Table} {column : String} {place : Nat} {changes : Row} :
    checkNewKey t column place changes = .ok () ↔
      ∀ key, changes.get? column = some key →
        key.isNull = false ∧ ∀ other, t.position? column key = some other → other = place := by
  unfold checkNewKey
  cases changes.get? column with
  | none => simp
  | some key =>
    simp only [Option.some.injEq, forall_eq']
    cases hnull : key.isNull with
    | true => simp
    | false =>
      cases t.position? column key with
      | none => simp
      | some other => by_cases h : other = place <;> simp [h]

end Store

/-! ## Writes that fail -/

namespace Write

/-- Whether a write leaves the store as it was when it fails. -/
def IsAtomic {α : Type} (w : Write α) : Prop := ∀ s f, (w.on s).1 = .error f → (w.on s).2 = s

namespace IsAtomic

variable {α β : Type}

/-- A write without a step that fails. -/
theorem of_ok {w : Write α} (h : ∀ s, ∃ value, (w.on s).1 = .ok value) : w.IsAtomic := by
  intro s f hf
  obtain ⟨value, hvalue⟩ := h s
  rw [hvalue] at hf
  cases hf

theorem throw (f : Failure) : (MonadExcept.throw f : Write α).IsAtomic := fun _ _ _ => rfl

/-- A step that does not touch the store may fail at the beginning. -/
theorem lift_bind {o : Outcome α} {next : α → Write β} (h : ∀ value, o = .ok value → (next value).IsAtomic) :
    (liftM o >>= next : Write β).IsAtomic := by
  intro s f hf
  rw [on_bind, on_lift] at hf ⊢
  cases o with
  | error e => rfl
  | ok value => exact h value rfl s f hf

/-- A step may look at the store at the beginning. -/
theorem get_bind {next : Store → Write β} (h : ∀ s, (next s).IsAtomic) : (get >>= next : Write β).IsAtomic :=
  fun s f hf => h s s f hf

/-- What such a write does is told by its result. -/
theorem on_eq {w : Write α} (h : w.IsAtomic) (s : Store) :
    w.on s = match w.result s with
      | .ok (value, after) => (.ok value, after)
      | .error f => (.error f, s) := by
  have hfailed := h s
  unfold result
  generalize w.on s = p at hfailed ⊢
  obtain ⟨outcome, after⟩ := p
  cases outcome with
  | ok value => rfl
  | error f => rw [← hfailed f rfl]; rfl

theorem discard {w : Write α} (h : w.IsAtomic) : (Functor.discard w : Write PUnit).IsAtomic := by
  intro s f hf
  have hfailed := h s
  rw [on_discard] at hf ⊢
  generalize w.on s = p at hf hfailed ⊢
  obtain ⟨outcome, after⟩ := p
  cases outcome with
  | ok value => cases hf
  | error e => exact hfailed e rfl

end IsAtomic

variable (r : Registry) (model : String)

/-- The key of a new row is found before the counter moves on. -/
theorem isAtomic_insertRow (values : Row) : (insertRow r model values).IsAtomic :=
  .lift_bind fun _ _ => .lift_bind fun _ _ => .lift_bind fun _ _ => .get_bind fun _ => .lift_bind fun _ _ => .of_ok fun _ => ⟨_, rfl⟩

theorem isAtomic_insertJson (values : Json) : (insertJson r model values).IsAtomic := by
  cases values with
  | object values => exact .lift_bind fun _ _ => isAtomic_insertRow r model values
  | null | bool | number | text | list => exact .throw _

/-- A row is overwritten when all checks have passed. -/
theorem isAtomic_updateRow (key : Json) (values : Row) : (updateRow r model key values).IsAtomic := by
  refine .lift_bind fun _ _ => .lift_bind fun _ _ => .lift_bind fun column _ => .get_bind fun s => ?_
  simp only
  split
  · exact .throw _
  · exact .lift_bind fun _ _ => .of_ok fun _ => ⟨_, rfl⟩

theorem isAtomic_deleteRow (key : Json) : (deleteRow r model key).IsAtomic := by
  refine .lift_bind fun _ _ => .lift_bind fun column _ => .get_bind fun s => ?_
  simp only
  split
  · exact .throw _
  · exact .of_ok fun _ => ⟨_, rfl⟩

end Write

end ModelCatalog
