import ModelCatalog.Proofs.Request.Validation

/-!
# Fields that clients can only read

What is submitted for a field that clients can only read is dropped before anything is done with it: submitted values that agree apart from
such fields (`Model.AgreeOnWritable`) are the same values to every request that writes. An update changes nothing but the row with its key,
and of that only the columns of fields that can be written and are named among the values (`Context.UpdatesOnly`). Both are in
`read_only_values_have_no_influence`.
-/

namespace ModelCatalog

namespace Model

/-- Whether clients can only read the field of a name, its own or that of its column. -/
def IsReadOnlyName (m : Model) (name : String) : Prop := ∃ f ∈ m.fields, f.isReadOnly = true ∧ name ∈ namesOf f

/-- Whether clients can only read the field of a column. -/
def IsReadOnlyColumn (m : Model) (column : String) : Prop := ∃ f ∈ m.fields, f.isReadOnly = true ∧ f.column? = some column

/-- Whether a value is submitted for a column, under one of the names of its field. -/
def NamesColumn (m : Model) (values : Row) (column : String) : Prop :=
  ∃ f ∈ m.fields, f.column? = some column ∧ ∃ name ∈ namesOf f, name ∈ values.keys

/-- Whether submitted values are the same under all names but those of fields that clients can only read. -/
def AgreeOnWritable (m : Model) (a b : Row) : Prop := ∀ name, ¬ m.IsReadOnlyName name → a.get? name = b.get? name

theorem IsSound.isReadOnlyName_iff {m : Model} (h : m.IsSound) (name : String) :
    m.IsReadOnlyName name ↔ (m.fieldAnsweringTo? name).any Field.isReadOnly = true := by
  rw [Option.any_eq_true]
  constructor
  · rintro ⟨f, hf, hreadOnly, hname⟩
    exact ⟨f, h.fieldAnsweringTo?_of_mem hf hname, hreadOnly⟩
  · rintro ⟨f, hf, hreadOnly⟩
    obtain ⟨hmem, hname⟩ := h.fieldAnsweringTo?_eq_some_iff.1 hf
    exact ⟨f, hmem, hreadOnly, (f.answersTo_iff name).1 hname⟩

end Model

namespace Context

/-! ## Two submissions -/

section

variable {m : Model} (hsound : m.IsSound) {a b : Row} (h : m.AgreeOnWritable a b)

include hsound h

/-- Values that agree apart from fields that can only be read are the same to a request. -/
theorem writable_congr : writable m a = writable m b := by
  refine Dict.ext_get? fun name => ?_
  have hfilter := fun d : Row => Dict.get?_filter d (fun name => !(m.fieldAnsweringTo? name).any Field.isReadOnly) name
  unfold writable
  rw [hfilter, hfilter]
  split
  · rename_i hname
    refine h name fun hreadOnly => ?_
    rw [hsound.isReadOnlyName_iff] at hreadOnly
    simp [hreadOnly] at hname
  · rfl

/-- As defaults beside a lookup they give the same values to create a row of. -/
theorem writable_valuesToCreate_congr (lookup : Row) :
    writable m (valuesToCreate lookup a) = writable m (valuesToCreate lookup b) := by
  refine writable_congr hsound fun name hname => ?_
  rw [valuesToCreate, valuesToCreate, Dict.get?_extend_entries, Dict.get?_extend_entries, h name hname]

end

/-- The values that can be written decide about the row that is created. -/
theorem createRow_congr {c : Context} {s : Store} {m : Model} {a b : Row} (h : writable m a = writable m b) :
    c.createRow s m a = c.createRow s m b := by
  rw [createRow_eq, createRow_eq, h]

/-- They decide about the changes to a row as well. -/
theorem updateRow_congr {c : Context} {s : Store} {m : Model} {key : Json} {a b : Row} (h : writable m a = writable m b) :
    c.updateRow s m key a = c.updateRow s m key b := by
  rw [updateRow_eq, updateRow_eq, changesOf, changesOf, h]

/-! ## Values given for a column -/

section

variable {m : Model} (hsound : m.IsSound)

include hsound

/-- What a request gives for a column was submitted under a name of its field, which can be written. -/
theorem exists_of_given_writable {values : Row} {c : String} {v : Json} (h : m.given (writable m values) c = some v) :
    ∃ f ∈ m.fields, f.isReadOnly = false ∧ f.column? = some c ∧ ∃ name ∈ Model.namesOf f, (name, v) ∈ values := by
  obtain ⟨e, he, rfl⟩ := Option.map_eq_some_iff.1 h
  have hcolumn := List.find?_some he
  obtain ⟨f, hf, hfc⟩ := Option.bind_eq_some_iff.1 (of_decide_eq_true hcolumn)
  obtain ⟨hmem, hname⟩ := hsound.fieldAnsweringTo?_eq_some_iff.1 hf
  obtain ⟨hvalue, hkept⟩ := List.mem_filter.1 (List.mem_reverse.1 (List.mem_of_find?_eq_some he))
  rw [hf, Option.any_some, Bool.not_eq_true'] at hkept
  exact ⟨f, hmem, hkept, hfc, e.1, (f.answersTo_iff e.1).1 hname, hvalue⟩

/-- Nothing is given for a field that only can be read. -/
theorem given_writable_of_readOnly {f : Field} {c : String} (hc : f.column? = some c) (hf : f ∈ m.fields)
    (hreadOnly : f.isReadOnly = true) (values : Row) : m.given (writable m values) c = none := by
  rw [Option.eq_none_iff_forall_ne_some]
  intro v h
  obtain ⟨g, hg, hwritable, hgc, -⟩ := exists_of_given_writable hsound h
  rw [hsound.eq_of_column hg hf hgc hc, hreadOnly] at hwritable
  cases hwritable

/-- For a field that can be written the value submitted for its column is given. -/
theorem given_writable_of_writable {f : Field} {c : String} (hc : f.column? = some c) (hf : f ∈ m.fields)
    (hwritable : f.isReadOnly = false) (values : Row) : m.given (writable m values) c = m.given values c := by
  have hkept : ∀ e ∈ values.entries.reverse, decide (m.column? e.1 = some c) = true →
      (!(m.fieldAnsweringTo? e.1).any Field.isReadOnly) = true := by
    intro e _ hcolumn
    obtain ⟨g, hg, hgc⟩ := Option.bind_eq_some_iff.1 (of_decide_eq_true hcolumn)
    rw [hg, hsound.eq_of_column (List.mem_of_find?_eq_some hg) hf hgc hc, Option.any_some, hwritable]
    rfl
  rw [Model.given, Model.given, ← List.head?_filter, ← List.head?_filter, writable, Dict.filter, ← List.filter_reverse,
    List.filter_filter]
  congr 2
  refine List.filter_congr fun e he => ?_
  cases hcolumn : decide (m.column? e.1 = some c) with
  | true => rw [hkept e he hcolumn, Bool.and_true]
  | false => rfl

/-- The changes that the store takes of a request hold in each column what is given for it. -/
theorem get?_changesOf {values columns : Row} (h : m.toColumns (changesOf m values) = .ok columns) (c : String) :
    (changesOf m values).get? c = m.given (writable m values) c := by
  have hget : ∀ c, (changesOf m values).get? c = (((writable m values).entries.reverse.find? fun e =>
      (m.column? e.1).getD e.1 = c).map Prod.snd) := by
    intro c
    rw [changesOf, Dict.of, Dict.get?_extend, Dict.get?_empty, Option.or_none, Dict.map, ← List.map_reverse, List.find?_map,
      Option.map_map]
    rfl
  -- a name without a column would be among the changes, and the store refuses it
  have hcolumn : ∀ e ∈ (writable m values).entries.reverse, ∃ column, m.column? e.1 = some column := by
    intro e he
    by_contra hnone
    rw [← Option.isSome_iff_exists, Option.not_isSome_iff_eq_none] at hnone
    have hsome : ((changesOf m values).get? e.1).isSome = true := by
      rw [hget, Option.isSome_map, List.find?_isSome]
      exact ⟨e, he, by simp [hnone]⟩
    obtain ⟨v, hv⟩ := Option.isSome_iff_exists.1 hsome
    rw [← toColumns_changesOf hsound h, Model.get?_toColumns h] at hv
    obtain ⟨f, hf, hfc⟩ := Model.exists_column_of_given hv
    have hself : m.column? e.1 = some e.1 :=
      Option.bind_eq_some_iff.2 ⟨f, hsound.fieldAnsweringTo?_eq_some_iff.2 ⟨hf, Field.answersTo_column hfc⟩, hfc⟩
    rw [hnone] at hself
    cases hself
  rw [hget, Model.given, ← List.head?_filter, ← List.head?_filter]
  congr 2
  refine List.filter_congr fun e he => ?_
  obtain ⟨column, hname⟩ := hcolumn e he
  simp [hname]

end

/-! ## Updates -/

/-- What a request to update the row with a key does to a store and what it leaves as it was. -/
structure UpdatesOnly (m : Model) (key : Json) (values : Row) (s after : Store) : Prop where
  tables : ∀ name, name ≠ m.name → after.table name = s.table name
  nextKey : (after.table m.name).nextKey = (s.table m.name).nextKey
  rows : ∀ keyColumn, m.keyColumn = .ok keyColumn → ∀ place, (s.table m.name).position? keyColumn key ≠ some place →
    (after.rows m.name)[place]? = (s.rows m.name)[place]?
  /-- In every row the columns that only can be read stay, and those for which nothing is submitted. -/
  kept : ∀ (place : Nat) (old new : Row), (s.rows m.name)[place]? = some old → (after.rows m.name)[place]? = some new →
    ∀ column, m.IsReadOnlyColumn column ∨ ¬ m.NamesColumn values column → new.get? column = old.get? column
  /-- When the row with the key changes, its other columns get the values submitted for them. -/
  changed : after = s ∨ ∃ (keyColumn : String) (place : Nat) (old new : Row), m.keyColumn = .ok keyColumn ∧
    (s.table m.name).position? keyColumn key = some place ∧ (s.rows m.name)[place]? = some old ∧
    (after.rows m.name)[place]? = some new ∧
    ∀ f ∈ m.fields, f.isReadOnly = false → ∀ column, f.column? = some column →
      new.get? column = (m.given values column).or (old.get? column)

/-- An update that fails changes nothing. -/
theorem updatesOnly_self (m : Model) (key : Json) (values : Row) (s : Store) : UpdatesOnly m key values s s where
  tables _ _ := rfl
  nextKey := rfl
  rows _ _ _ _ := rfl
  kept place old new hold hnew _ _ := by rw [Option.some.inj (hold.symm.trans hnew)]
  changed := Or.inl rfl

/-- A submission gives nothing for a column that only can be read or that it does not name. -/
theorem given_writable_eq_none {m : Model} (hsound : m.IsSound) {values : Row} {column : String}
    (h : m.IsReadOnlyColumn column ∨ ¬ m.NamesColumn values column) : m.given (writable m values) column = none := by
  rcases h with ⟨f, hf, hreadOnly, hc⟩ | hunnamed
  · exact given_writable_of_readOnly hsound hc hf hreadOnly values
  · rw [Option.eq_none_iff_forall_ne_some]
    intro v h
    obtain ⟨f, hf, -, hc, name, hname, hvalue⟩ := exists_of_given_writable hsound h
    exact hunnamed ⟨f, hf, hc, name, hname, List.mem_map_of_mem hvalue⟩

/-- An update that is made puts in the place of the row with the key one that holds what is given over what that row held. -/
theorem updatesOnly_of_updateRow {c : Context} {m : Model} (hm : c.registry.model? m.name = some m) (hsound : m.IsSound)
    {s after : Store} {key : Json} {values row : Row} (h : c.updateRow s m key values = .ok (row, after)) :
    UpdatesOnly m key values s after := by
  obtain ⟨-, hrow, -⟩ := (updateRow_ok_iff hm hsound).1 h
  obtain ⟨m', changes, keyColumn, place, hm', hchanges, hcolumn, hplace, -, hnew, hafter⟩ := Store.updateRow_ok_iff.1 hrow
  obtain rfl := Option.some.inj (hm.symm.trans hm')
  obtain rfl := toColumns_changesOf hsound hchanges
  obtain ⟨hlt, -, -⟩ := List.findIdx?_eq_some_iff_getElem.1 hplace
  have hold : (s.rows m.name)[place]? = some (s.rows m.name)[place] := List.getElem?_eq_getElem hlt
  have hget : ∀ column, row.get? column = (m.given (writable m values) column).or ((s.rows m.name)[place].get? column) := by
    intro column
    rw [hnew, hold, Option.getD_some, Dict.get?_extend_entries, get?_changesOf hsound hchanges]
  have htable : ∀ name, after.table name =
      if m.name = name then { s.table m.name with rows := (s.rows m.name).set place row } else s.table name :=
    fun name => hafter ▸ Store.table_insert s m.name _ name
  have hown : after.table m.name = { s.table m.name with rows := (s.rows m.name).set place row } := by rw [htable, if_pos rfl]
  have hrows : after.rows m.name = (s.rows m.name).set place row := by rw [Store.rows, hown]
  have hself : (after.rows m.name)[place]? = some row := by
    rw [hrows]
    exact List.getElem?_set_self hlt
  refine ⟨fun name hname => ?_, by rw [hown], fun keyColumn' hcolumn' other hother => ?_,
    fun other old new hold' hnew' column hkept => ?_,
    Or.inr ⟨keyColumn, place, _, row, hcolumn, hplace, hold, hself, fun f hf hwritable column hc => ?_⟩⟩
  · rw [htable, if_neg hname.symm]
  · obtain rfl := Except.ok.inj (hcolumn.symm.trans hcolumn')
    rw [hrows, List.getElem?_set_ne]
    rintro rfl
    exact hother hplace
  · by_cases hother : place = other
    · subst hother
      obtain rfl := Option.some.inj (hold.symm.trans hold')
      obtain rfl := Option.some.inj (hself.symm.trans hnew')
      rw [hget, given_writable_eq_none hsound hkept, Option.none_or]
    · rw [hrows, List.getElem?_set_ne hother, hold'] at hnew'
      rw [Option.some.inj hnew']
  · rw [hget, given_writable_of_writable hsound hc hf hwritable]

end Context

/-- What is submitted for fields that clients can only read has no influence: requests to create a row, to update one, or to get or create
one with defaults are answered alike, and leave the same store, for submissions that agree apart from such fields. An update, whether it
succeeds or fails, leaves every other table and row as it was, and in the row with the key every column that only can be read or that the
submission does not name. -/
theorem read_only_values_have_no_influence {c : Context} (hr : c.registry.IsBuilt) {m : Model}
    (hm : c.registry.model? m.name = some m) (s : Store) :
    (∀ a b, m.AgreeOnWritable a b → ∀ p,
      c.create s m.name a p = c.create s m.name b p ∧
      (∀ key, c.update s m.name key a p = c.update s m.name key b p) ∧
      ∀ lookup, c.getOrCreate s m.name lookup a p = c.getOrCreate s m.name lookup b p) ∧
    ∀ key values p, Context.UpdatesOnly m key values s (c.update s m.name key values p).store := by
  have hsound := hr.sound hm
  refine ⟨fun a b h p => ?_, fun key values p => ?_⟩
  · have hwritable := Context.writable_congr hsound h
    refine ⟨?_, fun key => ?_, fun lookup => ?_⟩
    · rw [Context.create_eq hm, Context.create_eq hm, Context.createRow_congr hwritable]
    · rw [Context.update_eq hm, Context.update_eq hm, Context.updateRow_congr hwritable]
    · rw [Context.getOrCreate_eq hm, Context.getOrCreate_eq hm,
        Context.createRow_congr (Context.writable_valuesToCreate_congr hsound h lookup)]
  · rw [Context.update_eq hm]
    cases hupdate : c.updateRow s m key values with
    | error f => exact Context.updatesOnly_self m key values s
    | ok updated => exact Context.updatesOnly_of_updateRow hm hsound hupdate

/-- Who edited a review can only be read: it does not matter whether a new review comes with it, and an update with it changes the book. -/
theorem review_editor_without_influence :
    ∃ (c : Context) (s : Store) (a b : Row), c.registry.IsBuilt ∧ c.registry.model? "Review" = some reviewModel ∧
      reviewModel.AgreeOnWritable a b ∧ (a.get? "editor").isSome = true ∧ b.get? "editor" = none ∧
      c.create s "Review" a {} = c.create s "Review" b {} ∧
      Context.UpdatesOnly reviewModel (.text "a") a s (c.update s "Review" (.text "a") a {}).store ∧
      (c.update s "Review" (.text "a") a {}).store.rows "Review" =
        [.of [("book_id", .text "new"), ("editor", .null), ("slug", .text "b")]] := by
  have hm : reviews.model? reviewModel.name = some reviewModel := rfl
  have hagree : reviewModel.AgreeOnWritable (.of [("book", .text "new"), ("editor", .text "eve"), ("slug", .text "b")])
      (.of [("book", .text "new"), ("slug", .text "b")]) := by
    intro name hname
    have heditor : "editor" ≠ name := by
      rintro rfl
      exact hname ⟨.plain { name := "editor", kind := .scalar .char, readOnly := true },
        List.mem_cons_of_mem _ (List.mem_cons_of_mem _ List.mem_cons_self), rfl, List.mem_cons_self⟩
    simp [Dict.of, Dict.get?_insert, heditor]
  obtain ⟨hsame, honly⟩ := read_only_values_have_no_influence (c := { registry := reviews }) reviews_isBuilt hm
    (Store.afterCalls reviews [.create "Review" (.of [("book", .text "old"), ("slug", .text "a")])])
  exact ⟨_, _, _, _, reviews_isBuilt, hm, hagree, rfl, rfl, (hsame _ _ hagree {}).1, honly _ _ {}, rfl⟩

end ModelCatalog
