import ModelCatalog.Proofs.Request.Writing
import ModelCatalog.Proofs.Store.Calls
import ModelCatalog.Proofs.Store.Reading

/-!
# What validators are shown

A validator is shown the values of the names it reads (`Registry.shown`), and every validator registered for a model has to accept what it
is shown before a row is stored (`Registry.Accepts`, `validate_ok_iff`). A reference goes by two names. A value submitted under one of them
is shown under both, and that value is stored. Of two values submitted under both names that of the column is stored, while each is shown
under its own name: a validator that reads the reference by its name has then not seen what is stored (`validators_see_stored_references`).
An update shows the validators the whole row as it will be: the request brings the changes under their columns before it asks them, so they
are asked about the row that the store then holds (`updates_store_validated_rows`).
-/

namespace ModelCatalog

namespace Registry

/-! ## The values shown -/

/-- Submitted values, with the value of each reference of the model under both its names. -/
def filled (r : Registry) (model : String) (submitted : Row) : Row :=
  (((r.model? model).map Model.references).getD []).foldl (fillReference submitted) submitted

/-- What a validator is shown of submitted values. -/
def shown (r : Registry) (model : String) (submitted : Row) (v : Validator) : Row :=
  Dict.of (v.fields.map fun name => (name, ((r.filled model submitted).get? name).getD .null))

/-- Whether each validator registered for a model accepts what it is shown of submitted values. -/
def Accepts (r : Registry) (model : String) (submitted : Row) : Prop :=
  ∀ v, (model, v) ∈ r.validators → v.check (r.shown model submitted v) = .ok ()

/-- The validators of a model are those registered under its name. -/
theorem mem_validatorsOf {r : Registry} {model : String} {v : Validator} : v ∈ r.validatorsOf model ↔ (model, v) ∈ r.validators := by
  simp [validatorsOf]

theorem validate_ok_iff {r : Registry} {model : String} {submitted : Row} :
    r.validate model submitted = .ok () ↔ r.Accepts model submitted := by
  have hrun : ∀ v, runValidator (r.filled model submitted) v = .ok () ↔ v.check (r.shown model submitted v) = .ok () := by
    intro v
    rw [runValidator, ← shown]
    cases v.check (r.shown model submitted v) <;> simp
  exact Outcome.forM_ok_iff.trans (forall_congr' fun v => imp_congr mem_validatorsOf (hrun v))

theorem get?_shown {r : Registry} {model : String} {submitted : Row} {v : Validator} {name : String} (h : name ∈ v.fields) :
    (r.shown model submitted v).get? name = some (((r.filled model submitted).get? name).getD .null) := by
  rw [shown, Dict.of, Dict.get?_extend_map, if_pos h]

/-! ## Names of references -/

/-- Filling in a reference changes nothing but its two names. -/
theorem get?_fillReference_of_not_mem (submitted values : Row) {ref : Reference} {name : String}
    (h : name ∉ Model.namesOf (.reference ref)) : (fillReference submitted values ref).get? name = values.get? name := by
  obtain ⟨hname, hcolumn⟩ : ref.name ≠ name ∧ ref.column ≠ name :=
    ⟨fun heq => h (heq ▸ List.mem_pair.2 (Or.inl rfl)), fun heq => h (heq ▸ List.mem_pair.2 (Or.inr rfl))⟩
  unfold fillReference
  split
  · split
    · rfl
    · rw [Dict.get?_insert, if_neg hcolumn]
  · split
    · rw [Dict.get?_insert, if_neg hname]
    · rfl

/-- Filling in a reference that is as submitted gives each of its names the value under it, or else the one under the other. -/
theorem get?_fillReference {submitted values : Row} {ref : Reference}
    (h : ∀ name ∈ Model.namesOf (.reference ref), values.get? name = submitted.get? name) :
    (fillReference submitted values ref).get? ref.name = (submitted.get? ref.name).or (submitted.get? ref.column) ∧
      (fillReference submitted values ref).get? ref.column = (submitted.get? ref.column).or (submitted.get? ref.name) := by
  have hname : values.get? ref.name = submitted.get? ref.name := h _ (List.mem_pair.2 (Or.inl rfl))
  have hcolumn : values.get? ref.column = submitted.get? ref.column := h _ (List.mem_pair.2 (Or.inr rfl))
  have hne : ref.name ≠ ref.column := ref.name_lt_column.ne
  unfold fillReference
  cases hn : submitted.get? ref.name with
  | some value =>
    cases hc : submitted.get? ref.column with
    | some other => simp [Dict.contains, hname, hcolumn, hn, hc]
    | none => simp [Dict.contains, Dict.get?_insert, hname, hcolumn, hn, hc, hne.symm]
  | none =>
    cases hc : submitted.get? ref.column with
    | some value => simp [Dict.get?_insert, hcolumn, hc, hne]
    | none => simp [hname, hcolumn, hn, hc]

theorem get?_foldl_fillReference_of_not_mem (submitted : Row) {refs : List Reference} (values : Row) {name : String}
    (h : ∀ ref ∈ refs, name ∉ Model.namesOf (.reference ref)) :
    (refs.foldl (fillReference submitted) values).get? name = values.get? name := by
  induction refs generalizing values with
  | nil => rfl
  | cons first refs ih =>
    obtain ⟨hfirst, hrefs⟩ := List.forall_mem_cons.1 h
    rw [List.foldl_cons, ih _ hrefs, get?_fillReference_of_not_mem submitted values hfirst]

/-- References that share no names are filled in each on its own. -/
theorem get?_foldl_fillReference (submitted : Row) {refs : List Reference}
    (hrefs : refs.Pairwise fun a b => (Model.namesOf (.reference a)).Disjoint (Model.namesOf (.reference b))) (values : Row)
    (h : ∀ ref ∈ refs, ∀ name ∈ Model.namesOf (.reference ref), values.get? name = submitted.get? name) {ref : Reference}
    (href : ref ∈ refs) :
    (refs.foldl (fillReference submitted) values).get? ref.name = (submitted.get? ref.name).or (submitted.get? ref.column) ∧
      (refs.foldl (fillReference submitted) values).get? ref.column =
        (submitted.get? ref.column).or (submitted.get? ref.name) := by
  induction refs generalizing values with
  | nil => cases href
  | cons first refs ih =>
    obtain ⟨hapart, hrefs⟩ := List.pairwise_cons.1 hrefs
    obtain ⟨hfirst, hrest⟩ := List.forall_mem_cons.1 h
    rw [List.foldl_cons]
    rcases List.mem_cons.1 href with rfl | href
    · rw [get?_foldl_fillReference_of_not_mem, get?_foldl_fillReference_of_not_mem]
      · exact get?_fillReference hfirst
      · exact fun other hother => hapart other hother (List.mem_pair.2 (Or.inr rfl))
      · exact fun other hother => hapart other hother (List.mem_pair.2 (Or.inl rfl))
    · refine ih hrefs _ (fun other hother name hname => ?_) href
      rw [get?_fillReference_of_not_mem submitted values fun hfirst => hapart other hother hfirst hname]
      exact hrest other hother name hname

/-- What validators are shown of a reference: under each of its names the value that was submitted under it, or else the one under the
other. -/
theorem get?_filled {r : Registry} {m : Model} (hm : r.model? m.name = some m) (hsound : m.IsSound) {ref : Reference}
    (href : Field.reference ref ∈ m.fields) (submitted : Row) :
    (r.filled m.name submitted).get? ref.name = (submitted.get? ref.name).or (submitted.get? ref.column) ∧
      (r.filled m.name submitted).get? ref.column = (submitted.get? ref.column).or (submitted.get? ref.name) := by
  have hapart := (List.nodup_flatMap.1 hsound.names_nodup).2
  have hrefs : m.references.Pairwise fun a b => (Model.namesOf (.reference a)).Disjoint (Model.namesOf (.reference b)) := by
    refine hapart.filterMap _ fun f g hfg a ha b hb => ?_
    cases f with
    | reference a' =>
      cases g with
      | reference b' =>
        cases ha
        cases hb
        exact hfg
      | plain | inverse | links => cases hb
    | plain | inverse | links => cases ha
  rw [filled, hm]
  exact get?_foldl_fillReference submitted hrefs submitted (fun _ _ _ _ => rfl) (List.mem_filterMap.2 ⟨_, href, rfl⟩)

/-! ## New rows -/

/-- What the validators of a model have seen of a reference of a new row. -/
structure Showed (r : Registry) (m : Model) (ref : Reference) (submitted row : Row) : Prop where
  /-- The value under the column's name is stored, without it the one under the reference's own name, or null. -/
  stored : row.get? ref.column = some (((submitted.get? ref.column).or (submitted.get? ref.name)).getD .null)
  accepted : r.Accepts m.name submitted
  column : ∀ v, (m.name, v) ∈ r.validators → ref.column ∈ v.fields →
    (r.shown m.name submitted v).get? ref.column = row.get? ref.column
  /-- What is stored was shown under the reference's own name as well, unless another value was submitted under it. -/
  name : ∀ v, (m.name, v) ∈ r.validators → ref.name ∈ v.fields →
    ((r.shown m.name submitted v).get? ref.name = row.get? ref.column ↔
      ∀ a b, submitted.get? ref.name = some a → submitted.get? ref.column = some b → a = b)

/-- What the validators have seen of a row that is stored once they accept it. -/
theorem showed_of_insertRow {r : Registry} (hr : r.IsBuilt) {m : Model} (hm : r.model? m.name = some m) {ref : Reference}
    (href : Field.reference ref ∈ m.fields) {s after : Store} {submitted row : Row}
    (hvalid : r.validate m.name submitted = .ok ()) (hrow : s.insertRow r m.name submitted = .ok (row, after)) :
    r.Showed m ref submitted row := by
  have hsound := hr.sound hm
  have hstored : row.get? ref.column = some (((submitted.get? ref.column).or (submitted.get? ref.name)).getD .null) := by
    rw [Store.get?_insertRow hm hsound hrow href rfl, hsound.keyed_reference href, hsound.given_reference href]
    rfl
  obtain ⟨hname, hcolumn⟩ := get?_filled hm hsound href submitted
  refine ⟨hstored, validate_ok_iff.1 hvalid, fun v _ hread => ?_, fun v _ hread => ?_⟩
  · rw [get?_shown hread, hcolumn, hstored]
  · rw [get?_shown hread, hname, hstored, Option.some.injEq]
    cases submitted.get? ref.name <;> cases submitted.get? ref.column <;> simp

end Registry

/-- Every value of a reference that a new row brings was shown to the validators under its column's name, and under its own name exactly
when the values submitted under the two names, if there are two, are equal. -/
theorem validators_see_stored_references {c : Context} (hr : c.registry.IsBuilt) {m : Model}
    (hm : c.registry.model? m.name = some m) {ref : Reference} (href : Field.reference ref ∈ m.fields) (s : Store) (values : Row) :
    (∀ row after, s.insertJson c.registry m.name (.object values) = .ok (row, after) →
      after.rows m.name = s.rows m.name ++ [row] ∧ c.registry.Showed m ref values row) ∧
    ∀ p, (∃ f, c.create s m.name values p = { outcome := .error f, store := s }) ∨
      ∃ row, (c.create s m.name values p).store.rows m.name = s.rows m.name ++ [row] ∧
        c.registry.Showed m ref (Context.writable m values) row := by
  refine ⟨fun row after h => ?_, fun p => ?_⟩
  · obtain ⟨submitted, heq, hvalid, hrow⟩ := Store.insertJson_ok_iff.1 h
    cases heq
    rw [Dict.of_entries] at hvalid hrow
    exact ⟨Store.rows_insertRow hrow, Registry.showed_of_insertRow hr hm href hvalid hrow⟩
  · rw [Context.create_eq hm]
    cases hcreate : c.createRow s m values with
    | error f => exact Or.inl ⟨f, rfl⟩
    | ok created =>
      obtain ⟨row, after⟩ := created
      rw [Context.createRow_eq] at hcreate
      obtain ⟨_, hvalid, hrow⟩ := Outcome.bind_ok_iff.1 hcreate
      exact Or.inr ⟨row, Store.rows_insertRow hrow, Registry.showed_of_insertRow hr hm href hvalid hrow⟩

/-- Refuses reviews of books that are withdrawn. -/
def notWithdrawn : Validator where
  fields := ["book"]
  check shown :=
    match shown.get? "book" with
    | some (.text "withdrawn") => .error (.plain "This book is withdrawn." "withdrawn")
    | _ => .ok ()

def reviewModel : Model where
  name := "Review"
  fields := [.plain { name := "slug", kind := .scalar .slug, primaryKey := true }, .reference { name := "book", target := "Book" },
    .plain { name := "editor", kind := .scalar .char, readOnly := true }]

/-- Reviews of books, which are checked. -/
def reviews : Registry where
  models := [{
      name := "Book"
      fields := [.plain { name := "title", kind := .scalar .char, primaryKey := true },
        .inverse { name := "review_set", source := "Review", field := "book", oneToOne := false }] }, reviewModel]
  validators := [("Review", notWithdrawn)]

theorem reviews_isBuilt : reviews.IsBuilt :=
  ⟨[{ name := "Book", fields := [.plain { name := "title", kind := .scalar .char, primaryKey := true }] }, reviewModel],
    [("Review", notWithdrawn)], [], rfl⟩

/-- A review whose book is named in two ways. -/
def reviewOfTwo : Row := .of [("book", .text "new"), ("book_id", .text "withdrawn"), ("slug", .text "a")]

/-- It is stored for one book, and the validator has seen the other. -/
theorem withdrawn_book_reviewed :
    ∃ values row : Row, ∃ after : Store, reviews.IsBuilt ∧
      Store.insertJson reviews [] "Review" (.object values) = .ok (row, after) ∧
      row.get? "book_id" = some (.text "withdrawn") ∧
      notWithdrawn.check (.of [("book", .text "withdrawn")]) ≠ .ok () ∧
      (reviews.shown "Review" values notWithdrawn).get? "book" ≠ row.get? "book_id" := by
  have hm : reviews.model? reviewModel.name = some reviewModel := rfl
  have href : Field.reference { name := "book", target := "Book" } ∈ reviewModel.fields := List.mem_cons_of_mem _ List.mem_cons_self
  obtain ⟨hinsert, -⟩ := validators_see_stored_references (c := { registry := reviews }) reviews_isBuilt hm href [] reviewOfTwo
  have hrow : Store.insertJson reviews [] "Review" (.object reviewOfTwo) =
      .ok (.of [("book_id", .text "withdrawn"), ("editor", .null), ("slug", .text "a")], _) := rfl
  obtain ⟨-, hshowed⟩ := hinsert _ _ hrow
  refine ⟨reviewOfTwo, _, _, reviews_isBuilt, hrow, hshowed.stored, nofun, fun hsame => ?_⟩
  have hvalues := (hshowed.name notWithdrawn List.mem_cons_self List.mem_cons_self).1 hsame _ _ rfl rfl
  exact absurd (Json.text.inj hvalues) (by decide)

/-! ## Changed rows -/

namespace Context

/-- The changes that a request makes are in order and come under their own columns, so the store takes them as they are. -/
theorem toColumns_changesOf {m : Model} (hsound : m.IsSound) {values columns : Row}
    (h : m.toColumns (changesOf m values) = .ok columns) : columns = changesOf m values := by
  refine Model.toColumns_of_column (fun e he column hcolumn => ?_) h
  obtain ⟨entry, -, rfl⟩ := List.mem_map.1 ((Dict.mem_of_mem_extend he).resolve_right List.not_mem_nil)
  simp only at hcolumn ⊢
  cases hname : m.column? entry.1 with
  | none =>
    rw [hname, Option.getD_none, hname] at hcolumn
    cases hcolumn
  | some column' =>
    rw [hname, Option.getD_some, hsound.column?_column hname] at hcolumn
    exact (Option.some.inj hcolumn).symm

section

variable {c : Context} {m : Model} (hm : c.registry.model? m.name = some m) (hsound : m.IsSound) {s after : Store} {key : Json}
  {values row : Row}

include hm hsound

/-- The row that a request finds, with the changes, is the row that the store makes of the one it finds. -/
theorem extend_eq_of_updateRow {stored : Row} (hget : QuerySet.get c.registry s { model := m.name } key = .ok stored)
    (hrow : s.updateRow c.registry m.name key (changesOf m values) = .ok (row, after)) :
    stored.extend (changesOf m values) = row := by
  obtain ⟨m', changes, column, place, hm', hchanges, hcolumn, hplace, -, rfl, -⟩ := Store.updateRow_ok_iff.1 hrow
  obtain rfl := Option.some.inj (hm.symm.trans hm')
  obtain rfl := toColumns_changesOf hsound hchanges
  obtain ⟨hlt, hkey, -⟩ := List.findIdx?_eq_some_iff_getElem.1 hplace
  have hmem : (s.rows m.name)[place] ∈ (s.rows m.name).filter (Table.hasKey column key) :=
    List.mem_filter.2 ⟨List.getElem_mem hlt, hkey⟩
  rw [(QuerySet.get_eq_ok_iff hm hcolumn).1 hget, List.mem_singleton] at hmem
  have hrows : (s.rows m.name)[place]? = some stored := (List.getElem?_eq_getElem hlt).trans (congrArg some hmem)
  rw [hrows, Option.getD_some]

/-- A row is updated when it is the only one with the key, the store takes the changes, and what it stores then is valid. -/
theorem updateRow_ok_iff :
    c.updateRow s m key values = .ok (row, after) ↔
      (∃ stored, QuerySet.get c.registry s { model := m.name } key = .ok stored) ∧
        s.updateRow c.registry m.name key (changesOf m values) = .ok (row, after) ∧ c.registry.validate m.name row = .ok () := by
  simp only [updateRow_eq, QuerySet.of_eq hm, Outcome.bind_ok_iff]
  constructor
  · rintro ⟨_, hq, stored, hget, _, hvalid, hrow⟩
    cases hq
    rw [extend_eq_of_updateRow hm hsound hget hrow] at hvalid
    exact ⟨⟨stored, hget⟩, hrow, hvalid⟩
  · rintro ⟨⟨stored, hget⟩, hrow, hvalid⟩
    rw [← extend_eq_of_updateRow hm hsound hget hrow] at hvalid
    exact ⟨_, rfl, stored, hget, (), hvalid, hrow⟩

end

/-- The context without validators. -/
def unchecked (c : Context) : Context := { c with registry := { c.registry with validators := [] } }

theorem updateRow_unchecked_ok_iff {c : Context} {m : Model} (hm : c.registry.model? m.name = some m) (hsound : m.IsSound)
    {s after : Store} {key : Json} {values row : Row} :
    c.unchecked.updateRow s m key values = .ok (row, after) ↔
      (∃ stored, QuerySet.get c.registry s { model := m.name } key = .ok stored) ∧
        s.updateRow c.registry m.name key (changesOf m values) = .ok (row, after) := by
  obtain ⟨-, -, -, -, column, -, hcolumn⟩ := hsound.keyColumn
  have hget : ∀ stored, QuerySet.get c.unchecked.registry s { model := m.name } key = .ok stored ↔
      QuerySet.get c.registry s { model := m.name } key = .ok stored := fun stored =>
    (QuerySet.get_eq_ok_iff (r := c.unchecked.registry) hm hcolumn).trans (QuerySet.get_eq_ok_iff hm hcolumn).symm
  rw [updateRow_ok_iff (c := c.unchecked) hm hsound, exists_congr hget]
  exact and_congr_right fun _ => and_iff_left rfl

end Context

/-- The validators of an update are asked about the very row that is stored then: a request with validators writes a row exactly when it
would write that row without them and they accept it. So it fails and leaves the store as it was, or the row that it puts in the place of the
one with the key is accepted by every validator registered for the model. -/
theorem updates_store_validated_rows {c : Context} (hr : c.registry.IsBuilt) {m : Model} (hm : c.registry.model? m.name = some m)
    (s : Store) (key : Json) (values : Row) :
    (∀ row after, c.updateRow s m key values = .ok (row, after) ↔
      c.unchecked.updateRow s m key values = .ok (row, after) ∧ c.registry.Accepts m.name row) ∧
    ∀ p, (∃ f, c.update s m.name key values p = { outcome := .error f, store := s }) ∨
      ∃ row column place, m.keyColumn = .ok column ∧ (s.table m.name).position? column key = some place ∧
        (c.update s m.name key values p).store = s.insert m.name { s.table m.name with rows := (s.rows m.name).set place row } ∧
        c.registry.Accepts m.name row := by
  have hsound := hr.sound hm
  refine ⟨fun row after => ?_, fun p => ?_⟩
  · rw [Context.updateRow_ok_iff hm hsound, Context.updateRow_unchecked_ok_iff hm hsound, and_assoc, Registry.validate_ok_iff]
  · rw [Context.update_eq hm]
    cases hupdate : c.updateRow s m key values with
    | error f => exact Or.inl ⟨f, rfl⟩
    | ok updated =>
      obtain ⟨row, after⟩ := updated
      obtain ⟨-, hrow, hvalid⟩ := (Context.updateRow_ok_iff hm hsound).1 hupdate
      obtain ⟨m', changes, column, place, hm', -, hcolumn, hplace, -, -, rfl⟩ := Store.updateRow_ok_iff.1 hrow
      obtain rfl := Option.some.inj (hm.symm.trans hm')
      exact Or.inr ⟨row, column, place, hcolumn, hplace, rfl, Registry.validate_ok_iff.1 hvalid⟩

/-- A review for which another book is submitted under the reference's name, with a value for a field that only can be read. -/
theorem book_of_review_changed :
    ∃ (c : Context) (s after : Store) (row : Row), c.registry.IsBuilt ∧ c.registry.model? "Review" = some reviewModel ∧
      c.updateRow s reviewModel (.text "a") (.of [("book", .text "new"), ("editor", .text "eve")]) = .ok (row, after) ∧
      row = .of [("book_id", .text "new"), ("editor", .null), ("slug", .text "a")] ∧ c.registry.Accepts "Review" row := by
  have hm : reviews.model? reviewModel.name = some reviewModel := rfl
  obtain ⟨hwrites, -⟩ := updates_store_validated_rows (c := { registry := reviews }) reviews_isBuilt hm
    (Store.afterCalls reviews [.create "Review" (.of [("book", .text "old"), ("slug", .text "a")])]) (.text "a")
    (.of [("book", .text "new"), ("editor", .text "eve")])
  have hrow : Context.updateRow { registry := reviews }
      (Store.afterCalls reviews [.create "Review" (.of [("book", .text "old"), ("slug", .text "a")])]) reviewModel (.text "a")
      (.of [("book", .text "new"), ("editor", .text "eve")]) =
        .ok ((.of [("book_id", .text "new"), ("editor", .null), ("slug", .text "a")]), _) := rfl
  exact ⟨_, _, _, _, reviews_isBuilt, hm, hrow, rfl, ((hwrites _ _).1 hrow).2⟩

end ModelCatalog
