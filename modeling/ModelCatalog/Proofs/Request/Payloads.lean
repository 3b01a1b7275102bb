import ModelCatalog.Proofs.Query.Selections
import ModelCatalog.Request.Handlers

/-!
# What list requests answer with

A list request refines the query set, picks what is asked for of the rows that match (`PayloadOptions.choose`), and writes each row out.
`Context.listed` is its answer with the rows as they are stored; without a choice of fields the answer has the record of each of them
(`list_eq`), and all of them are stored rows of the model (`records_listed`).
-/

namespace ModelCatalog

/-! ## Payloads -/

namespace Payload

/-- A payload with each of its records changed. -/
def mapRows (f : Row → Row) : Payload → Payload
  | page results pages number data => page results pages number (data.map f)
  | rows data => rows (data.map f)
  | row data => row (f data)
  | found data created => found (f data) created
  | other => other

/-- The records of a payload. -/
def records : Payload → List Row
  | page _ _ _ data | rows data => data
  | row data | found data _ => [data]
  | _ => []

theorem map_mapRows {x : Outcome Row} {f : Row → Row} {payload : Row → Payload}
    (h : ∀ row, payload (f row) = (payload row).mapRows f) : (x.map f).map payload = (x.map payload).map (Payload.mapRows f) := by
  cases x with
  | error e => rfl
  | ok row => exact congrArg Except.ok (h row)

end Payload

namespace PayloadOptions

/-- The payload of some rows, as they are. -/
def choose (o : PayloadOptions) (rows : List Row) : Payload :=
  match o.page with
  | some number =>
    let pages := Pages.of rows o.pageSize
    .page rows.length pages.count (pages.nearest number).number (pages.nearest number).items
  | none =>
    if o.onlyExists then .inhabited (0 < rows.length)
    else if o.onlyCount then .count rows.length
    else .rows rows

theorem records_choose (o : PayloadOptions) (rows : List Row) : (o.choose rows).records ⊆ rows := by
  intro row hrow
  unfold choose at hrow
  split at hrow
  · exact List.mem_of_mem_drop (List.mem_of_mem_take hrow)
  · split at hrow
    · cases hrow
    · split at hrow
      · cases hrow
      · exact hrow

/-- A payload is chosen by the stored rows, and then each row is shaped and written out. -/
theorem payload_eq (o : PayloadOptions) (r : Registry) (s : Store) (q : QuerySet) (all : Serializer) :
    o.payload r s q all = o.serializer all >>= fun serializer =>
      let q := if o.values.isEmpty then q else q.project serializer.storedFields
      (q.check r).map fun _ => (o.choose (q.matching r s)).mapRows fun row => serializer.serialize (q.shape r s row) := by
  unfold payload
  cases o.serializer all with
  | error e => rfl
  | ok serializer =>
    simp only [bind, Except.bind, pure, Except.pure]
    generalize (if o.values.isEmpty = true then q else q.project serializer.storedFields) = q
    simp only [choose, QuerySet.pages, QuerySet.isInhabited, QuerySet.count, QuerySet.fetch, bind, Except.bind, pure, Except.pure]
    cases q.check r with
    | error e => cases o.page <;> cases o.onlyExists <;> cases o.onlyCount <;> rfl
    | ok _ =>
      cases o.page with
      | some number =>
        simp [Except.map, Payload.mapRows, Pages.of, Pages.nearest, Pages.slice, Pages.count, List.map_take, List.map_drop,
          Function.comp_def]
      | none => cases o.onlyExists <;> cases o.onlyCount <;> simp [Except.map, Payload.mapRows]

end PayloadOptions

/-! ## Lists -/

namespace ListParams

variable (p : ListParams)

/-- The query set of the rows that pass the query of a request. -/
def selected (q : QuerySet) : Outcome QuerySet :=
  match p.query with
  | some query => query.compile.map q.select
  | none => .ok q

/-- A query set ordered by some terms, told apart as a request asks for, with related rows along some paths. -/
def arranged (related : List String) (q : QuerySet) (terms : List OrderTerm) : QuerySet :=
  let ordered := if terms.isEmpty then q else q.orderBy terms
  let distinct := p.distinct.getD []
  (if distinct.isEmpty then ordered else ordered.distinctOn distinct).embedding related

variable {p}

/-- The query of a request adds filters. -/
theorem selected_ok {q selected : QuerySet} (h : p.selected q = .ok selected) :
    ∃ added, selected = { q with filters := q.filters ++ added } := by
  unfold ListParams.selected at h
  split at h
  · obtain ⟨selection, -, rfl⟩ := Outcome.map_ok_iff.1 h
    exact ⟨_, QuerySet.select_eq q selection⟩
  · cases h
    exact ⟨[], by rw [List.append_nil]⟩

end ListParams

namespace Context

variable (c : Context) (s : Store) (m : Model) (p : ListParams)

/-- The paths along which related rows are embedded; none when the prefetch trees are rejected. -/
def relatedPaths : List String := (PrefetchTree.merge c.registry m.name (p.prefetch.getD [])).toOption.getD []

/-- A stored row with the related rows that are wanted. -/
def embedded (row : Row) : Row := (QuerySet.embedding { model := m.name } (c.relatedPaths m p)).withRelated c.registry s row

/-- The record of a stored row when no fields are chosen. -/
def record (row : Row) : Row := (Serializer.ofModel m).serialize (c.embedded s m p row)

/-- The answer to a list request with the rows as they are stored. -/
def listed (q : QuerySet) : Outcome Payload := do
  let refined ← c.refine q p
  (refined.check c.registry).map fun _ => (PayloadOptions.ofParams p c.settings).choose (refined.matching c.registry s)

variable {c s m p}

/-- A query set is refined by the query of a request first; then it is ordered, told apart and embedded. -/
theorem refine_eq (q : QuerySet) : c.refine q p = do
    let related ← PrefetchTree.merge c.registry q.model (p.prefetch.getD [])
    let selected ← p.selected q
    let terms ← (p.order.getD []).mapM OrderTerm.parse
    return p.arranged related selected terms := by
  unfold refine ListParams.selected
  cases p.query <;> rfl

/-- Refining a query set leaves its model and its projection, and embeds related rows along the paths of the prefetch trees. -/
theorem refine_ok {q refined : QuerySet} (h : c.refine q p = .ok refined) :
    ∃ related, PrefetchTree.merge c.registry q.model (p.prefetch.getD []) = .ok related ∧ refined.model = q.model ∧
      refined.projection = q.projection ∧ refined.related = (q.embedding related).related := by
  rw [refine_eq] at h
  obtain ⟨related, hrelated, h⟩ := Outcome.bind_ok_iff.1 h
  obtain ⟨selected, hselected, h⟩ := Outcome.bind_ok_iff.1 h
  obtain ⟨terms, -, h⟩ := Outcome.bind_ok_iff.1 h
  obtain rfl := Outcome.pure_ok_iff.1 h
  obtain ⟨added, rfl⟩ := ListParams.selected_ok hselected
  refine ⟨related, hrelated, ?_, ?_, ?_⟩ <;> simp only [ListParams.arranged, QuerySet.embedding] <;> split <;> split <;> rfl

/-- The related rows of a request are embedded in the rows of the refined query set. -/
theorem withRelated_refined {refined : QuerySet} (h : c.refine { model := m.name } p = .ok refined) (row : Row) :
    refined.withRelated c.registry s row = c.embedded s m p row := by
  obtain ⟨related, hrelated, hmodel, -, hpaths⟩ := refine_ok h
  rw [embedded, relatedPaths, hrelated, QuerySet.withRelated, QuerySet.withRelated, hmodel, hpaths]
  rfl

/-- Without a choice of fields a list gives the record of each row. -/
theorem list_eq (hm : c.registry.model? m.name = some m) :
    c.list s { model := m.name } { p with values := none } =
      (c.listed s p { model := m.name }).map (Payload.mapRows (c.record s m p)) := by
  have hrefine : c.refine { model := m.name } { p with values := none } = c.refine { model := m.name } p := rfl
  unfold list listed
  rw [Registry.model_ok_iff.2 hm, hrefine]
  simp only [bind, Except.bind]
  cases hrefined : c.refine { model := m.name } p with
  | error e => rfl
  | ok refined =>
    obtain ⟨-, -, -, hprojection, -⟩ := refine_ok hrefined
    have hshape : ∀ row, (Serializer.ofModel m).serialize (refined.shape c.registry s row) = c.record s m p row := by
      intro row
      rw [QuerySet.shape, hprojection, withRelated_refined hrefined, record]
    simp only [PayloadOptions.payload_eq, PayloadOptions.serializer, PayloadOptions.ofParams, Option.getD_none, List.isEmpty_nil, if_true,
      bind, Except.bind, hshape]
    cases refined.check c.registry <;> rfl

/-- A list gives stored rows of its model. -/
theorem records_listed {payload : Payload} (h : c.listed s p { model := m.name } = .ok payload) :
    payload.records ⊆ s.rows m.name := by
  obtain ⟨refined, hrefined, h⟩ := Outcome.bind_ok_iff.1 h
  obtain ⟨-, -, rfl⟩ := Outcome.map_ok_iff.1 h
  obtain ⟨-, -, hmodel, -, -⟩ := refine_ok hrefined
  rw [← show refined.model = m.name from hmodel]
  exact List.Subset.trans (PayloadOptions.records_choose _ _) (QuerySet.matching_subset _ _ _)

end Context

end ModelCatalog
