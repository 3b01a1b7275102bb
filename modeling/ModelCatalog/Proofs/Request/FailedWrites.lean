import ModelCatalog.Proofs.Request.Writing
import ModelCatalog.Proofs.Store.Ledger

/-!
# Requests that fail

A request that writes a row reads it back as the client wants it, and only that can still fail then. So a request that fails leaves the
store as it was, unless the row was written and cannot be read back (`Context.IsUnreadable`): its parameters ask for related rows or fields
that there are not, or its key is that of another row as well.
-/

namespace ModelCatalog

/-! ## Requests -/

/-- A request other than those that only read. -/
inductive Request where
  | create (model : String) (values : Row) (params : ListParams)
  | update (model : String) (key : Json) (values : Row) (params : ListParams)
  | delete (model : String) (key : Json)
  | getOrCreate (model : String) (lookup defaults : Row) (params : ListParams)
  | call (model method : String) (key : Option Json) (args : Row)

namespace Request

/-- The response to the request. A call has no access to the store beyond its row. -/
def answer (c : Context) (s : Store) : Request → Response
  | create model values p => c.create s model values p
  | update model key values p => c.update s model key values p
  | delete model key => c.delete s model key
  | getOrCreate model lookup defaults p => c.getOrCreate s model lookup defaults p
  | call model method key args => { outcome := c.call s model method key args, store := s }

/-- What the request wants of the row that it answers with. -/
def params : Request → ListParams
  | create _ _ p | update _ _ _ p | getOrCreate _ _ _ p => p
  | delete _ _ | call _ _ _ _ => {}

/-- The row that the request writes, with its model and the store then; none when it gets to write no row. -/
def written? (c : Context) (s : Store) : Request → Option (Model × Row × Store)
  | create model values _ => (c.registry.model? model).bind fun m => (c.createRow s m values).toOption.map (Prod.mk m)
  | update model key values _ => (c.registry.model? model).bind fun m => (c.updateRow s m key values).toOption.map (Prod.mk m)
  | getOrCreate model lookup defaults _ => (c.registry.model? model).bind fun m =>
    match c.findRow s m lookup with
    | .ok none => (c.createRow s m (Context.valuesToCreate lookup defaults)).toOption.map (Prod.mk m)
    | _ => none
  | delete _ _ | call _ _ _ _ => none

end Request

/-- Whether a row that was written cannot be read back as its request wants it. -/
def Context.IsUnreadable (c : Context) (after : Store) (m : Model) (row : Row) (p : ListParams) : Prop :=
  (∃ f, PrefetchTree.merge c.registry m.name (p.prefetch.getD []) = .error f) ∨
    (∃ name ∈ p.values.getD [], (Serializer.ofModel m).knows name = false) ∨
    m.assignsKeys = true ∧ ∃ column, m.keyColumn = .ok column ∧
      1 < ((after.rows m.name).filter (Table.hasKey column (keyIn column row))).length

/-! ## Writing -/

namespace Context

/-- A row that a request creates is one of the submitted values that can be written. -/
theorem insertRow_of_createRow {c : Context} {s after : Store} {m : Model} {values row : Row}
    (h : c.createRow s m values = .ok (row, after)) : s.insertRow c.registry m.name (writable m values) = .ok (row, after) := by
  rw [createRow_eq] at h
  obtain ⟨_, -, h⟩ := Outcome.bind_ok_iff.1 h
  exact h

/-- A row that a request changes gets the changes for the submitted values that can be written. -/
theorem updateRow_of_updateRow {c : Context} {s after : Store} {m : Model} {key : Json} {values row : Row}
    (h : c.updateRow s m key values = .ok (row, after)) :
    s.updateRow c.registry m.name key (changesOf m values) = .ok (row, after) := by
  rw [updateRow_eq] at h
  obtain ⟨_, -, h⟩ := Outcome.bind_ok_iff.1 h
  obtain ⟨_, -, h⟩ := Outcome.bind_ok_iff.1 h
  obtain ⟨_, -, h⟩ := Outcome.bind_ok_iff.1 h
  exact h

/-- A row that a request creates is stored by a call. -/
theorem createRow_ok {c : Context} {s after : Store} (hs : s.IsReachable c.registry) {m : Model} {values row : Row}
    (h : c.createRow s m values = .ok (row, after)) : after.IsReachable c.registry ∧ row ∈ after.rows m.name := by
  have hrow := insertRow_of_createRow h
  refine ⟨hs.run (c := .create m.name (writable m values)) ?_, Store.insertRow_mem hrow⟩
  rw [Call.run_create, hrow]
  rfl

/-- A row that a request updates is stored by a call. -/
theorem updateRow_ok {c : Context} {s after : Store} (hs : s.IsReachable c.registry) {m : Model} {key : Json} {values row : Row}
    (h : c.updateRow s m key values = .ok (row, after)) : after.IsReachable c.registry ∧ row ∈ after.rows m.name := by
  have hrow := updateRow_of_updateRow h
  refine ⟨hs.run (c := .update m.name key (changesOf m values)) ?_, Store.updateRow_mem hrow⟩
  rw [Call.run_update, hrow]
  rfl

/-! ## Reading back -/

/-- A serializer cannot be reduced to fields that it does not know. -/
theorem exists_error_serializer_iff (o : PayloadOptions) (all : Serializer) :
    (∃ f, o.serializer all = .error f) ↔ ∃ name ∈ o.values, all.knows name = false := by
  have hfind : (o.values.find? fun name => !all.knows name) = none ↔ ¬ ∃ name ∈ o.values, all.knows name = false := by
    rw [List.find?_eq_none]
    simp
  unfold PayloadOptions.serializer Serializer.subset
  split
  · rename_i hempty
    rw [List.isEmpty_iff.1 hempty]
    simp
  · cases hunknown : o.values.find? fun name => !all.knows name with
    | none => simpa using hfind.1 hunknown
    | some name =>
      have hmem := List.mem_of_find?_eq_some hunknown
      have hname : all.knows name = false := by simpa using List.find?_some hunknown
      exact ⟨fun _ => ⟨name, hmem, hname⟩, fun _ => ⟨_, rfl⟩⟩

/-- One row cannot be read when a field wanted is unknown, or the row cannot be found. -/
theorem exists_error_oneRow_iff (o : PayloadOptions) (r : Registry) (s : Store) (q : QuerySet) (key : Json) (all : Serializer) :
    (∃ f, o.oneRow r s q key all = .error f) ↔
      (∃ name ∈ o.values, all.knows name = false) ∨ ∃ f, q.get r s key = .error f := by
  have hfields := exists_error_serializer_iff o all
  unfold PayloadOptions.oneRow
  rw [Outcome.bind_error_iff, ← hfields]
  cases o.serializer all with
  | error f => exact ⟨fun _ => Or.inl ⟨f, rfl⟩, fun _ => Or.inl ⟨f, rfl⟩⟩
  | ok serializer => cases q.get r s key <;> simp [pure, Except.pure, bind, Except.bind]

/-- Of the parameters only the related rows count where one row is read. -/
theorem refine_prefetch (c : Context) (q : QuerySet) (p : ListParams) :
    c.refine q { prefetch := p.prefetch, prefetch_sorted := p.prefetch_sorted } =
      (PrefetchTree.merge c.registry q.model (p.prefetch.getD [])).map q.embedding := by
  unfold refine
  simp only
  cases PrefetchTree.merge c.registry q.model (p.prefetch.getD []) <;> rfl

section

variable {c : Context} {after : Store} {m : Model} {column : String} {row : Row} (hm : c.registry.model? m.name = some m)
  (hcolumn : m.keyColumn = .ok column) (hstored : IsStored m column row) (hrow : row ∈ after.rows m.name)

include hm hcolumn hstored

/-- What is read back of a row that was written. -/
theorem writtenRow_eq (p : ListParams) :
    c.writtenRow after m row p =
      (PrefetchTree.merge c.registry m.name (p.prefetch.getD [])).map (QuerySet.embedding { model := m.name }) >>= fun q =>
        (PayloadOptions.ofParams p c.settings).oneRow c.registry after q (keyIn column row) (.ofModel m) := by
  have hkey : keyOf m row = .ok (keyIn column row) := by
    have hget := hstored.get?_key
    simp only [keyOf, hcolumn, hget, bind, Except.bind, pure, Except.pure]
  unfold writtenRow oneRow
  rw [hkey, QuerySet.of_eq hm]
  change c.registry.model m.name >>= _ = _
  rw [Registry.model_ok_iff.2 hm]
  change c.refine { model := m.name } { prefetch := p.prefetch, prefetch_sorted := p.prefetch_sorted } >>= _ = _
  rw [refine_prefetch]

include hrow

/-- A stored row is read by its key unless it shares it. -/
theorem exists_error_get_iff {q : QuerySet} (hq : q.IsPlain) (hmodel : q.model = m.name) :
    (∃ f, q.get c.registry after (keyIn column row) = .error f) ↔
      1 < ((after.rows m.name).filter (Table.hasKey column (keyIn column row))).length := by
  have hmem : row ∈ (after.rows m.name).filter (Table.hasKey column (keyIn column row)) :=
    List.mem_filter.2 ⟨hrow, hasKey_self rfl hstored.key⟩
  rw [hq.get (hmodel ▸ hm) hcolumn, hmodel]
  cases hrows : (after.rows m.name).filter (Table.hasKey column (keyIn column row)) with
  | nil =>
    rw [hrows] at hmem
    cases hmem
  | cons a rest =>
    cases rest with
    | nil => simp
    | cons b rest => simp

end

/-- Only rows of a model whose keys are assigned share a key. -/
theorem assignsKeys_of_shared {r : Registry} {s : Store} (hs : s.IsReachable r) {m : Model} {column : String}
    (hm : r.model? m.name = some m) (hcolumn : m.keyColumn = .ok column) {key : Json}
    (h : 1 < ((s.rows m.name).filter (Table.hasKey column key)).length) : m.assignsKeys = true := by
  by_contra hauto
  obtain ⟨calls, rfl⟩ := hs
  obtain ⟨htable, hmap⟩ := Ledger.of_afterCalls hm hcolumn (Bool.eq_false_iff.2 hauto) calls
  rw [← htable] at hmap
  rw [filter_eq_find? (hmap.pairwise_hasKey key)] at h
  have := Option.length_toList_le (o := (Store.rows (Store.afterCalls r calls) m.name).find? (Table.hasKey column key))
  omega

/-- A row that was written is read back exactly when it is readable. -/
theorem exists_error_writtenRow_iff {c : Context} (hr : c.registry.IsBuilt) {after : Store} (hafter : after.IsReachable c.registry)
    {m : Model} (hm : c.registry.model? m.name = some m) {row : Row} (hrow : row ∈ after.rows m.name) (p : ListParams) :
    (∃ f, c.writtenRow after m row p = .error f) ↔ c.IsUnreadable after m row p := by
  obtain ⟨f, -, -, -, column, -, hcolumn⟩ := (hr.sound hm).keyColumn
  have hstored := Store.isStored hafter hm hcolumn row hrow
  rw [writtenRow_eq hm hcolumn hstored, IsUnreadable]
  cases hmerge : PrefetchTree.merge c.registry m.name (p.prefetch.getD []) with
  | error f => exact ⟨fun _ => Or.inl ⟨f, rfl⟩, fun _ => ⟨f, rfl⟩⟩
  | ok related =>
    have hplain : (QuerySet.embedding { model := m.name } related).IsPlain := ⟨rfl, rfl, rfl, rfl⟩
    have hget := exists_error_get_iff hm hcolumn hstored hrow hplain rfl
    have hshared : 1 < ((after.rows m.name).filter (Table.hasKey column (keyIn column row))).length ↔
        m.assignsKeys = true ∧ ∃ column', m.keyColumn = .ok column' ∧
          1 < ((after.rows m.name).filter (Table.hasKey column' (keyIn column' row))).length := by
      constructor
      · intro h
        exact ⟨assignsKeys_of_shared hafter hm hcolumn h, column, hcolumn, h⟩
      · rintro ⟨-, column', hcolumn', h⟩
        rw [hcolumn] at hcolumn'
        cases hcolumn'
        exact h
    rw [← hshared, ← hget]
    change (∃ f, (PayloadOptions.ofParams p c.settings).oneRow c.registry after _ _ _ = .error f) ↔ _
    rw [exists_error_oneRow_iff]
    exact ⟨Or.inr, fun h => h.resolve_left nofun⟩

end Context

/-! ## Failing requests -/

namespace Request

/-- What holds of the response to a request: when no row was written, failing means that the store stays; when one was, the store is as it
was then, and failing means that the row cannot be read back. -/
def IsAnsweredBy (c : Context) (s : Store) (p : ListParams) (written? : Option (Model × Row × Store)) (response : Response) : Prop :=
  match written? with
  | none => (∃ f, response.outcome = .error f) → response.store = s
  | some (m, row, after) => response.store = after ∧ row ∈ after.rows m.name ∧
      ((∃ f, response.outcome = .error f) ↔ c.IsUnreadable after m row p)

/-- Writing a row and then reading it back. -/
theorem isAnsweredBy_ofWritten {c : Context} (hr : c.registry.IsBuilt) {m : Model} (hm : c.registry.model? m.name = some m) {s : Store}
    {written : Outcome (Row × Store)}
    (hwritten : ∀ row after, written = .ok (row, after) → after.IsReachable c.registry ∧ row ∈ after.rows m.name)
    (p : ListParams) (payload : Row → Payload) :
    IsAnsweredBy c s p (written.toOption.map (Prod.mk m))
      (.ofWritten s written fun row after => (c.writtenRow after m row p).map payload) := by
  cases written with
  | error f => exact fun _ => rfl
  | ok w =>
    obtain ⟨row, after⟩ := w
    obtain ⟨hafter, hrow⟩ := hwritten row after rfl
    refine ⟨rfl, hrow, ?_⟩
    rw [← Context.exists_error_writtenRow_iff hr hafter hm hrow p]
    exact Outcome.map_error_iff

/-- A request that fails leaves the store as it was, unless it wrote a row, and then it fails exactly because the row cannot be read back as
it was asked for. -/
theorem failed_requests_keep_rows {c : Context} (hr : c.registry.IsBuilt) {s : Store} (hs : s.IsReachable c.registry) (q : Request) :
    IsAnsweredBy c s q.params (q.written? c s) (q.answer c s) := by
  cases q with
  | create model values p =>
    rw [answer, written?]
    obtain ⟨f, hnone, herror⟩ | ⟨m, hm, -, rfl⟩ := c.registry.model_cases model
    · rw [Context.create, hnone, herror]
      exact fun _ => rfl
    · rw [Context.create_eq hm, hm]
      exact isAnsweredBy_ofWritten hr hm (fun _ _ h => Context.createRow_ok hs h) p .row
  | update model key values p =>
    rw [answer, written?]
    obtain ⟨f, hnone, herror⟩ | ⟨m, hm, -, rfl⟩ := c.registry.model_cases model
    · rw [Context.update, hnone, herror]
      exact fun _ => rfl
    · rw [Context.update_eq hm, hm]
      exact isAnsweredBy_ofWritten hr hm (fun _ _ h => Context.updateRow_ok hs h) p .row
  | delete model key =>
    rw [answer, written?, Context.delete_eq]
    cases s.deleteRow c.registry model key with
    | error f => exact fun _ => rfl
    | ok after =>
      rintro ⟨f, hf⟩
      cases hf
  | getOrCreate model lookup defaults p =>
    rw [answer, written?]
    obtain ⟨f, hnone, herror⟩ | ⟨m, hm, -, rfl⟩ := c.registry.model_cases model
    · rw [Context.getOrCreate, hnone, herror]
      exact fun _ => rfl
    · rw [Context.getOrCreate_eq hm, hm, Option.bind_some]
      cases c.findRow s m lookup with
      | error f => exact fun _ => rfl
      | ok found =>
        cases found with
        | none => exact isAnsweredBy_ofWritten hr hm (fun _ _ h => Context.createRow_ok hs h) p (.found · true)
        | some row => exact fun _ => rfl
  | call model method key args => exact fun _ => rfl

/-- Asking for an unknown field of a new row fails, and the row is stored. -/
theorem failed_create_keeps_note :
    ∃ (c : Context) (q : Request), c.registry.IsBuilt ∧ Store.IsReachable c.registry [] ∧
      (∃ f, (q.answer c []).outcome = .error f) ∧ (q.answer c []).store.rows "Note" ≠ [] := by
  have hr : Registry.IsBuilt { models := [Ledger.notes] } := ⟨[Ledger.notes], [], [], rfl⟩
  have hs : Store.IsReachable { models := [Ledger.notes] } [] := ⟨[], rfl⟩
  have hanswer := failed_requests_keep_rows (c := { registry := { models := [Ledger.notes] } }) hr hs
    (.create "Note" (.of [("slug", .text "a")]) { values := some ["nope"] })
  have hwritten : written? { registry := { models := [Ledger.notes] } } []
      (.create "Note" (.of [("slug", .text "a")]) { values := some ["nope"] }) =
        some (Ledger.notes, .of [("slug", .text "a"), ("title", .null)],
          .of [("Note", { rows := [.of [("slug", .text "a"), ("title", .null)]] })]) := rfl
  rw [hwritten] at hanswer
  obtain ⟨hstore, hrow, herror⟩ := hanswer
  refine ⟨{ registry := { models := [Ledger.notes] } }, .create "Note" (.of [("slug", .text "a")]) { values := some ["nope"] }, hr, hs,
    herror.2 (Or.inr (Or.inl ⟨"nope", List.mem_cons_self, rfl⟩)), ?_⟩
  rw [hstore]
  exact List.ne_nil_of_mem hrow

end Request

end ModelCatalog
