import ModelCatalog.Proofs.Request.FailedWrites
import ModelCatalog.Proofs.Request.ReadOnly
import ModelCatalog.Proofs.Schema.Completed
import ModelCatalog.Proofs.Schema.Notation
import ModelCatalog.Proofs.Store.AssignedKeys

/-!
# Assigned keys and clients

A key that the store assigns is out of the hands of clients when they can only read its field: in every run of requests a new row gets the
count of its table and no update changes a key (`Request.KeepsKeys`), so the keys in a table are counts in the order in which they were
assigned (`Table.IsCounted`). When they can write it, they can give a row any key. Which of the two holds is a matter of how the model
came by its key (`assigned_keys_kept_iff`): the implicit one can only be read, a declared one only when its schema says so.
-/

namespace ModelCatalog

/-! ## What a request does to the store -/

/-- What a request can do to a store: nothing, or the one write it is for. -/
inductive Request.Step (c : Context) (s : Store) : Request → Store → Prop where
  | stay (q : Request) : Step c s q s
  | create {m : Model} {values row : Row} {after : Store} (p : ListParams)
      (hrow : s.insertRow c.registry m.name (Context.writable m values) = .ok (row, after))
      (hm : c.registry.model? m.name = some m) : Step c s (.create m.name values p) after
  | getOrCreate {m : Model} {lookup defaults row : Row} {after : Store} (p : ListParams)
      (hrow : s.insertRow c.registry m.name (Context.writable m (Context.valuesToCreate lookup defaults)) = .ok (row, after))
      (hm : c.registry.model? m.name = some m) : Step c s (.getOrCreate m.name lookup defaults p) after
  | update {m : Model} {key : Json} {values row : Row} {after : Store} (p : ListParams)
      (hrow : s.updateRow c.registry m.name key (Context.changesOf m values) = .ok (row, after))
      (hm : c.registry.model? m.name = some m) : Step c s (.update m.name key values p) after
  | delete {model : String} {key : Json} {after : Store} (h : s.deleteRow c.registry model key = .ok after) :
      Step c s (.delete model key) after

namespace Context

/-- The store after a request that writes is the one written, or the one before. -/
theorem store_ofWritten (s : Store) (written : Outcome (Row × Store)) (tell : Row → Store → Outcome Payload) :
    (Response.ofWritten s written tell).store = s ∨
      ∃ row after, written = .ok (row, after) ∧ (Response.ofWritten s written tell).store = after := by
  cases written with
  | error f => exact Or.inl rfl
  | ok w => exact Or.inr ⟨w.1, w.2, rfl, rfl⟩

end Context

/-- Every request takes the store one step. -/
theorem Request.step (c : Context) (s : Store) (q : Request) : Step c s q (q.answer c s).store := by
  cases q with
  | create model values p =>
    rw [answer]
    obtain ⟨f, -, herror⟩ | ⟨m, hm, -, rfl⟩ := c.registry.model_cases model
    · rw [Context.create, herror]
      exact .stay _
    · rw [Context.create_eq hm]
      rcases Context.store_ofWritten s (c.createRow s m values) _ with hstore | ⟨row, after, hrow, hstore⟩ <;> rw [hstore]
      · exact .stay _
      · exact .create p (Context.insertRow_of_createRow hrow) hm
  | update model key values p =>
    rw [answer]
    obtain ⟨f, -, herror⟩ | ⟨m, hm, -, rfl⟩ := c.registry.model_cases model
    · rw [Context.update, herror]
      exact .stay _
    · rw [Context.update_eq hm]
      rcases Context.store_ofWritten s (c.updateRow s m key values) _ with hstore | ⟨row, after, hrow, hstore⟩ <;> rw [hstore]
      · exact .stay _
      · exact .update p (Context.updateRow_of_updateRow hrow) hm
  | delete model key =>
    rw [answer, Context.delete_eq]
    cases hdelete : s.deleteRow c.registry model key with
    | error f => exact .stay _
    | ok after => exact .delete hdelete
  | getOrCreate model lookup defaults p =>
    rw [answer]
    obtain ⟨f, -, herror⟩ | ⟨m, hm, -, rfl⟩ := c.registry.model_cases model
    · rw [Context.getOrCreate, herror]
      exact .stay _
    · rw [Context.getOrCreate_eq hm]
      split
      · exact .stay _
      · exact .stay _
      · rcases Context.store_ofWritten s (c.createRow s m (Context.valuesToCreate lookup defaults)) _ with
          hstore | ⟨row, after, hrow, hstore⟩ <;> rw [hstore]
        · exact .stay _
        · exact .getOrCreate p (Context.insertRow_of_createRow hrow) hm
  | call model method key args => exact .stay _

/-! ## Keys along a run -/

/-- What becomes of the keys in a table whose store assigns them: a new row gets the count, which goes on to the next, and nothing but that
changes the count or a key that is stored. -/
def Request.KeepsKeys (column : String) (t t' : Table) : Request → Prop
  | create _ _ _ | getOrCreate _ _ _ _ => t' = t ∨ ∃ row, keyIn column row = .nat t.nextKey ∧
      t' = { rows := t.rows ++ [row], nextKey := (t.nextKey + 1) % Table.keyLimit }
  | update _ _ _ _ => t'.rows.map (keyIn column) = t.rows.map (keyIn column) ∧ t'.nextKey = t.nextKey
  | delete _ _ => t' = t ∨ ∃ place, t' = { t with rows := t.rows.eraseIdx place }
  | call _ _ _ _ => t' = t

/-- Whether the keys in a table are counts of it, in the order in which these were assigned. -/
def Table.IsCounted (column : String) (t : Table) : Prop :=
  ∃ n, t.nextKey = (n + 1) % keyLimit ∧
    (t.rows.map (keyIn column)).Sublist ((List.range n).map fun k => Json.nat ((k + 1) % keyLimit))

/-- The store after requests one after another, from the empty store. -/
def Context.afterRequests (c : Context) (requests : List Request) : Store := requests.foldl (fun s q => (q.answer c s).store) []

theorem Context.afterRequests_append (c : Context) (requests : List Request) (q : Request) :
    c.afterRequests (requests ++ [q]) = (q.answer c (c.afterRequests requests)).store := List.foldl_concat _ _ _ _

/-- Whether clients neither choose nor change keys of a model, whatever they request one after another. -/
def Registry.KeepsKeys (r : Registry) (m : Model) : Prop :=
  ∀ (c : Context) (column : String), c.registry = r → m.keyColumn = .ok column → ∀ requests q,
    Request.KeepsKeys column ((c.afterRequests requests).table m.name) ((c.afterRequests (requests ++ [q])).table m.name) q

/-- A table that a request leaves as it was keeps its keys. -/
theorem Request.keepsKeys_self (column : String) (t : Table) (q : Request) : KeepsKeys column t t q := by
  cases q with
  | create | getOrCreate | delete => exact Or.inl rfl
  | update => exact ⟨rfl, rfl⟩
  | call => rfl

/-- Counted keys stay counted as long as requests keep them. -/
theorem Request.KeepsKeys.isCounted {column : String} {t t' : Table} {q : Request} (h : q.KeepsKeys column t t')
    (ht : t.IsCounted column) : t'.IsCounted column := by
  obtain ⟨n, hnext, hkeys⟩ := ht
  have hnew : (t' = t ∨ ∃ row, keyIn column row = .nat t.nextKey ∧
      t' = { rows := t.rows ++ [row], nextKey := (t.nextKey + 1) % Table.keyLimit }) → t'.IsCounted column := by
    rintro (rfl | ⟨row, hkey, rfl⟩)
    · exact ⟨n, hnext, hkeys⟩
    · refine ⟨n + 1, ?_, ?_⟩
      · rw [hnext, Nat.mod_add_mod]
      · rw [List.range_succ, List.map_append, List.map_append, List.map_singleton, List.map_singleton, hkey, hnext]
        exact hkeys.append_right _
  cases q with
  | create | getOrCreate => exact hnew h
  | update =>
    obtain ⟨hmap, hcount⟩ := h
    exact ⟨n, hcount.trans hnext, hmap ▸ hkeys⟩
  | delete =>
    rcases h with rfl | ⟨place, rfl⟩
    · exact ⟨n, hnext, hkeys⟩
    · exact ⟨n, hnext, ((List.eraseIdx_sublist _ _).map _).trans hkeys⟩
  | call =>
    cases h
    exact ⟨n, hnext, hkeys⟩

/-- In a run of requests that keep them the keys of a model are counted. -/
theorem Registry.KeepsKeys.isCounted {c : Context} {m : Model} (h : c.registry.KeepsKeys m) {column : String}
    (hcolumn : m.keyColumn = .ok column) (requests : List Request) :
    ((c.afterRequests requests).table m.name).IsCounted column := by
  induction requests using List.reverseRecOn with
  | nil => exact ⟨0, rfl, List.Sublist.slnil⟩
  | append_singleton requests q ih => exact (h c column rfl hcolumn requests q).isCounted ih

/-! ## Keys that only can be read -/

section

variable {r : Registry} {m : Model} {column : String} (hm : r.model? m.name = some m) (hcolumn : m.keyColumn = .ok column)
  {s after : Store}

include hm hcolumn

/-- A new row of a model gets the count when it brings no key; one of another model does not matter. -/
theorem Store.insertRow_of_keyless (hsound : m.IsSound) (hauto : m.assignsKeys = true) {m' : Model} {values row : Row}
    (hm' : r.model? m'.name = some m') (hgiven : m' = m → m.given values column = none)
    (h : s.insertRow r m'.name values = .ok (row, after)) :
    after.table m.name = s.table m.name ∨ ∃ row, keyIn column row = .nat (s.table m.name).nextKey ∧
      after.table m.name = { rows := s.rows m.name ++ [row], nextKey := ((s.table m.name).nextKey + 1) % Table.keyLimit } := by
  obtain ⟨m₀, columns, column', hm₀, hcols, hcolumn', h⟩ := Store.insertRow_ok_iff.1 h
  by_cases hname : m'.name = m.name
  · obtain rfl := Option.some.inj ((hname ▸ hm').symm.trans hm)
    obtain ⟨rfl, rfl⟩ := Registry.model?_keyColumn_unique hm hcolumn hm₀ hcolumn'
    rcases h with ⟨-, -, rfl, rfl⟩ | ⟨hkey, -⟩
    · refine Or.inr ⟨_, ?_, (Store.table_insert _ _ _ _).trans (if_pos rfl)⟩
      rw [keyIn, Dict.get?_insert_self]
      rfl
    · rw [keyIn_complete hcols, hsound.newRecord_key hcolumn hauto (hgiven rfl)] at hkey
      cases hkey
  · rcases h with ⟨-, -, -, rfl⟩ | ⟨-, -, -, rfl⟩ <;> exact Or.inl ((Store.table_insert _ _ _ _).trans (if_neg hname))

/-- Changes to a row of a model leave the keys as they are when they bring none; those to a row of another do not matter. -/
theorem Store.updateRow_of_keyless {m' : Model} {key : Json} {values row : Row} (hm' : r.model? m'.name = some m')
    (hgiven : m' = m → m.given values column = none) (h : s.updateRow r m'.name key values = .ok (row, after)) :
    (after.rows m.name).map (keyIn column) = (s.rows m.name).map (keyIn column) ∧
      (after.table m.name).nextKey = (s.table m.name).nextKey := by
  obtain ⟨m₀, changes, column', place, hm₀, hchanges, hcolumn', hplace, -, rfl, rfl⟩ := Store.updateRow_ok_iff.1 h
  by_cases hname : m'.name = m.name
  · obtain rfl := Option.some.inj ((hname ▸ hm').symm.trans hm)
    obtain ⟨rfl, rfl⟩ := Registry.model?_keyColumn_unique hm hcolumn hm₀ hcolumn'
    obtain ⟨hlt, -, -⟩ := List.findIdx?_eq_some_iff_getElem.1 hplace
    change place < (s.rows m'.name).length at hlt
    have hold : (s.rows m'.name)[place]? = some (s.rows m'.name)[place] := List.getElem?_eq_getElem hlt
    have hkey : keyIn column ((s.rows m'.name)[place].extend changes) = keyIn column (s.rows m'.name)[place] := by
      rw [keyIn, Dict.get?_extend_entries, Model.get?_toColumns hchanges, hgiven rfl, Option.none_or]
      rfl
    rw [Store.rows, Store.table_insert, if_pos rfl, hold, Option.getD_some]
    exact ⟨map_set_of_eq hlt hkey, rfl⟩
  · rw [Store.rows, Store.table_insert, if_neg hname]
    exact ⟨rfl, rfl⟩

end

/-- Requests keep the keys of a model when clients can only read its key. -/
theorem Request.Step.keepsKeys {c : Context} {m : Model} {column : String} (hm : c.registry.model? m.name = some m)
    (hsound : m.IsSound) (hcolumn : m.keyColumn = .ok column) (hauto : m.assignsKeys = true) (hreadOnly : m.IsReadOnlyColumn column)
    {s after : Store} {q : Request} (h : Step c s q after) : q.KeepsKeys column (s.table m.name) (after.table m.name) := by
  have hgiven : ∀ values, m.given (Context.writable m values) column = none := fun values =>
    Context.given_writable_eq_none hsound (Or.inl hreadOnly)
  cases h with
  | stay => exact keepsKeys_self _ _ _
  | create p hrow hm' => exact Store.insertRow_of_keyless hm hcolumn hsound hauto hm' (fun heq => heq ▸ hgiven _) hrow
  | getOrCreate p hrow hm' => exact Store.insertRow_of_keyless hm hcolumn hsound hauto hm' (fun heq => heq ▸ hgiven _) hrow
  | update p hrow hm' =>
    refine Store.updateRow_of_keyless hm hcolumn hm' (fun heq => ?_) hrow
    subst heq
    obtain ⟨_, changes, _, _, hm₀, hchanges, -⟩ := Store.updateRow_ok_iff.1 hrow
    obtain rfl := Option.some.inj (hm.symm.trans hm₀)
    rw [← Model.get?_toColumns hchanges, Context.toColumns_changesOf hsound hchanges, Context.get?_changesOf hsound hchanges]
    exact hgiven _
  | @delete model key after hdelete =>
    obtain ⟨_, _, place, -, -, -, rfl⟩ := Store.deleteRow_ok_iff.1 hdelete
    rw [Store.table_insert]
    by_cases hname : model = m.name
    · subst hname
      rw [if_pos rfl]
      exact Or.inr ⟨place, rfl⟩
    · rw [if_neg hname]
      exact Or.inl rfl

/-! ## Keys that can be written -/

/-- A key that the store assigns is a plain field. -/
theorem Model.IsSound.exists_assigned_key {m : Model} (hsound : m.IsSound) (hauto : m.assignsKeys = true) {column : String}
    (hcolumn : m.keyColumn = .ok column) : ∃ k : Column, Field.plain k ∈ m.fields ∧ k.primaryKey = true ∧ k.name = column := by
  obtain ⟨f, hf, hkey, hfind, column', hfc, hcolumn'⟩ := hsound.keyColumn
  obtain rfl := Except.ok.inj (hcolumn.symm.trans hcolumn')
  cases f with
  | plain k => exact ⟨k, hf, hkey, Option.some.inj hfc⟩
  | reference | inverse | links =>
    rw [assignsKeys, hfind] at hauto
    cases hauto

namespace Store

section

variable {r : Registry} {m : Model} (hm : r.model? m.name = some m) {column : String} (hcolumn : m.keyColumn = .ok column) {s : Store}
  {old : Row} (hrows : s.rows m.name = [old]) {key : Json} (hkey : keyIn column old = key) (hnull : key.isNull = false)

include hm hcolumn hrows hkey hnull

/-- The only row of a table is read by its key. -/
theorem get_of_only : QuerySet.get r s { model := m.name } key = .ok old := by
  rw [QuerySet.get_eq_ok_iff hm hcolumn, hrows, List.filter_cons_of_pos (hasKey_self hkey hnull), List.filter_nil]

/-- The only row of a table gets any key that is not null. -/
theorem updateRow_of_only {values changes : Row} (hchanges : m.toColumns values = .ok changes)
    (hnew : ∀ new, changes.get? column = some new → new.isNull = false) :
    ∃ after, s.updateRow r m.name key values = .ok (old.extend changes, after) ∧
      after.rows m.name = [old.extend changes] := by
  have hplace : (s.table m.name).position? column key = some 0 := by
    change (s.rows m.name).findIdx? _ = _
    rw [hrows, List.findIdx?_cons, if_pos (hasKey_self hkey hnull)]
  have hfree : Store.checkNewKey (s.table m.name) column 0 changes = .ok () := by
    refine Store.checkNewKey_ok_iff.2 fun new h => ⟨hnew new h, fun other hother => ?_⟩
    obtain ⟨hlt, -, -⟩ := List.findIdx?_eq_some_iff_getElem.1 hother
    change other < (s.rows m.name).length at hlt
    rw [hrows] at hlt
    exact Nat.lt_one_iff.1 hlt
  refine ⟨_, Store.updateRow_ok_iff.2 ⟨m, changes, column, 0, hm, hchanges, hcolumn, hplace, hfree, by rw [hrows]; rfl, rfl⟩, ?_⟩
  rw [Store.rows, Store.table_insert, if_pos rfl, hrows]
  rfl

end

end Store

section

variable {m : Model} (hsound : m.IsSound) {k : Column} (hk : Field.plain k ∈ m.fields)

include hsound hk

theorem Model.IsSound.fieldAnsweringTo?_plain : m.fieldAnsweringTo? k.name = some (.plain k) :=
  hsound.fieldAnsweringTo?_of_mem hk List.mem_cons_self

/-- Every value of a plain field has its column. -/
theorem Model.IsSound.toColumns_plain (value : Json) : m.toColumns (.of [(k.name, value)]) = .ok (.of [(k.name, value)]) := by
  have hcolumn : m.columnFor? k.name value = some k.name := by
    rw [columnFor?, hsound.fieldAnsweringTo?_plain hk]
    rfl
  rw [toColumns, Dict.entries_of_singleton, List.foldlM_cons, hcolumn]
  rfl

theorem Context.writable_plain (hwritable : k.readOnly = false) (value : Json) :
    writable m (.of [(k.name, value)]) = .of [(k.name, value)] := by
  refine Dict.entries_injective (List.filter_eq_self.2 fun e he => ?_)
  rw [List.mem_singleton.1 he, hsound.fieldAnsweringTo?_plain hk, Option.any_some, Field.isReadOnly, hwritable]
  rfl

theorem Context.changesOf_plain (hwritable : k.readOnly = false) (value : Json) :
    changesOf m (.of [(k.name, value)]) = .of [(k.name, value)] := by
  rw [changesOf, writable_plain hsound hk hwritable, Dict.map, Dict.entries_of_singleton, List.map_singleton, Model.column?,
    hsound.fieldAnsweringTo?_plain hk]
  rfl

end

namespace Context

section

variable {c : Context} {m : Model} (hm : c.registry.model? m.name = some m) (hsound : m.IsSound)
  (hunchecked : c.registry.validatorsOf m.name = [])

include hm hunchecked

/-- Without validators a row is created as the store takes it. -/
theorem create_of_insertRow {s after : Store} {values row : Row} (p : ListParams)
    (h : s.insertRow c.registry m.name (writable m values) = .ok (row, after)) : (c.create s m.name values p).store = after := by
  have hvalid : c.registry.validate m.name (writable m values) = .ok () := by
    rw [Registry.validate, hunchecked]
    rfl
  rw [create_eq hm, createRow_eq, hvalid]
  change (Response.ofWritten s (s.insertRow c.registry m.name (writable m values)) _).store = after
  rw [h]
  rfl

include hsound

/-- Without validators the only row with a key is changed as the store takes it. -/
theorem update_of_updateRow {s after : Store} {key : Json} {values stored row : Row} (p : ListParams)
    (hget : QuerySet.get c.registry s { model := m.name } key = .ok stored)
    (h : s.updateRow c.registry m.name key (changesOf m values) = .ok (row, after)) :
    (c.update s m.name key values p).store = after := by
  have hvalid : c.registry.validate m.name row = .ok () := by
    rw [Registry.validate, hunchecked]
    rfl
  rw [update_eq hm, (updateRow_ok_iff hm hsound).2 ⟨⟨stored, hget⟩, h, hvalid⟩]
  rfl

variable (hauto : m.assignsKeys = true) {column : String} (hcolumn : m.keyColumn = .ok column)
  (hwritable : ¬ m.IsReadOnlyColumn column) {key : Json} (hkey : key.isNull = false)

include hauto hcolumn hwritable hkey

/-- A client that can write the key of a model gives a new row any key. -/
theorem create_with_key : ∃ row, (c.afterRequests [.create m.name (.of [(column, key)]) {}]).rows m.name = [row] ∧
    keyIn column row = key := by
  obtain ⟨k, hk, -, rfl⟩ := hsound.exists_assigned_key hauto hcolumn
  have hreadOnly : k.readOnly = false := Bool.eq_false_iff.2 fun h => hwritable ⟨_, hk, h, rfl⟩
  have hnew : keyIn k.name (m.complete (.of [(k.name, key)])) = key := by
    rw [keyIn, Model.get?_complete, Dict.get?_of_singleton]
    rfl
  obtain ⟨after, hrow⟩ : ∃ after, Store.insertRow c.registry [] m.name (writable m (.of [(k.name, key)])) =
      .ok (m.complete (.of [(k.name, key)]), after) := by
    rw [writable_plain hsound hk hreadOnly]
    exact ⟨_, Store.insertRow_ok_iff.2 ⟨m, _, k.name, hm, hsound.toColumns_plain hk key, hcolumn,
      Or.inr ⟨hnew.symm ▸ hkey, rfl, rfl, rfl⟩⟩⟩
  refine ⟨_, ?_, hnew⟩
  change Store.rows (c.create [] m.name (.of [(k.name, key)]) {}).store m.name = _
  rw [create_of_insertRow hm hunchecked {} hrow]
  exact Store.rows_insertRow hrow

/-- A client that can write the key of a model changes it to any key. -/
theorem update_with_key : ∃ row,
    (c.afterRequests [.create m.name [] {}, .update m.name (.nat 1) (.of [(column, key)]) {}]).rows m.name = [row] ∧
      keyIn column row = key := by
  obtain ⟨k, hk, -, rfl⟩ := hsound.exists_assigned_key hauto hcolumn
  have hreadOnly : k.readOnly = false := Bool.eq_false_iff.2 fun h => hwritable ⟨_, hk, h, rfl⟩
  obtain ⟨old, s, hold, hinsert⟩ : ∃ (old : Row) (s : Store), keyIn k.name old = .nat 1 ∧
      Store.insertRow c.registry [] m.name [] = .ok (old, s) := by
    obtain ⟨old, hold, hinsert⟩ := insertRow_empty hm hcolumn hsound hauto []
    exact ⟨old, _, hold, hinsert⟩
  obtain ⟨after, hupdate, hafter⟩ := Store.updateRow_of_only hm hcolumn (Store.rows_insertRow hinsert) hold rfl
    (hsound.toColumns_plain hk key) fun new hnew => by
      rw [Dict.get?_of_singleton, Option.some.injEq] at hnew
      exact hnew ▸ hkey
  have hchanged : s.updateRow c.registry m.name (.nat 1) (changesOf m (.of [(k.name, key)])) = .ok (old.insert k.name key, after) := by
    rw [changesOf_plain hsound hk hreadOnly]
    exact hupdate
  have hget := Store.get_of_only hm hcolumn (Store.rows_insertRow hinsert) hold rfl
  refine ⟨old.insert k.name key, ?_, ?_⟩
  · change Store.rows (c.update (c.create [] m.name [] {}).store m.name (.nat 1) (.of [(k.name, key)]) {}).store m.name = _
    have hcreated : (c.create [] m.name [] {}).store = s := create_of_insertRow hm hunchecked {} hinsert
    rw [hcreated, update_of_updateRow hm hsound hunchecked {} hget hchanged]
    exact hafter
  · rw [keyIn, Dict.get?_insert_self]
    rfl

end

end Context

/-! ## Registries of schemas -/

section

variable {r : Registry} {m : Model} (hm : r.model? m.name = some m) (hsound : m.IsSound) (hauto : m.assignsKeys = true)
  {column : String} (hcolumn : m.keyColumn = .ok column)

include hm hsound hauto hcolumn

theorem Registry.keepsKeys_of_readOnly (hreadOnly : m.IsReadOnlyColumn column) : r.KeepsKeys m := by
  rintro c column' rfl hcolumn' requests q
  obtain rfl := Except.ok.inj (hcolumn.symm.trans hcolumn')
  rw [Context.afterRequests_append]
  exact (Request.step c _ q).keepsKeys hm hsound hcolumn hauto hreadOnly

/-- A key that was chosen is not a count, so keys that can be written are not kept. -/
theorem Registry.keepsKeys_iff (hunchecked : r.validatorsOf m.name = []) : r.KeepsKeys m ↔ m.IsReadOnlyColumn column := by
  refine ⟨fun hkeeps => ?_, keepsKeys_of_readOnly hm hsound hauto hcolumn⟩
  by_contra hwritable
  have hnull : (Json.bool true).isNull = false := rfl
  obtain ⟨row, hrows, hkey⟩ :=
    Context.create_with_key (c := { registry := r }) hm hsound hunchecked hauto hcolumn hwritable hnull
  rcases hkeeps { registry := r } column rfl hcolumn [] (.create m.name (.of [(column, .bool true)]) {}) with
    hsame | ⟨row', hcount, hafter⟩
  · rw [Store.rows, ← List.nil_append [Request.create _ _ _], hsame] at hrows
    cases hrows
  · rw [Store.rows, ← List.nil_append [Request.create _ _ _], hafter] at hrows
    obtain rfl : row' = row := List.singleton_inj.1 hrows
    rw [hkey] at hcount
    cases hcount

end

/-- Building a registry without validators gives one without. -/
theorem Registry.validators_of_build {models : List Model} {r : Registry} (h : build models = .ok r) : r.validators = [] := by
  obtain ⟨completed, -, h⟩ := Outcome.bind_ok_iff.1 h
  cases h
  rfl

/-- A completed model gets the key that it declares, or one that clients can only read. -/
theorem Model.keys_completedAmong (models : List Model) (d : Model) :
    (∀ f ∈ (completedAmong models d).fields, f.isPrimaryKey = true → f.isReadOnly = true) ↔
      ∀ f ∈ d.fields, f.isPrimaryKey = true → f.isReadOnly = true := by
  have hfields : (completedAmong models d).fields = d.keyedFields ++ (inversesAmong models d.name).map .inverse := rfl
  have hinverses : ∀ f ∈ (inversesAmong models d.name).map Field.inverse, f.isPrimaryKey = true → f.isReadOnly = true := by
    intro f hf _
    obtain ⟨i, -, rfl⟩ := List.mem_map.1 hf
    rfl
  rw [hfields, List.forall_mem_append, and_iff_left hinverses, keyedFields]
  split
  · exact Iff.rfl
  · rw [List.forall_mem_cons, and_iff_right]
    exact fun _ => rfl

/-- Whether clients can only read the key of a model. -/
theorem Model.IsSound.isReadOnlyColumn_key_iff {m : Model} (hsound : m.IsSound) {column : String} (hcolumn : m.keyColumn = .ok column) :
    m.IsReadOnlyColumn column ↔ ∀ f ∈ m.fields, f.isPrimaryKey = true → f.isReadOnly = true := by
  obtain ⟨f, hf, hkey, hfind, column', hfc, hcolumn'⟩ := hsound.keyColumn
  obtain rfl := Except.ok.inj (hcolumn.symm.trans hcolumn')
  constructor
  · rintro ⟨g, hg, hreadOnly, hgc⟩ f' hf' hkey'
    obtain rfl := Option.some.inj ((hsound.keyField?_eq_some hf' hkey').symm.trans hfind)
    rwa [hsound.eq_of_column hf' hg hfc hgc]
  · exact fun h => ⟨f, hf, h f hf hkey, hfc⟩

/-- Whether no key in the text of a schema that the store assigns says whether clients can only read it. -/
def Schema.LeavesKeysOpen (value : Json) : Prop :=
  ∀ v ∈ fieldValues value, ∀ k, Field.read? v = some (.plain k) → k.primaryKey = true → k.kind.isAuto = true →
    ¬ Field.SaysReadOnly v

/-- A key that a model declares is a plain field of its own whose kind the store assigns, when the store assigns the model's keys. -/
theorem Model.exists_declared_key {models : List Model} {d : Model} (hsound : (completedAmong models d).IsSound)
    (hauto : (completedAmong models d).assignsKeys = true) {f : Field} (hf : f ∈ d.fields) (hkey : f.isPrimaryKey = true) :
    ∃ k, f = .plain k ∧ k.primaryKey = true ∧ k.kind.isAuto = true := by
  have hkeyed : d.keyedFields = d.fields := if_pos (List.any_eq_true.2 ⟨f, hf, hkey⟩)
  have hmem : f ∈ (completedAmong models d).fields := List.mem_append_left _ (by rwa [withOwnKey, hkeyed])
  rw [assignsKeys, hsound.keyField?_eq_some hmem hkey] at hauto
  cases f with
  | plain k => exact ⟨k, rfl, hkey, hauto⟩
  | reference | inverse | links => cases hauto

/-- Clients neither choose nor change the keys of a model that the store assigns exactly when its key, if it declares one, can only be read
by them: then the keys in its table are counts in every run, and otherwise every key can be chosen for a new row and given to an old one. So
where a schema does not say of keys whether they can only be read, the keys kept are those of the models that declare none. -/
theorem assigned_keys_kept_iff {text : String} {schema : Schema} (hparse : Schema.parse text = .ok schema) {r : Registry}
    (hr : Registry.ofText text = .ok r) {d m : Model} (hd : d ∈ schema.models) (hm : r.model? d.name = some m)
    (hauto : m.assignsKeys = true) :
    (r.KeepsKeys m ↔ ∀ f ∈ d.fields, f.isPrimaryKey = true → f.isReadOnly = true) ∧
    (∀ (c : Context) (column : String), c.registry = r → m.keyColumn = .ok column →
      (r.KeepsKeys m → ∀ requests, ((c.afterRequests requests).table m.name).IsCounted column) ∧
      (¬ r.KeepsKeys m → ∀ key : Json, key.isNull = false →
        (∃ row, (c.afterRequests [.create m.name (.of [(column, key)]) {}]).rows m.name = [row] ∧ keyIn column row = key) ∧
        ∃ row, (c.afterRequests [.create m.name [] {}, .update m.name (.nat 1) (.of [(column, key)]) {}]).rows m.name = [row] ∧
          keyIn column row = key)) ∧
    ∀ value, Json.read? Schema.outline text = some value → Schema.LeavesKeysOpen value →
      (r.KeepsKeys m ↔ ∀ f ∈ d.fields, f.isPrimaryKey = false) := by
  have hbuild : Registry.build schema.models = .ok r := by
    obtain ⟨schema', hparse', hbuild⟩ := Outcome.bind_ok_iff.1 hr
    rwa [Except.ok.inj (hparse.symm.trans hparse')]
  have hbuilt : r.IsBuilt := ⟨schema.models, [], [], hbuild⟩
  obtain rfl : m = Model.completedAmong schema.models d := by
    have hmem : Model.completedAmong schema.models d ∈ r.models := by
      rw [Registry.completeModels_eq (Registry.completeModels_of_build hbuild)]
      exact List.mem_map_of_mem hd
    exact Option.some.inj (hm.symm.trans (hbuilt.model?_of_mem hmem))
  have hsound := hbuilt.sound hm
  have hunchecked : r.validatorsOf d.name = [] := by
    rw [Registry.validatorsOf, Registry.validators_of_build hbuild]
    rfl
  have hiff : ∀ column, (Model.completedAmong schema.models d).keyColumn = .ok column →
      (r.KeepsKeys (Model.completedAmong schema.models d) ↔ (Model.completedAmong schema.models d).IsReadOnlyColumn column) :=
    fun column hcolumn => Registry.keepsKeys_iff hm hsound hauto hcolumn hunchecked
  have hkeeps : r.KeepsKeys (Model.completedAmong schema.models d) ↔
      ∀ f ∈ d.fields, f.isPrimaryKey = true → f.isReadOnly = true := by
    obtain ⟨-, -, -, -, column, -, hcolumn⟩ := hsound.keyColumn
    rw [hiff column hcolumn, hsound.isReadOnlyColumn_key_iff hcolumn, Model.keys_completedAmong]
  refine ⟨hkeeps, ?_, fun value hvalue hopen => ?_⟩
  · rintro c column rfl hcolumn
    refine ⟨fun h => h.isCounted hcolumn, fun h key hkey => ?_⟩
    rw [hiff column hcolumn] at h
    exact ⟨Context.create_with_key hm hsound hunchecked hauto hcolumn h hkey,
      Context.update_with_key hm hsound hunchecked hauto hcolumn h hkey⟩
  · obtain ⟨value', hvalue', hread⟩ := Schema.parse_ok_iff.1 hparse
    obtain rfl := Option.some.inj (hvalue.symm.trans hvalue')
    rw [hkeeps]
    refine forall₂_congr fun f hf => ⟨fun h => ?_, fun h hkey => ?_⟩
    · by_contra hkey
      rw [Bool.not_eq_false] at hkey
      obtain ⟨k, rfl, hprimary, hkind⟩ := Model.exists_declared_key hsound hauto hf hkey
      obtain ⟨v, hv, hfield⟩ := Schema.exists_fieldValue hread hd hf
      have hreadOnly : k.readOnly = true := h hkey
      rw [Field.readOnly_eq_false hfield (hopen v hv k hfield hprimary hkind)] at hreadOnly
      cases hreadOnly
    · rw [h] at hkey
      cases hkey

/-- A thing, which declares its key. -/
def thing : Model where
  name := "Thing"
  fields := [.plain { name := "key", kind := .scalar .auto, primaryKey := true }]

/-- A schema that does not say of the key of things whether clients can only read it, and has notes, which declare no key. -/
def thingsAndNotes : String :=
  "\x7b\"models\": [\x7b\"name\": \"Thing\", \"fields\": [\x7b\"field\": \"concrete\", \"name\": \"key\", " ++
    "\"kind\": \x7b\"type\": \"AutoField\"\x7d, \"primary_key\": true\x7d]\x7d, \x7b\"name\": \"Note\"\x7d]\x7d"

/-- The value of the field of things in that schema. -/
def thingKeyValue : Json :=
  .object [("field", .text "concrete"), ("name", .text "key"), ("kind", .object [("type", .text "AutoField")]),
    ("primary_key", .bool true)]

set_option maxRecDepth 2000 in
/-- Clients choose the key of a thing, and change it, but have no say in that of a note. -/
theorem thing_keys_chosen :
    ∃ r value, Registry.ofText thingsAndNotes = .ok r ∧ Json.read? Schema.outline thingsAndNotes = some value ∧
      Schema.LeavesKeysOpen value ∧ ¬ r.KeepsKeys thing ∧ r.KeepsKeys (Model.withOwnKey { name := "Note" }) ∧
      (∃ row, (Context.afterRequests { registry := r } [.create "Thing" (.of [("key", .nat 7)]) {}]).rows "Thing" = [row] ∧
        keyIn "key" row = .nat 7) := by
  have hvalue : Json.read? Schema.outline thingsAndNotes = some (.object [("models", .list
      [.object [("name", .text "Thing"), ("fields", .list [thingKeyValue])], .object [("name", .text "Note")]])]) := by
    with_unfolding_all rfl
  have hparse : Schema.parse thingsAndNotes = .ok { models := [thing, { name := "Note" }] } :=
    Schema.parse_ok_iff.2 ⟨_, hvalue, rfl⟩
  have hr : Registry.ofText thingsAndNotes = .ok { models := [thing, Model.withOwnKey { name := "Note" }] } :=
    Outcome.bind_ok_iff.2 ⟨_, hparse, rfl⟩
  have hopen : Schema.LeavesKeysOpen (.object [("models", .list
      [.object [("name", .text "Thing"), ("fields", .list [thingKeyValue])], .object [("name", .text "Note")]])]) := by
    intro v hv k _ _ _ hexplicit
    obtain rfl : v = thingKeyValue := List.mem_singleton.1 hv
    exact hexplicit rfl
  obtain ⟨-, hruns, hthing⟩ := assigned_keys_kept_iff hparse hr (d := thing) (m := thing) List.mem_cons_self rfl rfl
  obtain ⟨-, -, hnote⟩ := assigned_keys_kept_iff hparse hr (d := { name := "Note" }) (List.mem_cons_of_mem _ List.mem_cons_self) rfl rfl
  have hchosen : ¬ Registry.KeepsKeys { models := [thing, Model.withOwnKey { name := "Note" }] } thing := by
    rw [hthing _ hvalue hopen]
    exact fun h => Bool.noConfusion (h _ List.mem_cons_self)
  exact ⟨_, _, hr, hvalue, hopen, hchosen, (hnote _ hvalue hopen).2 nofun,
    ((hruns { registry := _ } "key" rfl rfl).2 hchosen (.nat 7) rfl).1⟩

end ModelCatalog
