import ModelCatalog.Proofs.Store.Writes
import ModelCatalog.Request.Handlers

/-!
# Requests that write

The writes that requests make are atomic, so a request that fails before its row is written leaves the store as it was, and what else it does
is told by what it writes: `Response.ofWritten`.
-/

namespace ModelCatalog

/-- The response to a request that has written a row, with what is told of it, or has failed and left the store as it was. -/
def Response.ofWritten (s : Store) (written : Outcome (Row × Store)) (tell : Row → Store → Outcome Payload) : Response :=
  match written with
  | .error f => { outcome := .error f, store := s }
  | .ok (row, after) => { outcome := tell row after, store := after }

namespace Context

theorem respond_eq {w : Write Row} (h : w.IsAtomic) (s : Store) (tell : Row → Store → Outcome Payload) :
    respond s w tell = .ofWritten s (w.result s) tell := by
  unfold respond
  rw [h.on_eq]
  cases w.result s <;> rfl

variable {c : Context} {s : Store} {m : Model}

/-! ## Rows created -/

theorem isAtomic_rowCreation (m : Model) (values : Row) : (c.rowCreation m values).IsAtomic :=
  .lift_bind fun _ _ => Write.isAtomic_insertRow _ _ _

theorem createRow_eq (m : Model) (values : Row) :
    c.createRow s m values =
      c.registry.validate m.name (writable m values) >>= fun _ => s.insertRow c.registry m.name (writable m values) :=
  Write.result_lift_bind _ _ _

/-- A request to create a row answers with what is told of the row that is stored. -/
theorem create_eq (hm : c.registry.model? m.name = some m) (values : Row) (p : ListParams) :
    c.create s m.name values p =
      .ofWritten s (c.createRow s m values) fun row after => (c.writtenRow after m row p).map .row := by
  rw [create, Registry.model_ok_iff.2 hm]
  exact respond_eq (isAtomic_rowCreation m values) _ _

/-! ## Rows changed -/

theorem isAtomic_rowChange (m : Model) (key : Json) (values : Row) : (c.rowChange m key values).IsAtomic :=
  .lift_bind fun _ _ => .get_bind fun _ => .lift_bind fun _ _ => .lift_bind fun _ _ => Write.isAtomic_updateRow _ _ _ _

theorem updateRow_eq (m : Model) (key : Json) (values : Row) :
    c.updateRow s m key values = (do
      let q ← QuerySet.of c.registry m.name
      let stored ← q.get c.registry s key
      c.registry.validate m.name (stored.extend (changesOf m values))
      s.updateRow c.registry m.name key (changesOf m values)) := by
  refine (Write.result_lift_bind _ _ s).trans (bind_congr fun q => ?_)
  refine (Write.result_get_bind _ s).trans ?_
  refine (Write.result_lift_bind _ _ s).trans (bind_congr fun stored => ?_)
  exact Write.result_lift_bind _ _ s

/-- A request to update a row answers with what is told of the row that is stored. -/
theorem update_eq (hm : c.registry.model? m.name = some m) (key : Json) (values : Row) (p : ListParams) :
    c.update s m.name key values p =
      .ofWritten s (c.updateRow s m key values) fun row after => (c.writtenRow after m row p).map .row := by
  rw [update, Registry.model_ok_iff.2 hm]
  exact respond_eq (isAtomic_rowChange m key values) _ _

/-! ## Rows removed -/

theorem delete_eq (model : String) (key : Json) :
    c.delete s model key =
      match s.deleteRow c.registry model key with
      | .error f => { outcome := .error f, store := s }
      | .ok after => { outcome := .ok .deleted, store := after } := by
  rw [delete, (Write.isAtomic_deleteRow _ _ _).on_eq, Store.deleteRow]
  cases (Write.deleteRow c.registry model key).result s <;> rfl

/-! ## Rows found or created -/

/-- A request for the row that matches a lookup answers with that row, or with what is told of the one that is stored. -/
theorem getOrCreate_eq (hm : c.registry.model? m.name = some m) (lookup defaults : Row) (p : ListParams) :
    c.getOrCreate s m.name lookup defaults p =
      match c.findRow s m lookup with
      | .error f => { outcome := .error f, store := s }
      | .ok (some row) => { outcome := (c.writtenRow s m row p).map (.found · false), store := s }
      | .ok none => .ofWritten s (c.createRow s m (valuesToCreate lookup defaults)) fun row after =>
          (c.writtenRow after m row p).map (.found · true) := by
  simp only [getOrCreate, Registry.model_ok_iff.2 hm, bind, Except.bind, pure, Except.pure]
  cases c.findRow s m lookup with
  | error f => rfl
  | ok found =>
    cases found with
    | none => exact respond_eq (isAtomic_rowCreation m _) _ _
    | some row => rfl

end Context

end ModelCatalog
