import ModelCatalog.Proofs.Json.Dict
import ModelCatalog.Proofs.Outcome
import ModelCatalog.Proofs.Schema.Built
import ModelCatalog.Store.QuerySet

/-!
# Reading rows

What a query set gives. When nothing is filtered, ordered or left out (`IsPlain`) its rows are those of the table, and `get` gives the only
one with the key. Filters keep the rows that pass them all (`fetch_filters`), embedding takes nothing away from a row (`contains_embed`), and
all rows of a query set are stored ones (`matching_subset`).
-/

namespace ModelCatalog

namespace QuerySet

/-- A query set that wants all rows of its model, in the order of the table and with all their fields. -/
structure IsPlain (q : QuerySet) : Prop where
  filters : q.filters = []
  order : q.order = []
  distinct : q.distinct = none
  projection : q.projection = none

theorem isPlain_of (model : String) : IsPlain { model } := ⟨rfl, rfl, rfl, rfl⟩

variable {r : Registry} {s : Store} {q : QuerySet}

theorem IsPlain.check (h : q.IsPlain) : q.check r = .ok () := by
  rw [QuerySet.check, paths, h.filters, h.order, h.distinct, h.projection]
  rfl

theorem IsPlain.matching (h : q.IsPlain) : q.matching r s = s.rows q.model := by
  have haccepts : ∀ row, q.accepts r s row = true := fun row => by
    rw [accepts, h.filters]
    rfl
  unfold QuerySet.matching
  rw [h.order, h.distinct]
  exact List.filter_eq_self.2 fun row _ => haccepts row

/-- The rows of a plain query set with a key decide what `get` gives. -/
theorem IsPlain.get (h : q.IsPlain) {m : Model} {column : String} (hm : r.model? q.model = some m)
    (hcolumn : m.keyColumn = .ok column) (key : Json) :
    q.get r s key = match (s.rows q.model).filter (Table.hasKey column key) with
      | [] => .error (.noRow q.model key)
      | [row] => .ok (q.shape r s row)
      | _ => .error (.manyRows q.model key) := by
  unfold QuerySet.get
  rw [h.check, Registry.model_ok_iff.2 hm, h.matching]
  change (m.keyColumn >>= _) = _
  rw [hcolumn]
  rfl

/-- Among all rows of a model `get` gives the row with a key, when it is the only one. -/
theorem get_eq_ok_iff {m : Model} {column : String} (hm : r.model? m.name = some m) (hcolumn : m.keyColumn = .ok column) {key : Json}
    {row : Row} : QuerySet.get r s { model := m.name } key = .ok row ↔ (s.rows m.name).filter (Table.hasKey column key) = [row] := by
  rw [(isPlain_of m.name).get hm hcolumn]
  change (match (s.rows m.name).filter (Table.hasKey column key) with
    | [] => _
    | [row] => Except.ok row
    | _ => _) = _ ↔ _
  cases (s.rows m.name).filter (Table.hasKey column key) with
  | nil => simp
  | cons a rest => cases rest <;> simp

theorem of_eq {m : Model} {model : String} (hm : r.model? model = some m) : QuerySet.of r model = .ok { model } := by
  rw [QuerySet.of, Registry.model_ok_iff.2 hm]
  rfl

/-! ## Filters -/

/-- Conditions that hold of the same rows and are about the same paths are filters for the same rows. -/
theorem fetch_congr_filters {base : QuerySet} {as bs : List Condition}
    (hholds : ∀ resolve, (as.all fun c => c.holds resolve) = bs.all fun c => c.holds resolve)
    (hpaths : as.flatMap Condition.paths = bs.flatMap Condition.paths) (r : Registry) (s : Store) :
    fetch r s { base with filters := base.filters ++ as } = fetch r s { base with filters := base.filters ++ bs } := by
  have haccepts : accepts r s { base with filters := base.filters ++ as } = accepts r s { base with filters := base.filters ++ bs } := by
    funext row
    rw [accepts, accepts, List.all_append, List.all_append, hholds]
  unfold fetch check matching paths shape withRelated
  rw [haccepts]
  simp only [List.flatMap_append, hpaths]

/-- What some filters leave of the rows of a model, when their paths make sense. -/
theorem fetch_filters (r : Registry) (s : Store) (model : String) (filters : List Condition) :
    fetch r s { model, filters } = ((filters.flatMap Condition.paths).forM (r.checkPath model)).map fun _ =>
      (s.rows model).filter fun row => filters.all fun c => c.holds (s.valuesAt r model row) := by
  have hpaths : paths { model, filters } = filters.flatMap Condition.paths := by simp [paths]
  have hshape : shape r s { model, filters } = id := rfl
  rw [fetch, check, hpaths, hshape]
  cases (filters.flatMap Condition.paths).forM (r.checkPath model) with
  | error e => rfl
  | ok _ => exact congrArg Except.ok (List.map_id _)

/-- Rows in which nothing is embedded, and of which all fields are wanted, are given as they are stored. -/
theorem shape_eq_id (hrelated : q.related = []) (hprojection : q.projection = none) : q.shape r s = id := by
  funext row
  rw [shape, hprojection, withRelated, hrelated]
  rfl

theorem firstOfEach_sublist (key : Row → String) (seen : List String) (rows : List Row) :
    (firstOfEach key seen rows).Sublist rows := by
  induction rows generalizing seen with
  | nil => exact List.Sublist.refl []
  | cons row rows ih =>
    unfold firstOfEach
    split
    · exact (ih seen).cons row
    · exact (ih _).cons_cons row

/-- The rows of a query set are stored rows of its model. -/
theorem matching_subset (r : Registry) (s : Store) (q : QuerySet) : q.matching r s ⊆ s.rows q.model := by
  have hsorted : ∀ le : Row → Row → Bool, (if q.order.isEmpty then (s.rows q.model).filter (q.accepts r s)
      else ((s.rows q.model).filter (q.accepts r s)).mergeSort le) ⊆ s.rows q.model := by
    intro le
    split
    · exact List.filter_subset_self _
    · exact fun row hrow => List.filter_subset_self _ (List.mem_mergeSort.1 hrow)
  unfold matching
  cases q.distinct with
  | none => exact hsorted _
  | some paths => exact List.Subset.trans (firstOfEach_sublist _ _ _).subset (hsorted _)

/-! ## Embedded rows and projections -/

/-- The fields to project to are checked after all other paths. -/
theorem check_project {q : QuerySet} (h : q.projection = none) (r : Registry) (fields : List String) :
    (q.project fields).check r = q.check r >>= fun _ => fields.forM (r.checkPath q.model) := by
  rw [check, check, paths, paths, h]
  simp only [project, Option.getD_some, Option.getD_none, List.append_nil, List.forM_eq_forM, List.forM_append]

/-- Embedding takes nothing away. -/
theorem contains_embed {model : String} {segments : List String} {row : Row} {name : String}
    (h : row.contains name = true) : (embed r s model segments row).contains name = true := by
  cases segments with
  | nil => exact h
  | cons segment rest =>
    unfold embed
    split
    · exact Dict.contains_insert h _ _
    · exact Dict.contains_insert h _ _
    · exact h

theorem contains_withRelated {row : Row} {name : String} (h : row.contains name = true) : (withRelated r s q row).contains name = true := by
  unfold withRelated
  induction q.related generalizing row with
  | nil => exact h
  | cons path related ih => exact ih (contains_embed h)

/-- The paths to embed are those from before and those that are added. -/
theorem mem_related_embedding {q : QuerySet} {paths : List String} {path : String} :
    path ∈ (q.embedding paths).related ↔ path ∈ q.related ∨ path ∈ paths := by
  induction paths generalizing q with
  | nil => simp [embedding]
  | cons first paths ih =>
    have hstep : (q.embedding (first :: paths)).related = ((q.embedding [first]).embedding paths).related := rfl
    have hfirst : path ∈ (q.embedding [first]).related ↔ path ∈ q.related ∨ path = first := by
      simp only [embedding, List.foldl_cons, List.foldl_nil]
      split
      · rename_i hcontains
        refine (or_iff_left_of_imp ?_).symm
        rintro rfl
        exact List.contains_iff_mem.1 hcontains
      · rw [List.mem_append, List.mem_singleton]
    rw [hstep, ih, hfirst, List.mem_cons, or_assoc]

end QuerySet

end ModelCatalog
