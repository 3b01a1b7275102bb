import ModelCatalog.Proofs.Json.Order
import ModelCatalog.Proofs.Store.Calls
import ModelCatalog.Proofs.Store.Reading

/-!
# Rows in order

The rows of an ordered query set are the stored ones that pass its filters, sorted by its terms, one after the other
(`ordered_rows_sorted_stably`). The order of rows is lexicographic in the terms (`compareRows_eq_lt_iff`), and since the order of values is a
total preorder it is one too, so that sorting keeps the rows that are equal as they stand (`filter_mergeSort`).
-/

namespace ModelCatalog

/-! ## Total preorders -/

/-- An order of all things of a type, in which different things may be equal. -/
structure IsTotalPreorder {α : Type} (order : α → α → Ordering) : Prop where
  refl : ∀ a, order a a = .eq
  swap : ∀ a b, order b a = (order a b).swap
  total : ∀ a b, (order a b).isLE = true ∨ (order b a).isLE = true
  trans : ∀ a b c, (order a b).isLE = true → (order b c).isLE = true → (order a c).isLE = true

theorem isTotalPreorder {α : Type} (cmp : α → α → Ordering) [Std.TransCmp cmp] : IsTotalPreorder cmp where
  refl _ := Std.ReflCmp.compare_self
  swap _ _ := Std.OrientedCmp.eq_swap
  total a b := by
    have hswap : cmp b a = (cmp a b).swap := Std.OrientedCmp.eq_swap
    rw [hswap]
    cases cmp a b with
    | lt | eq => exact Or.inl rfl
    | gt => exact Or.inr rfl
  trans _ _ _ := Std.TransCmp.isLE_trans

/-- Things are in order by what they have when the order of that is one. -/
theorem transCmp_on {α β : Type} (cmp : β → β → Ordering) [Std.TransCmp cmp] (f : α → β) :
    Std.TransCmp fun a b => cmp (f a) (f b) where
  eq_swap {a b} := (Std.OrientedCmp.eq_swap : cmp (f a) (f b) = (cmp (f b) (f a)).swap)
  isLE_trans {a _ c} h h' := (Std.TransCmp.isLE_trans h h' : (cmp (f a) (f c)).isLE = true)

/-- Sorting keeps the things that are equal to one as they stand. -/
theorem filter_mergeSort {α : Type} (cmp : α → α → Ordering) [Std.TransCmp cmp] (l : List α) (a : α) :
    (l.mergeSort fun b c => (cmp b c).isLE).filter (fun b => cmp a b = .eq) = l.filter fun b => cmp a b = .eq := by
  have htotal : ∀ b c, ((cmp b c).isLE || (cmp c b).isLE) = true := fun b c => Bool.or_eq_true_iff.2 ((isTotalPreorder cmp).total b c)
  have hequal : (l.filter fun b => cmp a b = .eq).Pairwise fun b c => (cmp b c).isLE = true := by
    refine List.Pairwise.imp_of_mem (R := fun _ _ => True) ?_ (List.pairwise_of_forall fun _ _ => trivial)
    intro b c hb hc _
    have hab : cmp a b = .eq := of_decide_eq_true (List.mem_filter.1 hb).2
    have hac : cmp a c = .eq := of_decide_eq_true (List.mem_filter.1 hc).2
    rw [Std.TransCmp.eq_trans (Std.OrientedCmp.eq_symm hab) hac]
    rfl
  have hsublist := (List.sublist_mergeSort (isTotalPreorder cmp).trans htotal hequal List.filter_sublist).filter fun b => cmp a b = .eq
  rw [List.filter_filter] at hsublist
  simp only [Bool.and_self] at hsublist
  exact (hsublist.eq_of_length ((List.mergeSort_perm l _).filter _).length_eq.symm).symm

/-! ## Values that may be missing -/

namespace Json

/-- The order of values that may be missing: a missing one counts as null. -/
def optionalOrder (a b : Option Json) : Ordering := (a.getD null).sortOrder (b.getD null)

instance : Std.TransCmp optionalOrder := transCmp_on sortOrder fun a : Option Json => a.getD null

/-- What is null or missing comes first. -/
theorem optionalOrder_of_null {a : Option Json} (ha : a.getD null = null) (b : Option Json) :
    optionalOrder a b = if (b.getD null).isNull then .eq else .lt := by
  rw [optionalOrder, ha]
  cases b.getD null with
  | null => rfl
  | bool | number | text | list | object => rfl

end Json

/-! ## The order of rows -/

namespace OrderTerm

variable (r : Registry) (s : Store) (model : String)

/-- The order of two rows of a model by a term: that of the first values its path leads to, turned round when the term is descending. -/
def compareRows (t : OrderTerm) (a b : Row) : Ordering :=
  let order := Json.optionalOrder (s.valuesAt r model a t.path).head? (s.valuesAt r model b t.path).head?
  if t.descending then order.swap else order

instance (t : OrderTerm) : Std.TransCmp (t.compareRows r s model) := by
  have hfirst := transCmp_on Json.optionalOrder fun row => (s.valuesAt r model row t.path).head?
  cases hdescending : t.descending with
  | false =>
    convert hfirst using 1
    funext a b
    rw [compareRows, hdescending]
    rfl
  | true =>
    convert hfirst.opposite using 1
    funext a b
    rw [compareRows, hdescending]
    exact Std.OrientedCmp.eq_swap.symm

end OrderTerm

namespace QuerySet

variable {r : Registry} {s : Store} {model : String}

theorem compareRows_cons (t : OrderTerm) (terms : List OrderTerm) :
    compareRows r s model (t :: terms) = compareLex (t.compareRows r s model) (compareRows r s model terms) := by
  funext a b
  rw [compareRows, Store.firstAt, Store.firstAt, List.headD_eq_head?_getD, List.headD_eq_head?_getD]
  rfl

instance (terms : List OrderTerm) : Std.TransCmp (compareRows r s model terms) := by
  induction terms with
  | nil => exact { eq_swap := rfl, isLE_trans := fun _ _ => rfl }
  | cons t terms ih =>
    rw [compareRows_cons]
    infer_instance

/-- Whether two rows are equal on every term of an order. -/
def Tied (r : Registry) (s : Store) (model : String) (terms : List OrderTerm) (a b : Row) : Prop :=
  ∀ t ∈ terms, t.compareRows r s model a b = .eq

instance (terms : List OrderTerm) (a b : Row) : Decidable (Tied r s model terms a b) :=
  inferInstanceAs (Decidable (∀ t ∈ terms, t.compareRows r s model a b = .eq))

/-- Whether a row comes before another: it does on some term of an order, and they are equal on the terms before. -/
def Precedes (r : Registry) (s : Store) (model : String) (terms : List OrderTerm) (a b : Row) : Prop :=
  ∃ before t after, terms = before ++ t :: after ∧ Tied r s model before a b ∧ t.compareRows r s model a b = .lt

theorem compareRows_eq_eq_iff {terms : List OrderTerm} {a b : Row} :
    compareRows r s model terms a b = .eq ↔ Tied r s model terms a b := by
  induction terms with
  | nil => exact ⟨fun _ => nofun, fun _ => rfl⟩
  | cons t terms ih =>
    rw [compareRows_cons, compareLex, Ordering.then_eq_eq, ih, Tied, Tied, List.forall_mem_cons]

theorem compareRows_eq_lt_iff {terms : List OrderTerm} {a b : Row} :
    compareRows r s model terms a b = .lt ↔ Precedes r s model terms a b := by
  induction terms with
  | nil =>
    constructor
    · exact nofun
    · rintro ⟨before, t, after, h, -⟩
      cases before <;> cases h
  | cons t terms ih =>
    rw [compareRows_cons, compareLex, Ordering.then_eq_lt, ih]
    constructor
    · rintro (h | ⟨heq, before, u, after, rfl, hbefore, hu⟩)
      · exact ⟨[], t, terms, rfl, nofun, h⟩
      · exact ⟨t :: before, u, after, rfl, List.forall_mem_cons.2 ⟨heq, hbefore⟩, hu⟩
    · rintro ⟨before, u, after, h, hbefore, hu⟩
      cases before with
      | nil =>
        cases h
        exact Or.inl hu
      | cons first before =>
        cases h
        obtain ⟨hfirst, hbefore⟩ := List.forall_mem_cons.1 hbefore
        exact Or.inr ⟨hfirst, before, u, after, rfl, hbefore, hu⟩

theorem isLE_compareRows_iff {terms : List OrderTerm} {a b : Row} :
    (compareRows r s model terms a b).isLE = true ↔ Tied r s model terms a b ∨ Precedes r s model terms a b := by
  rw [← compareRows_eq_eq_iff, ← compareRows_eq_lt_iff]
  cases compareRows r s model terms a b <;> simp

/-! ## Ordered query sets -/

/-- A query set that only filters and orders has the rows that pass, in their order. -/
theorem fetch_ordered {q : QuerySet} (horder : q.order ≠ []) (hdistinct : q.distinct = none) (hrelated : q.related = [])
    (hprojection : q.projection = none) (hpaths : ∀ path ∈ q.paths, r.checkPath q.model path = .ok ()) :
    q.fetch r s = .ok (((s.rows q.model).filter (q.accepts r s)).mergeSort fun a b => (compareRows r s q.model q.order a b).isLE) := by
  rw [fetch, check, Outcome.forM_ok_iff.2 hpaths, shape_eq_id hrelated hprojection, matching, hdistinct,
    List.isEmpty_eq_false_iff.2 horder]
  exact congrArg Except.ok (List.map_id _)

/-- The order of values, missing ones included, is a total preorder in which null and missing values come first. So a query set with an order,
and with nothing else than filters, has the stored rows that pass the filters, none more or less often: of two rows the earlier one comes
before the other in the lexicographic order of the terms, or they are equal on every term, and such rows stand as they are stored. -/
theorem ordered_rows_sorted_stably :
    IsTotalPreorder Json.optionalOrder ∧
      (∀ a b : Option Json, a.getD .null = .null → Json.optionalOrder a b = if (b.getD .null).isNull then .eq else .lt) ∧
      ∀ (r : Registry) (s : Store) (q : QuerySet), q.order ≠ [] → q.distinct = none → q.related = [] → q.projection = none →
        (∀ path ∈ q.paths, r.checkPath q.model path = .ok ()) →
        ∃ rows, q.fetch r s = .ok rows ∧ rows.Perm ((s.rows q.model).filter (q.accepts r s)) ∧
          rows.Pairwise (fun a b => Tied r s q.model q.order a b ∨ Precedes r s q.model q.order a b) ∧
          ∀ a, rows.filter (fun b => Tied r s q.model q.order a b) =
            ((s.rows q.model).filter (q.accepts r s)).filter fun b => Tied r s q.model q.order a b := by
  refine ⟨isTotalPreorder _, fun _ b ha => Json.optionalOrder_of_null ha b, ?_⟩
  intro r s q horder hdistinct hrelated hprojection hpaths
  have hpreorder := isTotalPreorder (compareRows r s q.model q.order)
  have htotal : ∀ a b, ((compareRows r s q.model q.order a b).isLE || (compareRows r s q.model q.order b a).isLE) = true :=
    fun a b => Bool.or_eq_true_iff.2 (hpreorder.total a b)
  refine ⟨_, fetch_ordered horder hdistinct hrelated hprojection hpaths, List.mergeSort_perm _ _, ?_, fun a => ?_⟩
  · exact (List.pairwise_mergeSort hpreorder.trans htotal _).imp fun h => isLE_compareRows_iff.1 h
  · simp only [← compareRows_eq_eq_iff]
    exact filter_mergeSort (compareRows r s q.model q.order) _ a

end QuerySet

/-- Measurements of any kind. -/
def measurements : Registry where
  models := [{ name := "Measurement", fields := [Model.implicitKey, .plain { name := "value", kind := .scalar .json, null := true }] }]

theorem measurements_isBuilt : measurements.IsBuilt :=
  ⟨[{ name := "Measurement", fields := [.plain { name := "value", kind := .scalar .json, null := true }] }], [], [], rfl⟩

/-- Two equal numbers that are written differently stand in the order in which they were stored, also when greater values come first. -/
theorem measurements_sorted_stably :
    ∃ (s : Store) (rows : List Row), measurements.IsBuilt ∧ s.IsReachable measurements ∧
      QuerySet.fetch measurements s { model := "Measurement", order := [⟨"value", true⟩] } = .ok rows ∧ rows.length = 4 ∧
      ∀ a, rows.filter (fun b => QuerySet.Tied measurements s "Measurement" [⟨"value", true⟩] a b) =
        (s.rows "Measurement").filter fun b => QuerySet.Tied measurements s "Measurement" [⟨"value", true⟩] a b := by
  let s := Store.afterCalls measurements
    [.create "Measurement" (.of [("value", .nat 2)]), .create "Measurement" (.of [("value", .text "two")]),
    .create "Measurement" (.of [("value", .number (.real (.ofInt 2)))]), .create "Measurement" []]
  have hall : (s.rows "Measurement").filter (QuerySet.accepts measurements s { model := "Measurement", order := [⟨"value", true⟩] }) =
      s.rows "Measurement" := List.filter_eq_self.2 fun _ _ => rfl
  have hlength : (s.rows "Measurement").length = 4 := by decide +kernel
  obtain ⟨rows, hrows, hperm, -, hstable⟩ := QuerySet.ordered_rows_sorted_stably.2.2 measurements s
    { model := "Measurement", order := [⟨"value", true⟩] } (by decide) rfl rfl rfl (List.forall_mem_singleton.2 rfl)
  rw [hall] at hperm hstable
  exact ⟨s, rows, measurements_isBuilt, ⟨_, rfl⟩, hrows, hperm.length_eq.trans hlength, hstable⟩

end ModelCatalog
