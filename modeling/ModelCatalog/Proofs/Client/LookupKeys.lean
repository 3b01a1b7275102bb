import ModelCatalog.Client.Unit
import ModelCatalog.Proofs.Query.Conditions
import ModelCatalog.Proofs.Store.Paths

/-!
# Generated lookup keys

A client joins the key of a lookup entry behind the keys of relations, and a query splits it again. `IsServed` says that a key is read as
what it was generated for: the path of the field, behind the relations, with the operator of the entry. `generated_keys_served` says which
generated keys are: those whose names are not mistaken for something else (`IsReadable`).
-/

namespace ModelCatalog.Client

/-- Some relations lead from a model of a pool to another, each by its entry in the lookups generated for the model reached so far. -/
inductive Leads (r : Registry) (members : Registry.Members) : Model → List String → Model → Prop where
  | here {m : Model} (hm : m ∈ r.pool members) : Leads r members m [] m
  | next {m m' n : Model} {names : List String} {f : Field} {e : LookupEntry} (hm : m ∈ r.pool members) (hf : f ∈ m.fields)
      (he : e ∈ lookupEntries members f) (hrelated : e.related = some m'.name) (hrest : Leads r members m' names n) :
      Leads r members m (e.key :: names) n

/-- A key for a model is read as the path of some segments, which makes sense, with an operator and its operand. -/
structure IsServed (r : Registry) (model key : String) (segments : List String) (op : Operator) (operand : Json) : Prop where
  condition : ∃ lookup, Condition.ofEntry key operand = .ok (.test (LookupKey.join segments) lookup) ∧ lookup.operator = op ∧
    lookup.operand = operand
  segments_join : LookupKey.segments (LookupKey.join segments) = segments
  checkPath : r.checkPath model (LookupKey.join segments) = .ok ()

/-- Names of relations and of a field behind them, with an operator or alone, are not mistaken for something else in a key. -/
structure IsReadable (names : List String) (field : String) (operator : Option Operator) : Prop where
  nonempty : "" ∉ names ++ [field]
  whole : ∀ name ∈ names ++ [field], Text.contains name LookupKey.separator = false
  ends : ∀ name ∈ names, Text.endsWith name "_" = false
  field_ends : operator.isSome = true → Text.endsWith field "_" = false
  /-- Behind a relation the key of a field alone could end in what names an operator. -/
  field_no_operator : operator = none → names ≠ [] → Operator.ofName? field = none

/-! ## Entries -/

variable {members : Registry.Members} {e : LookupEntry}

/-- The key of a column's entry joins the name of the column and that of the operator. -/
theorem key_of_plain {c : Column} (he : e ∈ lookupEntries members (.plain c)) :
    e.key = LookupKey.join (c.name :: (e.operator.map Operator.name).toList) := by
  rcases List.mem_cons.1 he with rfl | he
  · rfl
  · obtain ⟨op, -, rfl⟩ := List.mem_map.1 he
    exact (LookupKey.join_concat (List.cons_ne_nil c.name []) op.name).symm

/-- The entry of a relation has the name of the relation as its key. -/
theorem key_of_related {f : Field} (he : e ∈ lookupEntries members f) {target : String} (hrelated : e.related = some target) :
    e.key = f.name ∧ f.related? = some target := by
  cases f with
  | plain c =>
    rcases List.mem_cons.1 he with rfl | he
    · cases hrelated
    · obtain ⟨op, -, rfl⟩ := List.mem_map.1 he
      cases hrelated
  | reference ref =>
    simp only [lookupEntries] at he
    split at he
    · obtain rfl := List.mem_singleton.1 he
      exact ⟨rfl, hrelated⟩
    · cases he
  | inverse i =>
    simp only [lookupEntries] at he
    split at he
    · obtain rfl := List.mem_singleton.1 he
      exact ⟨rfl, hrelated⟩
    · cases he
  | links l => cases he

/-! ## Paths -/

section

variable {r : Registry} {m n : Model} {names : List String}

theorem Leads.mem_pool (h : Leads r members m names n) : m ∈ r.pool members := by
  cases h with
  | here hm => exact hm
  | next hm => exact hm

theorem Leads.mem (h : Leads r members m names n) : m ∈ r.models := List.mem_of_mem_filter h.mem_pool

/-- Relations and a column behind them are a path. -/
theorem Leads.exists_isPath (hr : r.IsBuilt) (h : Leads r members m names n) {c : Column} (hc : Field.plain c ∈ n.fields) :
    ∃ hops, IsPath r m (names ++ [c.name]) hops (.plain c []) := by
  induction h with
  | here hm => exact ⟨[], .plain hc (Or.inl rfl)⟩
  | @next m m' n names f e hm hf he hrelated hrest ih =>
    obtain ⟨hops, hpath⟩ := ih hc
    obtain ⟨hkey, htarget⟩ := key_of_related he hrelated
    obtain ⟨hop, rfl, rfl, hname⟩ := exists_hop hr (hr.model?_of_mem (List.mem_of_mem_filter hm)) hf htarget
    have hsame : hop.target = m' := by
      have htarget' := hop.model_target
      rw [hname, hr.model?_of_mem hrest.mem] at htarget'
      exact (Option.some.inj htarget').symm
    subst hsame
    rw [hkey]
    exact ⟨hop :: hops, .hop hop (by simp) hpath⟩

/-- The path of relations and a column behind them makes sense when its segments come apart as they are joined. -/
theorem Leads.checkPath (hr : r.IsBuilt) (h : Leads r members m names n) {c : Column} (hc : Field.plain c ∈ n.fields)
    (hsegments : LookupKey.segments (LookupKey.join (names ++ [c.name])) = names ++ [c.name]) :
    r.checkPath m.name (LookupKey.join (names ++ [c.name])) = .ok () := by
  obtain ⟨hops, hpath⟩ := h.exists_isPath hr hc
  rw [Registry.checkPath, hsegments]
  exact checkSegments_of_isPath hr hpath (hr.model?_of_mem h.mem)

/-! ## Reading -/

/-- A key is served when the segments and the operator found in it are the wanted ones, if the path of the segments makes sense. -/
theorem isServed_iff {model key : String} {segs : List String} {op : Operator} {operand : Json} (hne : segs ≠ [])
    (htakes : op.takes operand = true) (hcheck : LookupKey.segments (LookupKey.join segs) = segs →
      r.checkPath model (LookupKey.join segs) = .ok ()) :
    IsServed r model key segs op operand ↔ LookupKey.parse key = (segs, op) ∧ "" ∉ segs ∧ LookupKey.Separable segs := by
  constructor
  · rintro ⟨⟨lookup, hentry, rfl, rfl⟩, hsegments, -⟩
    obtain ⟨hempty, lookup', hlookup, htest⟩ := Condition.ofEntry_ok_iff.1 hentry
    obtain ⟨hpath, rfl⟩ := Condition.test.inj htest
    have hsegs : (LookupKey.parse key).1 = segs := by
      rw [← LookupKey.segments_join_parse, ← hpath, hsegments]
    refine ⟨Prod.ext hsegs (Lookup.ofOperand_ok hlookup).1.symm, hsegs ▸ hempty, (LookupKey.segments_join_iff hne).1 hsegments⟩
  · rintro ⟨hparse, hempty, hseparable⟩
    obtain ⟨lookup, hlookup⟩ := Lookup.exists_ofOperand htakes
    obtain ⟨hop, hoperand⟩ := Lookup.ofOperand_ok hlookup
    have hsegments := (LookupKey.segments_join_iff hne).2 hseparable
    refine ⟨⟨lookup, Condition.ofEntry_ok_iff.2 ?_, hop, hoperand⟩, hsegments, hcheck hsegments⟩
    rw [hparse]
    exact ⟨hempty, lookup, hlookup, rfl⟩

/-- Generated keys are served with the meaning that they were generated for exactly when their names are not mistaken for something
else. -/
theorem generated_keys_served (hr : r.IsBuilt) (hleads : Leads r members m names n) {c : Column} (hc : Field.plain c ∈ n.fields)
    (he : e ∈ lookupEntries members (.plain c)) {operand : Json} (htakes : (e.operator.getD .exact).takes operand = true) :
    IsServed r m.name (LookupKey.join (names ++ [e.key])) (names ++ [c.name]) (e.operator.getD .exact) operand ↔
      IsReadable names c.name e.operator := by
  have hne : names ++ [c.name] ≠ [] := by simp
  rw [isServed_iff hne htakes (hleads.checkPath hr hc), key_of_plain he, LookupKey.join_append_join names (List.cons_ne_nil _ _)]
  cases hop : e.operator with
  | none =>
    rw [Option.getD_none, Option.map_none, Option.toList_none, LookupKey.parse_join_iff hne, LookupKey.separable_concat_iff]
    constructor
    · rintro ⟨⟨-, hnoOperator⟩, hempty, hwhole, hends⟩
      refine ⟨hempty, hwhole, hends, nofun, fun _ hnames => ?_⟩
      exact hnoOperator (by simpa [List.length_pos_iff] using hnames) _ (by simp)
    · rintro ⟨hempty, hwhole, hends, -, hnoOperator⟩
      refine ⟨⟨⟨hwhole, hends⟩, fun hlength last hlast => ?_⟩, hempty, hwhole, hends⟩
      obtain rfl : c.name = last := by simpa using hlast
      exact hnoOperator rfl (by simpa [List.length_pos_iff] using hlength)
  | some op =>
    have hkey : names ++ c.name :: (Option.map Operator.name (some op)).toList = (names ++ [c.name]) ++ [op.name] := by simp
    rw [Option.getD_some, hkey, LookupKey.parse_join_name_iff hne, LookupKey.separable_concat_iff, LookupKey.separable_concat_iff]
    constructor
    · rintro ⟨⟨-, hends⟩, hempty, hwhole, -⟩
      obtain ⟨hnames, hfield⟩ := List.forall_mem_append.1 hends
      exact ⟨hempty, hwhole, hnames, fun _ => hfield _ (List.mem_singleton_self _), nofun⟩
    · rintro ⟨hempty, hwhole, hends, hfield, -⟩
      refine ⟨⟨List.forall_mem_append.2 ⟨hwhole, ?_⟩, List.forall_mem_append.2 ⟨hends, ?_⟩⟩, hempty, hwhole, hends⟩
      · exact List.forall_mem_singleton.2 (LookupKey.contains_separator_name op)
      · exact List.forall_mem_singleton.2 (hfield rfl)

end

def bookModel : Model where
  name := "Book"
  fields := [Model.implicitKey, .plain { name := "year", kind := .scalar .integer },
    .inverse { name := "review_set", source := "Review", field := "book", oneToOne := false }]

def reviewModel : Model where
  name := "Review"
  fields := [Model.implicitKey, .reference { name := "book", target := "Book" }]

/-- With an operator the year of a review's book is found; alone it is taken for an operator. -/
theorem year_of_book_served_with_operator :
    IsServed { models := [bookModel, reviewModel] } "Review" "book__year__gte" ["book", "year"] .gte (.nat 2000) ∧
      ¬IsServed { models := [bookModel, reviewModel] } "Review" "book__year" ["book", "year"] .exact (.nat 2000) := by
  have hr : Registry.IsBuilt { models := [bookModel, reviewModel] } :=
    ⟨[{ name := "Book", fields := [.plain { name := "year", kind := .scalar .integer }] },
      { name := "Review", fields := [.reference { name := "book", target := "Book" }] }], [], [], rfl⟩
  have hleads : Leads { models := [bookModel, reviewModel] } ["Book", "Review"] reviewModel ["book"] bookModel :=
    .next (e := { key := "book", field := "book", related := some "Book" }) (List.mem_cons_of_mem _ List.mem_cons_self)
      (List.mem_cons_of_mem _ List.mem_cons_self) List.mem_cons_self rfl (.here List.mem_cons_self)
  have hc : Field.plain { name := "year", kind := .scalar .integer } ∈ bookModel.fields :=
    List.mem_cons_of_mem _ List.mem_cons_self
  constructor
  · refine (generated_keys_served (e := { key := "year__gte", field := "year", operator := some .gte }) hr hleads hc
      ?_ rfl).2 ⟨by decide, by decide, by decide, by decide, nofun⟩
    decide
  · intro h
    have hreadable := (generated_keys_served (e := { key := "year", field := "year" }) hr hleads hc List.mem_cons_self rfl).1 h
    exact absurd (hreadable.field_no_operator rfl (List.cons_ne_nil _ _)) (by decide)

end ModelCatalog.Client
