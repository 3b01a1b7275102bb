import ModelCatalog.Proofs.Lists
import ModelCatalog.Proofs.Store.Calls
import ModelCatalog.Proofs.Store.Paths

/-!
# The values of a path are a join

`Store.follow` goes along a path with all rows reached so far at once. `Store.joined` says row by row which rows those
are: one is reached when stored rows lead to it from the first, each by the next relation of the path (`Hop.reaches`).
The values of a path are those read at its end from the joined rows, each row once and in the order of its table, and
following it never stops early (`valuesAt_joined`). What is read below a field that holds JSON is said by the rules of
`Json.LeadsTo`.
-/

namespace ModelCatalog

/-! ## Below a JSON field -/

/-- To what names of members lead from a value: no names to the value itself, and a name on to the member that has it. Where there is no
such member they lead to null, whatever names follow. -/
inductive Json.LeadsTo : Json → List String → Json → Prop where
  | here (value : Json) : LeadsTo value [] value
  | member {before after : List (String × Json)} {name : String} (hfirst : ∀ entry ∈ before, entry.1 ≠ name) {value found : Json}
      {rest : List String} (h : LeadsTo value rest found) :
      LeadsTo (.object (before ++ (name, value) :: after)) (name :: rest) found
  | noMember {members : List (String × Json)} {name : String} (h : ∀ entry ∈ members, entry.1 ≠ name) (rest : List String) :
      LeadsTo (.object members) (name :: rest) .null
  | noObject {value : Json} (h : ∀ members, value ≠ .object members) (name : String) (rest : List String) :
      LeadsTo value (name :: rest) .null

namespace Json

theorem descend_null (names : List String) : null.descend names = .null := by
  induction names with
  | nil => rfl
  | cons name rest ih => exact ih

/-- Names lead to one value only, the one that is read by going down along them. -/
theorem LeadsTo.eq_descend {value found : Json} {names : List String} (h : value.LeadsTo names found) : found = value.descend names := by
  induction h with
  | here value => rfl
  | member hfirst h ih => rw [descend, Entries.get?_eq_some_iff.2 ⟨_, _, rfl, hfirst⟩, Option.getD_some, ih]
  | noMember h rest => rw [descend, Entries.get?_eq_none_iff.2 h, Option.getD_none, descend_null]
  | @noObject value h name rest =>
    cases value with
    | object members => exact absurd rfl (h members)
    | null | bool | number | text | list => exact (descend_null rest).symm

/-- Names lead to the value that is read by going down along them. -/
theorem leadsTo_descend (value : Json) (names : List String) : value.LeadsTo names (value.descend names) := by
  induction names generalizing value with
  | nil => exact .here value
  | cons name rest ih =>
    cases value with
    | object members =>
      rw [descend]
      cases hmember : Entries.get? members name with
      | none =>
        rw [Option.getD_none, descend_null]
        exact .noMember (Entries.get?_eq_none_iff.1 hmember) rest
      | some value =>
        obtain ⟨before, after, rfl, hfirst⟩ := Entries.get?_eq_some_iff.1 hmember
        exact .member hfirst (ih value)
    | null | bool | number | text | list =>
      rw [descend, descend_null]
      · exact .noObject (fun _ h => Json.noConfusion h) name rest
      · exact fun _ h => Json.noConfusion h

end Json

/-! ## The join -/

/-- The keys in a list of links. -/
def Links.keysIn (l : Links) (row : Row) : List Json :=
  match row.get? l.name with
  | some (.list keys) => keys
  | _ => []

namespace Hop

variable {r : Registry}

/-- Whether one row leads to another by a relation: it refers to its key, is referred to by it, or has its key among its links. A null
reference leads nowhere. -/
def relates (h : Hop r) (a b : Row) : Bool :=
  match h.field with
  | .plain _ => false
  | .reference ref => !(keyIn ref.column a).isNull && (keyIn ref.column a).equals (keyIn h.targetKey b)
  | .inverse i => !(keyIn (i.field ++ "_id") b).isNull && (keyIn (i.field ++ "_id") b).equals (keyIn h.sourceKey a)
  | .links l => (l.keysIn a).any fun key => key.equals (keyIn h.targetKey b)

/-- Whether stored rows lead from one row to another, each by the next relation. -/
def reaches (s : Store) : Hop r → List (Hop r) → Row → Row → Bool
  | h, [], a, c => h.relates a c
  | h, next :: hops, a, c => (s.rows h.target.name).any fun b => h.relates a b && reaches s next hops b c

/-- The model to which relations lead. -/
def last : Hop r → List (Hop r) → Model
  | h, [] => h.target
  | _, next :: hops => last next hops

end Hop

/-- The stored rows to which a row leads by some relations. -/
def Store.joined {r : Registry} (s : Store) (row : Row) : List (Hop r) → List Row
  | [] => [row]
  | h :: hops => (s.rows (h.last hops).name).filter (h.reaches s hops row)

/-- Whether values are those read from some rows at the end of a path, in the order of the rows. -/
def Ending.Gives {r : Registry} (s : Store) (rows : List Row) : Ending r → List Json → Prop
  | .plain c members, values => List.Forall₂ (fun row value => ((row.get? c.name).getD .null).LeadsTo members value) rows values
  | .reference ref, values => values = rows.map (keyIn ref.column)
  | .inverse h, values =>
    values = ((s.rows h.target.name).filter fun b => rows.any fun a => h.relates a b).map (keyIn h.targetKey)
  | .links l, values => values = rows.flatMap l.keysIn

/-- There is only one list of values to read. -/
theorem Ending.Gives.unique {r : Registry} {s : Store} {rows : List Row} {e : Ending r} {values others : List Json}
    (h : e.Gives s rows values) (h' : e.Gives s rows others) : values = others := by
  cases e with
  | plain c members => exact List.right_unique_forall₂' (fun _ _ _ hv hw => hv.eq_descend.trans hw.eq_descend.symm) h h'
  | reference | inverse | links => exact h.trans h'.symm

/-- The values that the segments of a path lead to, or none where following them stops early: at a model that is not registered, at a name
without a field, or at a model without a primary key. -/
def Store.follow? (r : Registry) (s : Store) : String → List Row → List String → Option (List Json)
  | _, _, [] => none
  | model, rows, segment :: rest =>
    match (r.model? model).bind (·.fieldAnsweringTo? segment) with
    | none => none
    | some (.plain c) => some (rows.map fun row => ((row.get? c.name).getD .null).descend rest)
    | some (.reference ref) =>
      let keys := rows.map (keyIn ref.column)
      if rest.isEmpty then some keys
      else (r.keyColumn? ref.target).bind fun _ => follow? r s ref.target (s.rowsWithKeys r ref.target keys) rest
    | some (.inverse i) => (r.keyColumn? model).bind fun _ =>
      let found := s.rowsReferring r model rows i
      if rest.isEmpty then (r.keyColumn? i.source).bind fun column => found.mapM (·.get? column)
      else follow? r s i.source found rest
    | some (.links l) =>
      let keys := linkedKeys l rows
      if rest.isEmpty then some keys
      else (r.keyColumn? l.target).bind fun _ => follow? r s l.target (s.rowsWithKeys r l.target keys) rest

/-- Where following a path does not stop early it gives the same values. -/
theorem Store.follow_of_follow? {r : Registry} {s : Store} {model : String} {rows : List Row} {segments : List String}
    {values : List Json} (h : s.follow? r model rows segments = some values) : s.follow r model rows segments = values := by
  induction segments generalizing model rows with
  | nil => cases h
  | cons segment rest ih =>
    cases hfield : (r.model? model).bind (·.fieldAnsweringTo? segment) with
    | none =>
      rw [follow?, hfield] at h
      cases h
    | some f =>
      rw [follow?, hfield] at h
      rw [follow, hfield]
      cases f with
      | plain c => exact Option.some.inj h
      | reference ref =>
        by_cases hrest : rest.isEmpty = true
        · simp only [hrest, if_true] at h ⊢
          exact Option.some.inj h
        · simp only [hrest] at h ⊢
          obtain ⟨_, -, h⟩ := Option.bind_eq_some_iff.1 h
          exact ih h
      | inverse i =>
        obtain ⟨_, -, h⟩ := Option.bind_eq_some_iff.1 h
        by_cases hrest : rest.isEmpty = true
        · simp only [hrest, if_true] at h ⊢
          obtain ⟨column, hcolumn, h⟩ := Option.bind_eq_some_iff.1 h
          rw [hcolumn]
          exact filterMap_of_mapM h
        · simp only [hrest] at h ⊢
          exact ih h
      | links l =>
        by_cases hrest : rest.isEmpty = true
        · simp only [hrest, if_true] at h ⊢
          exact Option.some.inj h
        · simp only [hrest] at h ⊢
          obtain ⟨_, -, h⟩ := Option.bind_eq_some_iff.1 h
          exact ih h

/-! ## One relation -/

namespace Hop

variable {r : Registry} {s : Store}

theorem keyColumn?_target (h : Hop r) : r.keyColumn? h.target.name = some h.targetKey := by
  rw [Registry.keyColumn?, h.model_target, Option.bind_some, h.keyColumn_target]
  rfl

theorem keyColumn?_source (h : Hop r) (hsource : r.model? h.source.name = some h.source) :
    r.keyColumn? h.source.name = some h.sourceKey := by
  rw [Registry.keyColumn?, hsource, Option.bind_some, h.keyColumn_source]
  rfl

/-- The rows of the model to which a relation leads that have one of some keys. -/
theorem rowsWithKeys_eq (hs : s.IsReachable r) (h : Hop r) (keys : List Json) :
    s.rowsWithKeys r h.target.name keys = (s.rows h.target.name).filter fun b => keys.any fun key => key.equals (keyIn h.targetKey b) := by
  rw [Store.rowsWithKeys, h.keyColumn?_target]
  refine List.filter_congr fun b hb => ?_
  rw [(Store.isStored hs h.model_target h.keyColumn_target b hb).get?_key, Option.any_some]

/-- From the rows that references lead to. -/
theorem rows_of_reference (hs : s.IsReachable r) (h : Hop r) {ref : Reference} (hfield : h.field = .reference ref) (rows : List Row) :
    s.rowsWithKeys r h.target.name (rows.map (keyIn ref.column)) =
      (s.rows h.target.name).filter fun b => rows.any fun a => h.relates a b := by
  rw [rowsWithKeys_eq hs]
  refine List.filter_congr fun b hb => ?_
  have hkey := (Store.isStored hs h.model_target h.keyColumn_target b hb).key
  rw [List.any_map]
  unfold relates
  rw [hfield]
  refine congrArg (rows.any ·) (funext fun a => ?_)
  exact Json.equals_of_not_null hkey

/-- The rows that links lead to. -/
theorem rows_of_links (hs : s.IsReachable r) (h : Hop r) {l : Links} (hfield : h.field = .links l) (rows : List Row) :
    s.rowsWithKeys r h.target.name (Store.linkedKeys l rows) =
      (s.rows h.target.name).filter fun b => rows.any fun a => h.relates a b := by
  rw [rowsWithKeys_eq hs]
  refine List.filter_congr fun b hb => ?_
  unfold relates
  rw [hfield, Store.linkedKeys, List.any_flatMap]
  rfl

/-- The rows that an inverse relation leads to. -/
theorem rows_of_inverse (h : Hop r) (hsource : r.model? h.source.name = some h.source) {i : Inverse} (hfield : h.field = .inverse i)
    {rows : List Row} (hrows : ∀ row ∈ rows, IsStored h.source h.sourceKey row) :
    s.rowsReferring r h.source.name rows i = (s.rows h.target.name).filter fun b => rows.any fun a => h.relates a b := by
  have htarget : i.source = h.target.name := Option.some.inj (hfield ▸ h.related : (Field.inverse i).related? = _)
  have hkeys : rows.filterMap (·.get? h.sourceKey) = rows.map (keyIn h.sourceKey) :=
    filterMap_of_mapM (mapM_of_forall fun row hrow => (hrows row hrow).get?_key)
  rw [Store.rowsReferring, h.keyColumn?_source hsource]
  simp only
  rw [hkeys, htarget]
  refine List.filter_congr fun b _ => ?_
  unfold relates
  rw [hfield]
  simp only [keyIn]
  cases b.get? (i.field ++ "_id") with
  | none => simp [Json.isNull]
  | some v =>
    rw [Option.any_some, Option.getD_some, List.any_map]
    cases v.isNull with
    | true => simp
    | false =>
      simp only [Bool.not_false, Bool.true_and]
      refine congrArg (rows.any ·) (funext fun a => ?_)
      exact Json.equals_comm _ _

/-- Rows joined by a relation and then by others are those joined by all. -/
theorem any_reaches_cons (h next : Hop r) (hops : List (Hop r)) (rows : List Row) (c : Row) :
    (rows.any fun a => h.reaches s (next :: hops) a c) =
      ((s.rows h.target.name).filter fun b => rows.any fun a => h.relates a b).any fun b => next.reaches s hops b c := by
  rw [Bool.eq_iff_iff]
  simp only [reaches, List.any_eq_true, List.mem_filter, Bool.and_eq_true]
  constructor
  · rintro ⟨a, ha, b, hb, hab, hbc⟩
    exact ⟨b, ⟨hb, a, ha, hab⟩, hbc⟩
  · rintro ⟨b, ⟨hb, a, ha, hab⟩, hbc⟩
    exact ⟨a, ha, b, hb, hab, hbc⟩

end Hop

/-! ## Paths -/

/-- The stored rows to which one of some rows leads by some relations. -/
def Store.joinedFrom {r : Registry} (s : Store) (rows : List Row) : List (Hop r) → List Row
  | [] => rows
  | h :: hops => (s.rows (h.last hops).name).filter fun c => rows.any fun a => h.reaches s hops a c

theorem Store.joinedFrom_cons {r : Registry} (s : Store) (rows : List Row) (h : Hop r) (hops : List (Hop r)) :
    s.joinedFrom rows (h :: hops) =
      s.joinedFrom ((s.rows h.target.name).filter fun b => rows.any fun a => h.relates a b) hops := by
  cases hops with
  | nil => rfl
  | cons next hops => exact List.filter_congr fun c _ => Hop.any_reaches_cons h next hops rows c

theorem Store.joinedFrom_singleton {r : Registry} (s : Store) (row : Row) (hops : List (Hop r)) :
    s.joinedFrom [row] hops = s.joined row hops := by
  cases hops with
  | nil => rfl
  | cons h hops =>
    refine List.filter_congr fun c _ => ?_
    rw [List.any_cons, List.any_nil, Bool.or_false]

/-- Following a path from stored rows does not stop early, and gives the values read from the rows joined. -/
theorem Store.exists_follow?_eq {r : Registry} (hr : r.IsBuilt) {s : Store} (hs : s.IsReachable r) {m : Model} {segments : List String}
    {hops : List (Hop r)} {e : Ending r} (h : IsPath r m segments hops e) (hm : r.model? m.name = some m) {column : String}
    (hcolumn : m.keyColumn = .ok column) {rows : List Row} (hrows : ∀ row ∈ rows, IsStored m column row) :
    ∃ values, s.follow? r m.name rows segments = some values ∧ e.Gives s (s.joinedFrom rows hops) values := by
  induction h generalizing column rows with
  | @plain m c hc members hmembers =>
    have hfield : m.fieldAnsweringTo? c.name = some (.plain c) := (hr.sound hm).fieldAnsweringTo?_of_mem hc List.mem_cons_self
    rw [follow?, hm, Option.bind_some, hfield]
    refine ⟨_, rfl, List.forall₂_map_right_iff.2 (List.forall₂_same.2 fun row _ => ?_)⟩
    exact Json.leadsTo_descend _ members
  | @reference m ref href name hname =>
    have hfield : m.fieldAnsweringTo? name = some (.reference ref) :=
      (hr.sound hm).fieldAnsweringTo?_of_mem href (List.mem_pair.2 hname)
    rw [follow?, hm, Option.bind_some, hfield]
    exact ⟨_, rfl, rfl⟩
  | @inverse i hop hi =>
    have hfield : hop.source.fieldAnsweringTo? i.name = some (.inverse i) :=
      (hr.sound hm).fieldAnsweringTo?_of_mem (hi ▸ hop.field_mem) List.mem_cons_self
    have htarget : i.source = hop.target.name := Option.some.inj (hi ▸ hop.related : (Field.inverse i).related? = _)
    rw [hop.keyColumn_source] at hcolumn
    cases hcolumn
    rw [follow?, hm, Option.bind_some, hfield]
    simp only [List.isEmpty_nil, if_true]
    rw [hop.keyColumn?_source hm, Option.bind_some, htarget, hop.keyColumn?_target, Option.bind_some,
      hop.rows_of_inverse hm hi hrows]
    refine ⟨_, mapM_of_forall fun b hb => ?_, rfl⟩
    exact (Store.isStored hs hop.model_target hop.keyColumn_target b (List.mem_of_mem_filter hb)).get?_key
  | @links m l hl =>
    have hfield : m.fieldAnsweringTo? l.name = some (.links l) := (hr.sound hm).fieldAnsweringTo?_of_mem hl List.mem_cons_self
    rw [follow?, hm, Option.bind_some, hfield]
    exact ⟨_, rfl, rfl⟩
  | @hop hop rest hrest hops e hpath ih =>
    have hfound : hop.source.fieldAnsweringTo? hop.field.name = some hop.field :=
      (hr.sound hm).fieldAnsweringTo?_of_mem hop.field_mem List.mem_cons_self
    have hrestEmpty : rest.isEmpty = false := by simpa using hrest
    have hrelated := hop.related
    rw [hop.keyColumn_source] at hcolumn
    cases hcolumn
    rw [joinedFrom_cons]
    -- the rows that the relation leads to are stored, so the rest of the path is followed from them
    have hstored : ∀ b ∈ (s.rows hop.target.name).filter fun b => rows.any fun a => hop.relates a b,
        IsStored hop.target hop.targetKey b :=
      fun b hb => Store.isStored hs hop.model_target hop.keyColumn_target b (List.mem_of_mem_filter hb)
    obtain ⟨values, hnext, hvalues⟩ := ih hop.model_target hop.keyColumn_target hstored
    refine ⟨values, ?_, hvalues⟩
    rw [follow?, hm, Option.bind_some, hfound]
    cases hfield : hop.field with
    | plain c =>
      rw [hfield] at hrelated
      cases hrelated
    | reference ref =>
      rw [hfield] at hrelated
      simp only [hrestEmpty, Bool.false_eq_true, if_false, Option.some.inj hrelated]
      rw [hop.keyColumn?_target, Option.bind_some, hop.rows_of_reference hs hfield, hnext]
    | inverse i =>
      rw [hfield] at hrelated
      simp only [hrestEmpty, Bool.false_eq_true, if_false]
      rw [hop.keyColumn?_source hm, Option.bind_some, hop.rows_of_inverse hm hfield hrows, Option.some.inj hrelated, hnext]
    | links l =>
      rw [hfield] at hrelated
      simp only [hrestEmpty, Bool.false_eq_true, if_false, Option.some.inj hrelated]
      rw [hop.keyColumn?_target, Option.bind_some, hop.rows_of_links hs hfield, hnext]

/-- The check accepts a path exactly when it goes by relations to a field, and then following it from a stored row does not stop early: the
values are those read at its end from the stored rows to which the row leads. -/
theorem valuesAt_joined {r : Registry} (hr : r.IsBuilt) {s : Store} (hs : s.IsReachable r) {m : Model} (hmem : m ∈ r.models)
    (path : String) :
    (r.checkPath m.name path = .ok () ↔ ∃ hops e, IsPath r m (LookupKey.segments path) hops e) ∧
      ∀ hops e, IsPath r m (LookupKey.segments path) hops e → ∀ row ∈ s.rows m.name,
        s.follow? r m.name [row] (LookupKey.segments path) = some (s.valuesAt r m.name row path) ∧
          e.Gives s (s.joined row hops) (s.valuesAt r m.name row path) := by
  have hm := hr.model?_of_mem hmem
  refine ⟨checkPath_ok_iff hr hm path, fun hops e hpath row hrow => ?_⟩
  obtain ⟨-, -, -, -, column, -, hcolumn⟩ := (hr.sound hm).keyColumn
  have hstored : ∀ a ∈ [row], IsStored m column a := by
    intro a ha
    rw [List.mem_singleton.1 ha]
    exact Store.isStored hs hm hcolumn row hrow
  obtain ⟨values, hfollow, hvalues⟩ := Store.exists_follow?_eq hr hs hpath hm hcolumn hstored
  rw [Store.joinedFrom_singleton] at hvalues
  rw [Store.valuesAt, Store.follow_of_follow? hfollow]
  exact ⟨hfollow, hvalues⟩

/-- A model whose rows form trees and hold any data. -/
def nodes : Model where
  name := "Node"
  fields := [Model.implicitKey, .plain { name := "data", kind := .scalar .json, null := true },
    .reference { name := "parent", target := "Node", null := true },
    .inverse { name := "node_set", source := "Node", field := "parent", oneToOne := false }]

/-- A root whose data has a member `a` with a member `b`, two nodes below it, the second with a number in place of that member, and one below
that. -/
def nodeCalls : List Call := [
  .create "Node" (.of [("data", .object [("a", .object [("b", .nat 5)])])]),
  .create "Node" (.of [("parent", .nat 1)]),
  .create "Node" (.of [("data", .object [("a", .nat 7)]), ("parent", .nat 1)]),
  .create "Node" (.of [("parent", .nat 3)])]

set_option maxRecDepth 2000 in
/-- The nodes beside each node, and what each node's parent has under two names in its data. -/
theorem nodes_values_joined :
    ∃ (r : Registry) (s : Store), r.IsBuilt ∧ s.IsReachable r ∧ nodes ∈ r.models ∧
      ((s.rows "Node").map fun row => s.valuesAt r "Node" row "parent__node_set") =
        [[], [.nat 2, .nat 3], [.nat 2, .nat 3], [.nat 4]] ∧
      ((s.rows "Node").map fun row => s.valuesAt r "Node" row "parent__data__a__b") = [[], [.nat 5], [.nat 5], [.null]] ∧
      ∀ path ∈ ["parent__node_set", "parent__data__a__b"], ∃ hops e, IsPath r nodes (LookupKey.segments path) hops e ∧
        ∀ row ∈ s.rows "Node", e.Gives s (s.joined row hops) (s.valuesAt r "Node" row path) := by
  have hr : Registry.IsBuilt { models := [nodes] } :=
    ⟨[{ name := "Node", fields := [.plain { name := "data", kind := .scalar .json, null := true },
      .reference { name := "parent", target := "Node", null := true }] }], [], [], rfl⟩
  have hs : (Store.afterCalls { models := [nodes] } nodeCalls).IsReachable { models := [nodes] } := ⟨_, rfl⟩
  refine ⟨_, _, hr, hs, List.mem_cons_self, rfl, rfl, fun path hpath => ?_⟩
  obtain ⟨hcheck, hvalues⟩ := valuesAt_joined hr hs List.mem_cons_self path
  have haccepted : Registry.checkPath { models := [nodes] } nodes.name path = .ok () := by
    rcases List.mem_pair.1 hpath with rfl | rfl <;> rfl
  obtain ⟨hops, e, h⟩ := hcheck.1 haccepted
  exact ⟨hops, e, h, fun row hrow => (hvalues hops e h row hrow).2⟩

end ModelCatalog
