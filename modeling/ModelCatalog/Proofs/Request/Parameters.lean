import ModelCatalog.Proofs.Json.Shape
import ModelCatalog.Proofs.Outcome
import ModelCatalog.Request.Params

/-!
# Parameters of a list are read as they were written

The parameters of a list request, the query and the prefetch trees in them can be written in more than one way: the order, the fields wanted and
the alternatives of a query each have two names (`ListParams.Written`). Each way to write them is read back as the same parameters.
-/

namespace ModelCatalog

/-! ## Queries -/

namespace BooleanQuery

mutual

/-- The ways to write a query: the alternatives at each level stand under either of their names. -/
inductive Written : BooleanQuery → Json → Prop
  | query {q : BooleanQuery} {items : List Json} {name : String} (hname : name ∈ ["or", "or_"])
      (hitems : AllWritten q.alternatives items) :
      Written q (.object [("exclude", .object q.exclude), ("filters", .object q.filters), (name, .list items)])

/-- The ways to write the queries of a list. -/
inductive AllWritten : List BooleanQuery → List Json → Prop
  | nil : AllWritten [] []
  | cons {q : BooleanQuery} {value : Json} {rest : List BooleanQuery} {items : List Json} (hfirst : Written q value)
      (hrest : AllWritten rest items) : AllWritten (q :: rest) (value :: items)

end

mutual

theorem written_toJson : (q : BooleanQuery) → q.Written q.toJson
  | ⟨_, _, alternatives, _, _⟩ => .query List.mem_cons_self (allWritten_listJson alternatives)

theorem allWritten_listJson : (l : List BooleanQuery) → AllWritten l (listJson l)
  | [] => .nil
  | q :: rest => .cons (written_toJson q) (allWritten_listJson rest)

end

/-- An object with the members of a query is read as the query, provided that its alternatives can be read. -/
theorem read?_object (q : BooleanQuery) {name : String} (hname : name ∈ ["or", "or_"]) (items : List Json) :
    read? (.object [("exclude", .object q.exclude), ("filters", .object q.filters), (name, .list items)]) =
      (readItems? items).map fun alternatives => { q with alternatives } := by
  obtain ⟨hslots, hmember⟩ :
      Json.slots? members (.object [("exclude", .object q.exclude), ("filters", .object q.filters), (name, .list items)]) =
        some [.given (.object q.filters), .given (.object q.exclude), .given (.list items)] ∧
      readMember [("exclude", .object q.exclude), ("filters", .object q.filters), (name, .list items)] = readItems? items := by
    simp only [List.mem_cons, List.not_mem_nil, or_false] at hname
    rcases hname with rfl | rfl <;> simp [Json.slots?, members, Json.membersNamed, readMember, readList?]
  rw [read?, hmember, assemble?, hslots]
  simp only [Json.Slot.orElse?_given, q.filters_sorted.readRecord?, q.exclude_sorted.readRecord?]
  cases readItems? items <;> rfl

mutual

theorem Written.read?_eq : {q : BooleanQuery} → {value : Json} → q.Written value → read? value = some q
  | q, _, @Written.query _ items _ hname hitems => by
    rw [q.read?_object hname items, hitems.readItems?_eq]
    cases q
    rfl

theorem AllWritten.readItems?_eq : {l : List BooleanQuery} → {items : List Json} → AllWritten l items → readItems? items = some l
  | _, _, .nil => rfl
  | _, _, .cons hfirst hrest => by
    rw [readItems?, hfirst.read?_eq, hrest.readItems?_eq]
    rfl

end

end BooleanQuery

/-! ## Prefetch trees -/

namespace PrefetchTree

mutual

theorem read?_toJson : {t : PrefetchTree} → t.IsSorted → read? t.toJson = some t
  | leaf _, _ => rfl
  | leaves names, _ => by
    rw [toJson, read?, Json.readList?_texts]
    rfl
  | branches children, ⟨hnames, hchildren⟩ => by
    rw [toJson, read?, readChildren?_childrenJson hchildren, Option.map_some, Dict.ofList_of_sorted hnames]

theorem readChildren?_childrenJson :
    {children : List (String × PrefetchTree)} → ChildrenSorted children → readChildren? (childrenJson children) = some children
  | [], _ => rfl
  | (name, tree) :: rest, ⟨htree, hrest⟩ => by
    rw [childrenJson, readChildren?, read?_toJson htree, readChildren?_childrenJson hrest]
    rfl

end

theorem readSorted?_toJson (t : { t : PrefetchTree // t.IsSorted }) : readSorted? t.1.toJson = some t := by
  rw [readSorted?, Option.attachWith_eq_some_iff]
  exact read?_toJson t.2

theorem readList?_unattach (trees : List { t : PrefetchTree // t.IsSorted }) :
    Json.readList? readSorted? (.list (trees.unattach.map toJson)) = some trees := by
  have hmap : trees.unattach.map toJson = trees.map fun t => t.1.toJson := List.map_map
  rw [hmap]
  exact Json.readList?_map fun t _ => readSorted?_toJson t

end PrefetchTree

/-! ## Parameters -/

namespace ListParams

/-- Numbers from one up to what 64 bits hold. -/
structure WellFormed (p : ListParams) : Prop where
  page : ∀ n ∈ p.page, 0 < n ∧ n < UInt64.size
  pageSize : ∀ n ∈ p.pageSize, 0 < n ∧ n < UInt64.size

/-- The ways to write a query that may be absent. -/
def WrittenQuery : Option BooleanQuery → Json → Prop
  | none, value => value = .null
  | some q, value => q.Written value

/-- The members that the parameters are written as, where the names for the order and for the fields wanted, and the query, are given. -/
def writtenMembers (p : ListParams) (order values : String) (query : Json) : List (String × Json) :=
  [("count", .bool p.onlyCount), ("distinct", textsJson p.distinct), ("exists", .bool p.onlyExists), (order, textsJson p.order),
    ("page", (p.page.map Json.nat).getD .null), ("pagesize", (p.pageSize.map Json.nat).getD .null),
    ("prefetch", (p.prefetch.map fun trees => .list (trees.map PrefetchTree.toJson)).getD .null), ("query", query),
    (values, textsJson p.values)]

/-- The ways to write the parameters of a list: the order and the fields wanted stand under either of their names. -/
inductive Written (p : ListParams) : Json → Prop
  | params {order values : String} {query : Json} (horder : order ∈ ["order_by", "order_on"]) (hvalues : values ∈ ["values", "fields"])
      (hquery : WrittenQuery p.query query) : Written p (.object (Dict.ofList (p.writtenMembers order values query)))

theorem written_toJson (p : ListParams) : p.Written p.toJson := by
  have hquery : WrittenQuery p.query ((p.query.map BooleanQuery.toJson).getD .null) := by
    cases p.query with
    | none => rfl
    | some q => exact q.written_toJson
  have hwritten : p.Written _ := .params List.mem_cons_self List.mem_cons_self hquery
  have hsorted : Entries.Sorted (p.writtenMembers "order_by" "values" ((p.query.map BooleanQuery.toJson).getD .null)) :=
    List.pairwise_map.1 (by simp only [writtenMembers, List.map]; decide)
  rwa [Dict.ofList_of_sorted hsorted] at hwritten

/-! ### Reading -/

theorem nullable?_textsJson (texts : Option (List String)) :
    (Json.Slot.given (textsJson texts)).nullable? (Json.readList? Json.readText?) = some texts := by
  cases texts with
  | none => rfl
  | some texts => exact Json.Slot.nullable?_given rfl (Json.readList?_texts texts)

theorem nullable?_count {n : Option Nat} (hn : ∀ k ∈ n, 0 < k ∧ k < UInt64.size) :
    (Json.Slot.given ((n.map Json.nat).getD .null)).nullable? Json.readCount? = some n := by
  refine Json.Slot.nullable?_getD rfl fun k hk => ?_
  exact if_pos ⟨Int.natCast_nonneg k, Int.ofNat_le.2 (Nat.le_sub_one_of_lt (hn k hk).2)⟩

theorem nullable?_query {query : Option BooleanQuery} {value : Json} (hvalue : WrittenQuery query value) :
    (Json.Slot.given value).nullable? BooleanQuery.read? = some query := by
  cases query with
  | none =>
    rw [hvalue]
    rfl
  | some q => exact Json.Slot.nullable?_given rfl (BooleanQuery.Written.read?_eq hvalue)

theorem nullable?_prefetch (p : ListParams) : ∃ trees : Option (List { t : PrefetchTree // t.IsSorted }),
    (Json.Slot.given ((p.prefetch.map fun trees => .list (trees.map PrefetchTree.toJson)).getD .null)).nullable?
      (Json.readList? PrefetchTree.readSorted?) = some trees ∧ trees.map List.unattach = p.prefetch := by
  have hsorted := p.prefetch_sorted
  cases hprefetch : p.prefetch with
  | none => exact ⟨none, rfl, rfl⟩
  | some trees =>
    obtain ⟨inOrder, rfl⟩ : ∃ inOrder : List { t : PrefetchTree // t.IsSorted }, inOrder.unattach = trees :=
      ⟨trees.attachWith PrefetchTree.IsSorted (hsorted trees hprefetch), List.unattach_attachWith⟩
    exact ⟨some inOrder, Json.Slot.nullable?_given rfl (PrefetchTree.readList?_unattach inOrder), rfl⟩

theorem checkCount_ok {name : String} {n : Option Nat} (hn : ∀ k ∈ n, 0 < k ∧ k < UInt64.size) : checkCount name n = .ok () := by
  refine if_neg fun hzero => ?_
  exact absurd (hn 0 hzero).1 (Nat.lt_irrefl 0)

theorem slots?_writtenMembers (p : ListParams) {order values : String} (horder : order ∈ ["order_by", "order_on"])
    (hvalues : values ∈ ["values", "fields"]) (query : Json) :
    Json.slots? members (.object (Dict.ofList (p.writtenMembers order values query))) =
      some [.given query, .given (textsJson p.order), .given (textsJson p.distinct),
        .given ((p.prefetch.map fun trees => .list (trees.map PrefetchTree.toJson)).getD .null), .given (textsJson p.values),
        .given ((p.page.map Json.nat).getD .null), .given ((p.pageSize.map Json.nat).getD .null), .given (.bool p.onlyExists),
        .given (.bool p.onlyCount)] := by
  simp only [List.mem_cons, List.not_mem_nil, or_false] at horder hvalues
  refine (Json.slots?_object (Dict.of _)
    ["query", order, "distinct", "prefetch", values, "page", "pagesize", "exists", "count"] ?_).trans ?_
  · rcases horder with rfl | rfl <;> rcases hvalues with rfl | rfl <;>
      simp [members, writtenMembers, Dict.of, Dict.get?_insert]
  · rcases horder with rfl | rfl <;> rcases hvalues with rfl | rfl <;>
      simp [writtenMembers, Dict.of, Dict.get?_insert]

theorem Written.read?_eq {p : ListParams} {value : Json} (h : p.Written value) (hp : p.WellFormed) : read? value = some p := by
  obtain @⟨order, values, query, horder, hvalues, hquery⟩ := h
  obtain ⟨trees, hprefetch, htrees⟩ := p.nullable?_prefetch
  simp [read?, p.slots?_writtenMembers horder hvalues, nullable?_query hquery, nullable?_textsJson, hprefetch, htrees,
    nullable?_count hp.page, nullable?_count hp.pageSize]

/-- The parameters of a list are read back from what is written of them, and from each other way to write them: with the order or the fields
wanted under their second name, or the alternatives at any level of the query. -/
theorem written_parameters_read_back {p : ListParams} (hp : p.WellFormed) :
    ofValue p.toJson = .ok p ∧ ∀ value, p.Written value → ofValue value = .ok p := by
  have hread : ∀ value, p.Written value → ofValue value = .ok p := by
    intro value hvalue
    rw [ofValue, hvalue.read?_eq hp]
    simp only [checkCount_ok hp.page, checkCount_ok hp.pageSize]
    rfl
  exact ⟨hread _ p.written_toJson, hread⟩

end ListParams

/-- The second page of the books of either of two authors, but for one title of the first, in order of year, with the city of each author. -/
def booksWanted : ListParams where
  query := some {
    filters := .of [("author", .nat 1)]
    exclude := .of [("title", .object [("de", .null), ("en", .text "Poems")])]
    alternatives := [{ filters := .of [("author", .nat 2)] }] }
  order := some ["-year", "title"]
  prefetch := some [.leaf "author", .branches [("author", .branches [("city", .leaves ["name"])])]]
  values := some ["title"]
  page := some 2
  onlyExists := true
  prefetch_sorted := by
    rintro _ ⟨rfl⟩
    simp [PrefetchTree.IsSorted, PrefetchTree.ChildrenSorted, Entries.Sorted]

/-- The second names are in use, but for the alternatives of the alternative. -/
theorem booksWanted_read_back :
    booksWanted.WellFormed ∧
      ListParams.ofValue (.object [("count", .bool false), ("distinct", .null), ("exists", .bool true), ("fields", .list [.text "title"]),
        ("order_on", .list [.text "-year", .text "title"]), ("page", .nat 2), ("pagesize", .null),
        ("prefetch", .list [.text "author", .object [("author", .object [("city", .list [.text "name"])])]]),
        ("query", .object [("exclude", .object [("title", .object [("de", .null), ("en", .text "Poems")])]),
          ("filters", .object [("author", .nat 1)]),
          ("or_", .list [.object [("exclude", .object []), ("filters", .object [("author", .nat 2)]), ("or", .list [])]])])]) =
        .ok booksWanted := by
  have hwell : booksWanted.WellFormed := {
    page := by
      rintro _ ⟨rfl⟩
      decide
    pageSize := nofun }
  have hquery : ListParams.WrittenQuery booksWanted.query _ :=
    .query (List.mem_cons_of_mem _ List.mem_cons_self) (.cons (.query List.mem_cons_self .nil) .nil)
  refine ⟨hwell, (ListParams.written_parameters_read_back hwell).2 _ ?_⟩
  exact .params (List.mem_cons_of_mem _ List.mem_cons_self) (List.mem_cons_of_mem _ List.mem_cons_self) hquery

end ModelCatalog
