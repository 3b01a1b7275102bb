import ModelCatalog.Proofs.Store.Columns
import ModelCatalog.Proofs.Store.Embedding

/-!
# Rows embedded along several paths

Paths are followed one after another, each through the rows that those before it have embedded. A row ends up with what one walk over the
tree of all segments would give it: under the name of a relation the rows that the relation leads to, with the rest of the paths embedded
in each of them (`get?_embedAlong`). So only the prefixes of the paths count, and everything else in a row stays (`rows_of_embedding`).
-/

namespace ModelCatalog

namespace QuerySet

/-! ## Paths and their prefixes -/

/-- A row with related rows embedded along paths given by their segments, one after another. -/
def embedAlong (r : Registry) (s : Store) (model : String) (paths : List (List String)) (row : Row) : Row :=
  paths.foldl (fun row path => embed r s model path row) row

/-- What is left of the paths that begin with a name. -/
def below (name : String) (paths : List (List String)) : List (List String) :=
  paths.filterMap fun
    | [] => none
    | first :: rest => if first = name then some rest else none

/-- What begins a path of one list begins one of the other. -/
def SamePrefixes (paths others : List (List String)) : Prop :=
  ∀ start, (∃ path ∈ paths, start <+: path) ↔ ∃ path ∈ others, start <+: path

theorem mem_below {name : String} {paths : List (List String)} {rest : List String} :
    rest ∈ below name paths ↔ name :: rest ∈ paths := by
  rw [below, List.mem_filterMap]
  constructor
  · rintro ⟨path, hpath, h⟩
    cases path with
    | nil => cases h
    | cons first path =>
      simp only at h
      split at h
      · rename_i hfirst
        rw [← Option.some.inj h, ← hfirst]
        exact hpath
      · cases h
  · intro h
    exact ⟨name :: rest, h, if_pos rfl⟩

theorem below_append (name : String) (paths others : List (List String)) :
    below name (paths ++ others) = below name paths ++ below name others := List.filterMap_append

/-- Where no path begins with a name nothing is left below it. -/
theorem below_eq_nil {name : String} {paths : List (List String)} (h : ∀ path ∈ paths, path.head? ≠ some name) : below name paths = [] := by
  rw [List.eq_nil_iff_forall_not_mem]
  intro rest hrest
  exact h _ (mem_below.1 hrest) rfl

theorem below_singleton_self (name : String) (rest : List String) : below name [name :: rest] = [rest] := by
  simp [below]

namespace SamePrefixes

variable {paths others : List (List String)}

theorem below (h : SamePrefixes paths others) (name : String) : SamePrefixes (below name paths) (below name others) := by
  have hcons : ∀ (paths : List (List String)) (start : List String),
      (∃ rest ∈ QuerySet.below name paths, start <+: rest) ↔ ∃ path ∈ paths, name :: start <+: path := by
    intro paths start
    constructor
    · rintro ⟨rest, hrest, hstart⟩
      exact ⟨name :: rest, mem_below.1 hrest, List.cons_prefix_cons.2 ⟨rfl, hstart⟩⟩
    · rintro ⟨path, hpath, hstart⟩
      cases path with
      | nil => simp at hstart
      | cons first rest =>
        obtain ⟨rfl, hrest⟩ := List.cons_prefix_cons.1 hstart
        exact ⟨rest, mem_below.2 hpath, hrest⟩
  intro start
  rw [hcons, hcons]
  exact h (name :: start)

/-- One of the lists is empty only if the other is. -/
theorem eq_nil_iff (h : SamePrefixes paths others) : paths = [] ↔ others = [] := by
  have hempty : ∀ paths : List (List String), paths = [] ↔ ¬∃ path ∈ paths, [] <+: path := by
    intro paths
    cases paths <;> simp
  rw [hempty, hempty, h []]

/-- Lists of the same paths have the same prefixes. -/
theorem of_mem_iff (h : ∀ path, path ∈ paths ↔ path ∈ others) : SamePrefixes paths others := by
  intro start
  simp only [h]

/-- A path that begins another one adds no prefix. -/
theorem cons_of_begins {path longer : List String} (hlonger : longer ∈ paths) (hpath : path <+: longer) :
    SamePrefixes (path :: paths) paths := by
  intro start
  constructor
  · rintro ⟨found, hfound, hstart⟩
    rcases List.mem_cons.1 hfound with rfl | hfound
    · exact ⟨longer, hlonger, hstart.trans hpath⟩
    · exact ⟨found, hfound, hstart⟩
  · rintro ⟨found, hfound, hstart⟩
    exact ⟨found, List.mem_cons_of_mem _ hfound, hstart⟩

end SamePrefixes

/-! ## Changes of embedded rows -/

/-- The rows that an embedded value holds. -/
def rowsIn : Json → List Row
  | .object row => [.of row]
  | .list items => items.filterMap fun
    | .object row => some (.of row)
    | _ => none
  | _ => []

theorem rowsIn_list (rows : List Row) : rowsIn (.list (rows.map fun row : Row => .object row)) = rows := by
  rw [rowsIn, List.filterMap_map]
  exact (List.filterMap_congr fun row _ => congrArg some (Dict.of_entries row)).trans List.filterMap_some

theorem rowsIn_firstRow (rows : List Row) : rowsIn (firstRow rows) ⊆ rows := by
  cases rows with
  | nil => exact List.nil_subset _
  | cons first rest =>
    have hrow : rowsIn (firstRow (first :: rest)) = [first] := congrArg List.singleton (Dict.of_entries first)
    rw [hrow]
    exact List.cons_subset.2 ⟨List.mem_cons_self, List.nil_subset _⟩

/-- Changes that agree on the rows of an embedded value change it alike. -/
theorem onEmbedded_congr {f g : Row → Row} {value : Json} (h : ∀ row ∈ rowsIn value, f row = g row) :
    onEmbedded f value = onEmbedded g value := by
  cases value with
  | object row => rw [onEmbedded, onEmbedded, h (.of row) (List.mem_singleton_self _)]
  | list items =>
    rw [onEmbedded, onEmbedded]
    congr 1
    refine List.map_congr_left fun item hitem => ?_
    cases item with
    | object row => exact congrArg (fun row : Row => Json.object row) (h (.of row) (List.mem_filterMap.2 ⟨_, hitem, rfl⟩))
    | _ => rfl
  | _ => rfl

/-- One change after another. -/
theorem onEmbedded_onEmbedded (f g : Row → Row) (value : Json) : onEmbedded f (onEmbedded g value) = onEmbedded (f ∘ g) value := by
  cases value with
  | object row => exact onEmbedded_object f (g (.of row))
  | list items =>
    simp only [onEmbedded, List.map_map]
    congr 1
    refine List.map_congr_left fun item _ => ?_
    cases item with
    | object row => exact onEmbedded_object f (g (.of row))
    | _ => rfl
  | _ => rfl

/-! ## What a relation leads to -/

/-- The model that a relation leads to from a row, and what is embedded when nothing is yet. Plain fields and links are not embedded. -/
def leadsTo? (r : Registry) (s : Store) (m : Model) (row : Row) (name : String) : Option (String × Json) :=
  match m.field? name with
  | some (.reference ref) => some (ref.target, referenced r s ref row)
  | some (.inverse i) => some (i.source, referring r s m.name i row)
  | _ => none

section

variable {r : Registry} {s : Store} {m : Model} {row : Row}

theorem rowsWithKeys_subset (r : Registry) (s : Store) (model : String) (keys : List Json) :
    s.rowsWithKeys r model keys ⊆ s.rows model := by
  unfold Store.rowsWithKeys
  split
  · exact List.nil_subset _
  · exact List.filter_subset_self _

theorem rowsReferring_subset (r : Registry) (s : Store) (model : String) (rows : List Row) (i : Inverse) :
    s.rowsReferring r model rows i ⊆ s.rows i.source := by
  unfold Store.rowsReferring
  split
  · exact List.nil_subset _
  · exact List.filter_subset_self _

/-- What leads to other rows is a reference or an inverse relation. -/
theorem exists_relation_of_leadsTo? {name target : String} {base : Json} (h : leadsTo? r s m row name = some (target, base)) :
    (∃ ref, m.field? name = some (.reference ref) ∧ ref.target = target ∧ base = referenced r s ref row) ∨
      ∃ i, m.field? name = some (.inverse i) ∧ i.source = target ∧ base = referring r s m.name i row := by
  unfold leadsTo? at h
  split at h
  · rename_i ref hfield
    cases h
    exact Or.inl ⟨ref, hfield, rfl, rfl⟩
  · rename_i i hfield
    cases h
    exact Or.inr ⟨i, hfield, rfl, rfl⟩
  · cases h

/-- A column does not go by the name of a relation. -/
theorem leadsTo?_column (hsound : m.IsSound) {column : String} (hcolumn : column ∈ m.storedColumns) : leadsTo? r s m row column = none := by
  obtain ⟨f, hf, hfc⟩ := Model.mem_storedColumns.1 hcolumn
  have hsame : ∀ g, m.field? column = some g → g = f := by
    intro g hg
    obtain ⟨hgm, rfl⟩ := Model.mem_of_field? hg
    exact Model.eq_of_names_nodup hsound.names_nodup hgm hf ((g.answersTo_iff g.name).2 List.mem_cons_self) (Field.answersTo_column hfc)
  unfold leadsTo?
  split
  · rename_i ref hfield
    obtain ⟨-, hname⟩ := Model.mem_of_field? hfield
    rw [← hsame _ hfield, ← hname] at hfc
    exact absurd (Option.some.inj hfc).symm ref.name_ne_column
  · rename_i i hfield
    rw [← hsame _ hfield] at hfc
    cases hfc
  · rfl

/-- The column of the primary key is one in which rows are stored. -/
theorem mem_storedColumns_of_keyColumn? (hm : r.model? m.name = some m) {column : String} (h : r.keyColumn? m.name = some column) :
    column ∈ m.storedColumns := by
  rw [Registry.keyColumn?, hm, Option.bind_some] at h
  cases hkey : m.keyColumn with
  | error e =>
    rw [hkey] at h
    cases h
  | ok key =>
    rw [hkey] at h
    cases h
    exact Model.mem_storedColumns.2 (Model.exists_field_of_keyColumn hkey)

/-- Relations lead from a row to what the values in its columns say. -/
theorem leadsTo?_congr (hm : r.model? m.name = some m) {row' : Row} (h : ∀ c ∈ m.storedColumns, row'.get? c = row.get? c) (name : String) :
    leadsTo? r s m row' name = leadsTo? r s m row name := by
  unfold leadsTo?
  cases hfield : m.field? name with
  | none => rfl
  | some f =>
    obtain ⟨hf, -⟩ := Model.mem_of_field? hfield
    cases f with
    | plain c => rfl
    | links l => rfl
    | reference ref =>
      have hcolumn : ref.column ∈ m.storedColumns := Model.mem_storedColumns.2 ⟨_, hf, rfl⟩
      simp only [referenced, h _ hcolumn]
    | inverse i =>
      have hrows : s.rowsReferring r m.name [row'] i = s.rowsReferring r m.name [row] i := by
        unfold Store.rowsReferring
        cases hkey : r.keyColumn? m.name with
        | none => rfl
        | some column => simp only [List.filterMap_cons, h _ (mem_storedColumns_of_keyColumn? hm hkey)]
      simp only [referring, hrows]

/-- A relation leads to stored rows of a registered model. -/
theorem exists_target (hr : r.IsBuilt) (hm : r.model? m.name = some m) {name target : String} {base : Json}
    (h : leadsTo? r s m row name = some (target, base)) :
    ∃ m', r.model? m'.name = some m' ∧ target = m'.name ∧ rowsIn base ⊆ s.rows target := by
  have hregistered : ∀ f, m.field? name = some f → f.related? = some target → ∃ m', r.model? m'.name = some m' ∧ target = m'.name := by
    intro f hf hrelated
    obtain ⟨m', hm'⟩ := hr.target hm (Model.mem_of_field? hf).1 hrelated
    obtain rfl := Registry.name_of_model? hm'
    exact ⟨m', hm', rfl⟩
  rcases exists_relation_of_leadsTo? h with ⟨ref, hfield, rfl, rfl⟩ | ⟨i, hfield, rfl, rfl⟩
  · obtain ⟨m', hm', hname⟩ := hregistered _ hfield rfl
    exact ⟨m', hm', hname, List.Subset.trans (rowsIn_firstRow _) (rowsWithKeys_subset r s _ _)⟩
  · obtain ⟨m', hm', hname⟩ := hregistered _ hfield rfl
    refine ⟨m', hm', hname, ?_⟩
    unfold referring
    split
    · exact List.Subset.trans (rowsIn_firstRow _) (rowsReferring_subset r s _ _ i)
    · rw [rowsIn_list]
      exact rowsReferring_subset r s _ _ i

/-! ## One path -/

/-- Along a path that does not begin with a relation nothing is embedded. -/
theorem embed_of_leadsTo?_eq_none (hm : r.model? m.name = some m) {name : String} (h : leadsTo? r s m row name = none)
    (rest : List String) : embed r s m.name (name :: rest) row = row := by
  rw [embed, hm, Option.bind_some]
  cases hfield : m.field? name with
  | none => rfl
  | some f =>
    cases f with
    | plain c => rfl
    | links l => rfl
    | reference ref => simp [leadsTo?, hfield] at h
    | inverse i => simp [leadsTo?, hfield] at h

/-- Along a path that begins with a relation the rows under its name are changed, whether they were embedded before or are now. -/
theorem embed_of_leadsTo? (hm : r.model? m.name = some m) {name target : String} {base : Json}
    (h : leadsTo? r s m row name = some (target, base)) {g : Row → Row}
    (hheld : row.get? name = none ∧ g = id ∨ row.get? name = some (onEmbedded g base)) (rest : List String) :
    embed r s m.name (name :: rest) row = row.insert name (onEmbedded (embed r s target rest ∘ g) base) := by
  rcases exists_relation_of_leadsTo? h with ⟨ref, hfield, rfl, rfl⟩ | ⟨i, hfield, rfl, rfl⟩
  · obtain ⟨-, rfl⟩ := Model.mem_of_field? hfield
    have hheld' : row.get? ref.name = none ∧ g = id ∨ row.get? ref.name = some (onEmbedded g (referenced r s ref row)) := hheld
    rw [embed, hm, Option.bind_some, hfield]
    simp only [underReference]
    change row.insert ref.name _ = row.insert ref.name _
    congr 1
    -- a reference leads to a row or to null, and null is looked up again
    have hbase : referenced r s ref row = .null ∨ ∃ related, referenced r s ref row = .object related := by
      unfold referenced
      cases (s.rowsWithKeys r ref.target [(row.get? ref.column).getD .null]).head? with
      | none => exact Or.inl rfl
      | some related => exact Or.inr ⟨related, rfl⟩
    rcases hbase with hbase | ⟨related, hbase⟩
    all_goals
      rw [hbase] at hheld' ⊢
      rcases hheld' with ⟨hnone, rfl⟩ | hsome
      · rw [hnone]
        rfl
      · rw [hsome, ← onEmbedded_onEmbedded]
        rfl
  · obtain ⟨-, rfl⟩ := Model.mem_of_field? hfield
    rw [embed, hm, Option.bind_some, hfield]
    change row.insert i.name (onEmbedded _ ((row.get? i.name).getD _)) = row.insert i.name _
    congr 1
    rcases hheld with ⟨hnone, rfl⟩ | hsome
    · have hnone' : row.get? i.name = none := hnone
      rw [hnone']
      rfl
    · have hsome' : row.get? i.name = some (onEmbedded g (referring r s m.name i row)) := hsome
      rw [hsome', Option.getD_some, onEmbedded_onEmbedded]

/-! ## All paths -/

theorem embedAlong_append (r : Registry) (s : Store) (model : String) (paths : List (List String)) (path : List String) (row : Row) :
    embedAlong r s model (paths ++ [path]) row = embed r s model path (embedAlong r s model paths row) := by
  rw [embedAlong, List.foldl_append]
  rfl

/-- What a row holds that had nothing embedded. Under a relation from which a path starts these are the rows it leads to, with what is left
of the paths embedded in them; under any other name it is what the row held. -/
theorem get?_embedAlong (hm : r.model? m.name = some m) (hsound : m.IsSound)
    (hnew : ∀ name, (leadsTo? r s m row name).isSome = true → row.get? name = none) (paths : List (List String)) (name : String) :
    (embedAlong r s m.name paths row).get? name =
      match leadsTo? r s m row name with
      | none => row.get? name
      | some (target, base) =>
        if below name paths = [] then none else some (onEmbedded (embedAlong r s target (below name paths)) base) := by
  induction paths using List.reverseRecOn generalizing name with
  | nil =>
    cases h : leadsTo? r s m row name with
    | none => rfl
    | some found => exact hnew name (by rw [h]; rfl)
  | append_singleton paths path ih =>
    rw [embedAlong_append]
    have hcolumns : ∀ c ∈ m.storedColumns, (embedAlong r s m.name paths row).get? c = row.get? c := by
      intro c hc
      rw [ih, leadsTo?_column hsound hc]
    have hleads := leadsTo?_congr (s := s) hm hcolumns
    have hother : path.head? ≠ some name → below name (paths ++ [path]) = below name paths := by
      intro hne
      rw [below_append, below_eq_nil (List.forall_mem_singleton.2 hne), List.append_nil]
    cases path with
    | nil =>
      rw [hother (by simp), ← ih]
      rfl
    | cons first rest =>
      cases h : leadsTo? r s m row first with
      | none =>
        rw [embed_of_leadsTo?_eq_none hm ((hleads first).trans h), ih]
        by_cases hname : first = name
        · rw [← hname, h]
        · rw [hother (by simpa using hname)]
      | some found =>
        obtain ⟨target, base⟩ := found
        have hheld : (embedAlong r s m.name paths row).get? first = none ∧ embedAlong r s target (below first paths) = id ∨
            (embedAlong r s m.name paths row).get? first = some (onEmbedded (embedAlong r s target (below first paths)) base) := by
          rw [ih, h]
          by_cases hbelow : below first paths = []
          · rw [hbelow]
            exact Or.inl ⟨if_pos rfl, rfl⟩
          · exact Or.inr (if_neg hbelow)
        rw [embed_of_leadsTo? hm ((hleads first).trans h) hheld, Dict.get?_insert]
        by_cases hname : first = name
        · subst hname
          have hbelow : below first (paths ++ [first :: rest]) = below first paths ++ [rest] := by
            rw [below_append, below_singleton_self]
          have hchange : embed r s target rest ∘ embedAlong r s target (below first paths) =
              embedAlong r s target (below first paths ++ [rest]) := by
            funext related
            rw [embedAlong_append]
            rfl
          rw [if_pos rfl, h, hbelow]
          simp only [List.append_eq_nil_iff, List.cons_ne_self, and_false, if_false, hchange]
        · rw [if_neg hname, ih, hother (by simpa using hname)]

end

section

variable {r : Registry} (hr : r.IsBuilt) {s : Store} (hs : s.IsReachable r)

include hr hs

/-- A stored row has nothing embedded. -/
theorem get?_of_leadsTo? {m : Model} (hm : r.model? m.name = some m) {row : Row} (hrow : row ∈ s.rows m.name) (name : String)
    (h : (leadsTo? r s m row name).isSome = true) : row.get? name = none := by
  obtain ⟨-, -, -, -, column, -, hcolumn⟩ := (hr.sound hm).keyColumn
  by_contra hsome
  obtain ⟨f, hf, hfc⟩ := Store.holdsColumns hs hm hcolumn row hrow name (Option.isSome_iff_ne_none.2 hsome)
  rw [leadsTo?_column (hr.sound hm) (Model.mem_storedColumns.2 ⟨f, hf, hfc⟩)] at h
  cases h

/-- Paths with the same prefixes embed the same rows in a stored row. -/
theorem embedAlong_congr {m : Model} (hm : r.model? m.name = some m) {row : Row} (hrow : row ∈ s.rows m.name)
    {paths others : List (List String)} (h : SamePrefixes paths others) :
    embedAlong r s m.name paths row = embedAlong r s m.name others row := by
  -- by induction on the length of the longest path
  obtain ⟨n, hn⟩ : ∃ n, ∀ path ∈ paths, path.length < n := by
    refine ⟨paths.flatten.length + 1, fun path hpath => Nat.lt_succ_of_le ?_⟩
    exact (List.sublist_flatten_of_mem hpath).length_le
  induction n generalizing m row paths others with
  | zero =>
    have hempty : paths = [] := List.eq_nil_iff_forall_not_mem.2 fun path hpath => Nat.not_lt_zero _ (hn path hpath)
    rw [h.eq_nil_iff.1 hempty, hempty]
  | succ n ih =>
    refine Dict.ext_get? fun name => ?_
    have hnew := get?_of_leadsTo? hr hs hm hrow
    rw [get?_embedAlong hm (hr.sound hm) hnew, get?_embedAlong hm (hr.sound hm) hnew]
    cases hleads : leadsTo? r s m row name with
    | none => rfl
    | some found =>
      obtain ⟨target, base⟩ := found
      obtain ⟨m', hm', rfl, hbase⟩ := exists_target hr hm hleads
      have hrows : ∀ related ∈ rowsIn base,
          embedAlong r s m'.name (below name paths) related = embedAlong r s m'.name (below name others) related := by
        intro related hrelated
        refine ih hm' (hbase hrelated) (h.below name) fun rest hrest => ?_
        exact Nat.lt_of_succ_lt_succ (hn _ (mem_below.1 hrest))
      simp only [(h.below name).eq_nil_iff, onEmbedded_congr hrows]

end

/-! ## Rows of query sets -/

/-- A row as another one with rows embedded along paths: in the columns of the model it holds the same, and where else it does not, it is
under the name of a relation from which one of the paths starts. -/
structure IsEmbeddedIn (m : Model) (paths : List String) (row embedded : Row) : Prop where
  columns : ∀ c ∈ m.storedColumns, embedded.get? c = row.get? c
  starts : ∀ name, embedded.get? name ≠ row.get? name → ∃ path ∈ paths, (LookupKey.segments path).head? = some name
  relations : ∀ name, embedded.get? name ≠ row.get? name →
    (∃ ref, m.field? name = some (.reference ref)) ∨ ∃ i, m.field? name = some (.inverse i)

/-- A row holds under the name of each relation from which a path starts the rows that the relation leads to from a stored row, with what is
left of the paths embedded in them. -/
def HoldsEmbedded (r : Registry) (s : Store) (m : Model) (paths : List (List String)) (stored row : Row) : Prop :=
  ∀ name target base, leadsTo? r s m stored name = some (target, base) → below name paths ≠ [] →
    row.get? name = some (onEmbedded (embedAlong r s target (below name paths)) base)

theorem withRelated_eq (r : Registry) (s : Store) (q : QuerySet) (row : Row) :
    withRelated r s q row = embedAlong r s q.model (q.related.map LookupKey.segments) row := by
  rw [withRelated, embedAlong, List.foldl_map]

/-- Paths are added behind those that are embedded anyway. -/
theorem exists_related_embedding (q : QuerySet) (paths : List String) :
    ∃ added, added ⊆ paths ∧ (q.embedding paths).related = q.related ++ added := by
  induction paths generalizing q with
  | nil => exact ⟨[], List.Subset.refl _, (List.append_nil _).symm⟩
  | cons path paths ih =>
    obtain ⟨added, hadded, hrelated⟩ := ih (q.embedding [path])
    have hstep : (q.embedding (path :: paths)).related = (q.embedding [path]).related ++ added := hrelated
    by_cases hpath : q.related.contains path = true
    · have hone : (q.embedding [path]).related = q.related := if_pos hpath
      refine ⟨added, List.subset_cons_of_subset _ hadded, ?_⟩
      rw [hstep, hone]
    · have hone : (q.embedding [path]).related = q.related ++ [path] := if_neg hpath
      refine ⟨path :: added, List.cons_subset_cons _ hadded, ?_⟩
      rw [hstep, hone, List.append_assoc, List.singleton_append]

/-- Paths with the same prefixes have them with what is embedded anyway, too. -/
theorem samePrefixes_embedding (q : QuerySet) {paths others : List String}
    (h : SamePrefixes (paths.map LookupKey.segments) (others.map LookupKey.segments)) :
    SamePrefixes ((q.embedding paths).related.map LookupKey.segments) ((q.embedding others).related.map LookupKey.segments) := by
  have hsplit : ∀ (paths : List String) (start : List String),
      (∃ path ∈ (q.embedding paths).related.map LookupKey.segments, start <+: path) ↔
        (∃ path ∈ q.related.map LookupKey.segments, start <+: path) ∨ ∃ path ∈ paths.map LookupKey.segments, start <+: path := by
    intro paths start
    simp only [List.mem_map, exists_exists_and_eq_and, mem_related_embedding, or_and_right, exists_or]
  intro start
  rw [hsplit, hsplit, h start]

/-- The paths decide the form of the rows, not which rows there are. -/
theorem fetch_embedding_eq (r : Registry) (s : Store) (q : QuerySet) (paths : List String) : (q.embedding paths).fetch r s =
    q.check r >>= fun _ => .ok ((q.matching r s).map ((q.embedding paths).shape r s)) := rfl

/-- A projection gives rows that differ no more. -/
theorem IsEmbeddedIn.shape {r : Registry} {s : Store} {q : QuerySet} {m : Model} {paths : List String} {row : Row}
    (h : IsEmbeddedIn m paths (withRelated r s q row) (withRelated r s (q.embedding paths) row)) :
    IsEmbeddedIn m paths (q.shape r s row) ((q.embedding paths).shape r s row) := by
  have hprojection : (q.embedding paths).projection = q.projection := rfl
  have hmodel : (q.embedding paths).model = q.model := rfl
  unfold QuerySet.shape
  rw [hprojection, hmodel]
  cases q.projection with
  | none => exact h
  | some fields =>
    simp only
    have hsame : ∀ name, (withRelated r s (q.embedding paths) row).get? name = (withRelated r s q row).get? name →
        (Dict.of (fields.map fun name =>
          (name, ((withRelated r s (q.embedding paths) row).get? name).getD (s.firstAt r q.model row name)))).get? name =
        (Dict.of (fields.map fun name =>
          (name, ((withRelated r s q row).get? name).getD (s.firstAt r q.model row name)))).get? name := by
      intro name heq
      rw [Dict.of, Dict.of, Dict.get?_extend_map, Dict.get?_extend_map, heq]
    exact ⟨fun c hc => hsame c (h.columns c hc), fun name hne => h.starts name fun heq => hne (hsame name heq),
      fun name hne => h.relations name fun heq => hne (hsame name heq)⟩

section

variable {r : Registry} (hr : r.IsBuilt) {s : Store} (hs : s.IsReachable r)

include hr hs

/-- More paths leave a stored row as it is, but for what they embed. -/
theorem isEmbeddedIn_withRelated {q : QuerySet} {m : Model} (hm : r.model? q.model = some m) {row : Row} (hrow : row ∈ s.rows q.model)
    (paths : List String) : IsEmbeddedIn m paths (withRelated r s q row) (withRelated r s (q.embedding paths) row) := by
  have hname : m.name = q.model := Registry.name_of_model? hm
  rw [← hname] at hm hrow
  have hget := get?_embedAlong hm (hr.sound hm) (get?_of_leadsTo? hr hs hm hrow)
  have hmodel : (q.embedding paths).model = q.model := rfl
  rw [withRelated_eq, withRelated_eq, hmodel, ← hname]
  refine ⟨?_, ?_, ?_⟩
  · intro c hc
    rw [hget, hget, leadsTo?_column (hr.sound hm) hc]
  · intro name hne
    by_contra hnone
    obtain ⟨added, hadded, hrelated⟩ := exists_related_embedding q paths
    have hbelow : below name (added.map LookupKey.segments) = [] := by
      refine below_eq_nil fun segments hsegments => ?_
      obtain ⟨path, hpath, rfl⟩ := List.mem_map.1 hsegments
      exact fun hhead => hnone ⟨path, hadded hpath, hhead⟩
    apply hne
    rw [hget, hget, hrelated, List.map_append, below_append, hbelow, List.append_nil]
  · intro name hne
    rw [hget, hget] at hne
    cases hleads : leadsTo? r s m row name with
    | none => simp [hleads] at hne
    | some found =>
      obtain ⟨target, base⟩ := found
      rcases exists_relation_of_leadsTo? hleads with ⟨ref, hfield, -⟩ | ⟨i, hfield, -⟩
      · exact Or.inl ⟨ref, hfield⟩
      · exact Or.inr ⟨i, hfield⟩

/-- A stored row holds what is embedded in it. -/
theorem holdsEmbedded_withRelated {q : QuerySet} {m : Model} (hm : r.model? q.model = some m) {row : Row} (hrow : row ∈ s.rows q.model) :
    HoldsEmbedded r s m (q.related.map LookupKey.segments) row (withRelated r s q row) := by
  intro name target base hleads hbelow
  have hname : m.name = q.model := Registry.name_of_model? hm
  rw [← hname] at hm hrow
  rw [withRelated_eq, ← hname, get?_embedAlong hm (hr.sound hm) (get?_of_leadsTo? hr hs hm hrow), hleads]
  exact if_neg hbelow

/-- Paths with the same prefixes give the same rows. -/
theorem fetch_embedding_congr (q : QuerySet) {paths others : List String}
    (h : SamePrefixes (paths.map LookupKey.segments) (others.map LookupKey.segments)) :
    (q.embedding paths).fetch r s = (q.embedding others).fetch r s := by
  have hrows : (q.matching r s).map ((q.embedding paths).shape r s) = (q.matching r s).map ((q.embedding others).shape r s) := by
    refine List.map_congr_left fun row hmatching => ?_
    have hrow : row ∈ s.rows q.model := matching_subset r s q hmatching
    obtain ⟨m, hm⟩ := Store.exists_model_of_mem_rows hs hrow
    have hname : m.name = q.model := Registry.name_of_model? hm
    rw [← hname] at hm hrow
    have hrelated : withRelated r s (q.embedding paths) row = withRelated r s (q.embedding others) row := by
      rw [withRelated_eq, withRelated_eq]
      change embedAlong r s q.model _ row = embedAlong r s q.model _ row
      rw [← hname]
      exact embedAlong_congr hr hs hm hrow (samePrefixes_embedding q h)
    unfold shape
    rw [hrelated]
    rfl
  rw [fetch_embedding_eq, fetch_embedding_eq, hrows]

/-- Embedding rows along paths changes nothing else. A query set has as many rows as without the paths, in the same order; each holds the
same in all columns of the model, and under any name that is not that of a relation from which a path starts. If the query set fails, it
does so with or without the paths. Unless it is a projection, each row holds what the relations lead to from which the paths start, with the
rest of the paths embedded there. What is embedded depends only on the prefixes of the paths: their order does not matter, nor whether one
is repeated, nor whether one is added that begins another. -/
theorem rows_of_embedding (q : QuerySet) :
    (∀ paths e, (q.embedding paths).fetch r s = .error e ↔ q.fetch r s = .error e) ∧
    (∀ paths rows embedded, q.fetch r s = .ok rows → (q.embedding paths).fetch r s = .ok embedded →
      List.Forall₂ (fun row row' => ∃ m, r.model? q.model = some m ∧ IsEmbeddedIn m paths row row') rows embedded) ∧
    (∀ paths embedded, q.projection = none → (q.embedding paths).fetch r s = .ok embedded →
      List.Forall₂ (fun stored row => ∃ m, r.model? q.model = some m ∧
        HoldsEmbedded r s m ((q.embedding paths).related.map LookupKey.segments) stored row) (q.matching r s) embedded) ∧
    (∀ paths others, SamePrefixes (paths.map LookupKey.segments) (others.map LookupKey.segments) →
      (q.embedding paths).fetch r s = (q.embedding others).fetch r s) ∧
    (∀ paths others, paths.Perm others → (q.embedding paths).fetch r s = (q.embedding others).fetch r s) ∧
    (∀ paths, ∀ path ∈ paths, (q.embedding (path :: paths)).fetch r s = (q.embedding paths).fetch r s) ∧
    ∀ paths path, (∃ longer ∈ paths, LookupKey.segments path <+: LookupKey.segments longer) →
      (q.embedding (path :: paths)).fetch r s = (q.embedding paths).fetch r s := by
  have hbase : q.fetch r s = q.check r >>= fun _ => .ok ((q.matching r s).map (q.shape r s)) := rfl
  have hstored : ∀ row ∈ q.matching r s, row ∈ s.rows q.model ∧ ∃ m, r.model? q.model = some m := by
    intro row hmatching
    have hrow : row ∈ s.rows q.model := matching_subset r s q hmatching
    exact ⟨hrow, Store.exists_model_of_mem_rows hs hrow⟩
  refine ⟨?_, ?_, ?_, ?_, ?_, ?_, ?_⟩
  · intro paths e
    rw [fetch_embedding_eq, hbase]
    cases q.check r with
    | error e' => rfl
    | ok _ => exact iff_of_false nofun nofun
  · intro paths rows embedded hrows hembedded
    rw [hbase] at hrows
    rw [fetch_embedding_eq] at hembedded
    obtain ⟨-, -, hrows⟩ := Outcome.bind_ok_iff.1 hrows
    obtain ⟨-, -, hembedded⟩ := Outcome.bind_ok_iff.1 hembedded
    obtain rfl := Except.ok.inj hrows
    obtain rfl := Except.ok.inj hembedded
    rw [List.forall₂_map_left_iff, List.forall₂_map_right_iff, List.forall₂_same]
    intro row hmatching
    obtain ⟨hrow, m, hm⟩ := hstored row hmatching
    exact ⟨m, hm, (isEmbeddedIn_withRelated hr hs hm hrow paths).shape⟩
  · intro paths embedded hprojection hembedded
    rw [fetch_embedding_eq] at hembedded
    obtain ⟨-, -, hembedded⟩ := Outcome.bind_ok_iff.1 hembedded
    obtain rfl := Except.ok.inj hembedded
    rw [List.forall₂_map_right_iff, List.forall₂_same]
    intro row hmatching
    obtain ⟨hrow, m, hm⟩ := hstored row hmatching
    have hwhole : (q.embedding paths).projection = none := hprojection
    refine ⟨m, hm, ?_⟩
    rw [shape, hwhole]
    exact holdsEmbedded_withRelated hr hs (q := q.embedding paths) hm hrow
  · intro paths others h
    exact fetch_embedding_congr hr hs q h
  · intro paths others hperm
    exact fetch_embedding_congr hr hs q (.of_mem_iff fun _ => (hperm.map _).mem_iff)
  · intro paths path hpath
    exact fetch_embedding_congr hr hs q (.cons_of_begins (List.mem_map_of_mem hpath) List.prefix_rfl)
  · rintro paths path ⟨longer, hlonger, hpath⟩
    exact fetch_embedding_congr hr hs q (.cons_of_begins (List.mem_map_of_mem hlonger) hpath)

end

end QuerySet

/-- Two teams, and a player of the first of them. -/
def teamCalls : List Call := [.create "Team" [], .create "Team" [], .create "Player" (.of [("team", .nat 1)])]

/-- The teams of the players of each team, with the players of these again: the shorter path adds nothing, and the keys stay. -/
theorem teams_embedded_along_prefixes :
    ∃ (r : Registry) (rows : List Row), r.IsBuilt ∧
      (QuerySet.embedding { model := "Team" } ["player_set__team__player_set"]).fetch r (Store.afterCalls r teamCalls) = .ok rows ∧
      (QuerySet.embedding { model := "Team" } ["player_set__team", "player_set__team__player_set"]).fetch r
        (Store.afterCalls r teamCalls) = .ok rows ∧
      rows.map (·.get? "id") = [some (.nat 1), some (.nat 2)] ∧ rows.map (·.contains "player_set") = [true, true] := by
  obtain ⟨-, hrows, -, -, -, -, hprefix⟩ := QuerySet.rows_of_embedding teams_isBuilt ⟨teamCalls, rfl⟩ { model := "Team" }
  have hlonger : LookupKey.segments "player_set__team" <+: LookupKey.segments "player_set__team__player_set" := by decide
  have hsame := hprefix ["player_set__team__player_set"] "player_set__team" ⟨_, List.mem_singleton_self _, hlonger⟩
  have hembedded := hrows ["player_set__team__player_set"] [.of [("id", .nat 1)], .of [("id", .nat 2)]] _ rfl rfl
  refine ⟨_, _, teams_isBuilt, rfl, hsame, ?_, rfl⟩
  have hkeys : ∀ row row' : Row, (∃ m, Registry.model? { models := [teamModel, playerModel] } "Team" = some m ∧
      QuerySet.IsEmbeddedIn m ["player_set__team__player_set"] row row') → row.get? "id" = row'.get? "id" := by
    rintro row row' ⟨m, hm, h⟩
    obtain rfl : teamModel = m := Option.some.inj hm
    exact (h.columns "id" (by decide)).symm
  have hmaps := List.rel_map hkeys hembedded
  rw [List.forall₂_eq_eq_eq] at hmaps
  exact hmaps.symm

end ModelCatalog
