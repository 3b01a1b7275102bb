import ModelCatalog.Proofs.Outcome
import ModelCatalog.Proofs.Query.Keys
import ModelCatalog.Proofs.Schema.Built
import ModelCatalog.Store.Path

/-!
# Paths that make sense

A path goes by relations, each under its own name, from model to model, and ends in a field under any of its names;
below a field that holds JSON anything may follow. `IsPath` says so, with the relations taken (`Hop`) and the field at
the end (`Ending`); `checkPath` accepts exactly these paths (`checkPath_ok_iff`).
-/

namespace ModelCatalog

/-- A relation of a model to another, both registered and with primary keys. -/
structure Hop (r : Registry) where
  source : Model
  field : Field
  target : Model
  sourceKey : String
  targetKey : String
  field_mem : field ∈ source.fields
  related : field.related? = some target.name
  model_target : r.model? target.name = some target
  keyColumn_source : source.keyColumn = .ok sourceKey
  keyColumn_target : target.keyColumn = .ok targetKey

/-- The field in which a path ends. -/
inductive Ending (r : Registry) where
  /-- A plain field, and the members below it when it holds JSON. -/
  | plain (c : Column) (members : List String)
  | reference (ref : Reference)
  | inverse (hop : Hop r)
  | links (l : Links)

/-- Some segments are a path from a model by some relations to a field. -/
inductive IsPath (r : Registry) : Model → List String → List (Hop r) → Ending r → Prop where
  | plain {m : Model} {c : Column} (hc : Field.plain c ∈ m.fields) {members : List String}
      (hmembers : members = [] ∨ c.kind = .scalar .json) : IsPath r m (c.name :: members) [] (.plain c members)
  | reference {m : Model} {ref : Reference} (href : Field.reference ref ∈ m.fields) {name : String}
      (hname : name = ref.name ∨ name = ref.column) : IsPath r m [name] [] (.reference ref)
  | inverse {i : Inverse} (hop : Hop r) (hi : hop.field = .inverse i) : IsPath r hop.source [i.name] [] (.inverse hop)
  | links {m : Model} {l : Links} (hl : Field.links l ∈ m.fields) : IsPath r m [l.name] [] (.links l)
  | hop (hop : Hop r) {rest : List String} (hrest : rest ≠ []) {hops : List (Hop r)} {e : Ending r}
      (hpath : IsPath r hop.target rest hops e) : IsPath r hop.source (hop.field.name :: rest) (hop :: hops) e

/-- A relation does not go by the name of its column alone. -/
theorem Reference.name_ne_column (ref : Reference) : ref.name ≠ ref.column := by
  intro h
  have := congrArg String.length h
  simp [Reference.column] at this

/-- The check of a segment at a registered model. -/
theorem checkSegments_cons {r : Registry} {m : Model} (hm : r.model? m.name = some m) (path segment : String) (rest : List String) :
    r.checkSegments path m.name (segment :: rest) =
      match m.fieldAnsweringTo? segment with
      | none => .error (.pathWithoutField path m.name segment)
      | some (.plain c) =>
        if rest.isEmpty || c.kind = .scalar .json then .ok () else .error (.pathThroughPlainField path c.name)
      | some (.reference ref) =>
        if segment = ref.column && !rest.isEmpty then .error (.pathWithoutField path m.name segment)
        else r.checkSegments path ref.target rest
      | some (.inverse i) => r.checkSegments path i.source rest
      | some (.links l) => r.checkSegments path l.target rest := by
  rw [Registry.checkSegments, Registry.model_ok_iff.2 hm]
  rfl

section

variable {r : Registry} (hr : r.IsBuilt)

include hr

/-- Every relation of a registered model is one to another. -/
theorem exists_hop {m : Model} (hm : r.model? m.name = some m) {f : Field} (hf : f ∈ m.fields) {target : String}
    (ht : f.related? = some target) : ∃ hop : Hop r, hop.source = m ∧ hop.field = f ∧ hop.target.name = target := by
  obtain ⟨m', hm'⟩ := hr.target hm hf ht
  obtain rfl := Registry.name_of_model? hm'
  obtain ⟨-, -, -, -, key, -, hkey⟩ := (hr.sound hm).keyColumn
  obtain ⟨-, -, -, -, key', -, hkey'⟩ := (hr.sound hm').keyColumn
  exact ⟨⟨m, f, m', key, key', hf, ht, hm', hkey, hkey'⟩, rfl, rfl, rfl⟩

/-- A path goes on from the other end of a relation, or ends there. -/
theorem exists_isPath_of_relation {m : Model} (hm : r.model? m.name = some m) {f : Field} (hf : f ∈ m.fields) {target : String}
    (ht : f.related? = some target) {rest : List String} (hrest : rest ≠ [])
    (hpath : ∀ {m' : Model}, m'.name = target → r.model? m'.name = some m' → ∃ hops e, IsPath r m' rest hops e) :
    ∃ hops e, IsPath r m (f.name :: rest) hops e := by
  obtain ⟨hop, rfl, rfl, rfl⟩ := exists_hop hr hm hf ht
  obtain ⟨hops, e, h⟩ := hpath rfl hop.model_target
  exact ⟨hop :: hops, e, .hop hop hrest h⟩

/-- Segments that the check accepts are a path. -/
theorem exists_isPath_of_checkSegments {path : String} {segments : List String} (hne : segments ≠ []) {m : Model}
    (hm : r.model? m.name = some m) (h : r.checkSegments path m.name segments = .ok ()) : ∃ hops e, IsPath r m segments hops e := by
  induction segments generalizing m with
  | nil => exact absurd rfl hne
  | cons segment rest ih =>
    rw [checkSegments_cons hm] at h
    have hnext : ∀ {target : String}, r.checkSegments path target rest = .ok () → rest ≠ [] →
        ∀ {m' : Model}, m'.name = target → r.model? m'.name = some m' → ∃ hops e, IsPath r m' rest hops e := by
      rintro _ hcheck hrest m' rfl hm'
      exact ih hrest hm' hcheck
    cases hfield : m.fieldAnsweringTo? segment with
    | none =>
      rw [hfield] at h
      cases h
    | some f =>
      rw [hfield] at h
      obtain ⟨hf, hname⟩ := (hr.sound hm).fieldAnsweringTo?_eq_some_iff.1 hfield
      rw [Field.answersTo_iff] at hname
      cases f with
      | plain c =>
        simp only at h
        split at h
        · rename_i hok
          obtain rfl := List.mem_singleton.1 hname
          refine ⟨[], .plain c rest, .plain hf ?_⟩
          simpa using hok
        · cases h
      | reference ref =>
        simp only at h
        split at h
        · cases h
        · rename_i hcolumn
          have hnames : segment = ref.name ∨ segment = ref.column := List.mem_pair.1 hname
          by_cases hrest : rest = []
          · subst hrest
            exact ⟨[], .reference ref, .reference hf hnames⟩
          · have hsegment : segment = ref.name := hnames.resolve_right fun heq => hcolumn (by simp [heq, hrest])
            subst hsegment
            exact exists_isPath_of_relation hr hm hf rfl hrest (hnext h hrest)
      | inverse i =>
        obtain rfl := List.mem_singleton.1 hname
        by_cases hrest : rest = []
        · subst hrest
          obtain ⟨hop, rfl, hfield, -⟩ := exists_hop hr hm hf rfl
          exact ⟨[], .inverse hop, .inverse hop hfield⟩
        · exact exists_isPath_of_relation hr hm hf rfl hrest (hnext h hrest)
      | links l =>
        obtain rfl := List.mem_singleton.1 hname
        by_cases hrest : rest = []
        · subst hrest
          exact ⟨[], .links l, .links hf⟩
        · exact exists_isPath_of_relation hr hm hf rfl hrest (hnext h hrest)

/-- The check accepts every path. -/
theorem checkSegments_of_isPath {path : String} {segments : List String} {m : Model} {hops : List (Hop r)} {e : Ending r}
    (h : IsPath r m segments hops e) (hm : r.model? m.name = some m) : r.checkSegments path m.name segments = .ok () := by
  induction h with
  | @plain m c hc members hmembers =>
    have hfield : m.fieldAnsweringTo? c.name = some (.plain c) := (hr.sound hm).fieldAnsweringTo?_of_mem hc List.mem_cons_self
    rw [checkSegments_cons hm, hfield]
    rcases hmembers with rfl | hkind
    · rfl
    · simp [hkind]
  | reference href hname =>
    rw [checkSegments_cons hm, (hr.sound hm).fieldAnsweringTo?_of_mem href (List.mem_pair.2 hname)]
    simp [Registry.checkSegments]
  | @inverse i hop hi =>
    have hfield : hop.source.fieldAnsweringTo? i.name = some (.inverse i) :=
      (hr.sound hm).fieldAnsweringTo?_of_mem (hi ▸ hop.field_mem) List.mem_cons_self
    rw [checkSegments_cons hm, hfield]
    rfl
  | @links m l hl =>
    have hfield : m.fieldAnsweringTo? l.name = some (.links l) := (hr.sound hm).fieldAnsweringTo?_of_mem hl List.mem_cons_self
    rw [checkSegments_cons hm, hfield]
    rfl
  | hop hop hrest hpath ih =>
    have hnext := ih hop.model_target
    have hrelated := hop.related
    rw [checkSegments_cons hm, (hr.sound hm).fieldAnsweringTo?_of_mem hop.field_mem List.mem_cons_self]
    cases hfield : hop.field with
    | plain c =>
      rw [hfield] at hrelated
      cases hrelated
    | reference ref =>
      rw [hfield] at hrelated
      rw [← Option.some.inj hrelated] at hnext
      rw [← hnext]
      exact if_neg (by simp [Field.name, ref.name_ne_column])
    | inverse i =>
      rw [hfield] at hrelated
      rw [← Option.some.inj hrelated] at hnext
      exact hnext
    | links l =>
      rw [hfield] at hrelated
      rw [← Option.some.inj hrelated] at hnext
      exact hnext

/-- The check of a path accepts exactly the paths. -/
theorem checkPath_ok_iff {m : Model} (hm : r.model? m.name = some m) (path : String) :
    r.checkPath m.name path = .ok () ↔ ∃ hops e, IsPath r m (LookupKey.segments path) hops e := by
  constructor
  · exact exists_isPath_of_checkSegments hr (LookupKey.segments_ne_nil path) hm
  · rintro ⟨hops, e, h⟩
    exact checkSegments_of_isPath hr h hm

end

/-! ## Paths to a stored field -/

/-- The values of a field in a row in which it is stored. -/
def Field.valuesIn (f : Field) (row : Row) : List Json :=
  match f with
  | plain c => [(row.get? c.name).getD .null]
  | reference ref => [(row.get? ref.column).getD .null]
  | inverse _ => []
  | links l => Store.linkedKeys l [row]

section

variable {r : Registry} {m : Model} (hm : r.model? m.name = some m) {name : String} {f : Field}
  (hf : m.fieldAnsweringTo? name = some f) (hstored : f.column?.isSome = true)
  (hwhole : Text.contains name LookupKey.separator = false)

include hm hf hstored hwhole

/-- The path of a stored field's name leads to the values of the field in the row. -/
theorem Store.valuesAt_stored (s : Store) (row : Row) : s.valuesAt r m.name row name = f.valuesIn row := by
  rw [Store.valuesAt, LookupKey.segments_of_whole hwhole, Store.follow, hm, Option.bind_some, hf]
  cases f with
  | plain c => rfl
  | reference ref => rfl
  | inverse i => cases hstored
  | links l => rfl

theorem Registry.checkPath_stored : r.checkPath m.name name = .ok () := by
  rw [Registry.checkPath, LookupKey.segments_of_whole hwhole, checkSegments_cons hm, hf]
  cases f with
  | plain c => rfl
  | reference ref => simp [Registry.checkSegments]
  | inverse i => cases hstored
  | links l => rfl

end

end ModelCatalog
