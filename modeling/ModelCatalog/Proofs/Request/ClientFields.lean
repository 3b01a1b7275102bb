import ModelCatalog.Proofs.Client.Units
import ModelCatalog.Proofs.Request.Values
import ModelCatalog.Proofs.Schema.ClientNames

/-!
# Fields that clients order by and choose

The generated query sets take the names in the field interface of a model both to order rows by and to choose fields. These are the names
of its columns and its properties. All of them can be chosen; rows are ordered by columns only, and a name that begins with a sign is taken
for the order by what is behind it (`client_fields_requested`).
-/

namespace ModelCatalog

/-! ## Order terms -/

namespace OrderTerm

/-- What may stand before the path of a term. -/
def signs : List String := ["-", "+"]

/-- A text begins with a sign. -/
def IsSigned (term : String) : Prop := ∃ sign ∈ signs, sign.toList <+: term.toList

instance : DecidablePred IsSigned := fun term => inferInstanceAs (Decidable (∃ sign ∈ signs, sign.toList <+: term.toList))

/-- What is behind a sign is the path, if there is anything. -/
theorem parse_signed {sign : String} (hsign : sign ∈ signs) (path : String) :
    parse (sign ++ path) =
      if path = "" then .error (.rejected (.plain ("Invalid ordering term '" ++ (sign ++ path) ++ "'") "invalid"))
      else .ok { path, descending := sign = "-" } := by
  unfold parse
  simp only [signs, List.mem_cons, List.not_mem_nil, or_false] at hsign
  rcases hsign with rfl | rfl
  · simp [String.toList_append]
  · simp [String.toList_append]

theorem parse_unsigned {term : String} (hsign : ¬IsSigned term) (hne : term ≠ "") : parse term = .ok { path := term, descending := false } := by
  have hbehind : ∀ sign ∈ signs, ∀ rest, term.toList ≠ sign.toList ++ rest := fun sign hmem rest hrest =>
    hsign ⟨sign, hmem, rest, hrest.symm⟩
  unfold parse
  split
  rename_i path descending hpath
  split at hpath
  · rename_i rest hrest
    exact absurd hrest (hbehind "-" (by decide) rest)
  · rename_i rest hrest
    exact absurd hrest (hbehind "+" (by decide) rest)
  · cases hpath
    simp [hne]

end OrderTerm

/-- An order term is about a path that makes sense from a model on. -/
def Registry.TakesOrder (r : Registry) (m : Model) (term : String) : Prop :=
  ∃ t, OrderTerm.parse term = .ok t ∧ r.checkPath m.name t.path = .ok ()

section

variable {r : Registry} {m : Model}

theorem takesOrder_signed_iff {sign : String} (hsign : sign ∈ OrderTerm.signs) (path : String) :
    r.TakesOrder m (sign ++ path) ↔ path ≠ "" ∧ r.checkPath m.name path = .ok () := by
  unfold Registry.TakesOrder
  rw [OrderTerm.parse_signed hsign]
  split
  · rename_i hempty
    exact ⟨nofun, fun h => absurd hempty h.1⟩
  · rename_i hne
    rw [and_iff_right hne]
    constructor
    · rintro ⟨t, ht, hpath⟩
      cases ht
      exact hpath
    · intro hpath
      exact ⟨_, rfl, hpath⟩

theorem takesOrder_unsigned_iff {term : String} (hsign : ¬OrderTerm.IsSigned term) (hne : term ≠ "") :
    r.TakesOrder m term ↔ r.checkPath m.name term = .ok () := by
  unfold Registry.TakesOrder
  rw [OrderTerm.parse_unsigned hsign hne]
  constructor
  · rintro ⟨t, ht, hpath⟩
    cases ht
    exact hpath
  · intro hpath
    exact ⟨_, rfl, hpath⟩

/-- The name of a column is one of a field, under which the field is stored. -/
theorem exists_field_of_valueColumn {name : String} (hcolumn : name ∈ m.valueColumns) :
    ∃ f ∈ m.fields, f.column? = some name ∧ f.answersTo name = true := by
  obtain ⟨f, hf, hvalue⟩ := List.mem_filterMap.1 hcolumn
  have hstored := Field.column?_of_valueColumn? hvalue
  exact ⟨f, hf, hstored, Field.answersTo_column hstored⟩

/-- Of the columns and properties of a model the columns are the paths. -/
theorem checkPath_iff_valueColumn (hr : r.IsBuilt) (hm : r.model? m.name = some m) {name : String}
    (hname : name ∈ m.valueColumns ∨ name ∈ m.properties) (hwhole : Text.contains name LookupKey.separator = false) :
    r.checkPath m.name name = .ok () ↔ name ∈ m.valueColumns := by
  constructor
  · intro hpath
    rcases hname with hcolumn | hproperty
    · exact hcolumn
    · rw [Registry.checkPath, LookupKey.segments_of_whole hwhole, checkSegments_cons hm] at hpath
      have hfield : name ∈ m.fieldNames := by
        by_contra hnone
        rw [(Model.fieldAnsweringTo?_eq_none_iff m name).2 hnone] at hpath
        cases hpath
      -- the only such property has the name of the implicit key
      obtain ⟨rfl, hkey⟩ := hr.implicitKey_of_property (Registry.mem_of_model? hm) hproperty hfield
      exact List.mem_filterMap.2 ⟨_, hkey, rfl⟩
  · intro hcolumn
    obtain ⟨f, hf, hstored, hanswers⟩ := exists_field_of_valueColumn hcolumn
    have hfield := (hr.sound hm).fieldAnsweringTo?_eq_some_iff.2 ⟨hf, hanswers⟩
    exact Registry.checkPath_stored hm hfield (by rw [hstored, Option.isSome_some]) hwhole

end

/-! ## List requests -/

/-- Terms to order by add their paths to those that have to make sense. -/
theorem QuerySet.check_orderBy {q : QuerySet} (horder : q.order = []) (r : Registry) (terms : List OrderTerm) :
    (q.orderBy terms).check r = .ok () ↔ q.check r = .ok () ∧ ∀ t ∈ terms, r.checkPath q.model t.path = .ok () := by
  simp only [check, orderBy, paths, horder, Outcome.forM_ok_iff, List.forall_mem_append, List.forall_mem_map, List.map_nil]
  tauto

namespace Context

variable {c : Context} {s : Store} {m : Model} {p : ListParams}

/-- The order of a list request is added to what it refines the query set to without. -/
theorem refine_order (q : QuerySet) (terms : List String) :
    c.refine q { p with order := some terms } = do
      let plain ← c.refine q { p with order := none }
      let ts ← terms.mapM OrderTerm.parse
      return if ts.isEmpty then plain else plain.orderBy ts := by
  have harranged : ∀ related (selected : QuerySet) (ts : List OrderTerm), p.arranged related selected ts =
      if ts.isEmpty then p.arranged related selected [] else (p.arranged related selected []).orderBy ts := by
    intro related selected ts
    simp only [ListParams.arranged]
    cases ts.isEmpty <;> cases (p.distinct.getD []).isEmpty <;> rfl
  rw [refine_eq, refine_eq, bind_assoc]
  refine bind_congr fun related => ?_
  rw [bind_assoc]
  refine bind_congr fun selected => ?_
  exact bind_congr fun ts => congrArg Except.ok (harranged related selected ts)

/-- Without an order in the request the one of the query set stays. -/
theorem order_of_refine {q plain : QuerySet} (h : c.refine q { p with order := none } = .ok plain) : plain.order = q.order := by
  rw [refine_eq] at h
  obtain ⟨related, -, h⟩ := Outcome.bind_ok_iff.1 h
  obtain ⟨selected, hselected, h⟩ := Outcome.bind_ok_iff.1 h
  cases h
  obtain ⟨added, rfl⟩ := ListParams.selected_ok hselected
  simp only [ListParams.arranged]
  split <;> rfl

/-- Where no order is given, that of the request is the whole order. -/
theorem refine_order_ok_iff {terms : List String} {refined : QuerySet} :
    c.refine { model := m.name } { p with order := some terms } = .ok refined ↔
      ∃ plain ts, c.refine { model := m.name } { p with order := none } = .ok plain ∧ terms.mapM OrderTerm.parse = .ok ts ∧
        plain.orderBy ts = refined := by
  have horder : ∀ {plain : QuerySet}, c.refine { model := m.name } { p with order := none } = .ok plain → ∀ ts : List OrderTerm,
      (if ts.isEmpty then plain else plain.orderBy ts) = plain.orderBy ts := by
    intro plain hplain ts
    have hnone : plain.order = [] := order_of_refine hplain
    cases ts with
    | nil => rw [List.isEmpty_nil, if_pos rfl, QuerySet.orderBy, ← hnone]
    | cons t ts => rfl
  rw [refine_order, Outcome.bind_ok_iff]
  refine exists_congr fun plain => ?_
  rw [Outcome.bind_ok_iff, exists_and_left]
  refine and_congr_right fun hplain => exists_congr fun ts => and_congr_right fun _ => ?_
  rw [horder hplain ts, Outcome.pure_ok_iff]

/-- A list request is answered when its query set can be refined, its chosen fields are known and all paths make sense. -/
theorem list_ok_iff (hm : c.registry.model? m.name = some m) :
    (∃ payload, c.list s { model := m.name } p = .ok payload) ↔
      ∃ refined serializer, c.refine { model := m.name } p = .ok refined ∧
        (PayloadOptions.ofParams p c.settings).serializer (.ofModel m) = .ok serializer ∧
        (if (p.values.getD []).isEmpty then refined else refined.project serializer.storedFields).check c.registry = .ok () := by
  unfold list
  rw [Registry.model_ok_iff.2 hm]
  simp only [bind, Except.bind]
  cases c.refine { model := m.name } p with
  | error e => simp
  | ok refined =>
    simp only [PayloadOptions.payload_eq]
    cases hserializer : (PayloadOptions.ofParams p c.settings).serializer (.ofModel m) with
    | error e => simp [bind, Except.bind]
    | ok serializer =>
      simp only [bind, Except.bind, Outcome.map_ok_iff]
      have hvalues : (PayloadOptions.ofParams p c.settings).values = p.values.getD [] := rfl
      simp [hvalues, Unique.exists_iff]

/-- A list request with an order is answered when it is without and all terms of the order can be taken. -/
theorem list_order_ok_iff (hm : c.registry.model? m.name = some m) (terms : List String) :
    (∃ payload, c.list s { model := m.name } { p with order := some terms } = .ok payload) ↔
      (∃ payload, c.list s { model := m.name } { p with order := none } = .ok payload) ∧
        ∀ term ∈ terms, c.registry.TakesOrder m term := by
  have hcheck : ∀ (plain : QuerySet) (fields : List String) (ts : List OrderTerm), plain.order = [] →
      ((if (p.values.getD []).isEmpty then plain.orderBy ts else (plain.orderBy ts).project fields).check c.registry = .ok () ↔
        (if (p.values.getD []).isEmpty then plain else plain.project fields).check c.registry = .ok () ∧
          ∀ t ∈ ts, c.registry.checkPath plain.model t.path = .ok ()) := by
    intro plain fields ts horder
    split
    · exact QuerySet.check_orderBy horder c.registry ts
    · exact QuerySet.check_orderBy (q := plain.project fields) horder c.registry ts
  simp only [list_ok_iff hm, Registry.TakesOrder, ← Outcome.exists_mapM_ok_iff, refine_order_ok_iff]
  constructor
  · rintro ⟨refined, serializer, ⟨plain, ts, hplain, hts, rfl⟩, hserializer, hpaths⟩
    obtain ⟨-, -, hmodel, -⟩ := refine_ok hplain
    obtain ⟨hplainPaths, hterms⟩ := (hcheck plain _ ts (order_of_refine hplain)).1 hpaths
    rw [hmodel] at hterms
    exact ⟨⟨plain, serializer, hplain, hserializer, hplainPaths⟩, ts, hts, hterms⟩
  · rintro ⟨⟨plain, serializer, hplain, hserializer, hpaths⟩, ts, hts, hterms⟩
    obtain ⟨-, -, hmodel, -⟩ := refine_ok hplain
    rw [← show plain.model = m.name from hmodel] at hterms
    exact ⟨plain.orderBy ts, serializer, ⟨plain, ts, hplain, hts, rfl⟩, hserializer,
      (hcheck plain _ ts (order_of_refine hplain)).2 ⟨hpaths, hterms⟩⟩

/-- A list request with fields chosen is answered when it is without, if the names are known and are paths or properties. -/
theorem list_values_ok_iff (hm : c.registry.model? m.name = some m) {names : List String}
    (hknown : ∀ name ∈ names, (Serializer.ofModel m).knows name = true)
    (hpaths : ∀ name ∈ names, m.properties.contains name = false → c.registry.checkPath m.name name = .ok ()) :
    (∃ payload, c.list s { model := m.name } { p with values := some names } = .ok payload) ↔
      ∃ payload, c.list s { model := m.name } { p with values := none } = .ok payload := by
  rcases eq_or_ne names [] with rfl | hne
  · exact Iff.rfl
  · have hforM : (names.filter fun name => !m.properties.contains name).forM (c.registry.checkPath m.name) = .ok () := by
      refine Outcome.forM_ok_iff.2 fun name hname => ?_
      obtain ⟨hname, hproperty⟩ := List.mem_filter.1 hname
      exact hpaths name hname (by simpa using hproperty)
    rw [list_values_eq hm hne hknown, list_eq hm, hforM]
    cases c.listed s p { model := m.name } <;> simp [bind, Except.bind, Except.map]

end Context

/-! ## Members of field interfaces -/

namespace Client

variable {r : Registry} {members : Registry.Members} {table : TypeTable} {m : Model} {u : ModelUnit}

/-- The names of the members of the field interface. -/
def ModelUnit.memberNames (u : ModelUnit) : List String := u.interface.map Declaration.name

/-- The members of a field interface have the names of the columns and of the properties. -/
theorem mem_memberNames_iff (hr : r.IsBuilt) (hm : m ∈ r.pool members) (hu : modelUnit r members table m = .ok u) {name : String} :
    name ∈ u.memberNames ↔ name ∈ m.valueColumns ∨ name ∈ m.properties := by
  have hinterface := (mentions_of_modelUnit hr hm hu).interface
  rw [ModelUnit.memberNames, List.mem_map]
  constructor
  · rintro ⟨d, hd, rfl⟩
    rcases (hinterface d).1 hd with ⟨f, hf, ⟨c, rfl, hd⟩ | ⟨ref, type, rfl, -, rfl⟩⟩ | ⟨name, hname, hd⟩
    · obtain rfl := List.mem_singleton.1 hd
      exact Or.inl (List.mem_filterMap.2 ⟨_, hf, rfl⟩)
    · exact Or.inl (List.mem_filterMap.2 ⟨_, hf, rfl⟩)
    · obtain rfl := List.mem_singleton.1 hd
      exact Or.inr hname
  · rintro (hcolumn | hproperty)
    · obtain ⟨f, hf, hname⟩ := List.mem_filterMap.1 hcolumn
      cases f with
      | plain c =>
        cases hname
        exact ⟨_, (hinterface _).2 (Or.inl ⟨_, hf, Or.inl ⟨c, rfl, List.mem_singleton_self _⟩⟩), rfl⟩
      | reference ref =>
        cases hname
        obtain ⟨-, parts, hparts, -⟩ := modelUnit_ok hu
        obtain ⟨p, -, hp⟩ := Outcome.exists_of_mapM_ok hparts hf
        obtain ⟨type, htype, -⟩ := Outcome.map_ok_iff.1 hp
        exact ⟨_, (hinterface _).2 (Or.inl ⟨_, hf, Or.inr ⟨ref, type, rfl, htype, rfl⟩⟩), rfl⟩
      | inverse i => cases hname
      | links l => cases hname
    · exact ⟨_, (hinterface _).2 (Or.inr ⟨name, hproperty, List.mem_singleton_self _⟩), rfl⟩

end Client

/-- A name of a column or a property can be chosen. -/
theorem knows_of_member {m : Model} {name : String} (h : name ∈ m.valueColumns ∨ name ∈ m.properties) :
    (Serializer.ofModel m).knows name = true := by
  simp only [Serializer.knows, Serializer.ofModel, Bool.or_eq_true, List.contains_iff_mem]
  tauto

/-- A list request that asks for no rows, order or fields in particular is answered. -/
theorem list_plain_ok {c : Context} {s : Store} {m : Model} (hm : c.registry.model? m.name = some m) (page pageSize : Option Nat)
    (onlyExists onlyCount : Bool) :
    ∃ payload, c.list s { model := m.name } { page, pageSize, onlyExists, onlyCount } = .ok payload :=
  (Context.list_ok_iff hm).2 ⟨_, _, rfl, rfl, rfl⟩

/-- What list requests do with the names in the field interface of a model, which are those of its columns and its properties. A list
request is answered, unless something else in it makes it fail, when such names are chosen as its fields, and with an order exactly when each
term of the order is about a path. A name behind a minus sign is one exactly when it is the name of a column, and so is a name alone that
does not begin with a sign; if it does, what is behind the sign is taken for the path. -/
theorem client_fields_requested {c : Context} (hr : c.registry.IsBuilt) {members : Registry.Members} {table : Client.TypeTable} {m : Model}
    (hm : m ∈ c.registry.pool members) {u : Client.ModelUnit} (hu : Client.modelUnit c.registry members table m = .ok u)
    (hnames : ∀ name ∈ u.memberNames, name ≠ "" ∧ Text.contains name LookupKey.separator = false) (s : Store) :
    (∀ name, name ∈ u.memberNames ↔ name ∈ m.valueColumns ∨ name ∈ m.properties) ∧
      (∀ page pageSize onlyExists onlyCount,
        ∃ payload, c.list s { model := m.name } { page, pageSize, onlyExists, onlyCount } = .ok payload) ∧
      (∀ (p : ListParams) names, names ⊆ u.memberNames →
        ((∃ payload, c.list s { model := m.name } { p with values := some names } = .ok payload) ↔
          ∃ payload, c.list s { model := m.name } { p with values := none } = .ok payload)) ∧
      (∀ (p : ListParams) terms, (∃ payload, c.list s { model := m.name } { p with order := some terms } = .ok payload) ↔
        (∃ payload, c.list s { model := m.name } { p with order := none } = .ok payload) ∧
          ∀ term ∈ terms, c.registry.TakesOrder m term) ∧
      ∀ name ∈ u.memberNames,
        (c.registry.TakesOrder m ("-" ++ name) ↔ name ∈ m.valueColumns) ∧
        (¬OrderTerm.IsSigned name → (c.registry.TakesOrder m name ↔ name ∈ m.valueColumns)) ∧
        ∀ sign ∈ OrderTerm.signs, ∀ path, name = sign ++ path →
          (c.registry.TakesOrder m name ↔ path ≠ "" ∧ c.registry.checkPath m.name path = .ok ()) := by
  have hmodel := hr.model?_of_mem (List.mem_of_mem_filter hm)
  have hmember : ∀ name, name ∈ u.memberNames ↔ name ∈ m.valueColumns ∨ name ∈ m.properties :=
    fun name => Client.mem_memberNames_iff hr hm hu
  have hpath : ∀ name ∈ u.memberNames,
      (c.registry.checkPath m.name name = .ok () ↔ name ∈ m.valueColumns) := fun name hname =>
    checkPath_iff_valueColumn hr hmodel ((hmember name).1 hname) (hnames name hname).2
  refine ⟨hmember, list_plain_ok hmodel, fun p names hsub => ?_, fun p terms => Context.list_order_ok_iff hmodel terms,
    fun name hname => ⟨?_, fun hunsigned => ?_, ?_⟩⟩
  · refine Context.list_values_ok_iff hmodel (fun name hname => knows_of_member ((hmember name).1 (hsub hname))) ?_
    intro name hname hproperty
    refine (hpath name (hsub hname)).2 (((hmember name).1 (hsub hname)).resolve_right fun hmem => ?_)
    rw [List.contains_iff_mem.2 hmem] at hproperty
    cases hproperty
  · rw [takesOrder_signed_iff (by decide), and_iff_right (hnames name hname).1, hpath name hname]
  · rw [takesOrder_unsigned_iff hunsigned (hnames name hname).1, hpath name hname]
  · rintro sign hsign path rfl
    exact takesOrder_signed_iff hsign path

/-- A model with a property and with a column whose name begins with a sign. -/
def scoreModel : Model where
  name := "Score"
  fields := [Model.implicitKey, .plain { name := "-rank", kind := .scalar .integer }]
  properties := ["label"]

/-- Scores can be asked for with their labels and in the order of their keys, but not in that of their labels; by a column called `-rank`
they are ordered from the greatest down only. -/
theorem scores_not_ordered_by_label :
    ∃ (c : Context) (u : Client.ModelUnit), c.registry.IsBuilt ∧ scoreModel ∈ c.registry.pool ["Score"] ∧
      Client.modelUnit c.registry ["Score"] [] scoreModel = .ok u ∧
      u.memberNames = ["id", "-rank", "label"] ∧
      (∃ payload, c.list [] { model := "Score" } { values := some ["label", "-rank"] } = .ok payload) ∧
      (∃ payload, c.list [] { model := "Score" } { order := some ["id", "-id", "--rank"] } = .ok payload) ∧
      (¬∃ payload, c.list [] { model := "Score" } { order := some ["label"] } = .ok payload) ∧
      (¬∃ payload, c.list [] { model := "Score" } { order := some ["-label"] } = .ok payload) ∧
      ¬∃ payload, c.list [] { model := "Score" } { order := some ["-rank"] } = .ok payload := by
  let c : Context := { registry := { models := [scoreModel] } }
  have hr : c.registry.IsBuilt := ⟨[{ scoreModel with fields := scoreModel.fields.tail }], [], [], rfl⟩
  have hm : scoreModel ∈ c.registry.pool ["Score"] := List.mem_cons_self
  obtain ⟨u, hu, hinterface⟩ : ∃ u, Client.modelUnit c.registry ["Score"] [] scoreModel = .ok u ∧
      u.memberNames = ["id", "-rank", "label"] := ⟨_, rfl, rfl⟩
  have hnames : ∀ name ∈ u.memberNames, name ≠ "" ∧ Text.contains name LookupKey.separator = false := by
    rw [hinterface]
    decide
  obtain ⟨-, hplain, hvalues, horder, hterms⟩ := client_fields_requested hr hm hu hnames []
  have hanswered := hplain none none false false
  have hrefused : ∀ term, ¬c.registry.TakesOrder scoreModel term →
      ¬∃ payload, c.list [] { model := "Score" } { order := some [term] } = .ok payload :=
    fun term hterm h => hterm (((horder {} [term]).1 h).2 term List.mem_cons_self)
  have hlabel : "label" ∈ u.memberNames := by simp [hinterface]
  have hrank : "-rank" ∈ u.memberNames := by simp [hinterface]
  have hid : "id" ∈ u.memberNames := by simp [hinterface]
  have hunsigned : ∀ name ∈ ["id", "label"], ¬OrderTerm.IsSigned name := by decide
  refine ⟨c, u, hr, hm, hu, hinterface, (hvalues {} _ ?_).2 hanswered, (horder {} _).2 ⟨hanswered, ?_⟩, hrefused _ ?_, hrefused _ ?_,
    hrefused _ ?_⟩
  · simp [hinterface]
  · refine List.forall_mem_cons.2 ⟨?_, List.forall_mem_cons.2 ⟨?_, List.forall_mem_singleton.2 ?_⟩⟩
    · exact ((hterms "id" hid).2.1 (hunsigned "id" (by decide))).2 (by decide)
    · exact (hterms "id" hid).1.2 (by decide)
    · exact (hterms "-rank" hrank).1.2 (by decide)
  · exact fun h => absurd (((hterms "label" hlabel).2.1 (hunsigned "label" (by decide))).1 h) (by decide)
  · exact fun h => absurd ((hterms "label" hlabel).1.1 h) (by decide)
  · intro h
    have hpath := (((hterms "-rank" hrank).2.2 "-" (by decide) "rank" rfl).1 h).2
    cases hpath

end ModelCatalog
