import ModelCatalog.Proofs.Client.Generation
import ModelCatalog.Proofs.Client.Units
import ModelCatalog.Proofs.Lists

/-!
# Units for smaller pools

The unit of a model depends on the pool only by the relations that lead out of it. In a smaller pool a relation to a model that has been
left out contributes what a field interface has of it and nothing else (`fieldPart_smaller`), and whatever other fields contribute stays, in
the same order (`smaller_pools_drop_relations`).
-/

namespace ModelCatalog

instance (r : Registry) (members : Registry.Members) (name : String) : Decidable (r.IsPooled members name) :=
  inferInstanceAs (Decidable (name ∈ (r.pool members).map Model.name))

/-- Whether clients follow the relation in the one pool, but not in the other, which lacks the model it leads to. -/
def Field.leaves (r : Registry) (inner outer : Registry.Members) (f : Field) : Bool :=
  f.clientTarget?.any fun target => r.IsPooled outer target && !r.IsPooled inner target

namespace Client

/-- A unit has of each list what some fields contribute to it, one after another, and then what the properties do. -/
structure IsMadeOf (m : Model) (contribution : Field → Part) (fields : List Field) (u : ModelUnit) : Prop where
  lookups : u.lookups = fields.flatMap fun f => (contribution f).lookups
  relations : u.relations = fields.flatMap fun f => (contribution f).relations
  prefetchKeys : u.prefetchKeys = (fields.flatMap fun f => (contribution f).prefetchKeys) ++ m.properties.map quote
  schema : u.schema = fields.flatMap fun f => (contribution f).schema
  accessors : u.accessors = fields.flatMap fun f => (contribution f).accessors

variable {r : Registry} {inner outer members : Registry.Members} {table : TypeTable} {m : Model}

/-! ## Units and what they are made of -/

/-- The primary key of a unit is that of its model. -/
theorem key_of_modelUnit {u : ModelUnit} (hu : modelUnit r members table m = .ok u) :
    ∃ key, m.keyField = .ok key ∧ u.keyField = key.referenceColumn?.getD key.name ∧ keyFieldType r table key = .ok u.keyType := by
  obtain ⟨key, hkey, hu⟩ := Outcome.bind_ok_iff.1 hu
  obtain ⟨keyType, htype, hu⟩ := Outcome.bind_ok_iff.1 hu
  obtain ⟨parts, -, hu⟩ := Outcome.bind_ok_iff.1 hu
  cases hu
  exact ⟨key, hkey, rfl, htype⟩

/-- A list of a unit is that of its fields, by what each contributes, and then that of its properties. -/
theorem get_modelUnit {α : Type} {u : ModelUnit} (hu : modelUnit r members table m = .ok u) {contribution : Field → Part}
    (hcontribution : ∀ f ∈ m.fields, fieldPart r members table f = .ok (contribution f)) (get : Part → List α) (hempty : get {} = [])
    (happend : ∀ a b, get (a ++ b) = get a ++ get b) :
    get u.toPart = (m.fields.flatMap fun f => get (contribution f)) ++ m.properties.flatMap fun name => get (propertyPart name) := by
  obtain ⟨-, parts, hparts, hjoin⟩ := modelUnit_ok hu
  have hmap : m.fields.mapM (fieldPart r members table) = .ok (m.fields.map contribution) := by
    rw [Outcome.mapM_congr hcontribution]
    exact List.mapM_pure
  obtain rfl := Except.ok.inj (hparts.symm.trans hmap)
  rw [hjoin, get_joinParts get hempty happend, List.flatMap_append, List.flatMap_map, List.flatMap_map]

/-- A unit to whose lists some fields contribute, while others have members in the interface only. -/
theorem isMadeOf_of_modelUnit {u : ModelUnit} (hu : modelUnit r members table m = .ok u) {contribution : Field → Part} {kept : Field → Bool}
    (hparts : ∀ f ∈ m.fields,
      fieldPart r members table f = .ok (if kept f then contribution f else { interface := (contribution f).interface })) :
    IsMadeOf m contribution (m.fields.filter kept) u := by
  have hget : ∀ {α : Type} (get : Part → List α), (∀ interface, get { interface } = []) → (∀ a b, get (a ++ b) = get a ++ get b) →
      get u.toPart =
        ((m.fields.filter kept).flatMap fun f => get (contribution f)) ++ m.properties.flatMap fun name => get (propertyPart name) := by
    intro α get hempty happend
    rw [get_modelUnit hu hparts get (hempty []) happend, flatMap_filter_of_nil fun f _ hf => by rw [if_neg hf, hempty]]
    congr 1
    refine List.flatMap_congr fun f hf => ?_
    rw [if_pos (List.of_mem_filter hf)]
  have hown : ∀ {α : Type} (get : Part → List α), (∀ interface, get { interface } = []) → (∀ a b, get (a ++ b) = get a ++ get b) →
      (∀ name, get (propertyPart name) = []) → get u.toPart = (m.fields.filter kept).flatMap fun f => get (contribution f) := by
    intro α get hempty happend hnone
    rw [hget get hempty happend, List.flatMap_eq_nil_iff.2 fun name _ => hnone name, List.append_nil]
  refine ⟨?_, ?_, ?_, ?_, ?_⟩
  · exact hown Part.lookups (fun _ => rfl) (fun _ _ => rfl) fun _ => rfl
  · exact hown Part.relations (fun _ => rfl) (fun _ _ => rfl) fun _ => rfl
  · rw [hget Part.prefetchKeys (fun _ => rfl) fun _ _ => rfl, List.map_eq_flatMap]
    rfl
  · exact hown Part.schema (fun _ => rfl) (fun _ _ => rfl) fun _ => rfl
  · exact hown Part.accessors (fun _ => rfl) (fun _ _ => rfl) fun _ => rfl

/-! ## Fields in two pools -/

section

variable (hr : r.IsBuilt) (hpools : r.pool inner ⊆ r.pool outer) (hm : m ∈ r.pool inner)

include hr hpools hm

/-- A relation that leaves the smaller pool has no lookup entry there; every other field has the entries of the larger pool. -/
theorem lookupEntries_smaller {f : Field} (hf : f ∈ m.fields) :
    lookupEntries inner f = if f.leaves r inner outer then [] else lookupEntries outer f := by
  cases htarget : f.clientTarget? with
  | none =>
    have hleaves : f.leaves r inner outer = false := by rw [Field.leaves, htarget, Option.any_none]
    rw [hleaves]
    cases f with
    | plain c => rfl
    | reference ref => cases htarget
    | inverse i => cases htarget
    | links l => rfl
  | some target =>
    have hinner := isPooled_iff hr hm hf htarget
    have houter := isPooled_iff hr (hpools hm) hf htarget
    have hsub : target ∈ inner → target ∈ outer := fun h => houter.1 (List.map_subset _ hpools (hinner.2 h))
    have hleaves : f.leaves r inner outer = (decide (target ∈ outer) && !decide (target ∈ inner)) := by
      simp only [Field.leaves, htarget, Option.any_some, hinner, houter]
    rw [hleaves, lookupEntries_of_clientTarget? htarget, lookupEntries_of_clientTarget? htarget]
    by_cases hin : target ∈ inner
    · simp [hin, hsub hin]
    · by_cases hout : target ∈ outer <;> simp [hin, hout]

/-- In a smaller pool a field contributes what it does in the larger one, or of a relation that leaves the pool the interface. -/
theorem fieldPart_smaller {f : Field} (hf : f ∈ m.fields) {p : Part} (hp : fieldPart r outer table f = .ok p) :
    fieldPart r inner table f = .ok (if !f.leaves r inner outer then p else { interface := p.interface }) := by
  have hentries := lookupEntries_smaller hr hpools hm hf
  cases f with
  | plain c =>
    cases hp
    rfl
  | links l =>
    cases hp
    rfl
  | inverse i =>
    cases hp
    cases hleaves : (Field.inverse i).leaves r inner outer with
    | false =>
      rw [hleaves] at hentries
      simp [fieldPart, inversePart, hentries]
    | true =>
      rw [hleaves] at hentries
      rw [interface_inversePart, fieldPart, inversePart, hentries]
      rfl
  | reference ref =>
    obtain ⟨type, htype, rfl⟩ := Outcome.map_ok_iff.1 hp
    cases hleaves : (Field.reference ref).leaves r inner outer with
    | false =>
      rw [hleaves] at hentries
      simp [fieldPart, htype, referencePart, hentries, Except.map]
    | true =>
      rw [hleaves] at hentries
      rw [interface_referencePart, fieldPart, htype, Except.map, referencePart, hentries]
      rfl

/-- In a smaller pool a unit loses what relations contribute that lead to models that have been left out, and nothing else. It is generated
in both pools or in neither. Names, the primary key with its type, the interface and the methods are the same. Each of the other lists has
in the larger pool what the fields of the model contribute, in their order, and then what the properties do. In the smaller pool it has the
same without what relations to such models contribute. -/
theorem smaller_pools_drop_relations (table : TypeTable) :
    ((∃ u, modelUnit r inner table m = .ok u) ↔ ∃ v, modelUnit r outer table m = .ok v) ∧
    ∀ u v, modelUnit r inner table m = .ok u → modelUnit r outer table m = .ok v →
      u.names = v.names ∧ u.keyField = v.keyField ∧ u.keyType = v.keyType ∧ u.interface = v.interface ∧ u.methods = v.methods ∧
      ∃ contribution : Field → Part, (∀ f ∈ m.fields, fieldPart r outer table f = .ok (contribution f)) ∧
        IsMadeOf m contribution m.fields v ∧ IsMadeOf m contribution (m.fields.filter (!·.leaves r inner outer)) u := by
  have hmodel := hr.model?_of_mem (List.mem_of_mem_filter hm)
  have hok : ∀ members, (∃ u, modelUnit r members table m = .ok u) ↔ ¬HasEndlessReference r m := by
    intro members
    have herror : (∃ e, modelUnit r members table m = .error e) ↔ HasEndlessReference r m := modelUnit_error_iff hr hmodel
    rw [← herror]
    cases modelUnit r members table m <;> simp
  refine ⟨(hok inner).trans (hok outer).symm, ?_⟩
  intro u v hu hv
  obtain ⟨key, hkey, hkeyField, hkeyType⟩ := key_of_modelUnit hu
  obtain ⟨key', hkey', hkeyField', hkeyType'⟩ := key_of_modelUnit hv
  obtain rfl := Except.ok.inj (hkey.symm.trans hkey')
  obtain ⟨-, parts, hparts, -⟩ := modelUnit_ok hv
  let contribution : Field → Part := fun f => (fieldPart r outer table f).toOption.getD {}
  have hcontribution : ∀ f ∈ m.fields, fieldPart r outer table f = .ok (contribution f) := by
    intro f hf
    obtain ⟨p, -, hp⟩ := Outcome.exists_of_mapM_ok hparts hf
    simp only [contribution, hp]
    rfl
  have hsmaller := fun f hf => fieldPart_smaller hr hpools hm hf (hcontribution f hf)
  have hinterface : u.interface = v.interface := by
    rw [get_modelUnit hu hsmaller Part.interface rfl fun _ _ => rfl, get_modelUnit hv hcontribution Part.interface rfl fun _ _ => rfl]
    congr 1
    refine List.flatMap_congr fun f _ => ?_
    split <;> rfl
  refine ⟨(modelUnit_ok hu).1.trans (modelUnit_ok hv).1.symm, hkeyField.trans hkeyField'.symm,
    Except.ok.inj (hkeyType.symm.trans hkeyType'), hinterface, (methods_of_modelUnit hu).trans (methods_of_modelUnit hv).symm,
    contribution, hcontribution, ?_, isMadeOf_of_modelUnit hu hsmaller⟩
  have hall : IsMadeOf m contribution (m.fields.filter fun _ => true) v := isMadeOf_of_modelUnit hv hcontribution
  rwa [List.filter_true] at hall

end

/-- Without tags the unit of posts has of its relations the author, but not the topic. -/
theorem posts_lose_topics :
    ∃ (r : Registry) (u v : ModelUnit), r.IsBuilt ∧ modelUnit r ["Author", "Post"] [] postModel = .ok u ∧
      modelUnit r ["Author", "Post", "Tag"] [] postModel = .ok v ∧ u.interface = v.interface ∧
      (∃ contribution, IsMadeOf postModel contribution postModel.fields v ∧ IsMadeOf postModel contribution (postModel.fields.take 2) u) ∧
      u.relations.map Declaration.name = ["author"] ∧ v.relations.map Declaration.name = ["author", "topic"] := by
  have hpools : Registry.pool { models := [authorModel, postModel, tagModel] } ["Author", "Post"] ⊆
      Registry.pool { models := [authorModel, postModel, tagModel] } ["Author", "Post", "Tag"] :=
    List.subset_append_left [authorModel, postModel] [tagModel]
  have hm : postModel ∈ Registry.pool { models := [authorModel, postModel, tagModel] } ["Author", "Post"] :=
    List.mem_cons_of_mem _ List.mem_cons_self
  obtain ⟨-, hunits⟩ := smaller_pools_drop_relations posts_isBuilt hpools hm []
  obtain ⟨-, -, -, hinterface, -, contribution, -, hv, hu⟩ := hunits _ _ rfl rfl
  exact ⟨_, _, _, posts_isBuilt, rfl, rfl, hinterface, ⟨contribution, hv, hu⟩, rfl, rfl⟩

end Client

end ModelCatalog
