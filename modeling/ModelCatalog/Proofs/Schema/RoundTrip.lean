import ModelCatalog.Proofs.Json.Shape
import ModelCatalog.Schema.Notation

/-!
# Schemas are read as they were written

Each structure of a schema file is read back from what is written of it, from kinds (`Kind.read?_toJson`) up to the whole schema
(`Schema.written_schemas_read_back`). A member that is left out comes back as the value that it is left out for, and the tag of a field is
passed over when the members of the field are read (`Field.Holds`).
-/

namespace ModelCatalog

/-! ## Members that may be left out -/

namespace Json

variable (d : Dict Json) (name : String)

@[simp] theorem get?_extend_nonempty (items : List Json) (k : String) :
    (d.extend (nonempty name items)).get? k =
      if name = k then if items = [] then d.get? k else some (.list items) else d.get? k := by
  cases items with
  | nil => simp [nonempty]
  | cons item rest => simp [nonempty, Dict.get?_insert]

@[simp] theorem get?_extend_optional (s : Option String) (k : String) :
    (d.extend (optional name s)).get? k = if name = k then (s.map .text).or (d.get? k) else d.get? k := by
  cases s with
  | none => simp [optional]
  | some s => simp [optional, Dict.get?_insert]

variable {α : Type}

/-- Items that are left out when there are none are read as none. -/
theorem orElse?_nonempty {read? : Json → Option α} {write : α → Json} {l : List α} (h : ∀ a ∈ l, read? (write a) = some a) :
    (Slot.ofMember (if l = [] then none else some (.list (l.map write)))).orElse? [] (readList? read?) = some l := by
  split
  · rename_i hnil
    rw [hnil]
    rfl
  · exact readList?_map h

@[simp] theorem nullable?_optional (s : Option String) : (Slot.ofMember (s.map .text)).nullable? readText? = some s := by
  cases s <;> rfl

end Json

/-! ## Kinds -/

namespace Kind

theorem Tag.read?_name (byPosition : Bool) (tag : Tag) : Tag.read? byPosition (.text tag.name) = some tag := by
  cases tag with
  | scalar s => cases s <;> rfl
  | array | custom => rfl

/-- A kind is read back from what is written of it, also where it stands inside a tagged value. -/
theorem read?_toJson (byPosition : Bool) (k : Kind) : read? byPosition k.toJson = some k := by
  induction k generalizing byPosition with
  | scalar s =>
    have htag : Tag.read? byPosition (.text s.name) = some (.scalar s) := Tag.read?_name byPosition (.scalar s)
    simp [toJson, read?, Json.membersNamed, assemble?, htag]
  | array base ih =>
    have htag : Tag.read? byPosition (.text "ArrayField") = some .array := Tag.read?_name byPosition .array
    simp [toJson, read?, readBases, Json.membersNamed, assemble?, htag, ih]
  | custom name =>
    have htag : Tag.read? byPosition (.text "Custom") = some .custom := Tag.read?_name byPosition .custom
    simp [toJson, read?, Json.membersNamed, assemble?, htag]

end Kind

/-! ## Fields -/

namespace Choice

theorem read?_toJson (c : Choice) : read? c.toJson = some c := by
  have hslots : Json.slots? members c.toJson = some [.given c.value, .given (.text c.label)] := by
    simp [Json.slots?, members, toJson, Json.membersNamed]
  simp [read?, hslots, c.sorted.readAny?]

end Choice

/-- The members of a structure, with or without the tag of a field among them. -/
def Field.Holds (d members : Dict Json) : Prop := ∀ k, k ≠ "field" → d.get? k = members.get? k

theorem Field.holds_self (members : Dict Json) : Holds members members := fun _ _ => rfl

theorem Field.holds_tagged (members : Dict Json) (tag : Json) : Holds (members.insert "field" tag) members := fun k hk => by
  rw [Dict.get?_insert, if_neg (Ne.symm hk)]

namespace Column

theorem read?_of_holds (byPosition : Bool) {c : Column} {d : Dict Json} (hd : Field.Holds d c.membersJson) :
    read? byPosition (.object d) = some c := by
  have hslots : Json.slots? members (.object d) =
      some [.given (.text c.name), .given c.kind.toJson, .given (.bool c.null), .given (.bool c.readOnly), .given (.bool c.primaryKey),
        .ofMember (if c.choices = [] then none else some (.list (c.choices.map Choice.toJson))),
        .ofMember (c.serializer.map .text)] := by
    refine (Json.slots?_object_single d
      ["name", "kind", "null", "read_only", "primary_key", "choices", "serializer"]).trans ?_
    simp [hd _, membersJson, Dict.of, Dict.get?_insert]
  have hchoices := Json.orElse?_nonempty fun choice (_ : choice ∈ c.choices) => choice.read?_toJson
  simp [read?, hslots, Kind.read?_toJson, hchoices]

theorem read?_toJson (c : Column) : read? false c.toJson = some c := read?_of_holds false (Field.holds_self _)

end Column

namespace Reference

theorem read?_of_holds {r : Reference} {d : Dict Json} (hd : Field.Holds d r.membersJson) : read? (.object d) = some r := by
  have hslots : Json.slots? [["name"], ["to"], ["one_to_one"], ["null"], ["read_only"], ["primary_key"], ["related_name"]] (.object d) =
      some [.given (.text r.name), .given (.text r.target), .given (.bool r.oneToOne), .given (.bool r.null), .given (.bool r.readOnly),
        .given (.bool r.primaryKey), .ofMember (r.inverseName.map .text)] := by
    refine (Json.slots?_object_single d
      ["name", "to", "one_to_one", "null", "read_only", "primary_key", "related_name"]).trans ?_
    simp [hd _, membersJson, Dict.of, Dict.get?_insert]
  simp [read?, hslots]

end Reference

namespace Inverse

theorem read?_of_holds {i : Inverse} {d : Dict Json} (hd : Field.Holds d i.membersJson) : read? (.object d) = some i := by
  have hslots : Json.slots? [["name"], ["related_model"], ["field_name"], ["one_to_one"]] (.object d) =
      some [.given (.text i.name), .given (.text i.source), .given (.text i.field), .given (.bool i.oneToOne)] := by
    refine (Json.slots?_object_single d ["name", "related_model", "field_name", "one_to_one"]).trans ?_
    simp [hd _, membersJson, Dict.of, Dict.get?_insert]
  simp [read?, hslots]

end Inverse

namespace Links

theorem read?_of_holds {l : Links} {d : Dict Json} (hd : Field.Holds d l.membersJson) : read? (.object d) = some l := by
  have hslots : Json.slots? [["name"], ["to"]] (.object d) = some [.given (.text l.name), .given (.text l.target)] := by
    refine (Json.slots?_object_single d ["name", "to"]).trans ?_
    simp [hd _, membersJson, Dict.of, Dict.get?_insert]
  simp [read?, hslots]

end Links

namespace Field

/-- A field is read back by its tag, from the object in which the tag stands. -/
theorem read?_toJson (f : Field) : read? f.toJson = some f := by
  have hholds := holds_tagged f.membersJson (.text f.tag)
  have htag : Json.membersNamed ["field"] (f.membersJson.insert "field" (.text f.tag)) = [.text f.tag] := by
    rw [Json.membersNamed_singleton (Dict.sorted _), ← Dict.get?, Dict.get?_insert_self]
    rfl
  rw [toJson, read?, htag]
  cases f with
  | plain c => exact congrArg (Option.map plain) (Column.read?_of_holds true hholds)
  | reference r => exact congrArg (Option.map reference) (Reference.read?_of_holds hholds)
  | inverse i => exact congrArg (Option.map inverse) (Inverse.read?_of_holds hholds)
  | links l => exact congrArg (Option.map links) (Links.read?_of_holds hholds)

end Field

/-! ## Models -/

namespace Method

theorem read?_toJson (m : Method) : read? m.toJson = some m := by
  have hslots : Json.slots? members m.toJson = some [.given (.text m.name),
      .ofMember (if m.args = [] then none else some (.list (m.args.map Column.toJson))), .given (.bool m.isStatic)] := by
    refine (Json.slots?_object_single (Dict.of _) ["name", "args", "static"]).trans ?_
    simp [Dict.of, Dict.get?_insert]
  have hargs := Json.orElse?_nonempty fun arg (_ : arg ∈ m.args) => arg.read?_toJson
  simp [read?, hslots, hargs]

end Method

namespace Model

theorem read?_toJson (m : Model) : read? m.toJson = some m := by
  have hslots : Json.slots? members m.toJson = some [.given (.text m.name), .ofMember (m.appLabel.map .text),
      .given (.list (m.fields.map Field.toJson)),
      .ofMember (if m.properties = [] then none else some (.list (m.properties.map .text))),
      .ofMember (if m.methods = [] then none else some (.list (m.methods.map Method.toJson)))] := by
    refine (Json.slots?_object_single (Dict.of _) ["name", "app_label", "fields", "properties", "methods"]).trans ?_
    simp [Dict.of, Dict.get?_insert]
  have hfields := Json.readList?_map fun f (_ : f ∈ m.fields) => f.read?_toJson
  have hproperties := Json.orElse?_nonempty fun name (_ : name ∈ m.properties) => (rfl : Json.readText? (.text name) = some name)
  have hmethods := Json.orElse?_nonempty fun method (_ : method ∈ m.methods) => method.read?_toJson
  simp [read?, hslots, hfields, hproperties, hmethods]

end Model

/-- A schema is read back from what is written of it, whatever its models are: fields of every form, kinds inside kinds, any values that
a field allows, properties and methods. -/
theorem Schema.written_schemas_read_back (s : Schema) : read? s.toJson = some s := by
  have hslots : Json.slots? members s.toJson = some [.given (.list (s.models.map Model.toJson))] := by
    simp [Json.slots?, members, toJson, Json.membersNamed]
  have hmodels := Json.readList?_map fun m (_ : m ∈ s.models) => m.read?_toJson
  simp [read?, hslots, hmodels]

/-- Letters that answer each other, with a field of each form. -/
def letters : Schema where
  models := [{
      name := "Letter"
      appLabel := some "post"
      fields := [
        .plain {
          name := "codes", kind := .array (.array (.custom "Code")), null := true, serializer := some "Codes"
          choices := [
            { value := .object [("inner", .list [.null, .object []]), ("outer", .bool true)], label := "Both" },
            { value := .null, label := "Neither" }] },
        .reference { name := "reply", target := "Letter", null := true, inverseName := some "replies" },
        .inverse { name := "replies", source := "Letter", field := "reply", oneToOne := false },
        .links { name := "tags", target := "Tag" }]
      properties := ["age"]
      methods := [{
        name := "send"
        args := [{ name := "speed", kind := .scalar .integer, choices := [{ value := .nat 1, label := "Slow" }] }] }] },
    { name := "Tag" }]

example : Schema.read? letters.toJson = some letters := rfl

end ModelCatalog
