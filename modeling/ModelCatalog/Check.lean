import ModelCatalog.Client.Unit
import ModelCatalog.Settings.Basic

/-!
# Checks

What is wrong, or may be wrong, with a registry under some settings. `Registry.findings` lists, in this order, the models for which nothing can
be generated, the columns of a custom kind without a type, the type overrides that match no column, and page sizes that contradict each
other.
-/

namespace ModelCatalog

/-- Something that a check found. -/
inductive Finding where
  /-- Nothing can be generated for a model. -/
  | notGenerated (model : String) (reason : Failure)
  /-- A column of a custom kind has no type of its own. -/
  | untyped (model column kind : String)
  /-- A type override that no column asks for. -/
  | unusedType (name : String)
  | zeroPageSize
  /-- The greatest page size is less than the default one. -/
  | sizeBeyondMost (most size : Nat)
  deriving Repr

namespace Finding

/-- How grave a finding is. -/
inductive Level where
  | info
  | warning
  | error
  deriving DecidableEq, Repr

def Level.name : Level → String
  | info => "INFO"
  | warning => "WARNING"
  | error => "ERROR"

def level : Finding → Level
  | notGenerated .. | zeroPageSize => .error
  | untyped .. | sizeBeyondMost .. => .warning
  | unusedType _ => .info

/-- The name of the check that finds it. -/
def check : Finding → String
  | notGenerated .. => "models.E001"
  | untyped .. => "models.W001"
  | unusedType _ => "settings.I001"
  | zeroPageSize => "settings.E001"
  | sizeBeyondMost .. => "settings.W001"

def message : Finding → String
  | notGenerated model reason => "'" ++ model ++ "' cannot be generated: " ++ reason.message
  | untyped model column kind => s!"'{model}.{column}' has custom kind '{kind}' and will be typed as 'any'"
  | unusedType name => s!"field_types entry '{name}' matches no field kind or serializer"
  | zeroPageSize => "default_page_size is 0"
  | sizeBeyondMost most size => s!"max_page_size ({most}) is below default_page_size ({size})"

/-- What can be done about it. -/
def hint? : Finding → Option String
  | untyped _ _ kind => some s!"Add '{kind}' to field_types"
  | zeroPageSize => some "Set default_page_size to at least 1"
  | _ => none

/-! ### The checks -/

/-- A model that cannot be generated. -/
def ofGeneration (r : Registry) (table : Client.TypeTable) (m : Model) : Option Finding :=
  match Client.modelUnit r r.allMembers table m with
  | .ok _ => none
  | .error reason => some (.notGenerated m.name reason)

/-- A column of a custom kind that any value is allowed for. -/
def ofColumn (table : Client.TypeTable) (m : Model) (c : Column) : Option Finding :=
  match c.kind with
  | .custom kind => if table.columnType c none = "any" then some (.untyped m.name c.name kind) else none
  | _ => none

/-- The names under which a column asks for a type: that of its kind, and that of its serializer. -/
def typeNames (c : Column) : List String := c.kind.name :: c.serializer.toList

/-- The type overrides that no column of a registered model asks for. -/
def unusedTypes (r : Registry) (table : Client.TypeTable) : List Finding :=
  let known := r.models.flatMap fun m => m.columns.flatMap typeNames
  (table.keys.filter fun name => !known.contains name).map unusedType

/-- Page sizes that leave no page or contradict each other. -/
def ofPageSizes (s : Settings) : List Finding :=
  (if s.defaultPageSize = 0 then [zeroPageSize] else [])
    ++ match s.maxPageSize with
      | some most => if most < s.defaultPageSize then [sizeBeyondMost most s.defaultPageSize] else []
      | none => []

end Finding

namespace Registry

/-- Everything that the checks find. -/
def findings (r : Registry) (s : Settings) : List Finding :=
  r.models.filterMap (Finding.ofGeneration r s.fieldTypes)
    ++ r.models.flatMap (fun m => m.columns.filterMap (Finding.ofColumn s.fieldTypes m))
    ++ Finding.unusedTypes r s.fieldTypes ++ Finding.ofPageSizes s

/-- Passes unless a check finds an error. -/
def requireSound (r : Registry) (s : Settings) : Outcome Unit :=
  match ((r.findings s).filter fun f => f.level = .error).length with
  | 0 => .ok ()
  | errors => .error (.checksFailed errors)

end Registry

end ModelCatalog
