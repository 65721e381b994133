import GraphSchema.Schema.TypeRef
import GraphSchema.Schema.Value

/-!
# Fields

Fields with their arguments, enum values, and requests to borrow the fields of another type.
Names are kept as authored; how they print is decided later.
-/

namespace GraphSchema

/-- A mark that a field or enum value should not be used any more. -/
structure Deprecation where
  reason : Option String := none
  deriving DecidableEq, Repr

structure Argument where
  name : String
  type : TypeRef
  description : Option String := none
  default : Option Value := none
  deriving BEq, Inhabited

/-- A field of an object, interface or input object. Only input objects give fields a default. -/
structure Field where
  name : String
  type : TypeRef
  description : Option String := none
  arguments : OrderedMap String Argument := .empty
  default : Option Value := none
  deprecation : Option Deprecation := none
  /-- The name of the type that holds the field. -/
  parent : String := ""
  deriving BEq, Inhabited

/-- The field with these arguments; of two with one name the later one counts. -/
def Field.withArguments (field : Field) (arguments : List Argument) : Field :=
  { field with arguments := .ofList (arguments.map fun a => (a.name, a)) }

abbrev FieldMap := OrderedMap String Field

/-- The fields of a type by name; of two with one name the later one counts. -/
def FieldMap.ofFields (parent : String) (fields : List Field) : FieldMap :=
  .ofList (fields.map fun f => (f.name, { f with parent }))

/-- A value of an enum type: the key is for authors, the alias is what prints. -/
structure EnumValue where
  key : String
  aliasName : String
  description : Option String := none
  deprecation : Option Deprecation := none
  deriving BEq, DecidableEq, Inhabited

/-- The alias that a key gets by default. -/
def EnumValue.defaultAlias (key : String) : String := Text.upperText key

/-- A pending request to copy the fields of another type. -/
structure FieldImport where
  /-- The type to copy from. -/
  source : String
  /-- The schema module that must have authored the source, if any. -/
  moduleName : Option String := none
  /-- The fields to leave out. -/
  except : List String := []
  deriving BEq, DecidableEq, Inhabited

end GraphSchema
