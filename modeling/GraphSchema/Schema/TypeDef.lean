import GraphSchema.Schema.Field

/-!
# Type definitions

A named type of the schema: what every type has, and a body that depends on its kind.
-/

namespace GraphSchema

inductive TypeKind where
  | object | interface | union | enum | inputObject | scalar
  deriving DecidableEq, Repr

namespace TypeKind

def text : TypeKind → String
  | object => "object"
  | interface => "interface"
  | union => "union"
  | enum => "enum"
  | inputObject => "input object"
  | scalar => "scalar"

/-- The kind with its indefinite article. -/
def article : TypeKind → String
  | union => "a union"
  | scalar => "a scalar"
  | kind => "an " ++ kind.text

end TypeKind

inductive TypeBody where
  | object (interfaces : List String) (fields : FieldMap) (imports : List FieldImport)
  | interface (interfaces : List String) (fields : FieldMap) (imports : List FieldImport)
      (implementors : List String)
  | union (members : List String)
  | enum (values : OrderedMap String EnumValue)
  | inputObject (fields : FieldMap) (imports : List FieldImport)
  | scalar (builtin : Bool)
  deriving BEq

instance : Inhabited TypeBody := ⟨.scalar false⟩

structure TypeDef where
  name : String
  description : Option String := none
  /-- The schema module that authored the type, if known. -/
  moduleName : Option String := none
  body : TypeBody
  deriving BEq, Inhabited

/-- The scalars that every schema starts with. -/
def builtinScalars : List String := ["ID", "String", "Int", "Float", "Boolean"]

namespace TypeBody

def kind : TypeBody → TypeKind
  | object .. => .object
  | interface .. => .interface
  | union _ => .union
  | enum _ => .enum
  | inputObject .. => .inputObject
  | scalar _ => .scalar

/-- The fields, for the kinds that have fields. -/
def fields? : TypeBody → Option FieldMap
  | object _ fields _ => some fields
  | interface _ fields _ _ => some fields
  | inputObject fields _ => some fields
  | _ => none

/-- The body with other fields; unchanged for the kinds that have none. -/
def setFields (fields : FieldMap) : TypeBody → TypeBody
  | object interfaces _ imports => object interfaces fields imports
  | interface interfaces _ imports implementors => interface interfaces fields imports implementors
  | inputObject _ imports => inputObject fields imports
  | other => other

/-- The interfaces that an object or interface declares. -/
def interfaces : TypeBody → List String
  | object interfaces _ _ => interfaces
  | interface interfaces _ _ _ => interfaces
  | _ => []

/-- The pending field imports. -/
def imports : TypeBody → List FieldImport
  | object _ _ imports => imports
  | interface _ _ imports _ => imports
  | inputObject _ imports => imports
  | _ => []

/-- The body without its pending imports. -/
def dropImports : TypeBody → TypeBody
  | object interfaces fields _ => object interfaces fields []
  | interface interfaces fields _ implementors => interface interfaces fields [] implementors
  | inputObject fields _ => inputObject fields []
  | other => other

/-- Adds an interface at the end of the declared ones, if the kind can have interfaces. -/
def addInterface? (name : String) : TypeBody → Option TypeBody
  | object interfaces fields imports => some (object (add interfaces) fields imports)
  | interface interfaces fields imports implementors =>
    some (interface (add interfaces) fields imports implementors)
  | _ => none
where
  add (interfaces : List String) : List String :=
    if name ∈ interfaces then interfaces else interfaces ++ [name]

def isBuiltin : TypeBody → Bool
  | scalar builtin => builtin
  | _ => false

/-! ### Other fields -/

@[simp] theorem fields?_setFields (fields : FieldMap) (body : TypeBody) :
    (body.setFields fields).fields? = body.fields?.map fun _ => fields := by
  cases body <;> rfl

@[simp] theorem imports_setFields (fields : FieldMap) (body : TypeBody) :
    (body.setFields fields).imports = body.imports := by
  cases body <;> rfl

theorem setFields_eq_self {fields : FieldMap} {body : TypeBody} (h : body.fields? = some fields) :
    body.setFields fields = body := by
  cases body <;> simp_all [fields?, setFields]

/-- Only objects, interfaces and input objects have fields. -/
theorem fields?_isSome_iff {body : TypeBody} :
    body.fields?.isSome ↔
      body.kind = .object ∨ body.kind = .interface ∨ body.kind = .inputObject := by
  cases body <;> simp [fields?, kind]

/-! ### No imports -/

theorem imports_of_fields?_eq_none {body : TypeBody} (h : body.fields? = none) :
    body.imports = [] := by
  cases body <;> simp_all [fields?, imports]

@[simp] theorem fields?_dropImports (body : TypeBody) :
    body.dropImports.fields? = body.fields? := by
  cases body <;> rfl

@[simp] theorem imports_dropImports (body : TypeBody) : body.dropImports.imports = [] := by
  cases body <;> rfl

theorem dropImports_eq_self {body : TypeBody} (h : body.imports = []) :
    body.dropImports = body := by
  cases body <;> simp_all [imports, dropImports]

end TypeBody

namespace TypeDef

def kind (type : TypeDef) : TypeKind := type.body.kind

def fields? (type : TypeDef) : Option FieldMap := type.body.fields?

/-- The fields in order, none for a kind without fields. -/
def fieldList (type : TypeDef) : List Field :=
  match type.fields? with
  | some fields => fields.values
  | none => []

def findField? (type : TypeDef) (name : String) : Option Field :=
  type.fields?.bind (·.get? name)

def interfaces (type : TypeDef) : List String := type.body.interfaces

def imports (type : TypeDef) : List FieldImport := type.body.imports

def isBuiltin (type : TypeDef) : Bool := type.body.isBuiltin

/-- The values of an enum in order, none for another kind. -/
def enumValues (type : TypeDef) : List EnumValue :=
  match type.body with
  | .enum values => values.values
  | _ => []

def builtinScalar (name : String) : TypeDef := { name, body := .scalar true }

end TypeDef

/-- The value that a raw default names. An alias counts before a key, so that a value whose alias
is another value's key is still found by it. -/
def findEnumValue? (values : OrderedMap String EnumValue) (raw : String) : Option EnumValue :=
  (values.values.find? (·.aliasName == raw)).or (values.get? raw)

end GraphSchema
