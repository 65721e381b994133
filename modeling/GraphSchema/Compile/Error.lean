import GraphSchema.Schema.Basic

/-!
# Compile errors

What can be wrong with a schema, as causes. Each has one message.
-/

namespace GraphSchema

/-- Where a type is referred to. -/
inductive Place where
  | root (operation : Operation)
  | interfaces (type : String)
  | field (type field : String)
  | argument (type field argument : String)
  | inputField (type field : String)
  | union (type : String)
  | fieldImport (importer : String) (moduleName : Option String)
  | defaultValue
  deriving DecidableEq, Repr

def Place.text : Place → String
  | root operation => "schema " ++ operation.text ++ " root"
  | interfaces type => "interfaces of `" ++ type ++ "`"
  | field t f => "field `" ++ t ++ "." ++ f ++ "`"
  | argument t f a => "argument `" ++ t ++ "." ++ f ++ "(" ++ a ++ ")`"
  | inputField t f => "input field `" ++ t ++ "." ++ f ++ "`"
  | union type => "union `" ++ type ++ "`"
  | fieldImport importer none => "field import of `" ++ importer ++ "`"
  | fieldImport importer (some name) =>
    "field import of `" ++ importer ++ "` from module `" ++ name ++ "`"
  | defaultValue => "a default value"

/-- What a type wants of its default values. -/
inductive Expected where
  | string | integer | integer32 | number | finiteFloat | boolean | scalar | enumValue | inputObject
  | oneOfItsFields
  deriving DecidableEq, Repr

def Expected.text : Expected → String
  | string => "a string"
  | integer => "an integer"
  | integer32 => "a 32-bit integer"
  | number => "a number"
  | finiteFloat => "a finite float"
  | boolean => "a boolean"
  | scalar => "a scalar"
  | enumValue => "an enum value"
  | inputObject => "an input object"
  | oneOfItsFields => "one of its fields"

/-- What a default value is instead. -/
inductive Found where
  | kind (kind : Value.Kind)
  | integer (value : Int)
  | key (name : String)
  deriving DecidableEq, Repr

def Found.text : Found → String
  | kind k => k.text
  | integer n => toString n
  | key name => "`" ++ name ++ "`"

/-- Why a type has no literal for a default value. -/
inductive Unsupported where
  | typeKind (kind : TypeKind)
  | fieldCount (found : Nat)
  | nestedValue (key : String) (kind : Value.Kind)
  | customScalar (kind : Value.Kind)
  deriving DecidableEq, Repr

def Unsupported.text : Unsupported → String
  | typeKind kind => kind.text ++ " types cannot have default values"
  | fieldCount found =>
    "input object defaults must set exactly one field, found " ++ toString found
  | nestedValue key kind => "field `" ++ key ++ "` holds a nested " ++ kind.text ++ " value"
  | customScalar kind => kind.text ++ " values are not supported for custom scalars"

/-- The place of names that print alike. -/
inductive Scope where
  | type (type : String)
  | field (type field : String)
  deriving DecidableEq, Repr

def Scope.text : Scope → String
  | type t => "type `" ++ t ++ "`"
  | field t f => "field `" ++ t ++ "." ++ f ++ "`"

inductive CompileError where
  | unknownType (name : String) (place : Place)
  | anchorNotFound (anchor phase : String)
  | duplicatePhase (name : String)
  | phaseNotFound (name : String)
  | nonConforming (type interface field : String)
  | unsupportedDefault (type : String) (reason : Unsupported)
  | invalidDefault (type : String) (expected : Expected) (found : Found)
  | unknownEnumValue (enum value : String)
  | importCycle (path : List String)
  | missingQueryRoot
  | invalidRootType (operation : Operation) (name : String) (kind : TypeKind)
  | invalidUnionMember (union member : String)
  | notAnInterface (type name : String)
  | invalidName (name : String) (node : NodeId) (flaw : Name.Flaw)
  | reservedName (name : String) (node : NodeId)
  | duplicateEnumAlias (enum aliasName : String)
  | printedNameCollision (scope : Scope) (printed first second : String)
  | duplicateRoot (operation : Operation) (first second : String)
  | plugin (plugin message : String)
  | custom (message : String)
  | schema (error : SchemaError)
  deriving DecidableEq, Repr

namespace CompileError

def message : CompileError → String
  | unknownType name place => "unknown type `" ++ name ++ "` referenced by " ++ place.text
  | anchorNotFound anchor phase =>
    "cannot insert `" ++ phase ++ "`: no phase named `" ++ anchor ++ "`"
  | duplicatePhase name => "phase `" ++ name ++ "` is already in the pipeline"
  | phaseNotFound name => "no phase named `" ++ name ++ "`"
  | nonConforming type interface field =>
    "`" ++ type ++ "` implements `" ++ interface ++ "` but does not define field `" ++ field ++ "`"
  | unsupportedDefault type reason =>
    "cannot render a default value for `" ++ type ++ "`: " ++ reason.text
  | invalidDefault type expected found =>
    "invalid default value for `" ++ type ++ "`: expected " ++ expected.text ++ ", found " ++
      found.text
  | unknownEnumValue enum value => "`" ++ value ++ "` is not a value of enum `" ++ enum ++ "`"
  | importCycle path => "field imports form a cycle: " ++ String.intercalate " -> " path
  | missingQueryRoot => "schema has no query root type"
  | invalidRootType operation name kind =>
    operation.text ++ " root must be an object type, but `" ++ name ++ "` is " ++ kind.article
  | invalidUnionMember union member =>
    "union `" ++ union ++ "` member `" ++ member ++ "` is not an object type"
  | notAnInterface type name =>
    "`" ++ type ++ "` implements `" ++ name ++ "`, which is not an interface"
  | invalidName name node flaw =>
    "invalid name `" ++ name ++ "` at " ++ node.describe ++ ": " ++ flaw.message
  | reservedName name node =>
    "name `" ++ name ++ "` at " ++ node.describe ++ " must not begin with \"__\""
  | duplicateEnumAlias enum aliasName =>
    "enum `" ++ enum ++ "` declares more than one value named `" ++ aliasName ++ "`"
  | printedNameCollision scope printed first second =>
    "`" ++ first ++ "` and `" ++ second ++ "` both print as `" ++ printed ++ "` in " ++ scope.text
  | duplicateRoot operation first second =>
    operation.text ++ " root is declared as `" ++ first ++ "` and again as `" ++ second ++ "`"
  | plugin name message => "plugin `" ++ name ++ "` failed: " ++ message
  | custom message => message
  | schema error => error.message

/-- The messages of several errors as one. -/
def messages (errors : List CompileError) : String :=
  String.intercalate "; " (errors.map message)

end CompileError

/-- A result, or every error that was found. -/
abbrev Checked (α : Type) := Except (List CompileError) α

/-- The value if no error was found. -/
def Checked.unless {α : Type} (errors : List CompileError) (value : α) : Checked α :=
  if errors.isEmpty then .ok value else .error errors

theorem Checked.unless_eq_ok_iff {α : Type} {errors : List CompileError} {value result : α} :
    Checked.unless errors value = .ok result ↔ errors = [] ∧ value = result := by
  cases errors <;> simp [Checked.unless]

theorem Checked.unless_of_ne_nil {α : Type} {errors : List CompileError} (h : errors ≠ [])
    (value : α) : Checked.unless errors value = .error errors := by
  cases errors <;> simp_all [Checked.unless]

theorem Checked.unless_eq_error_iff {α : Type} {errors found : List CompileError} {value : α} :
    Checked.unless errors value = .error found ↔ errors ≠ [] ∧ errors = found := by
  cases errors <;> simp [Checked.unless]

/-- A run that stopped in a phase. -/
structure PipelineError where
  phase : String
  errors : List CompileError
  deriving DecidableEq, Repr

def PipelineError.message (e : PipelineError) : String :=
  "phase `" ++ e.phase ++ "` failed: " ++ CompileError.messages e.errors

end GraphSchema
