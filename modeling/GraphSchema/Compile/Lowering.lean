import GraphSchema.Authoring.Module
import GraphSchema.Compile.Error

/-!
# From modules to a schema

Schema modules become one schema: identifiers become names of types, and types are registered
module by module, in the order of their declarations. Names of fields, arguments and enum values
stay as authored.
-/

namespace GraphSchema.Lowering

def typeRef (type : TypeRef) : TypeRef := type.mapName Name.typeName

def fieldImport (i : FieldImport) : FieldImport := { i with source := Name.typeName i.source }

def argument (name : String) (decl : InputValueDecl) : Argument where
  name
  type := typeRef decl.type
  description := decl.description
  default := decl.default

def field (name : String) (decl : FieldDecl) : Field where
  name
  type := typeRef decl.type
  description := decl.description
  arguments := decl.arguments.mapValues argument
  deprecation := decl.deprecated.bind (·.deprecation?)

def inputField (name : String) (decl : InputValueDecl) : Field where
  name
  type := typeRef decl.type
  description := decl.description
  default := decl.default

/-- The fields of a type, which know it as their parent. -/
def fieldsOf {α : Type} (parent : String) (lower : String → α → Field)
    (fields : OrderedMap String α) : FieldMap :=
  fields.mapValues fun name decl => { lower name decl with parent }

def enumValue (decl : EnumValueDecl) : EnumValue where
  key := decl.key
  aliasName := decl.aliasName.getD (EnumValue.defaultAlias decl.key)
  description := decl.description
  deprecation := decl.deprecated.bind (·.deprecation?)

def objectBody (name : String) (decl : CompositeDecl) : TypeBody :=
  .object (decl.interfaces.map Name.typeName) (fieldsOf name field decl.fields)
    (decl.imports.map fieldImport)

def interfaceBody (name : String) (decl : CompositeDecl) : TypeBody :=
  .interface (decl.interfaces.map Name.typeName) (fieldsOf name field decl.fields)
    (decl.imports.map fieldImport) []

def enumBody (decl : EnumDecl) : TypeBody :=
  .enum (.ofList (decl.values.map fun value => (value.key, enumValue value)))

def inputBody (name : String) (decl : InputDecl) : TypeBody :=
  .inputObject (fieldsOf name inputField decl.fields) (decl.imports.map fieldImport)

/-- The type that a declaration describes; its body may depend on the type's name. -/
def typeOf (m : SchemaModule) (identifier : String) (description : Option String)
    (body : String → TypeBody) : TypeDef where
  name := Name.typeName identifier
  description
  moduleName := some m.name
  body := body (Name.typeName identifier)

/-- The types that a module declares, in order. -/
def typesOf (m : SchemaModule) : List TypeDef :=
  (m.objects.entries.map fun (name, decl) =>
    typeOf m name decl.description (objectBody · decl)) ++
  (m.interfaces.entries.map fun (name, decl) =>
    typeOf m name decl.description (interfaceBody · decl)) ++
  (m.unions.entries.map fun (name, decl) =>
    typeOf m name decl.description fun _ => .union (decl.members.map Name.typeName)) ++
  (m.enums.entries.map fun (name, decl) =>
    typeOf m name decl.description fun _ => enumBody decl) ++
  (m.inputs.entries.map fun (name, decl) =>
    typeOf m name decl.description (inputBody · decl)) ++
  (m.scalars.entries.map fun (name, decl) =>
    typeOf m name decl.description fun _ => .scalar false)

/-! ## Several modules -/

/-- What was gathered from the modules so far. -/
structure Draft where
  roots : Roots := {}
  types : List TypeDef := []
  errors : List CompileError := []

/-- Declares a root type. The first module that declares one counts. -/
def Draft.addRoot (draft : Draft) (root : Operation × String) : Draft :=
  let (operation, identifier) := root
  let name := Name.typeName identifier
  match draft.roots.get? operation with
  | none => { draft with roots := draft.roots.set operation name }
  | some first =>
    if first = name then draft
    else { draft with errors := draft.errors ++ [.duplicateRoot operation first name] }

/-- Declares a type, unless its name is taken. -/
def Draft.addType (draft : Draft) (type : TypeDef) : Draft :=
  if type.name ∈ builtinScalars ∨ type.name ∈ draft.types.map (·.name) then
    { draft with errors := draft.errors ++ [.schema (.duplicateType type.name)] }
  else
    { draft with types := draft.types ++ [type] }

def Draft.addModule (draft : Draft) (m : SchemaModule) : Draft :=
  (typesOf m).foldl Draft.addType (m.roots.declared.foldl Draft.addRoot draft)

/-- An object of the name `Query` is the query root if no module declares one. -/
def rootsOf (draft : Draft) : Roots :=
  if draft.roots.query.isNone &&
      draft.types.any (fun t => t.kind == .object && t.name == "Query") then
    { draft.roots with query := some "Query" }
  else
    draft.roots

/-- The schema of several modules, or every name that is declared twice. -/
def run (modules : List SchemaModule) : Checked Schema := do
  let draft := modules.foldl Draft.addModule {}
  Checked.unless draft.errors ()
  (draft.types.foldlM Schema.addType { Schema.initial with roots := rootsOf draft }).mapError
    fun e => [.schema e]

end GraphSchema.Lowering
