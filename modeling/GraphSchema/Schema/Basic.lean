import GraphSchema.Schema.Behavior

/-!
# Schemas

A schema is its root types, its named types in registration order, and the behaviors attached to
its nodes.
-/

namespace GraphSchema

structure Schema where
  roots : Roots := {}
  types : OrderedMap String TypeDef
  behaviors : BehaviorTable := .empty
  deriving BEq, Inhabited

/-- What a change of a schema can fail on. -/
inductive SchemaError where
  | unknownType (name : String)
  | duplicateType (name : String)
  | duplicateField (type field : String)
  | notAFieldContainer (name : String) (kind : TypeKind)
  | cannotImplement (name : String) (kind : TypeKind)
  deriving DecidableEq, Repr

def SchemaError.message : SchemaError → String
  | unknownType name => "unknown type `" ++ name ++ "`"
  | duplicateType name => "type `" ++ name ++ "` is already defined"
  | duplicateField type field => "field `" ++ field ++ "` is already defined on `" ++ type ++ "`"
  | notAFieldContainer name kind =>
    "`" ++ name ++ "` is " ++ kind.article ++ " type and cannot hold fields"
  | cannotImplement name kind =>
    "`" ++ name ++ "` is " ++ kind.article ++ " type and cannot implement interfaces"

namespace TypeDef

/-- Adds a field at the end, with the type as its parent. -/
def insertField (type : TypeDef) (field : Field) : Except SchemaError TypeDef :=
  match type.fields? with
  | none => .error (.notAFieldContainer type.name type.kind)
  | some fields =>
    if fields.contains field.name then .error (.duplicateField type.name field.name)
    else
      let fields := fields.insert field.name { field with parent := type.name }
      .ok { type with body := type.body.setFields fields }

/-- Declares that the type implements an interface, once. -/
def implement (type : TypeDef) (interface : String) : Except SchemaError TypeDef :=
  match type.body.addInterface? interface with
  | none => .error (.cannotImplement type.name type.kind)
  | some body => .ok { type with body }

end TypeDef

namespace Schema

/-- The schema that holds the built-in scalars only. -/
def initial : Schema :=
  { types := .ofList (builtinScalars.map fun name => (name, TypeDef.builtinScalar name)) }

/-- All types in registration order, the built-in scalars included. -/
def typeList (schema : Schema) : List TypeDef := schema.types.values

/-- The types in registration order without the built-in scalars. -/
def authored (schema : Schema) : List TypeDef := schema.typeList.filter (!·.isBuiltin)

def find? (schema : Schema) (name : String) : Option TypeDef := schema.types.get? name

def contains (schema : Schema) (name : String) : Bool := schema.types.contains name

def findField? (schema : Schema) (type field : String) : Option Field :=
  (schema.find? type).bind (·.findField? field)

/-- The fields of a type by its name, none if there is no such type. -/
def fieldsOf (schema : Schema) (name : String) : List Field :=
  match schema.find? name with
  | some type => type.fieldList
  | none => []

/-- Types and fields stand under their own names. -/
structure Keyed (schema : Schema) : Prop where
  types : schema.types.KeyedBy TypeDef.name
  fields : ∀ type ∈ schema.typeList, ∀ fields ∈ type.fields?, fields.KeyedBy Field.name

def typeCount (schema : Schema) : Nat := schema.types.size

/-- The names of the types that a schema module authored. -/
def namesFrom (schema : Schema) (moduleName : String) : List String :=
  (schema.types.entries.filter (·.2.moduleName == some moduleName)).map Prod.fst

/-- The schema modules that authored types, in the order in which they first did. -/
def modules (schema : Schema) : List String :=
  (schema.typeList.filterMap (·.moduleName)).foldl
    (fun seen name => if name ∈ seen then seen else seen ++ [name]) []

/-! ## Changes -/

/-- Registers a type under its name. -/
def addType (schema : Schema) (type : TypeDef) : Except SchemaError Schema :=
  if schema.contains type.name then .error (.duplicateType type.name)
  else .ok { schema with types := schema.types.insert type.name type }

theorem addType_eq_ok_iff {schema result : Schema} {type : TypeDef} :
    schema.addType type = .ok result ↔ type.name ∉ schema.types.keys ∧
      result = { schema with types := schema.types.insert type.name type } := by
  rw [← OrderedMap.contains_iff, addType, contains]
  split <;> simp [*, eq_comm]

/-- Replaces a registered type by what a change makes of it. -/
def changeType (schema : Schema) (name : String) (change : TypeDef → Except SchemaError TypeDef) :
    Except SchemaError Schema :=
  match schema.find? name with
  | none => .error (.unknownType name)
  | some type =>
    match change type with
    | .error e => .error e
    | .ok changed => .ok { schema with types := schema.types.insert name changed }

theorem changeType_eq_ok_iff {schema result : Schema} {name : String}
    {change : TypeDef → Except SchemaError TypeDef} :
    schema.changeType name change = .ok result ↔
      ∃ type changed, schema.find? name = some type ∧ change type = .ok changed ∧
        result = { schema with types := schema.types.insert name changed } := by
  unfold changeType
  cases schema.find? name with
  | none => simp
  | some type => cases h : change type <;> simp [h, eq_comm]

def addField (schema : Schema) (type : String) (field : Field) : Except SchemaError Schema :=
  schema.changeType type (·.insertField field)

def addInterface (schema : Schema) (type interface : String) : Except SchemaError Schema :=
  schema.changeType type (·.implement interface)

/-- Drops the pending field imports of a type. -/
def dropImports (schema : Schema) (type : String) : Schema :=
  { schema with types := schema.types.modify type fun t => { t with body := t.body.dropImports } }

/-- Adds a behavior after those the node has. -/
def attach (schema : Schema) (node : NodeId) (behavior : Behavior) : Schema :=
  { schema with behaviors := schema.behaviors.attach node behavior }

/-- Sets the behaviors of a node, dropping those it had. -/
def setBehaviors (schema : Schema) (node : NodeId) (behaviors : List Behavior) : Schema :=
  { schema with behaviors := schema.behaviors.insert node behaviors }

/-! ## Behaviors of a type -/

def behaviorsOf (schema : Schema) (node : NodeId) : List Behavior := schema.behaviors.of node

/-- The first resolver attached to a type. -/
def typeResolver? (schema : Schema) (type : String) : Option Closure :=
  (schema.behaviorsOf (.type type)).findSome? fun
    | .typeResolver function => some function
    | _ => none

/-- The first check of values attached to a type. -/
def isTypeOf? (schema : Schema) (type : String) : Option Closure :=
  (schema.behaviorsOf (.type type)).findSome? fun
    | .isTypeOf function => some function
    | _ => none

end Schema

end GraphSchema
