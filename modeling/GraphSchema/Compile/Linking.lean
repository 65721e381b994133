import GraphSchema.Compile.Error

/-!
# Linking

Every name that a schema refers to must be registered, and be of the kind its place asks for. A
schema that links gets the parents of its fields stamped and the implementors of its interfaces
computed.
-/

namespace GraphSchema.Linking

/-! ## Checks -/

/-- The error of a reference to a type that the place does not accept. -/
def refError (schema : Schema) (name : String) (place : Place) (accepts : TypeKind → Bool)
    (otherwise : TypeKind → CompileError) : List CompileError :=
  match schema.find? name with
  | none => [.unknownType name place]
  | some type => if accepts type.kind then [] else [otherwise type.kind]

def rootErrors (schema : Schema) : List CompileError :=
  (if schema.roots.query.isNone then [.missingQueryRoot] else []) ++
    schema.roots.declared.flatMap fun (operation, name) =>
      refError schema name (.root operation) (· == .object) (.invalidRootType operation name)

/-- The error of a reference to a type that is not registered. -/
def typeRefErrors (schema : Schema) (type : TypeRef) (place : Place) : List CompileError :=
  if schema.contains type.baseName then [] else [.unknownType type.baseName place]

def fieldErrors (schema : Schema) (type : String) (field : Field) : List CompileError :=
  typeRefErrors schema field.type (.field type field.name) ++
    field.arguments.values.flatMap fun argument =>
      typeRefErrors schema argument.type (.argument type field.name argument.name)

def interfaceErrors (schema : Schema) (type name : String) : List CompileError :=
  refError schema name (.interfaces type) (· == .interface) fun _ => .notAnInterface type name

def memberErrors (schema : Schema) (type name : String) : List CompileError :=
  refError schema name (.union type) (· == .object) fun _ => .invalidUnionMember type name

def bodyErrors (schema : Schema) (type : String) : TypeBody → List CompileError
  | .object interfaces fields _ =>
    interfaces.flatMap (interfaceErrors schema type) ++
      fields.values.flatMap (fieldErrors schema type)
  | .interface interfaces fields _ _ =>
    interfaces.flatMap (interfaceErrors schema type) ++
      fields.values.flatMap (fieldErrors schema type)
  | .inputObject fields _ =>
    fields.values.flatMap fun field =>
      typeRefErrors schema field.type (.inputField type field.name)
  | .union members => members.flatMap (memberErrors schema type)
  | .enum _ => []
  | .scalar _ => []

def errors (schema : Schema) : List CompileError :=
  rootErrors schema ++ schema.typeList.flatMap fun type => bodyErrors schema type.name type.body

/-! ## Results -/

/-- The fields with the type's name as their parent. -/
def stampFields (parent : String) (fields : FieldMap) : FieldMap :=
  fields.mapValues fun _ field => { field with parent }

def stampParents (type : TypeDef) : TypeDef :=
  match type.fields? with
  | none => type
  | some fields => { type with body := type.body.setFields (stampFields type.name fields) }

/-- The schema with the parents of all fields stamped. -/
def stamped (schema : Schema) : Schema :=
  { schema with types := schema.types.mapValues fun _ type => stampParents type }

/-- The names of the objects that declare an interface, for each interface that is declared. -/
abbrev Roll := OrderedMap String (List String)

/-- The objects under a name, none if it is not on the roll. -/
def Roll.of (roll : Roll) (interface : String) : List String := (roll.get? interface).getD []

/-- Enters an object behind those that declare the interface. -/
def Roll.enter (object : String) (roll : Roll) (interface : String) : Roll :=
  roll.insert interface (roll.of interface ++ [object])

/-- The roll with the declarations of one type. Only objects are entered. -/
def Roll.enterType (roll : Roll) (type : TypeDef) : Roll :=
  match type.body with
  | .object interfaces _ _ => interfaces.foldl (Roll.enter type.name) roll
  | _ => roll

def roll (schema : Schema) : Roll := schema.typeList.foldl Roll.enterType .empty

/-- Hands the roll out to the interfaces in order. What one has got is gone for the others. -/
def handOut : Roll → List (String × TypeDef) → List (String × TypeDef)
  | _, [] => []
  | roll, (key, type) :: rest =>
    match type.body with
    | .interface interfaces fields imports _ =>
      let body := .interface interfaces fields imports (roll.of type.name)
      (key, { type with body }) :: handOut (roll.erase type.name) rest
    | _ => (key, type) :: handOut roll rest

theorem keys_handOut (roll : Roll) (entries : List (String × TypeDef)) :
    (handOut roll entries).map Prod.fst = entries.map Prod.fst := by
  induction entries generalizing roll with
  | nil => rfl
  | cons entry rest ih =>
    rw [handOut]
    split <;> simp [ih]

/-- The schema with the implementors of its interfaces computed. -/
def withImplementors (schema : Schema) : Schema :=
  { schema with
    types := ⟨handOut (roll schema) schema.types.entries, by
      rw [keys_handOut]
      exact schema.types.nodup⟩ }

def run (schema : Schema) : Checked Schema :=
  Checked.unless (errors schema) (withImplementors (stamped schema))

end GraphSchema.Linking
