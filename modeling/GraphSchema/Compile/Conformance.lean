import GraphSchema.Compile.Error
import GraphSchema.Sdl.Naming

/-!
# Conformance

A type that declares an interface must define each of its fields. Fields are matched by the name
they print in camel case, so `display_name` stands for `displayName`.
-/

namespace GraphSchema.Conformance

/-- Whether the type has a field of the name, or one that prints like it. -/
def defines (type : TypeDef) (field : String) : Bool :=
  (type.findField? field).isSome ||
    match type.fields? with
    | some fields => fields.keys.any fun name => Name.camel name == Name.camel field
    | none => false

def interfaceErrors (schema : Schema) (type : TypeDef) (name : String) : List CompileError :=
  match schema.find? name with
  | some ⟨interface, _, _, .interface _ fields _ _⟩ =>
    (fields.keys.filter fun field => !defines type field).map (.nonConforming type.name interface)
  | _ => []

def errors (schema : Schema) : List CompileError :=
  schema.typeList.flatMap fun type => type.interfaces.flatMap (interfaceErrors schema type)

def run (schema : Schema) : Checked Schema := Checked.unless (errors schema) schema

end GraphSchema.Conformance
