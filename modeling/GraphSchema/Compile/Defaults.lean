import GraphSchema.Sdl.Literal

/-!
# Defaults

Every default value must have a literal of its declared type.
-/

namespace GraphSchema.Defaults

def valueErrors (schema : Schema) (type : TypeRef) : Option Value → List CompileError
  | none => []
  | some value =>
    match Sdl.literal schema .camel type value with
    | .ok _ => []
    | .error error => [error]

def fieldErrors (schema : Schema) (field : Field) : List CompileError :=
  valueErrors schema field.type field.default ++
    field.arguments.values.flatMap fun a => valueErrors schema a.type a.default

def errors (schema : Schema) : List CompileError :=
  schema.typeList.flatMap fun type => type.fieldList.flatMap (fieldErrors schema)

def run (schema : Schema) : Checked Schema := Checked.unless (errors schema) schema

end GraphSchema.Defaults
