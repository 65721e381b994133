import GraphSchema.Schema.Basic

/-!
# Schemas as data

The JSON form of a schema: its roots and its types. Behaviors are left out, and so are empty lists
and absent marks where the format says so.
-/

namespace GraphSchema

/-- A text, or null. -/
def Json.ofText? : Option String → Json
  | some text => .string text
  | none => .null

def Json.ofTexts (texts : List String) : Json := .array (texts.map .string)

/-- An entry that is written only if there is something to write. -/
def Json.entryIf (written : Bool) (key : String) (value : Json) : List (String × Json) :=
  if written then [(key, value)] else []

def Deprecation.toJson (d : Deprecation) : Json := .object [("reason", .ofText? d.reason)]

def Argument.toJson (a : Argument) : Json :=
  .object <|
    [("name", .string a.name), ("description", .ofText? a.description),
      ("type_ref", .string a.type.text)] ++
    (a.default.map fun value => ("default_value", value.toJson)).toList

def Field.toJson (f : Field) : Json :=
  .object <|
    [("name", .string f.name), ("description", .ofText? f.description),
      ("type_ref", .string f.type.text)] ++
    Json.entryIf (!f.arguments.isEmpty) "arguments"
      (.object (f.arguments.entries.map fun (name, a) => (name, a.toJson))) ++
    (f.default.map fun value => ("default_value", value.toJson)).toList ++
    (f.deprecation.map fun d => ("deprecation", d.toJson)).toList ++
    [("parent", .string f.parent)]

def FieldMap.toJson (fields : FieldMap) : Json :=
  .object (fields.entries.map fun (name, f) => (name, f.toJson))

def EnumValue.toJson (v : EnumValue) : Json :=
  .object <|
    [("key", .string v.key), ("alias", .string v.aliasName),
      ("description", .ofText? v.description)] ++
    (v.deprecation.map fun d => ("deprecation", d.toJson)).toList

def FieldImport.toJson (i : FieldImport) : Json :=
  .object <|
    [("source", .string i.source)] ++
    (i.moduleName.map fun name => ("module", .string name)).toList ++
    Json.entryIf (!i.except.isEmpty) "except" (.ofTexts i.except)

def TypeKind.tag : TypeKind → String
  | inputObject => "input_object"
  | kind => kind.text

/-- The entries that depend on the kind of the type. -/
def TypeBody.jsonEntries : TypeBody → List (String × Json)
  | object interfaces fields imports =>
    Json.entryIf (!interfaces.isEmpty) "interfaces" (.ofTexts interfaces) ++
      [("fields", fields.toJson)] ++ importsEntry imports
  | interface interfaces fields imports implementors =>
    Json.entryIf (!interfaces.isEmpty) "interfaces" (.ofTexts interfaces) ++
      [("fields", fields.toJson)] ++ importsEntry imports ++
      Json.entryIf (!implementors.isEmpty) "implementors" (.ofTexts implementors)
  | union members => [("types", .ofTexts members)]
  | enum values => [("values", .object (values.entries.map fun (key, v) => (key, v.toJson)))]
  | inputObject fields imports => [("fields", fields.toJson)] ++ importsEntry imports
  | scalar builtin => Json.entryIf builtin "builtin" (.bool true)
where
  importsEntry (imports : List FieldImport) : List (String × Json) :=
    Json.entryIf (!imports.isEmpty) "imports" (.array (imports.map (·.toJson)))

def TypeDef.toJson (t : TypeDef) : Json :=
  .object <|
    [("kind", .string t.kind.tag), ("name", .string t.name),
      ("description", .ofText? t.description), ("module", .ofText? t.moduleName)] ++
    t.body.jsonEntries

def Roots.toJson (roots : Roots) : Json :=
  .object (Operation.all.map fun operation => (operation.text, .ofText? (roots.get? operation)))

def Schema.toJson (schema : Schema) : Json :=
  .object
    [("schema", schema.roots.toJson),
      ("types", .object (schema.types.entries.map fun (name, t) => (name, t.toJson)))]

end GraphSchema
