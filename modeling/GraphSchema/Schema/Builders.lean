import GraphSchema.Schema.Basic

/-!
# Builders

How schemas, types and fields are put together. Each step adds one part. A step that the kind of a
type does not have leaves the type as it is.
-/

namespace GraphSchema

/-- Adds an argument, in place of the one of its name if there is one. -/
def Field.withArgument (field : Field) (argument : Argument) : Field :=
  { field with arguments := field.arguments.insert argument.name argument }

namespace TypeBody

/-- The body of a type that has nothing yet. -/
def new : TypeKind → TypeBody
  | .object => object [] .empty []
  | .interface => interface [] .empty [] []
  | .union => union []
  | .enum => enum .empty
  | .inputObject => inputObject .empty []
  | .scalar => scalar false

/-- Declares an interface once more, whether or not it is declared. -/
def withInterface (name : String) : TypeBody → TypeBody
  | object interfaces fields imports => object (interfaces ++ [name]) fields imports
  | interface interfaces fields imports implementors =>
    interface (interfaces ++ [name]) fields imports implementors
  | other => other

def withImport (request : FieldImport) : TypeBody → TypeBody
  | object interfaces fields imports => object interfaces fields (imports ++ [request])
  | interface interfaces fields imports implementors =>
    interface interfaces fields (imports ++ [request]) implementors
  | inputObject fields imports => inputObject fields (imports ++ [request])
  | other => other

def withMember (name : String) : TypeBody → TypeBody
  | union members => union (members ++ [name])
  | other => other

/-- Adds a value, in place of the one of its key if there is one. -/
def withValue (value : EnumValue) : TypeBody → TypeBody
  | enum values => enum (values.insert value.key value)
  | other => other

end TypeBody

namespace TypeDef

def new (name : String) (kind : TypeKind) : TypeDef := { name, body := .new kind }

/-- Adds a field with the type as its parent, in place of the one of its name if there is one. -/
def withField (type : TypeDef) (field : Field) : TypeDef :=
  match type.fields? with
  | none => type
  | some fields =>
    let fields := fields.insert field.name { field with parent := type.name }
    { type with body := type.body.setFields fields }

def withInterface (type : TypeDef) (name : String) : TypeDef :=
  { type with body := type.body.withInterface name }

def withImport (type : TypeDef) (request : FieldImport) : TypeDef :=
  { type with body := type.body.withImport request }

def withMember (type : TypeDef) (name : String) : TypeDef :=
  { type with body := type.body.withMember name }

def withValue (type : TypeDef) (value : EnumValue) : TypeDef :=
  { type with body := type.body.withValue value }

end TypeDef

/-- The schema with the roots after types were added one by one. One that cannot be added is left
out. -/
def Schema.build (roots : Roots) (types : List TypeDef) : Schema :=
  types.foldl (fun schema type => (schema.addType type).toOption.getD schema)
    { Schema.initial with roots }

/-! ## Several parts at once -/

theorem Field.foldl_withArgument (field : Field) (arguments : List Argument) :
    arguments.foldl Field.withArgument field =
      { field with
        arguments := field.arguments.insertAll (arguments.map fun a => (a.name, a)) } := by
  induction arguments generalizing field with
  | nil => rfl
  | cons argument rest ih => exact ih (field.withArgument argument)

namespace TypeDef

theorem fields?_withField (type : TypeDef) (field : Field) :
    (type.withField field).fields? =
      type.fields?.map (·.insert field.name { field with parent := type.name }) := by
  unfold withField
  cases h : type.fields? with
  | none => exact h
  | some fields =>
    have hbody : type.body.fields? = some fields := h
    simp [fields?, hbody]

/-- Parts that go to the end of a list in the body. -/
theorem foldl_parts {α : Type} (step : α → TypeBody → TypeBody) (body : List α → TypeBody)
    (hstep : ∀ parts part, step part (body parts) = body (parts ++ [part])) {type : TypeDef}
    {parts : List α} (h : type.body = body parts) (added : List α) :
    added.foldl (fun type part => { type with body := step part type.body }) type =
      { type with body := body (parts ++ added) } := by
  induction added generalizing type parts with
  | nil => rw [List.append_nil, ← h, List.foldl_nil]
  | cons part rest ih =>
    rw [List.foldl_cons, h, hstep, ih rfl, List.append_assoc, List.singleton_append]

/-- A type that gets fields one after the other has them by name, and is their parent. -/
theorem foldl_withField {type : TypeDef} {fields : FieldMap} (h : type.fields? = some fields)
    (added : List Field) :
    added.foldl withField type =
      { type with
        body := type.body.setFields <|
          fields.insertAll (added.map fun f => (f.name, { f with parent := type.name })) } := by
  induction added generalizing type fields with
  | nil =>
    rw [List.foldl_nil, List.map_nil]
    unfold OrderedMap.insertAll
    rw [List.foldl_nil, TypeBody.setFields_eq_self h]
  | cons field rest ih =>
    have hnext := fields?_withField type field
    rw [h, Option.map_some] at hnext
    rw [List.foldl_cons, ih hnext]
    unfold withField
    rw [h]
    dsimp only
    cases type.body <;> rfl

theorem foldl_withValue {type : TypeDef} {values : OrderedMap String EnumValue}
    (h : type.body = .enum values) (added : List EnumValue) :
    added.foldl withValue type =
      { type with body := .enum (values.insertAll (added.map fun v => (v.key, v))) } := by
  induction added generalizing type values with
  | nil =>
    rw [List.foldl_nil, List.map_nil]
    unfold OrderedMap.insertAll
    rw [List.foldl_nil, ← h]
  | cons value rest ih =>
    have hnext : (type.withValue value).body = .enum (values.insert value.key value) := by
      rw [withValue, h]
      rfl
    rw [List.foldl_cons, ih hnext]
    rfl

end TypeDef

end GraphSchema
