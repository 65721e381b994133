import GraphSchema.Proofs.Sdl.LiteralTable

/-!
# Non-null markers

Markers say whether null is allowed, and a default value prints the same with them and without them:
those of its own type, and those of the input objects that it sets fields of.
-/

namespace GraphSchema

/-! ## Deleting markers -/

/-- The type without non-null markers, at any depth. -/
def TypeRef.unmarked : TypeRef → TypeRef
  | named name => named name
  | nonNull inner => inner.unmarked
  | list item => list item.unmarked

def FieldMap.unmarked (fields : FieldMap) : FieldMap :=
  fields.mapValues fun _ field => { field with type := field.type.unmarked }

/-- Only the fields of input objects lose their markers. -/
def TypeBody.unmarkInput : TypeBody → TypeBody
  | inputObject fields imports => inputObject (FieldMap.unmarked fields) imports
  | other => other

def TypeDef.unmarkInput (type : TypeDef) : TypeDef := { type with body := type.body.unmarkInput }

/-- The schema without the markers of its input objects. -/
def Schema.unmarkInputs (schema : Schema) : Schema :=
  { schema with types := schema.types.mapValues fun _ type => type.unmarkInput }

theorem Schema.find?_unmarkInputs (schema : Schema) (name : String) :
    schema.unmarkInputs.find? name = (schema.find? name).map TypeDef.unmarkInput :=
  OrderedMap.get?_mapValues schema.types _ name

namespace Sdl

section

variable {schema : Schema} {input other : InputLiteral}
  (hinput : ∀ type fields value,
    other type (FieldMap.unmarked fields) value = input type fields value)
include hinput

theorem namedLiteral_unmarkInputs (name : String) (value : Value) :
    namedLiteral schema.unmarkInputs other name value = namedLiteral schema input name value := by
  unfold namedLiteral
  rw [Schema.find?_unmarkInputs]
  cases schema.find? name with
  | none => rfl
  | some type =>
    obtain ⟨own, description, moduleName, body⟩ := type
    cases body with
    | inputObject fields imports => exact hinput own fields value
    | object | interface | union | enum | scalar => rfl

/-- Where input objects print the same, so does everything else. -/
theorem literalWith_unmarked (type : TypeRef) (value : Value) :
    literalWith schema.unmarkInputs other type.unmarked value =
      literalWith schema input type value := by
  induction type generalizing value with
  | named name =>
    by_cases hnull : value = .null
    · rw [hnull, literalWith_null, literalWith_null]
    · rw [TypeRef.unmarked, literalWith_named _ _ name hnull, literalWith_named _ _ name hnull,
        namedLiteral_unmarkInputs hinput]
  | nonNull inner ih => rw [TypeRef.unmarked, ih, literalWith_nonNull]
  | list item ih =>
    by_cases hlist : value.kind = .list
    · cases value with
      | list items => rw [TypeRef.unmarked, literalWith, literalWith, funext ih]
      | _ => cases hlist
    · rw [TypeRef.unmarked, literalWith_item _ _ _ hlist, literalWith_item _ _ _ hlist, ih]

end

theorem singleLiteral_unmarked (schema : Schema) (type : TypeRef) (value : Value) :
    singleLiteral schema.unmarkInputs type.unmarked value = singleLiteral schema type value :=
  literalWith_unmarked (fun _ _ _ => rfl) type value

theorem inputLiteral_unmarked (schema : Schema) (naming : Naming) (type : String)
    (fields : FieldMap) (value : Value) :
    inputLiteral schema.unmarkInputs naming type (FieldMap.unmarked fields) value =
      inputLiteral schema naming type fields value := by
  unfold inputLiteral
  split
  · rename_i key entry
    rw [FieldMap.unmarked, OrderedMap.get?_mapValues]
    cases fields.get? key with
    | none => rfl
    | some field => simp only [Option.map_some, singleLiteral_unmarked]
  · rfl
  · rfl

/-- Markers change neither a literal nor the reason why there is none. -/
theorem literal_unmarked (schema : Schema) (naming : Naming) (type : TypeRef) (value : Value) :
    literal schema.unmarkInputs naming type.unmarked value = literal schema naming type value :=
  literalWith_unmarked (inputLiteral_unmarked schema naming) type value

end Sdl

end GraphSchema
