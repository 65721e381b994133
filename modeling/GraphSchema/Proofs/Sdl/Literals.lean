import GraphSchema.Results
import GraphSchema.Sdl.Literal

/-!
# Literals of accepted values

Whether a value has a literal depends on the types of the schema, and not on how names print.
-/

namespace GraphSchema.Sdl

/-! ## The schema -/

section Schema

variable {schema other : Schema}
  (hnamed : ∀ input name value,
    namedLiteral other input name value = namedLiteral schema input name value)
include hnamed

/-- Types are looked up for literals of named types only. -/
theorem literalWith_congr (input : InputLiteral) (type : TypeRef) (value : Value) :
    literalWith other input type value = literalWith schema input type value := by
  induction type generalizing value with
  | named name => cases value <;> simp [literalWith, hnamed]
  | nonNull inner ih => cases value <;> simp [literalWith, ih]
  | list item ih => cases value <;> simp [literalWith, ih, funext ih]

theorem inputLiteral_congr (naming : Naming) :
    inputLiteral other naming = inputLiteral schema naming := by
  have hsingle : singleLiteral other = singleLiteral schema := by
    funext type value
    exact literalWith_congr hnamed _ type value
  funext type fields value
  simp only [inputLiteral, hsingle]

theorem literal_congr (naming : Naming) (type : TypeRef) (value : Value) :
    literal other naming type value = literal schema naming type value := by
  rw [literal, inputLiteral_congr hnamed, literalWith_congr hnamed, literal]

end Schema

/-! ## The naming -/

theorem isOk_namedLiteral_congr {schema : Schema} {input other : InputLiteral}
    (h : ∀ type fields value, (other type fields value).isOk = (input type fields value).isOk)
    (name : String) (value : Value) :
    (namedLiteral schema other name value).isOk = (namedLiteral schema input name value).isOk := by
  unfold namedLiteral
  cases schema.find? name with
  | none => rfl
  | some type => cases hbody : type.body <;> simp [hbody, h]

/-- Only input objects are written by `input`, so the rest succeeds or fails as before. -/
theorem isOk_literalWith_congr {schema : Schema} {input other : InputLiteral}
    (h : ∀ type fields value, (other type fields value).isOk = (input type fields value).isOk)
    (type : TypeRef) (value : Value) :
    (literalWith schema other type value).isOk = (literalWith schema input type value).isOk := by
  induction type generalizing value with
  | named name => cases value <;> simp [literalWith, isOk_namedLiteral_congr h]
  | nonNull inner ih => cases value <;> simp [literalWith, ih]
  | list item ih => cases value <;> simp [literalWith, ih, isOk_mapM]

theorem isOk_inputLiteral (schema : Schema) (naming other : Naming) (type : String)
    (fields : FieldMap) (value : Value) :
    (inputLiteral schema other type fields value).isOk =
      (inputLiteral schema naming type fields value).isOk := by
  unfold inputLiteral
  split
  · split
    · rfl
    · split <;> simp
  · rfl
  · rfl

/-- A value has a literal under every naming or under none. -/
theorem isOk_literal (schema : Schema) (naming other : Naming) (type : TypeRef) (value : Value) :
    (literal schema other type value).isOk = (literal schema naming type value).isOk :=
  isOk_literalWith_congr (isOk_inputLiteral schema naming other) type value

end GraphSchema.Sdl
