import GraphSchema.Proofs.Name
import GraphSchema.Schema.Basic
import GraphSchema.Sdl.Naming

/-!
# Names that print

The texts of a schema that print as they are, or as a naming changes them, and that stand for names
in the language: names of types, fields and arguments, references to types, aliases and raw enum
values.
-/

namespace GraphSchema

/-! ## The names of a schema -/

namespace Value

mutual

/-- The raw enum values in a value, at any depth. -/
def enumNames : Value → List String
  | enum name => [name]
  | list items => enumNamesOfItems items
  | object entries => enumNamesOfEntries entries
  | _ => []

def enumNamesOfItems : List Value → List String
  | [] => []
  | item :: items => enumNames item ++ enumNamesOfItems items

def enumNamesOfEntries : List (String × Value) → List String
  | [] => []
  | (_, value) :: entries => enumNames value ++ enumNamesOfEntries entries

end

theorem enumNames_subset_of_mem {items : List Value} {item : Value} (h : item ∈ items) :
    item.enumNames ⊆ (list items).enumNames := by
  rw [enumNames]
  induction items with
  | nil => cases h
  | cons first rest ih =>
    rw [enumNamesOfItems]
    rcases List.mem_cons.1 h with rfl | h
    · exact List.subset_append_left _ _
    · exact List.Subset.trans (ih h) (List.subset_append_right _ _)

theorem enumNames_single (key : String) (value : Value) :
    (object [(key, value)]).enumNames = value.enumNames := by
  simp [enumNames, enumNamesOfEntries]

/-- The raw enum values in a default, if there is one. -/
def enumNamesOf : Option Value → List String
  | none => []
  | some value => value.enumNames

end Value

def Argument.names (argument : Argument) : List String :=
  argument.name :: Value.enumNamesOf argument.default

def Field.names (field : Field) : List String :=
  field.name :: Value.enumNamesOf field.default ++ field.arguments.values.flatMap Argument.names

/-- Fields with the names they stand under. -/
def FieldMap.names (fields : FieldMap) : List String :=
  fields.keys ++ fields.values.flatMap Field.names

def TypeBody.names : TypeBody → List String
  | object interfaces fields _ => interfaces ++ FieldMap.names fields
  | interface interfaces fields _ _ => interfaces ++ FieldMap.names fields
  | union members => members
  | enum values => values.values.map (·.aliasName)
  | inputObject fields _ => FieldMap.names fields
  | scalar _ => []

def TypeDef.names (type : TypeDef) : List String := type.name :: type.body.names

/-- The names of the roots, of the types and of all that types hold, with the names that types and
fields stand under. -/
def Schema.names (schema : Schema) : List String :=
  schema.roots.declared.map Prod.snd ++ schema.types.keys ++ schema.typeList.flatMap TypeDef.names

/-- All of these are names of the language. -/
def Schema.NamesValid (schema : Schema) : Prop := ∀ name ∈ schema.names, Name.isValid name

namespace Schema.NamesValid

variable {schema : Schema} (h : schema.NamesValid)
include h

theorem root {operation : Operation} {name : String}
    (hroot : (operation, name) ∈ schema.roots.declared) : Name.isValid name :=
  h name (List.mem_append_left _ (List.mem_append_left _ (List.mem_map_of_mem hroot)))

theorem registered {name : String} (hname : schema.contains name) : Name.isValid name :=
  h name (List.mem_append_left _ (List.mem_append_right _ (OrderedMap.contains_iff.1 hname)))

theorem type {type : TypeDef} (htype : type ∈ schema.typeList) {name : String}
    (hname : name ∈ type.names) : Name.isValid name :=
  h name (List.mem_append_right _ (List.mem_flatMap.2 ⟨type, htype, hname⟩))

theorem body {key : String} {type : TypeDef} (hfound : schema.find? key = some type)
    {name : String} (hname : name ∈ type.body.names) : Name.isValid name :=
  h.type (OrderedMap.mem_values_iff.2 ⟨key, hfound⟩) (List.mem_cons_of_mem _ hname)

end Schema.NamesValid

/-! ## Namings -/

/-- Names print as names. -/
structure Sdl.Naming.KeepsNames (naming : Sdl.Naming) : Prop where
  field : ∀ name, Name.isValid name → Name.isValid (naming.field name)
  argument : ∀ name, Name.isValid name → Name.isValid (naming.argument name)

theorem Sdl.Naming.keepsNames_camel : Naming.camel.KeepsNames :=
  ⟨fun _ => Name.isValid_camel, fun _ => Name.isValid_camel⟩

theorem Sdl.Naming.keepsNames_passthrough : Naming.passthrough.KeepsNames :=
  ⟨fun _ h => h, fun _ h => h⟩

end GraphSchema
