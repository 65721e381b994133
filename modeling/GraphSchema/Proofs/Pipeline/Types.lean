import GraphSchema.Proofs.Imports.Flattening
import GraphSchema.Proofs.Imports.Origins
import GraphSchema.Proofs.Pipeline.Outcome

/-!
# Types through the phases

Every type of a compiled schema comes from the one that stood under its name. Its fields, and the
types themselves, stay under their own names.
-/

namespace GraphSchema

/-! ## Imports -/

namespace Imports

theorem mem_typeList_run {schema result : Schema} (hkeyed : schema.types.KeyedBy TypeDef.name)
    (h : run schema = .ok result) {type : TypeDef} :
    type ∈ result.typeList ↔ ∃ name before, schema.find? name = some before ∧
      resolved schema result.types name before = type := by
  constructor
  · intro htype
    obtain ⟨name, hfound⟩ := OrderedMap.mem_values_iff.1 htype
    have hcontains : schema.contains name := by
      rw [← contains_of_run h name]
      exact Option.isSome_iff_exists.2 ⟨type, hfound⟩
    obtain ⟨before, hbefore⟩ := Option.isSome_iff_exists.1 hcontains
    have hafter := (find?_run hkeyed h hbefore).1
    exact ⟨name, before, hbefore, Option.some.inj (hafter.symm.trans hfound)⟩
  · rintro ⟨name, before, hbefore, rfl⟩
    exact OrderedMap.mem_values_iff.2 ⟨name, (find?_run hkeyed h hbefore).1⟩

theorem keyed_of_run {schema result : Schema} (h : run schema = .ok result)
    (hkeyed : schema.Keyed) : result.Keyed := by
  refine ⟨keyedBy_of_run h hkeyed.types, ?_⟩
  intro type htype
  obtain ⟨name, before, hbefore, rfl⟩ := (mem_typeList_run hkeyed.types h).1 htype
  exact keyed_resolved (hkeyed.fields before (OrderedMap.mem_values_iff.2 ⟨name, hbefore⟩))

end Imports

/-! ## Linking -/

namespace Linking

theorem keyedBy_linked {schema : Schema} (h : schema.types.KeyedBy TypeDef.name) :
    (linked schema).types.KeyedBy TypeDef.name :=
  h.mapValues (name_linkedType schema)

theorem keyed_stampFields {fields : FieldMap} (h : fields.KeyedBy Field.name) (parent : String) :
    (stampFields parent fields).KeyedBy Field.name :=
  h.mapValues fun _ _ => rfl

theorem keyed_linkedType {schema : Schema} {key : String} {type : TypeDef}
    (h : ∀ fields ∈ type.fields?, fields.KeyedBy Field.name) :
    ∀ fields ∈ (linkedType schema key type).fields?, fields.KeyedBy Field.name := by
  rcases type with ⟨name, description, moduleName, body⟩
  rw [linkedType_eq]
  cases body with
  | object | interface | inputObject =>
    rintro _ ⟨⟩
    exact keyed_stampFields (h _ rfl) name
  | union | enum | scalar => nofun

theorem keyed_linked {schema : Schema} (hkeyed : schema.Keyed) : (linked schema).Keyed := by
  refine ⟨keyedBy_linked hkeyed.types, ?_⟩
  intro type htype
  obtain ⟨key, before, hbefore, rfl⟩ := mem_typeList_linked.1 htype
  exact keyed_linkedType (hkeyed.fields before (OrderedMap.mem_values_iff.2 ⟨key, hbefore⟩))

end Linking

/-! ## Compiling -/

namespace Pipeline

variable {hydrators : List Hydration.Hydrator} {plugins : List Plugin} {schema compiled : Schema}

/-- The compiled types are the linked ones of the schema with its imports resolved. -/
theorem types_of_compile (h : { standard hydrators with plugins }.compile schema = .ok compiled) :
    ∃ imported, Imports.run schema = .ok imported ∧
      compiled.types = (Linking.linked imported).types := by
  obtain ⟨imported, himports, -, rfl⟩ := chain_standard_iff.1 (chain_of_runPhases h)
  rw [Hydration.run_eq]
  exact ⟨imported, himports, rfl⟩

theorem keyed_of_compile (h : { standard hydrators with plugins }.compile schema = .ok compiled)
    (hkeyed : schema.Keyed) : compiled.Keyed := by
  obtain ⟨imported, himports, htypes⟩ := types_of_compile h
  have hlinked := Linking.keyed_linked (Imports.keyed_of_run himports hkeyed)
  constructor
  · rw [htypes]
    exact hlinked.types
  · unfold Schema.typeList
    rw [htypes]
    exact hlinked.fields

end Pipeline

end GraphSchema
