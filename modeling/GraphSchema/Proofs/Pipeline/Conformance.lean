import GraphSchema.Proofs.Pipeline.PrintedNames
import GraphSchema.Proofs.Pipeline.Types

/-!
# Conforming types

The check compares fields as they print in camel case. Printed like that, a type has all fields of
the interfaces that it implements. Printed as authored, it may spell some of them in its own way.
-/

namespace GraphSchema

/-! ## The check -/

theorem TypeDef.keys_eq_names {type : TypeDef} {fields : FieldMap} (h : type.fields? = some fields)
    (hkeyed : fields.KeyedBy Field.name) : fields.keys = type.fieldList.map (·.name) := by
  unfold fieldList
  rw [h, hkeyed.keys_eq]

namespace Conformance

theorem defines_iff {type : TypeDef} {field : String}
    (hkeyed : ∀ fields ∈ type.fields?, fields.KeyedBy Field.name) :
    defines type field ↔ ∃ own ∈ type.fieldList, Name.camel own.name = Name.camel field := by
  cases hfields : type.fields? with
  | none => simp [defines, TypeDef.findField?, TypeDef.fieldList, hfields]
  | some fields =>
    have hkeys := TypeDef.keys_eq_names hfields (hkeyed fields hfields)
    unfold defines TypeDef.findField?
    rw [hfields, Option.bind_some, Bool.or_eq_true, List.any_eq_true]
    constructor
    · rintro (hsame | ⟨name, hname, hprint⟩)
      · have hmem : field ∈ fields.keys := OrderedMap.contains_iff.1 hsame
        rw [hkeys] at hmem
        obtain ⟨own, hown, rfl⟩ := List.mem_map.1 hmem
        exact ⟨own, hown, rfl⟩
      · rw [hkeys] at hname
        obtain ⟨own, hown, rfl⟩ := List.mem_map.1 hname
        exact ⟨own, hown, beq_iff_eq.1 hprint⟩
    · rintro ⟨own, hown, hprint⟩
      have hmem : own.name ∈ fields.keys := by
        rw [hkeys]
        exact List.mem_map_of_mem hown
      exact .inr ⟨own.name, hmem, beq_iff_eq.2 hprint⟩

theorem defines_of_errors {schema : Schema} (h : errors schema = []) {type : TypeDef}
    (htype : type ∈ schema.typeList) {name : String} (hname : name ∈ type.interfaces)
    {interface : TypeDef} (hfound : schema.find? name = some interface)
    (hkind : interface.kind = .interface) {fields : FieldMap}
    (hfields : interface.fields? = some fields) :
    ∀ field ∈ fields.keys, defines type field := by
  rw [errors, List.flatMap_eq_nil_iff] at h
  have hnone := List.flatMap_eq_nil_iff.1 (h type htype) name hname
  rcases interface with ⟨own, description, moduleName, body⟩
  cases body with
  | interface interfaces fields imports implementors =>
    cases hfields
    rw [interfaceErrors, hfound, List.map_eq_nil_iff, List.filter_eq_nil_iff] at hnone
    intro field hfield
    simpa using hnone field hfield
  | object | union | enum | inputObject | scalar => cases hkind

theorem exists_of_errors {schema : Schema} (hkeyed : schema.Keyed) (h : errors schema = [])
    {type : TypeDef} (htype : type ∈ schema.typeList) {name : String}
    (hname : name ∈ type.interfaces) {interface : TypeDef}
    (hfound : schema.find? name = some interface) (hkind : interface.kind = .interface) :
    ∀ field ∈ interface.fieldList,
      ∃ own ∈ type.fieldList, Name.camel own.name = Name.camel field.name := by
  intro field hfield
  have hinterface : interface ∈ schema.typeList := OrderedMap.mem_values_iff.2 ⟨name, hfound⟩
  obtain ⟨fields, hfields⟩ : ∃ fields, interface.fields? = some fields := by
    rw [← Option.isSome_iff_exists]
    exact TypeBody.fields?_isSome_iff.2 (.inr (.inl hkind))
  have hkeys := TypeDef.keys_eq_names hfields (hkeyed.fields interface hinterface fields hfields)
  have hmem : field.name ∈ fields.keys := by
    rw [hkeys]
    exact List.mem_map_of_mem hfield
  have hdefines := defines_of_errors h htype hname hfound hkind hfields field.name hmem
  exact (defines_iff (hkeyed.fields type htype)).1 hdefines

end Conformance

/-! ## Printed types -/

namespace Sdl

/-- The names of the fields of a type. -/
def PrintedType.fields (type : PrintedType) : List String := type.body.fieldNames.map Prod.fst

variable {schema : Schema} {naming : Naming}

theorem fields_printedType (type : TypeDef) :
    (printedType schema naming type).fields = type.fieldList.map fun f => naming.field f.name := by
  obtain ⟨arguments, -, hnames⟩ := fieldNames_printedType schema naming type
  unfold PrintedType.fields
  rw [hnames, List.map_map]
  rfl

end Sdl

/-! ## Compiled schemas -/

namespace Pipeline

open Sdl (document)

theorem mem_authored_of_kind {schema : Schema} {type : TypeDef} (htype : type ∈ schema.typeList)
    (hkind : type.kind = .interface) : type ∈ schema.authored := by
  refine List.mem_filter.2 ⟨htype, ?_⟩
  rcases type with ⟨name, description, moduleName, body⟩
  cases body with
  | interface => rfl
  | object | union | enum | inputObject | scalar => cases hkind

namespace Accepted

variable {schema : Schema}

theorem exists_own (h : Accepted schema) (hkeyed : schema.Keyed) {type interface : TypeDef}
    (htype : type ∈ schema.typeList) (hinterface : interface ∈ schema.typeList)
    (hname : interface.name ∈ type.interfaces) :
    ∀ field ∈ interface.fieldList,
      ∃ own ∈ type.fieldList, Name.camel own.name = Name.camel field.name := by
  obtain ⟨found, hfound, hkind⟩ := Linking.find?_interface h.links htype hname
  obtain ⟨key, hkey⟩ := OrderedMap.mem_values_iff.1 hinterface
  rw [← hkeyed.types.of_get? hkey] at hkey
  obtain rfl := Option.some.inj (hfound.symm.trans hkey)
  exact Conformance.exists_of_errors hkeyed h.conforms htype hname hfound hkind

theorem nodup_camel (h : Accepted schema) {type : TypeDef} (htype : type ∈ schema.authored) :
    ((type.fieldList.map (·.name)).map Name.camel).Nodup := by
  have hcollisions := ((Lint.lints_eq_nil_iff.1 h.lints).1 type htype).2
  rw [Lint.typeCollisions, List.append_eq_nil_iff] at hcollisions
  exact (Lint.nodup_of_collisions hcollisions.1).1

end Accepted

/-- Types that implement an interface print its fields: all of them in camel case, and as authored
all but those that they spell differently. -/
theorem compiled_conforms {hydrators : List Hydration.Hydrator} {plugins : List Plugin}
    {schema compiled : Schema} (hkeyed : schema.Keyed)
    (h : { standard hydrators with plugins }.compile schema = .ok compiled) :
    (∀ naming ∈ [Sdl.Naming.camel, Sdl.Naming.passthrough],
      ∀ type ∈ (document compiled naming).types, ∀ name ∈ type.body.interfaces,
        ∃ interface ∈ (document compiled naming).types, interface.name = name) ∧
    (∀ type ∈ (document compiled .camel).types, ∀ interface ∈ (document compiled .camel).types,
      interface.name ∈ type.body.interfaces →
        ∀ field ∈ interface.fields, field ∈ type.fields) ∧
    ∀ type ∈ (document compiled .passthrough).types,
      ∀ interface ∈ (document compiled .passthrough).types,
        interface.name ∈ type.body.interfaces → ∀ field ∈ interface.fields,
          ∃! own, own ∈ type.fields ∧ Name.camel own = Name.camel field := by
  have haccepted := accepted_of_compile h
  have hcompiled := keyed_of_compile h hkeyed
  simp only [document, List.forall_mem_map, Sdl.interfaces_printedType, Sdl.fields_printedType]
  refine ⟨?_, ?_, ?_⟩
  · intro naming _ type htype name hname
    obtain ⟨interface, hfound, hkind⟩ :=
      Linking.find?_interface haccepted.links (List.mem_of_mem_filter htype) hname
    have hmem : interface ∈ compiled.typeList := OrderedMap.mem_values_iff.2 ⟨name, hfound⟩
    exact ⟨_, List.mem_map_of_mem (mem_authored_of_kind hmem hkind),
      hcompiled.types.of_get? hfound⟩
  · intro type htype interface hinterface hname field hfield
    obtain ⟨own, hown, hprint⟩ := haccepted.exists_own hcompiled (List.mem_of_mem_filter htype)
      (List.mem_of_mem_filter hinterface) hname field hfield
    exact List.mem_map.2 ⟨own, hown, hprint⟩
  · intro type htype interface hinterface hname field hfield
    obtain ⟨own, hown, hprint⟩ := haccepted.exists_own hcompiled (List.mem_of_mem_filter htype)
      (List.mem_of_mem_filter hinterface) hname field hfield
    -- No two fields of the type print alike.
    have hinjective := List.inj_on_of_nodup_map (haccepted.nodup_camel htype)
    have hmem : own.name ∈ type.fieldList.map (·.name) := List.mem_map_of_mem hown
    refine ⟨own.name, ⟨hmem, hprint⟩, ?_⟩
    rintro other ⟨hother, hsame⟩
    exact hinjective hother hmem (hsame.trans hprint.symm)

/-- `Query` and `Profile` implement `Named`, and `Profile` spells its field differently. -/
def badges : Schema :=
  let field (name : String) : Field := { name, type := .named "String" }
  Schema.build { query := some "Query" } [
    { name := "Named", body := .interface [] (.ofFields "Named" [field "displayName"]) [] [] },
    { name := "Profile", body := .object ["Named"] (.ofFields "Profile" [field "display_name"]) [] },
    { name := "Query", body := .object ["Named"] .empty [{ source := "Named" }] }]

theorem compiled_conforms_badges : badges.Keyed ∧ ∃ compiled,
    { standard [] with plugins := [] }.compile badges = .ok compiled ∧
      (∀ type ∈ (document compiled .camel).types, ∀ interface ∈ (document compiled .camel).types,
        interface.name ∈ type.body.interfaces →
          ∀ field ∈ interface.fields, field ∈ type.fields) ∧
      (document compiled .camel).types.map
          (fun type => (type.name, type.body.interfaces, type.fields)) =
        [("Named", [], ["displayName"]), ("Profile", ["Named"], ["displayName"]),
          ("Query", ["Named"], ["displayName"])] := by
  have hkeyed : badges.Keyed := ⟨by decide, by decide⟩
  have hprinted : ({ standard [] with plugins := [] }.compile badges).toOption.map
      (fun compiled => (document compiled .camel).types.map fun type : Sdl.PrintedType =>
        (type.name, type.body.interfaces, type.fields)) =
      some [("Named", [], ["displayName"]), ("Profile", ["Named"], ["displayName"]),
        ("Query", ["Named"], ["displayName"])] := by cbv
  obtain ⟨compiled, hcompile, hprinted⟩ := toOption_map_eq_some_iff.1 hprinted
  exact ⟨hkeyed, compiled, hcompile, (compiled_conforms hkeyed hcompile).2.1, hprinted⟩

/-- As authored, `Profile` does not print the field of its interface. -/
theorem compiled_implements_respelled : badges.Keyed ∧ ∃ compiled,
    { standard [] with plugins := [] }.compile badges = .ok compiled ∧
      ¬ ∀ type ∈ (document compiled .passthrough).types,
        ∀ interface ∈ (document compiled .passthrough).types,
          interface.name ∈ type.body.interfaces →
            ∀ field ∈ interface.fields, field ∈ type.fields := by
  have hprinted : ({ standard [] with plugins := [] }.compile badges).toOption.map
      (fun compiled => (document compiled .passthrough).types.map fun type : Sdl.PrintedType =>
        (type.name, type.body.interfaces, type.fields)) =
      some [("Named", [], ["displayName"]), ("Profile", ["Named"], ["display_name"]),
        ("Query", ["Named"], ["displayName"])] := by cbv
  obtain ⟨compiled, hcompile, hprinted⟩ := toOption_map_eq_some_iff.1 hprinted
  refine ⟨⟨by decide, by decide⟩, compiled, hcompile, ?_⟩
  intro hconforms
  have hnamed : ("Named", [], ["displayName"]) ∈ (document compiled .passthrough).types.map
      fun type : Sdl.PrintedType => (type.name, type.body.interfaces, type.fields) := by
    rw [hprinted]
    decide
  have hprofile : ("Profile", ["Named"], ["display_name"]) ∈
      (document compiled .passthrough).types.map
        fun type : Sdl.PrintedType => (type.name, type.body.interfaces, type.fields) := by
    rw [hprinted]
    decide
  obtain ⟨named, hnamed, heq⟩ := List.mem_map.1 hnamed
  obtain ⟨profile, hprofile, heq'⟩ := List.mem_map.1 hprofile
  simp only [Prod.mk.injEq] at heq heq'
  have hfield := hconforms profile hprofile named hnamed (by rw [heq.1, heq'.2.1]; decide)
    "displayName" (by rw [heq.2.2]; decide)
  rw [heq'.2.2] at hfield
  revert hfield
  decide

end Pipeline

end GraphSchema
