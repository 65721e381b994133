import GraphSchema.Proofs.Imports.Origins
import GraphSchema.Proofs.Pipeline.Outcome
import GraphSchema.Schema.Builders

/-!
# References of compiled schemas

A compiled schema refers to registered types only, but for one place: linking does not look at the
arguments of input fields. So every reference resolves exactly if the arguments that were given to
the fields of input objects have registered types.
-/

namespace GraphSchema

/-! ## References -/

/-- The types that a field refers to: its own, and those of its arguments. -/
def Field.references (field : Field) : List String :=
  field.type.baseName :: field.arguments.values.map (·.type.baseName)

/-- The types that a body refers to. -/
def TypeBody.references : TypeBody → List String
  | .object interfaces fields _ => interfaces ++ fields.values.flatMap Field.references
  | .interface interfaces fields _ implementors =>
    interfaces ++ implementors ++ fields.values.flatMap Field.references
  | .union members => members
  | .enum _ => []
  | .inputObject fields _ => fields.values.flatMap Field.references
  | .scalar _ => []

/-- Every type that a schema refers to, from its roots and from its types. -/
def Schema.references (schema : Schema) : List String :=
  schema.roots.declared.map (·.2) ++ schema.typeList.flatMap (·.body.references)

namespace Linking

/-! ## What the checks cover -/

theorem contains_of_refError {schema : Schema} {name : String} {place : Place}
    {accepts : TypeKind → Bool} {otherwise : TypeKind → CompileError}
    (h : refError schema name place accepts otherwise = []) : schema.contains name := by
  obtain ⟨type, hfound, -⟩ := find?_of_refError h
  exact Option.isSome_iff_exists.2 ⟨type, hfound⟩

theorem contains_of_typeRefErrors {schema : Schema} {type : TypeRef} {place : Place}
    (h : typeRefErrors schema type place = []) : schema.contains type.baseName := by
  simpa [typeRefErrors] using h

theorem contains_of_fieldErrors {schema : Schema} {owner : String} {field : Field}
    (h : fieldErrors schema owner field = []) :
    ∀ name ∈ field.references, schema.contains name := by
  rw [fieldErrors, List.append_eq_nil_iff, List.flatMap_eq_nil_iff] at h
  intro name hname
  rcases List.mem_cons.1 hname with rfl | hname
  · exact contains_of_typeRefErrors h.1
  · obtain ⟨argument, hargument, rfl⟩ := List.mem_map.1 hname
    exact contains_of_typeRefErrors (h.2 argument hargument)

theorem contains_of_flatMap_fieldErrors {schema : Schema} {owner : String} {fields : List Field}
    (h : fields.flatMap (fieldErrors schema owner) = []) :
    ∀ name ∈ fields.flatMap Field.references, schema.contains name := by
  rw [List.flatMap_eq_nil_iff] at h
  intro name hname
  obtain ⟨field, hfield, hname⟩ := List.mem_flatMap.1 hname
  exact contains_of_fieldErrors (h field hfield) name hname

theorem contains_of_interfaceErrors {schema : Schema} {owner : String} {interfaces : List String}
    (h : interfaces.flatMap (interfaceErrors schema owner) = []) :
    ∀ name ∈ interfaces, schema.contains name := by
  rw [List.flatMap_eq_nil_iff] at h
  exact fun name hname => contains_of_refError (h name hname)

theorem contains_of_rootErrors {schema : Schema} (h : rootErrors schema = []) :
    ∀ name ∈ schema.roots.declared.map (·.2), schema.contains name := by
  rw [rootErrors, List.append_eq_nil_iff, List.flatMap_eq_nil_iff] at h
  intro name hname
  obtain ⟨root, hroot, rfl⟩ := List.mem_map.1 hname
  exact contains_of_refError (h.2 root hroot)

/-- The checks of a body find every reference, but for implementors, which linking writes itself,
and the arguments of input fields. -/
theorem contains_of_bodyErrors {schema : Schema} {owner : String} {body : TypeBody}
    (h : bodyErrors schema owner body = [])
    (himplementors : ∀ interfaces fields imports implementors,
      body = .interface interfaces fields imports implementors →
        ∀ name ∈ implementors, schema.contains name)
    (harguments : body.kind = .inputObject → ∀ fields ∈ body.fields?, ∀ field ∈ fields.values,
      ∀ argument ∈ field.arguments.values, schema.contains argument.type.baseName) :
    ∀ name ∈ body.references, schema.contains name := by
  intro name hname
  cases body with
  | object interfaces fields imports =>
    rw [bodyErrors, List.append_eq_nil_iff] at h
    rcases List.mem_append.1 hname with hname | hname
    · exact contains_of_interfaceErrors h.1 name hname
    · exact contains_of_flatMap_fieldErrors h.2 name hname
  | interface interfaces fields imports implementors =>
    rw [bodyErrors, List.append_eq_nil_iff] at h
    rw [TypeBody.references, List.mem_append, List.mem_append] at hname
    rcases hname with (hname | hname) | hname
    · exact contains_of_interfaceErrors h.1 name hname
    · exact himplementors interfaces fields imports implementors rfl name hname
    · exact contains_of_flatMap_fieldErrors h.2 name hname
  | union members =>
    rw [bodyErrors, List.flatMap_eq_nil_iff] at h
    exact contains_of_refError (h name hname)
  | enum values => cases hname
  | inputObject fields imports =>
    rw [bodyErrors, List.flatMap_eq_nil_iff] at h
    obtain ⟨field, hfield, hname⟩ := List.mem_flatMap.1 hname
    rcases List.mem_cons.1 hname with rfl | hname
    · exact contains_of_typeRefErrors (h field hfield)
    · obtain ⟨argument, hargument, rfl⟩ := List.mem_map.1 hname
      exact harguments rfl fields rfl field hfield argument hargument
  | scalar builtin => cases hname

/-- The checks of a type that is no input object cover its fields whole. -/
theorem contains_of_mem_fieldList {schema : Schema} (h : errors schema = []) {type : TypeDef}
    (htype : type ∈ schema.typeList) (hkind : type.kind ≠ .inputObject) {field : Field}
    (hfield : field ∈ type.fieldList) : ∀ name ∈ field.references, schema.contains name := by
  rw [errors, List.append_eq_nil_iff, List.flatMap_eq_nil_iff] at h
  have hbody := h.2 type htype
  unfold TypeDef.fieldList TypeDef.fields? at hfield
  unfold TypeDef.kind at hkind
  cases hcase : type.body with
  | object interfaces fields imports =>
    rw [hcase, bodyErrors, List.append_eq_nil_iff, List.flatMap_eq_nil_iff,
      List.flatMap_eq_nil_iff] at hbody
    rw [hcase] at hfield
    exact contains_of_fieldErrors (hbody.2 field hfield)
  | interface interfaces fields imports implementors =>
    rw [hcase, bodyErrors, List.append_eq_nil_iff, List.flatMap_eq_nil_iff,
      List.flatMap_eq_nil_iff] at hbody
    rw [hcase] at hfield
    exact contains_of_fieldErrors (hbody.2 field hfield)
  | inputObject fields imports =>
    rw [hcase] at hkind
    exact absurd rfl hkind
  | union | enum | scalar =>
    rw [hcase] at hfield
    cases hfield

end Linking

/-! ## Arguments of input fields -/

/-- The arguments that the fields of input objects have are of registered types. -/
def Schema.InputArgumentsResolve (schema : Schema) : Prop :=
  ∀ type ∈ schema.typeList, type.kind = .inputObject → ∀ field ∈ type.fieldList,
    ∀ argument ∈ field.arguments.values, schema.contains argument.type.baseName

namespace Linking

theorem inputArgumentsResolve_linked {schema : Schema} :
    (linked schema).InputArgumentsResolve ↔ schema.InputArgumentsResolve := by
  simp only [Schema.InputArgumentsResolve, contains_linked]
  constructor
  · intro h type htype hkind field hfield
    obtain ⟨key, hfound⟩ := OrderedMap.mem_values_iff.1 htype
    refine h (linkedType schema key type) (mem_typeList_linked.2 ⟨key, type, hfound, rfl⟩) ?_
      { field with parent := type.name } ?_
    · rw [kind_linkedType, hkind]
    · rw [fieldList_linkedType]
      exact List.mem_map_of_mem hfield
  · intro h type htype hkind field hfield
    obtain ⟨key, before, hfound, rfl⟩ := mem_typeList_linked.1 htype
    rw [fieldList_linkedType] at hfield
    obtain ⟨own, hown, rfl⟩ := List.mem_map.1 hfield
    rw [kind_linkedType] at hkind
    exact h before (OrderedMap.mem_values_iff.2 ⟨key, hfound⟩) hkind own hown

/-- In a linked schema without errors, only arguments of input fields can lead nowhere. -/
theorem references_linked_iff {schema : Schema} (hkeyed : schema.types.KeyedBy TypeDef.name)
    (h : errors (linked schema) = []) :
    (∀ name ∈ (linked schema).references, (linked schema).contains name) ↔
      (linked schema).InputArgumentsResolve := by
  constructor
  · intro hall type htype hkind field hfield argument hargument
    apply hall
    apply List.mem_append_right
    refine List.mem_flatMap.2 ⟨type, htype, ?_⟩
    cases hcase : type.body with
    | inputObject fields imports =>
      have hfields : field ∈ fields.values := by
        simpa [TypeDef.fieldList, TypeDef.fields?, hcase, TypeBody.fields?] using hfield
      exact List.mem_flatMap.2
        ⟨field, hfields, List.mem_cons_of_mem _ (List.mem_map_of_mem hargument)⟩
    | _ => simp [TypeDef.kind, hcase, TypeBody.kind] at hkind
  · intro harguments name hname
    rw [errors, List.append_eq_nil_iff, List.flatMap_eq_nil_iff] at h
    rcases List.mem_append.1 hname with hname | hname
    · exact contains_of_rootErrors h.1 name hname
    · obtain ⟨type, htype, hname⟩ := List.mem_flatMap.1 hname
      refine contains_of_bodyErrors (h.2 type htype) ?_ ?_ name hname
      · intro interfaces fields imports implementors hbody other hother
        obtain ⟨key, before, -, rfl⟩ := mem_typeList_linked.1 htype
        rw [linkedType_eq] at hbody
        cases hcase : before.body with
        | interface =>
          simp only [hcase, linkedBody, TypeBody.interface.injEq] at hbody
          rw [contains_linked]
          exact contains_of_mem_implementorsFor hkeyed (hbody.2.2.2 ▸ hother)
        | _ => simp [hcase, linkedBody] at hbody
      · intro hkind fields hfields field hfield argument hargument
        refine harguments type htype hkind field ?_ argument hargument
        unfold TypeDef.fieldList TypeDef.fields?
        rw [Option.mem_def.1 hfields]
        exact hfield

end Linking

namespace Imports

/-- Fields that an input object borrows from another kind of type have been checked there. -/
theorem inputArgumentsResolve_of_run {schema result : Schema} (h : run schema = .ok result)
    (hlinks : Linking.errors result = []) :
    result.InputArgumentsResolve ↔ schema.InputArgumentsResolve := by
  simp only [Schema.InputArgumentsResolve, contains_of_run h]
  constructor
  · intro hall type htype hkind field hfield
    obtain ⟨key, hfound⟩ := OrderedMap.mem_values_iff.1 htype
    obtain ⟨after, hafter, -, hsame, hsub⟩ := find?_of_run h hfound
    exact hall after (OrderedMap.mem_values_iff.2 ⟨key, hafter⟩) (hsame.trans hkind) field
      (hsub hfield)
  · intro hall type htype _ field hfield argument hargument
    obtain ⟨key, hfound⟩ := OrderedMap.mem_values_iff.1 htype
    obtain ⟨owner, howner, own, hown, heq⟩ := declared_of_run h hfound hfield
    rw [heq] at hargument
    by_cases hkind : owner.kind = .inputObject
    · exact hall owner howner hkind own hown argument hargument
    · obtain ⟨key, hkey⟩ := OrderedMap.mem_values_iff.1 howner
      obtain ⟨after, hafter, -, hsame, hsub⟩ := find?_of_run h hkey
      rw [← contains_of_run h]
      exact Linking.contains_of_mem_fieldList hlinks (OrderedMap.mem_values_iff.2 ⟨key, hafter⟩)
        (hsame ▸ hkind) (hsub hown) _ (List.mem_cons_of_mem _ (List.mem_map_of_mem hargument))

end Imports

/-! ## Compiled schemas -/

namespace Pipeline

/-- Every type that a compiled schema refers to is registered exactly if the schema that was
compiled gave the fields of its input objects no argument of an unknown type. -/
theorem references_registered_iff {hydrators : List Hydration.Hydrator} {plugins : List Plugin}
    {schema compiled : Schema} (hkeyed : schema.types.KeyedBy TypeDef.name)
    (h : { standard hydrators with plugins }.compile schema = .ok compiled) :
    (∀ name ∈ compiled.references, compiled.contains name) ↔ schema.InputArgumentsResolve := by
  obtain ⟨imported, himports, haccepted, rfl⟩ := chain_standard_iff.1 (chain_of_runPhases h)
  have hlinks : Linking.errors imported = [] := by
    rw [← Linking.errors_linked]
    exact haccepted.links
  rw [Hydration.run_eq]
  calc (∀ name ∈ (Linking.linked imported).references,
        (Linking.linked imported).contains name)
      ↔ (Linking.linked imported).InputArgumentsResolve :=
        Linking.references_linked_iff (Imports.keyedBy_of_run himports hkeyed) haccepted.links
    _ ↔ imported.InputArgumentsResolve := Linking.inputArgumentsResolve_linked
    _ ↔ schema.InputArgumentsResolve := Imports.inputArgumentsResolve_of_run himports hlinks

/-- The input object `Filter` takes its field, with an argument of the given type, from `Query` or
has it from the start. -/
def filtering (argument : String) (borrowed : Bool) : Schema :=
  let field : Field := { name := "matching", type := .named "String",
                         arguments := .ofList [("by", { name := "by", type := .named argument })] }
  let (own, imports) := if borrowed then ([], [{ source := "Query" }]) else ([field], [])
  Schema.build { query := some "Query" } [
    { name := "Query", body := .object [] (.ofFields "Query"
      [if borrowed then field else { name := "any", type := .named "String" }]) [] },
    { name := "Filter", body := .inputObject (.ofFields "Filter" own) imports }]

theorem references_registered_filtering : ∃ compiled,
    (filtering "String" true).types.KeyedBy TypeDef.name ∧
      { standard [⟨fun _ _ => [.complexity 1]⟩] with plugins := [] }.compile
        (filtering "String" true) = .ok compiled ∧
      (filtering "String" true).InputArgumentsResolve ∧
      ∀ name ∈ compiled.references, compiled.contains name := by
  have hok : ({ standard [⟨fun _ _ => [.complexity 1]⟩] with plugins := [] }.compile
      (filtering "String" true)).isOk := by cbv
  obtain ⟨compiled, hcompile⟩ := isOk_iff.1 hok
  have hkeyed : (filtering "String" true).types.KeyedBy TypeDef.name := by decide
  have hresolve : (filtering "String" true).InputArgumentsResolve := by
    unfold Schema.InputArgumentsResolve
    decide
  exact ⟨compiled, hkeyed, hcompile, hresolve,
    (references_registered_iff hkeyed hcompile).2 hresolve⟩

/-- An argument of an input field may name a type that does not exist. -/
theorem compiled_reference_unregistered : ∃ compiled,
    (standard []).compile (filtering "Missing" false) = .ok compiled ∧
      "Missing" ∈ compiled.references ∧ compiled.contains "Missing" = false := by
  have hfacts : ((standard []).compile (filtering "Missing" false)).toOption.map
      (fun compiled => (decide ("Missing" ∈ compiled.references), compiled.contains "Missing")) =
        some (true, false) := by cbv
  obtain ⟨compiled, hcompile, hfacts⟩ := toOption_map_eq_some_iff.1 hfacts
  rw [Prod.mk.injEq, decide_eq_true_eq] at hfacts
  exact ⟨compiled, hcompile, hfacts⟩

end Pipeline

end GraphSchema
