import GraphSchema.Proofs.Lowering
import GraphSchema.Proofs.Pipeline.Types
import GraphSchema.Proofs.Sdl.Document
import GraphSchema.Schema.Builders

/-!
# Repeated names

No phase drops a repeated name from the interfaces of a type or the members of a union, and none
adds one. An object that declares an interface twice is its implementor twice.
-/

namespace GraphSchema

namespace TypeBody

def members : TypeBody → List String
  | union members => members
  | _ => []

def implementors : TypeBody → List String
  | interface _ _ _ implementors => implementors
  | _ => []

/-- What a type declares holds no name twice. -/
def DeclaresOnce (body : TypeBody) : Prop := body.interfaces.Nodup ∧ body.members.Nodup

end TypeBody

def Schema.DeclaresOnce (schema : Schema) : Prop :=
  ∀ type ∈ schema.typeList, type.body.DeclaresOnce

/-- No list of type names in the schema holds a name twice. -/
def Schema.ListsOnce (schema : Schema) : Prop :=
  ∀ type ∈ schema.typeList, type.body.interfaces.Nodup ∧ type.body.members.Nodup ∧
    type.body.implementors.Nodup

theorem TypeDef.declaresOnce_implement {type result : TypeDef} {interface : String}
    (h : type.implement interface = .ok result) (hdeclares : type.body.DeclaresOnce) :
    result.body.DeclaresOnce := by
  have hadd : ∀ interfaces : List String, interfaces.Nodup →
      (TypeBody.addInterface?.add interface interfaces).Nodup := by
    intro interfaces hnodup
    unfold TypeBody.addInterface?.add
    split
    · exact hnodup
    · rename_i hnew
      rw [← List.concat_eq_append]
      exact hnodup.concat hnew
  rcases type with ⟨name, description, moduleName, body⟩
  cases body with
  | object interfaces | interface interfaces =>
    obtain rfl := Except.ok.inj h
    exact ⟨hadd interfaces hdeclares.1, List.nodup_nil⟩
  | union | enum | inputObject | scalar => cases h

/-- Adding an interface again changes nothing, so it adds no repetition. -/
theorem Schema.declaresOnce_addInterface {schema result : Schema} {type interface : String}
    (h : schema.addInterface type interface = .ok result) (hdeclares : schema.DeclaresOnce) :
    result.DeclaresOnce := by
  obtain ⟨found, changed, hfound, hchanged, rfl⟩ := changeType_eq_ok_iff.1 h
  have hmem : found ∈ schema.typeList := OrderedMap.mem_values_iff.2 ⟨_, hfound⟩
  intro other hother
  rcases OrderedMap.mem_values_insert hother with rfl | hother
  · exact TypeDef.declaresOnce_implement hchanged (hdeclares found hmem)
  · exact hdeclares other hother

/-! ## Modules -/

/-- The names of types that a module lists are distinct where they stand side by side. -/
def SchemaModule.DeclaresOnce (m : SchemaModule) : Prop :=
  (∀ decl ∈ m.objects.values ++ m.interfaces.values, (decl.interfaces.map Name.typeName).Nodup) ∧
    ∀ decl ∈ m.unions.values, (decl.members.map Name.typeName).Nodup

namespace Lowering

theorem declaresOnce_typesOf {m : SchemaModule} :
    (∀ type ∈ typesOf m, type.body.DeclaresOnce) ↔ m.DeclaresOnce := by
  simp only [typesOf, typeOf, objectBody, interfaceBody, enumBody, inputBody, List.forall_mem_append,
    List.forall_mem_map, TypeBody.DeclaresOnce, TypeBody.interfaces, TypeBody.members,
    List.nodup_nil, and_true, true_and, implies_true, SchemaModule.DeclaresOnce,
    OrderedMap.values]

theorem declaresOnce_of_run {modules : List SchemaModule} {schema : Schema}
    (h : run modules = .ok schema) : schema.DeclaresOnce ↔ ∀ m ∈ modules, m.DeclaresOnce := by
  have hbuiltin : ∀ name ∈ builtinScalars, (TypeDef.builtinScalar name).body.DeclaresOnce :=
    fun _ _ => ⟨List.nodup_nil, List.nodup_nil⟩
  unfold Schema.DeclaresOnce
  rw [typeList_of_keeps (keeps_of_run h), List.forall_mem_append, List.forall_mem_map,
    List.forall_mem_flatMap]
  constructor
  · rintro ⟨-, hmodules⟩ m hm
    exact declaresOnce_typesOf.1 (hmodules m hm)
  · intro hmodules
    exact ⟨hbuiltin, fun m hm => declaresOnce_typesOf.2 (hmodules m hm)⟩

end Lowering

/-! ## Imports -/

namespace Imports

theorem declaresOnce_settle {name : String} {borrowed : List Field} {type : TypeDef} :
    (settle name borrowed type).body.DeclaresOnce ↔ type.body.DeclaresOnce := by
  have hsame := congrArg TypeDef.body (outline_settle name borrowed type)
  have houtline : ∀ type : TypeDef,
      (outline type).body.DeclaresOnce ↔ type.body.DeclaresOnce := by
    rintro ⟨_, _, _, body⟩
    cases body <;> rfl
  rw [← houtline, hsame, houtline]

theorem declaresOnce_of_run {schema result : Schema} (hkeyed : schema.types.KeyedBy TypeDef.name)
    (h : run schema = .ok result) : result.DeclaresOnce ↔ schema.DeclaresOnce := by
  constructor
  · intro hresult before hbefore
    obtain ⟨name, hfound⟩ := OrderedMap.mem_values_iff.1 hbefore
    have hafter := (mem_typeList_run hkeyed h).2 ⟨name, before, hfound, rfl⟩
    exact declaresOnce_settle.1 (hresult _ hafter)
  · intro hschema after hafter
    obtain ⟨name, before, hfound, rfl⟩ := (mem_typeList_run hkeyed h).1 hafter
    exact declaresOnce_settle.2 (hschema before (OrderedMap.mem_values_iff.2 ⟨name, hfound⟩))

end Imports

/-! ## Linking -/

namespace Linking

theorem declaresOnce_linkedType {schema : Schema} {key : String} {type : TypeDef} :
    (linkedType schema key type).body.DeclaresOnce ↔ type.body.DeclaresOnce := by
  rw [linkedType_eq]
  cases h : type.body <;> rfl

theorem declaresOnce_linked {schema : Schema} :
    (linked schema).DeclaresOnce ↔ schema.DeclaresOnce := by
  constructor
  · intro hlinked type htype
    obtain ⟨key, hfound⟩ := OrderedMap.mem_values_iff.1 htype
    have hafter := mem_typeList_linked.2 ⟨key, type, hfound, rfl⟩
    exact declaresOnce_linkedType.1 (hlinked _ hafter)
  · intro hschema type htype
    obtain ⟨key, before, hfound, rfl⟩ := mem_typeList_linked.1 htype
    exact declaresOnce_linkedType.2 (hschema before (OrderedMap.mem_values_iff.2 ⟨key, hfound⟩))

/-- The name of an object, as often as it declares the interface. -/
def declared (interface : String) (type : TypeDef) : List String :=
  match type.body with
  | .object interfaces _ _ => (interfaces.filter (· == interface)).map fun _ => type.name
  | _ => []

theorem eq_name_of_mem_declared {interface name : String} {type : TypeDef}
    (h : name ∈ declared interface type) : name = type.name := by
  unfold declared at h
  split at h
  · obtain ⟨_, -, rfl⟩ := List.mem_map.1 h
    rfl
  · cases h

theorem nodup_declared {interface : String} {type : TypeDef} (h : type.body.DeclaresOnce) :
    (declared interface type).Nodup := by
  unfold declared
  split
  · rename_i interfaces fields imports hbody
    have hinterfaces : interfaces.Nodup := by
      have hdeclared := h.1
      rwa [hbody] at hdeclared
    rw [List.filter_beq, List.map_replicate, List.nodup_replicate]
    exact List.nodup_iff_count_le_one.1 hinterfaces interface
  · exact List.nodup_nil

theorem nodup_implementors {schema : Schema} (hkeyed : schema.types.KeyedBy TypeDef.name)
    (hdeclares : schema.DeclaresOnce) (interface : String) :
    (implementors schema interface).Nodup := by
  have hnames : (schema.typeList.map (·.name)).Nodup := by
    unfold Schema.typeList
    rw [← hkeyed.keys_eq]
    exact schema.types.nodup
  change (schema.typeList.flatMap (declared interface)).Nodup
  -- Names of different types differ, so only one type can repeat a name.
  rw [List.nodup_flatMap]
  refine ⟨fun type htype => nodup_declared (hdeclares type htype), ?_⟩
  apply (List.pairwise_map.1 hnames).imp
  intro first second hne name hfirst hsecond
  apply hne
  rw [← eq_name_of_mem_declared hfirst, ← eq_name_of_mem_declared hsecond]

theorem nodup_implementors_linkedType {schema : Schema}
    (hkeyed : schema.types.KeyedBy TypeDef.name) (hdeclares : schema.DeclaresOnce) (key : String)
    (type : TypeDef) : (linkedType schema key type).body.implementors.Nodup := by
  rw [linkedType_eq]
  cases type.body with
  | interface =>
    change (implementorsFor schema key type.name).Nodup
    unfold implementorsFor
    split
    · exact nodup_implementors hkeyed hdeclares type.name
    · exact List.nodup_nil
  | object | union | enum | inputObject | scalar => exact List.nodup_nil

theorem listsOnce_linked_iff {schema : Schema} (hkeyed : schema.types.KeyedBy TypeDef.name) :
    (linked schema).ListsOnce ↔ schema.DeclaresOnce := by
  rw [← declaresOnce_linked]
  constructor
  · intro hlists type htype
    obtain ⟨hinterfaces, hmembers, -⟩ := hlists type htype
    exact ⟨hinterfaces, hmembers⟩
  · intro hdeclares type htype
    obtain ⟨hinterfaces, hmembers⟩ := hdeclares type htype
    refine ⟨hinterfaces, hmembers, ?_⟩
    obtain ⟨key, before, -, rfl⟩ := mem_typeList_linked.1 htype
    exact nodup_implementors_linkedType hkeyed (declaresOnce_linked.1 hdeclares) key before

end Linking

/-! ## Printing -/

namespace Sdl

theorem members_printedType (schema : Schema) (naming : Naming) (type : TypeDef) :
    (printedType schema naming type).body.members = type.body.members := by
  rcases type with ⟨name, description, moduleName, body⟩
  cases body <;> rfl

/-- Built-in scalars do not print, and they list no names. -/
theorem document_listsOnce_iff {schema : Schema} {naming : Naming} :
    (∀ type ∈ (document schema naming).types,
      type.body.interfaces.Nodup ∧ type.body.members.Nodup) ↔ schema.DeclaresOnce := by
  unfold document
  rw [List.forall_mem_map]
  constructor
  · intro hprinted type htype
    by_cases hbuiltin : type.isBuiltin
    · rcases type with ⟨name, description, moduleName, body⟩
      cases body with
      | scalar => exact ⟨List.nodup_nil, List.nodup_nil⟩
      | object | interface | union | enum | inputObject => cases hbuiltin
    · have hdeclares := hprinted type (List.mem_filter.2 ⟨htype, by simpa using hbuiltin⟩)
      rw [interfaces_printedType, members_printedType] at hdeclares
      exact hdeclares
  · intro hdeclares type htype
    rw [interfaces_printedType, members_printedType]
    exact hdeclares type (List.mem_of_mem_filter htype)

end Sdl

/-! ## Compiled schemas -/

namespace Pipeline

open Sdl (document)

/-- A compiled schema repeats no name in a list exactly if none is repeated in what its types
declare; and so does its printed text. -/
theorem compiled_lists_once_iff {hydrators : List Hydration.Hydrator} {plugins : List Plugin}
    {schema compiled : Schema} (hkeyed : schema.types.KeyedBy TypeDef.name)
    (h : { standard hydrators with plugins }.compile schema = .ok compiled) :
    (compiled.ListsOnce ↔ schema.DeclaresOnce) ∧
    (∀ naming, (∀ type ∈ (document compiled naming).types,
      type.body.interfaces.Nodup ∧ type.body.members.Nodup) ↔ schema.DeclaresOnce) ∧
    ∀ modules, Lowering.run modules = .ok schema →
      (schema.DeclaresOnce ↔ ∀ m ∈ modules, m.DeclaresOnce) := by
  obtain ⟨imported, himports, htypes⟩ := types_of_compile h
  have hrun := Imports.declaresOnce_of_run hkeyed himports
  have hlists : compiled.ListsOnce ↔ (Linking.linked imported).ListsOnce := by
    unfold Schema.ListsOnce Schema.typeList
    rw [htypes]
  have hdeclares : compiled.DeclaresOnce ↔ (Linking.linked imported).DeclaresOnce := by
    unfold Schema.DeclaresOnce Schema.typeList
    rw [htypes]
  refine ⟨?_, ?_, ?_⟩
  · rw [hlists, Linking.listsOnce_linked_iff (Imports.keyedBy_of_run himports hkeyed), hrun]
  · intro naming
    rw [Sdl.document_listsOnce_iff, hdeclares, Linking.declaresOnce_linked, hrun]
  · intro modules
    exact Lowering.declaresOnce_of_run

/-- `Query` declares interfaces, and stands alone in a union. -/
def roster (interfaces : List String) : Schema :=
  let field : Field := { name := "name", type := .named "String" }
  Schema.build { query := some "Query" } [
    { name := "Named", body := .interface [] (.ofFields "Named" [field]) [] [] },
    { name := "Query", body := .object interfaces (.ofFields "Query" [field]) [] },
    { name := "Anyone", body := .union ["Query"] }]

theorem compiled_lists_once_roster : (roster ["Named"]).types.KeyedBy TypeDef.name ∧
    ∃ compiled, { standard [] with plugins := [] }.compile (roster ["Named"]) = .ok compiled ∧
      compiled.ListsOnce ∧ ∀ naming, ∀ type ∈ (document compiled naming).types,
        type.body.interfaces.Nodup ∧ type.body.members.Nodup := by
  have hkeyed : (roster ["Named"]).types.KeyedBy TypeDef.name := by decide
  have hdeclares : (roster ["Named"]).DeclaresOnce := by
    unfold Schema.DeclaresOnce TypeBody.DeclaresOnce
    decide
  have hok : ({ standard [] with plugins := [] }.compile (roster ["Named"])).isOk := by cbv
  obtain ⟨compiled, hcompile⟩ := isOk_iff.1 hok
  obtain ⟨hlists, hprinted, -⟩ := compiled_lists_once_iff hkeyed hcompile
  exact ⟨hkeyed, compiled, hcompile, hlists.2 hdeclares,
    fun naming => (hprinted naming).2 hdeclares⟩

/-- A repeated interface stays, and its implementor is repeated with it. -/
theorem compiled_repeats_interface : ∃ compiled,
    { standard [] with plugins := [] }.compile (roster ["Named", "Named"]) = .ok compiled ∧
      compiled.authored.map (fun type =>
        (type.name, type.body.interfaces, type.body.implementors)) =
          [("Named", [], ["Query", "Query"]), ("Query", ["Named", "Named"], []),
            ("Anyone", [], [])] ∧
      ¬ compiled.ListsOnce := by
  have hlists : ({ standard [] with plugins := [] }.compile
      (roster ["Named", "Named"])).toOption.map (fun compiled : Schema =>
        compiled.authored.map fun type : TypeDef =>
          (type.name, type.body.interfaces, type.body.implementors)) =
        some [("Named", [], ["Query", "Query"]), ("Query", ["Named", "Named"], []),
          ("Anyone", [], [])] := by cbv
  obtain ⟨compiled, hcompile, hlists⟩ := toOption_map_eq_some_iff.1 hlists
  refine ⟨compiled, hcompile, hlists, ?_⟩
  intro honce
  have hquery : ("Query", ["Named", "Named"], []) ∈ compiled.authored.map fun type : TypeDef =>
      (type.name, type.body.interfaces, type.body.implementors) := by
    rw [hlists]
    decide
  obtain ⟨query, hquery, heq⟩ := List.mem_map.1 hquery
  obtain ⟨hinterfaces, -⟩ := honce query (List.mem_of_mem_filter hquery)
  simp only [Prod.mk.injEq] at heq
  rw [heq.2.1] at hinterfaces
  revert hinterfaces
  decide

end Pipeline

end GraphSchema
