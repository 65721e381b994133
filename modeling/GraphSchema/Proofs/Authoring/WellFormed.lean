import GraphSchema.Authoring.Check
import GraphSchema.Proofs.Name
import GraphSchema.Results

/-!
# Well-formed modules

What it takes for a module to be accepted: its names are identifiers, no two types share one, unions
and enums are not empty, and no enum repeats a key.
-/

namespace GraphSchema

open Name (IsIdentifier)

/-! ## Well-formed declarations -/

structure FieldImport.WellFormed (request : FieldImport) : Prop where
  source : IsIdentifier request.source
  moduleName : ∀ name ∈ request.moduleName, IsIdentifier name

structure CompositeDecl.WellFormed (decl : CompositeDecl) : Prop where
  interfaces : ∀ name ∈ decl.interfaces, IsIdentifier name
  imports : ∀ request ∈ decl.imports, request.WellFormed
  fields : ∀ name ∈ decl.fields.keys, IsIdentifier name
  arguments : ∀ field ∈ decl.fields.values, ∀ name ∈ field.arguments.keys, IsIdentifier name

structure UnionDecl.WellFormed (decl : UnionDecl) : Prop where
  inhabited : decl.members ≠ []
  members : ∀ name ∈ decl.members, IsIdentifier name

structure EnumDecl.WellFormed (decl : EnumDecl) : Prop where
  inhabited : decl.values ≠ []
  keys : ∀ value ∈ decl.values, IsIdentifier value.key
  once : (decl.values.map (·.key)).Nodup

structure InputDecl.WellFormed (decl : InputDecl) : Prop where
  imports : ∀ request ∈ decl.imports, request.WellFormed
  fields : ∀ name ∈ decl.fields.keys, IsIdentifier name

structure SchemaModule.WellFormed (m : SchemaModule) : Prop where
  name : IsIdentifier m.name
  roots : ∀ root ∈ m.roots.declared, IsIdentifier root.2
  identifiers : ∀ declared ∈ m.declarations, IsIdentifier declared.2
  once : (m.declarations.map Prod.snd).Nodup
  objects : ∀ decl ∈ m.objects.values, decl.WellFormed
  interfaces : ∀ decl ∈ m.interfaces.values, decl.WellFormed
  unions : ∀ decl ∈ m.unions.values, decl.WellFormed
  enums : ∀ decl ∈ m.enums.values, decl.WellFormed
  inputs : ∀ decl ∈ m.inputs.values, decl.WellFormed

/-- The types of the fields are built from identifiers, as all types are that were read. -/
def InputDecl.TypesNamed (decl : InputDecl) : Prop :=
  ∀ field ∈ decl.fields.values, IsIdentifier field.type.baseName

def SchemaModule.InputTypesNamed (m : SchemaModule) : Prop :=
  ∀ decl ∈ m.inputs.values, decl.TypesNamed

/-! ## Checks -/

/-- What holds of every key and every value, said of the entries. -/
theorem OrderedMap.forall_entries_iff {κ α : Type} {m : OrderedMap κ α} {P : κ → Prop}
    {Q : α → Prop} :
    (∀ entry ∈ m.entries, P entry.1 ∧ Q entry.2) ↔
      (∀ key ∈ m.keys, P key) ∧ ∀ value ∈ m.values, Q value := by
  unfold keys values
  rw [List.forall_mem_map, List.forall_mem_map]
  exact forall₂_and

namespace Authoring

open Context

variable {context : Context}

theorem checkName_eq_ok_iff {name kind : String} :
    context.checkName name kind = .ok () ↔ IsIdentifier name := by
  rw [← Name.isValid_iff_isIdentifier, Name.isValid, Context.checkName]
  cases Name.flaw? name <;> simp

theorem checkDistinct_eq_ok_iff {fault : String → ModuleFault} {seen : List String}
    {names : List (String × String)} :
    checkDistinct context fault seen names = .ok () ↔
      (∀ name ∈ names, IsIdentifier name.2) ∧ (names.map Prod.snd).Nodup ∧
        ∀ name ∈ names, name.2 ∉ seen := by
  induction names generalizing seen with
  | nil => simp [checkDistinct]
  | cons first rest ih =>
    obtain ⟨kind, name⟩ := first
    unfold checkDistinct
    rw [bind_unit_eq_ok_iff, checkName_eq_ok_iff, List.forall_mem_cons, List.forall_mem_cons]
    by_cases hseen : name ∈ seen
    · rw [if_pos hseen]
      refine iff_of_false (fun h => ?_) (fun h => h.2.2.1 hseen)
      cases h.2
    · rw [if_neg hseen]
      change _ ∧ checkDistinct context fault (name :: seen) rest = _ ↔ _
      rw [ih, List.map_cons, List.nodup_cons, List.mem_map]
      simp only [List.mem_cons, not_or]
      grind

theorem checkImports_eq_ok_iff {imports : List FieldImport} :
    checkImports context imports = .ok () ↔ ∀ request ∈ imports, request.WellFormed := by
  unfold checkImports
  rw [forM_eq_ok_iff]
  refine forall₂_congr fun request _ => ?_
  rw [bind_unit_eq_ok_iff, checkName_eq_ok_iff]
  cases hmodule : request.moduleName with
  | none => exact ⟨fun h => ⟨h.1, by simp [hmodule]⟩, fun h => ⟨h.source, rfl⟩⟩
  | some name =>
    dsimp only
    rw [checkName_eq_ok_iff]
    exact ⟨fun h => ⟨h.1, by simpa [hmodule] using h.2⟩,
      fun h => ⟨h.source, h.moduleName name hmodule⟩⟩

theorem checkComposite_eq_ok_iff {decl : CompositeDecl} :
    checkComposite context decl = .ok () ↔ decl.WellFormed := by
  unfold checkComposite
  simp only [bind_unit_eq_ok_iff, forM_eq_ok_iff, checkName_eq_ok_iff, checkImports_eq_ok_iff,
    OrderedMap.forall_entries_iff (Q := fun field : FieldDecl =>
      ∀ name ∈ field.arguments.keys, IsIdentifier name)]
  exact ⟨fun ⟨hinterfaces, himports, hfields, harguments⟩ =>
      ⟨hinterfaces, himports, hfields, harguments⟩,
    fun h => ⟨h.interfaces, h.imports, h.fields, h.arguments⟩⟩

theorem checkUnion_eq_ok_iff {name : String} {decl : UnionDecl} :
    checkUnion context name decl = .ok () ↔ decl.WellFormed := by
  unfold checkUnion
  cases hmembers : decl.members with
  | nil =>
    refine iff_of_false (fun h => ?_) fun h => h.inhabited hmembers
    cases h
  | cons first rest =>
    rw [List.isEmpty_cons, if_neg Bool.false_ne_true, ← hmembers]
    dsimp only
    simp only [forM_eq_ok_iff, checkName_eq_ok_iff]
    exact ⟨fun h => ⟨hmembers ▸ List.cons_ne_nil _ _, h⟩, fun h => h.members⟩

theorem checkEnum_eq_ok_iff {name : String} {decl : EnumDecl} :
    checkEnum context name decl = .ok () ↔ decl.WellFormed := by
  unfold checkEnum
  cases hvalues : decl.values with
  | nil =>
    refine iff_of_false (fun h => ?_) fun h => h.inhabited hvalues
    cases h
  | cons first rest =>
    rw [List.isEmpty_cons, if_neg Bool.false_ne_true, ← hvalues]
    dsimp only
    rw [checkDistinct_eq_ok_iff, List.forall_mem_map, List.map_map]
    exact ⟨fun h => ⟨hvalues ▸ List.cons_ne_nil _ _, h.1, h.2.1⟩,
      fun h => ⟨h.keys, h.once, fun _ _ => List.not_mem_nil⟩⟩

theorem checkInput_eq_ok_iff {decl : InputDecl} :
    checkInput context decl = .ok () ↔ decl.WellFormed ∧ decl.TypesNamed := by
  unfold checkInput
  simp only [bind_unit_eq_ok_iff, forM_eq_ok_iff, checkName_eq_ok_iff, checkImports_eq_ok_iff,
    OrderedMap.forall_entries_iff (Q := fun field : InputValueDecl =>
      IsIdentifier field.type.baseName)]
  exact ⟨fun ⟨himports, hfields, htypes⟩ => ⟨⟨himports, hfields⟩, htypes⟩,
    fun ⟨h, htypes⟩ => ⟨h.imports, h.fields, htypes⟩⟩

theorem checkModule_eq_ok_iff {m : SchemaModule} :
    checkModule context m = .ok () ↔ m.WellFormed ∧ m.InputTypesNamed := by
  unfold checkModule
  simp only [bind_unit_eq_ok_iff, forM_eq_ok_iff, checkName_eq_ok_iff, checkDistinct_eq_ok_iff,
    checkComposite_eq_ok_iff, checkUnion_eq_ok_iff, checkEnum_eq_ok_iff, checkInput_eq_ok_iff,
    List.forall_mem_map, List.map_map]
  constructor
  · rintro ⟨hname, hroots, ⟨hidentifiers, honce, -⟩, hobjects, hinterfaces, hunions, henums,
      hinputs⟩
    have hwell : m.WellFormed := {
      name := hname, roots := hroots, identifiers := hidentifiers, once := honce
      objects := List.forall_mem_map.2 hobjects, interfaces := List.forall_mem_map.2 hinterfaces
      unions := List.forall_mem_map.2 hunions, enums := List.forall_mem_map.2 henums
      inputs := List.forall_mem_map.2 fun entry hentry => (hinputs entry hentry).1 }
    exact ⟨hwell, List.forall_mem_map.2 fun entry hentry => (hinputs entry hentry).2⟩
  · rintro ⟨h, htypes⟩
    exact ⟨h.name, h.roots, ⟨h.identifiers, h.once, fun _ _ => List.not_mem_nil⟩,
      List.forall_mem_map.1 h.objects, List.forall_mem_map.1 h.interfaces,
      List.forall_mem_map.1 h.unions, List.forall_mem_map.1 h.enums,
      fun entry hentry => ⟨List.forall_mem_map.1 h.inputs entry hentry,
        List.forall_mem_map.1 htypes entry hentry⟩⟩

theorem accepts_iff_of_inputTypesNamed {m : SchemaModule} (h : m.InputTypesNamed) :
    checkModule context m = .ok () ↔ m.WellFormed := by
  rw [checkModule_eq_ok_iff]
  exact and_iff_left h

end Authoring

end GraphSchema
