import GraphSchema.Command.Report
import GraphSchema.Proofs.Lowering.Declarations
import GraphSchema.Proofs.Pipeline.Types
import GraphSchema.Proofs.Sdl.Blocks
import GraphSchema.Proofs.Sdl.Printing

/-!
# Types in reports

From the declarations of modules to the printed text no type is lost, none is added, and none changes
its name or its kind. So all reports tell the same number of types.
-/

namespace GraphSchema

/-! ## Headings -/

/-- What a count sees of a type. -/
def TypeDef.heading (type : TypeDef) : TypeKind × String × Bool :=
  (type.kind, type.name, type.isBuiltin)

def Schema.headings (schema : Schema) : List (TypeKind × String × Bool) :=
  schema.typeList.map TypeDef.heading

theorem headings_of_import {schema result : Schema} (hkeyed : schema.types.KeyedBy TypeDef.name)
    (h : Imports.run schema = .ok result) : result.headings = schema.headings := by
  refine OrderedMap.map_values_eq (Imports.run_frame h).2.2 fun name type hfound => ?_
  refine ⟨_, (Imports.find?_run hkeyed h hfound).1, ?_⟩
  have hsame : ∀ type : TypeDef, (Imports.outline type).heading = type.heading := by
    rintro ⟨_, _, _, body⟩
    cases body <;> rfl
  rw [← hsame, Imports.resolved, Imports.outline_settle, hsame]

theorem headings_linked (schema : Schema) : (Linking.linked schema).headings = schema.headings := by
  have hsame : ∀ key type, (Linking.linkedType schema key type).heading = type.heading := by
    rintro key ⟨_, _, _, body⟩
    rw [Linking.linkedType_eq]
    cases body <;> rfl
  unfold Schema.headings Schema.typeList OrderedMap.values
  rw [Linking.entries_linked, List.map_map, List.map_map, List.map_map]
  exact List.map_congr_left fun entry _ => hsame entry.1 entry.2

theorem headings_authored (schema : Schema) :
    schema.authored.map TypeDef.heading = schema.headings.filter fun heading => !heading.2.2 := by
  unfold Schema.authored Schema.headings
  rw [List.filter_map]
  rfl

/-! ## Counts by kind -/

namespace Command

/-- Every type has one of the kinds. -/
theorem total_of (schema : Schema) : (TypeCounts.of schema).total = schema.authored.length := by
  unfold TypeCounts.of TypeCounts.total countKind
  dsimp only
  generalize schema.authored = types
  induction types with
  | nil => rfl
  | cons type rest ih =>
    simp only [List.countP_cons, List.length_cons, ← ih]
    cases type.kind <;> simp <;> omega

/-- With one path each, no module is left out of the report. -/
theorem sum_typeCount {modules : List SchemaModule} {paths : List String}
    (h : paths.length = modules.length) :
    ((modules.zip paths).map fun (m, _) => m.declarations.length).sum =
      (Lowering.declarations modules).length := by
  have hfirst : (modules.zip paths).map Prod.fst = modules := List.map_fst_zip h.ge
  rw [Lowering.declarations, List.length_flatMap]
  simp only [List.length_map]
  conv_rhs => rw [← hfirst, List.map_map]
  rfl

/-! ## Compiled modules -/

theorem headings_flatMap_typesOf (modules : List SchemaModule) :
    (modules.flatMap Lowering.typesOf).map TypeDef.heading =
      (Lowering.declarations modules).map fun d => (d.kind.typeKind, d.typeName, false) := by
  have hauthored : ∀ type ∈ modules.flatMap Lowering.typesOf, type.isBuiltin = false := by
    rw [List.forall_mem_flatMap]
    exact fun m _ => Lowering.isBuiltin_typesOf m
  calc (modules.flatMap Lowering.typesOf).map TypeDef.heading
    _ = ((modules.flatMap Lowering.typesOf).map Lowering.outline).map
          fun outline => (outline.1, outline.2.1, false) := by
      rw [List.map_map]
      refine List.map_congr_left fun type htype => ?_
      simp only [Function.comp_apply, TypeDef.heading, Lowering.outline, hauthored type htype]
    _ = _ := by
      rw [Lowering.outline_flatMap_typesOf, List.map_map]
      rfl

/-- What the modules declare is what the compiled schema has, in the same order. -/
theorem headings_of_compile {modules : List SchemaModule} {schema : Schema}
    (h : compile modules .standard = .ok schema) :
    schema.authored.map TypeDef.heading =
      (Lowering.declarations modules).map fun d => (d.kind.typeKind, d.typeName, false) := by
  obtain ⟨lowered, hlower, hphases⟩ := bind_eq_ok_iff.1 h
  rw [mapError_eq_ok_iff] at hlower hphases
  obtain ⟨imported, himports, htypes⟩ := @Pipeline.types_of_compile [] [] lowered schema hphases
  have hheadings : schema.headings = lowered.headings := by
    rw [← headings_of_import (Lowering.keyed_of_run hlower).types himports,
      ← headings_linked imported]
    unfold Schema.headings Schema.typeList
    rw [htypes]
  rw [headings_authored, hheadings, ← headings_authored, Lowering.authored_of_run hlower,
    headings_flatMap_typesOf]

/-- A compiled schema prints a block for each declaration, in the same order. -/
theorem blocks_of_compile {modules : List SchemaModule} {schema : Schema}
    (h : compile modules .standard = .ok schema) (naming : Sdl.Naming) :
    ∃ blocks, Sdl.lines schema naming =
        .ok (Sdl.separated (Sdl.rootsBlock schema.roots ++ blocks)) ∧
      List.Forall₂ (fun d block => Sdl.Defines d.kind.typeKind d.typeName block)
        (Lowering.declarations modules) blocks := by
  obtain ⟨lowered, -, hphases⟩ := bind_eq_ok_iff.1 h
  rw [mapError_eq_ok_iff] at hphases
  have haccepted := @Pipeline.accepted_of_compile [] [] lowered schema hphases
  obtain ⟨text, hprint⟩ :=
    isOk_iff.1 (Sdl.isOk_print haccepted.links haccepted.defaults { naming })
  obtain ⟨lines, hlines, -⟩ := bind_eq_ok_iff.1 hprint
  obtain ⟨blocks, hblocks, hpure⟩ := bind_eq_ok_iff.1 hlines
  refine ⟨blocks, hlines.trans hpure.symm, ?_⟩
  obtain ⟨hlength, hprinted⟩ := mapM_eq_ok_iff.1 hblocks
  have hdefines : List.Forall₂ (fun heading block => Sdl.Defines heading.1 heading.2.1 block)
      (schema.authored.map TypeDef.heading) blocks :=
    List.forall₂_map_left_iff.2 (List.forall₂_iff_zip.2
      ⟨hlength, fun hpair => Sdl.defines_of_typeLines (hprinted _ hpair)⟩)
  rwa [headings_of_compile h, List.forall₂_map_left_iff] at hdefines

/-- Modules that can be explained can be checked, with the same roots. Their declarations, the kinds
of the compiled types, the check and the printed blocks count the same, for one block is printed for
each declaration, in order. Where no text that prints as it is breaks a line, such as the name of an
enum value, the blocks can be counted in the printed text. -/
theorem reports_agree {modules : List SchemaModule} {paths : List String} {report : ExplainReport}
    (hpaths : paths.length = modules.length) (h : explain modules paths = .ok report) :
    ∃ checked schema, check modules paths = .ok checked ∧
      compile modules .standard = .ok schema ∧ checked.roots = report.roots ∧
      (report.modules.map (·.typeCount)).sum = checked.typeCount ∧
      report.types.total = checked.typeCount ∧
      ∀ style, ∃ blocks text, Sdl.print schema style = .ok text ∧
        text = Sdl.blocksText style.indent (Sdl.rootsBlock schema.roots ++ blocks) ∧
        List.Forall₂ (fun d block => Sdl.Defines d.kind.typeKind d.typeName block)
          (Lowering.declarations modules) blocks ∧
        blocks.length = checked.typeCount ∧
        ((∀ lines, Sdl.lines schema style.naming = .ok lines → ∀ line ∈ lines, line.isWhole) →
          Sdl.countTypes text = checked.typeCount) := by
  obtain ⟨schema, hcompile, hreport⟩ := bind_eq_ok_iff.1 h
  obtain rfl := Except.ok.inj hreport
  have hcount : schema.authored.length = (Lowering.declarations modules).length := by
    simpa using congrArg List.length (headings_of_compile hcompile)
  have hcheck : check modules paths =
      .ok ⟨paths, schema.roots.declared, schema.authored.length⟩ := by
    rw [check, hcompile]
    rfl
  refine ⟨_, schema, hcheck, hcompile, rfl, ?_, total_of schema, fun style => ?_⟩
  · rw [List.map_map, hcount]
    exact sum_typeCount hpaths
  · obtain ⟨blocks, hlines, hdefines⟩ := blocks_of_compile hcompile style.naming
    have hlength : blocks.length = schema.authored.length := hcount ▸ hdefines.length_eq.symm
    refine ⟨blocks, _, ?_, rfl, hdefines, hlength, fun hwhole => ?_⟩
    · rw [Sdl.print, hlines, ← Sdl.renderLines_separated]
      rfl
    · rw [hcount]
      exact Sdl.countTypes_blocksText _ _ hdefines (hwhole _ hlines)

def storefront : SchemaModule where
  name := "storefront"
  objects := .ofList
    [("query", { fields := .ofList [("items", { type := .list (.named "line_item") })] }),
      ("line_item", {
        description := some "type of what\nis sold"
        fields := .ofList [("state", { type := .named "state" })] })]

def states : SchemaModule where
  name := "states"
  enums := .ofList [("state", {
    values := [{ key := "open", description := some "enum value" }, { key := "sold" }] })]

theorem reports_agree_storefront :
    ∃ report checked schema text,
      explain [storefront, states] ["storefront.toml", "states.toml"] = .ok report ∧
      check [storefront, states] ["storefront.toml", "states.toml"] = .ok checked ∧
      compile [storefront, states] .standard = .ok schema ∧
      report.types.total = 3 ∧ checked.typeCount = 3 ∧
      Sdl.print schema {} = .ok text ∧ Sdl.countTypes text = 3 := by
  have hcounts : (explain [storefront, states] ["storefront.toml", "states.toml"]).toOption.map
      (fun report => (report.modules.map (·.typeCount)).sum) = some 3 := by cbv
  obtain ⟨report, hexplain, hsum⟩ := toOption_map_eq_some_iff.1 hcounts
  obtain ⟨checked, schema, hcheck, hcompile, -, hmodules, htotal, hprints⟩ :=
    reports_agree rfl hexplain
  obtain ⟨blocks, text, hprint, -, -, -, htext⟩ := hprints {}
  have hlines : (compile [storefront, states] .standard).toOption.map (fun schema =>
      ((Sdl.lines schema .camel).toOption.getD []).all Sdl.Line.isWhole) = some true := rfl
  have hwhole : ∀ lines, Sdl.lines schema .camel = .ok lines → ∀ line ∈ lines, line.isWhole := by
    intro lines heq
    rw [hcompile] at hlines
    have hall : ((Sdl.lines schema .camel).toOption.getD []).all Sdl.Line.isWhole :=
      Option.some.inj hlines
    rw [heq] at hall
    exact List.all_eq_true.1 hall
  have hchecked : checked.typeCount = 3 := hmodules.symm.trans hsum
  exact ⟨report, checked, schema, text, hexplain, hcheck, hcompile, htotal.trans hchecked, hchecked,
    hprint, (htext hwhole).trans hchecked⟩

end Command

end GraphSchema
