import GraphSchema.Proofs.Lint
import GraphSchema.Proofs.Name
import GraphSchema.Proofs.Pipeline.Outcome
import GraphSchema.Proofs.Sdl.Document
import GraphSchema.Schema.Builders

/-!
# Printed names of compiled schemas

The lints look at authored names and at how they print in camel case. That is enough for the names
that print, in camel case or as authored: they are valid, not reserved, and distinct where they
stand side by side.
-/

namespace GraphSchema

/-! ## Reserved names -/

namespace Lint

theorem isReserved_iff {name : String} :
    isReserved name ↔ 2 ≤ (name.toList.takeWhile (· == '_')).length := by
  unfold isReserved
  rcases name.toList with _ | ⟨c, _ | ⟨d, rest⟩⟩
  · decide
  · by_cases hc : c = '_' <;> simp [hc]
  · by_cases hc : c = '_' <;> by_cases hd : d = '_' <;> simp [hc, hd]

/-- Camel case neither adds underscores at the start of a name nor drops them. -/
theorem isReserved_camel {name : String} (h : Name.isValid name) :
    isReserved (Name.camel name) = isReserved name := by
  rw [Bool.eq_iff_iff, isReserved_iff, isReserved_iff, Name.camel, String.toList_ofList,
    Name.takeWhile_camelChars (Name.isPart_of_isValid h)]

theorem Accepts.camel {name : String} (h : Accepts name) : Accepts (Name.camel name) :=
  ⟨Name.isValid_camel h.1, (isReserved_camel h.1).trans h.2⟩

end Lint

/-! ## Namings -/

namespace Sdl

/-- What the lints check in camel case holds of the names that print. -/
structure Naming.Checked (print : String → String) : Prop where
  accepts : ∀ name, Lint.Accepts name → Lint.Accepts (print name)
  nodup : ∀ names : List String, (names.map Name.camel).Nodup → (names.map print).Nodup

theorem Naming.checked_camel : Naming.Checked Name.camel :=
  ⟨fun _ => Lint.Accepts.camel, fun _ h => h⟩

theorem Naming.checked_id : Naming.Checked id :=
  ⟨fun _ h => h, fun names h => by simpa using h.of_map⟩

/-! ## Printed names -/

/-- The fields of a type by name, with the names of their arguments. -/
def PrintedBody.fieldNames : PrintedBody → List (String × List String)
  | object _ fields => fields.map fun field => (field.name, field.arguments.map (·.name))
  | interface _ fields => fields.map fun field => (field.name, field.arguments.map (·.name))
  | inputObject fields => fields.map fun field => (field.name, [])
  | _ => []

def PrintedBody.aliases : PrintedBody → List String
  | enum values => values.map (·.aliasName)
  | _ => []

/-- All names of a type are valid and not reserved, and those that stand side by side differ. -/
structure PrintedType.WellNamed (type : PrintedType) : Prop where
  name : Lint.Accepts type.name
  fields : (type.body.fieldNames.map Prod.fst).Nodup
  arguments : ∀ field ∈ type.body.fieldNames, field.2.Nodup
  aliases : type.body.aliases.Nodup
  accepted : ∀ field ∈ type.body.fieldNames,
    Lint.Accepts field.1 ∧ ∀ argument ∈ field.2, Lint.Accepts argument

section

variable {schema : Schema} {naming : Naming}

theorem aliases_printedType (type : TypeDef) :
    (printedType schema naming type).body.aliases = type.enumValues.map (·.aliasName) := by
  cases hbody : type.body <;> simp [printedType, printedBody, PrintedBody.aliases,
    TypeDef.enumValues, hbody, Function.comp_def, printedValue]

/-- The printed fields are those of the type, with all of their arguments or with none. -/
theorem fieldNames_printedType (schema : Schema) (naming : Naming) (type : TypeDef) :
    ∃ arguments : Field → List Argument,
      (∀ field, arguments field = field.arguments.values ∨ arguments field = []) ∧
      (printedType schema naming type).body.fieldNames = type.fieldList.map fun field =>
        (naming.field field.name, (arguments field).map fun a => naming.argument a.name) := by
  cases hbody : type.body with
  | object | interface =>
    refine ⟨fun field => field.arguments.values, fun _ => .inl rfl, ?_⟩
    simp [printedType, printedBody, hbody, PrintedBody.fieldNames, TypeDef.fieldList,
      TypeDef.fields?, TypeBody.fields?, printedField, printedArgument, Function.comp_def]
  | inputObject =>
    refine ⟨fun _ => [], fun _ => .inr rfl, ?_⟩
    simp [printedType, printedBody, hbody, PrintedBody.fieldNames, TypeDef.fieldList,
      TypeDef.fields?, TypeBody.fields?, printedInputField, Function.comp_def]
  | union | enum | scalar =>
    refine ⟨fun _ => [], fun _ => .inr rfl, ?_⟩
    simp [printedType, printedBody, hbody, PrintedBody.fieldNames, TypeDef.fieldList,
      TypeDef.fields?, TypeBody.fields?]

/-- The lints accept the name of a type and the names of its fields and their arguments. -/
theorem accepts_of_typeNodes {type : TypeDef}
    (h : ∀ node ∈ typeNodes type, Lint.nameErrors node = [] ∧ Lint.isReserved node.1 = false) :
    Lint.Accepts type.name ∧ ∀ field ∈ type.fieldList, Lint.Accepts field.name ∧
      ∀ argument ∈ field.arguments.values, Lint.Accepts argument.name := by
  have haccepts : ∀ name node, (∀ type key, node ≠ .enumValue type key) →
      (name, node) ∈ typeNodes type → Lint.Accepts name := fun name node hnode hmem =>
    ⟨Lint.isValid_of_nameErrors hnode (h _ hmem).1, (h _ hmem).2⟩
  have hfields : ∀ field ∈ type.fieldList, ∀ node ∈ fieldNodes type field,
      node ∈ typeNodes type := fun field hfield node hnode => by
    rw [typeNodes, List.cons_append]
    exact List.mem_cons_of_mem _
      (List.mem_append_left _ (List.mem_flatMap.2 ⟨field, hfield, hnode⟩))
  refine ⟨haccepts _ (.type type.name) nofun List.mem_cons_self, fun field hfield => ⟨?_, ?_⟩⟩
  · exact haccepts _ (.field type.name field.name) nofun
      (hfields field hfield _ List.mem_cons_self)
  · intro argument hargument
    exact haccepts _ (.argument type.name field.name argument.name) nofun
      (hfields field hfield _ (List.mem_cons_of_mem _ (List.mem_map.2 ⟨argument, hargument, rfl⟩)))

theorem wellNamed_printedType (hfield : Naming.Checked naming.field)
    (hargument : Naming.Checked naming.argument) {type : TypeDef}
    (hnodes : ∀ node ∈ typeNodes type,
      Lint.nameErrors node = [] ∧ Lint.isReserved node.1 = false)
    (hcollisions : Lint.typeCollisions .camel type = [])
    (haliases : Lint.repeatedAliases [] type.enumValues = []) :
    (printedType schema naming type).WellNamed := by
  obtain ⟨arguments, harguments, hnames⟩ := fieldNames_printedType schema naming type
  have hsub : ∀ field, ∀ argument ∈ arguments field, argument ∈ field.arguments.values := by
    intro field argument hmem
    rcases harguments field with heq | heq
    · exact heq ▸ hmem
    · simp [heq] at hmem
  obtain ⟨hname, haccepted⟩ := accepts_of_typeNodes hnodes
  rw [Lint.typeCollisions, List.append_eq_nil_iff, List.flatMap_eq_nil_iff] at hcollisions
  refine ⟨hname, ?_, ?_, ?_, ?_⟩
  · have hnodup := (Lint.nodup_of_collisions hcollisions.1).1
    simpa [hnames, Function.comp_def] using hfield.nodup _ hnodup
  · rw [hnames, List.forall_mem_map]
    intro field hmem
    rcases harguments field with heq | heq
    · have hnodup := (Lint.nodup_of_collisions (hcollisions.2 field hmem)).1
      simpa [heq, Function.comp_def] using hargument.nodup _ hnodup
    · simp [heq]
  · rw [aliases_printedType]
    exact (Lint.nodup_of_repeatedAliases haliases).1
  · rw [hnames, List.forall_mem_map]
    intro field hmem
    obtain ⟨hname, hall⟩ := haccepted field hmem
    refine ⟨hfield.accepts _ hname, ?_⟩
    rw [List.forall_mem_map]
    exact fun argument hmem => hargument.accepts _ (hall argument (hsub field argument hmem))

end

end Sdl

/-! ## Compiled schemas -/

namespace Pipeline

open Sdl (document)

/-- The types that a compiled schema prints are well named, in camel case and as authored. -/
theorem compiled_well_named {hydrators : List Hydration.Hydrator} {plugins : List Plugin}
    {schema compiled : Schema}
    (h : { standard hydrators with plugins }.compile schema = .ok compiled) :
    ∀ naming ∈ [Sdl.Naming.camel, Sdl.Naming.passthrough],
      ∀ type ∈ (document compiled naming).types, type.WellNamed := by
  obtain ⟨htypes, haliases⟩ := Lint.lints_eq_nil_iff.1 (accepted_of_compile h).lints
  have hnaming : ∀ naming ∈ [Sdl.Naming.camel, Sdl.Naming.passthrough],
      Sdl.Naming.Checked naming.field ∧ Sdl.Naming.Checked naming.argument := by
    rw [List.forall_mem_cons, List.forall_mem_singleton]
    exact ⟨⟨Sdl.Naming.checked_camel, Sdl.Naming.checked_camel⟩,
      ⟨Sdl.Naming.checked_id, Sdl.Naming.checked_id⟩⟩
  intro naming hmem
  obtain ⟨hfield, hargument⟩ := hnaming naming hmem
  rw [document, List.forall_mem_map]
  intro type htype
  obtain ⟨hnodes, hcollisions⟩ := htypes type htype
  exact Sdl.wellNamed_printedType hfield hargument hnodes hcollisions
    (haliases type (List.mem_of_mem_filter htype))

/-- `Query` takes all of its fields from the interface `Shelved`. -/
def lending : Schema :=
  let onShelf : Field :=
    { name := "on_shelf", type := .named "String"
      arguments := .ofList [
        ("book_genre", { name := "book_genre", type := .named "Genre" }),
        ("_limit", { name := "_limit", type := .named "Int" })] }
  let shelfMark : Field := { name := "_shelf_mark", type := .named "String" }
  Schema.build { query := some "Query" } [
    { name := "Genre", body := .enum (.ofList [
      ("poems", { key := "poems", aliasName := "POEMS" }),
      ("plays", { key := "plays", aliasName := "PLAYS" })]) },
    { name := "Shelved", body := .interface [] (.ofFields "Shelved" [onShelf, shelfMark]) [] [] },
    { name := "Query", body := .object [] .empty [{ source := "Shelved" }] }]

theorem compiled_well_named_lending : ∃ compiled,
    { standard [⟨fun _ _ => [.complexity 1]⟩] with plugins := [] }.compile lending = .ok compiled ∧
      (∀ naming ∈ [Sdl.Naming.camel, Sdl.Naming.passthrough],
        ∀ type ∈ (document compiled naming).types, type.WellNamed) ∧
      (document compiled .camel).types.map (fun type => (type.name, type.body.fieldNames)) =
        [("Genre", []), ("Shelved", [("onShelf", ["bookGenre", "_limit"]), ("_shelfMark", [])]),
          ("Query", [("onShelf", ["bookGenre", "_limit"]), ("_shelfMark", [])])] := by
  have hprinted : ({ standard [⟨fun _ _ => [.complexity 1]⟩] with plugins := [] }.compile
      lending).toOption.map (fun compiled => (document compiled .camel).types.map
        fun type : Sdl.PrintedType => (type.name, type.body.fieldNames)) =
      some [("Genre", []),
        ("Shelved", [("onShelf", ["bookGenre", "_limit"]), ("_shelfMark", [])]),
        ("Query", [("onShelf", ["bookGenre", "_limit"]), ("_shelfMark", [])])] := by cbv
  obtain ⟨compiled, hcompile, hprinted⟩ := toOption_map_eq_some_iff.1 hprinted
  exact ⟨compiled, hcompile, compiled_well_named hcompile, hprinted⟩

end Pipeline

end GraphSchema
