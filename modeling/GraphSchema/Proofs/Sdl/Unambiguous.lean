import GraphSchema.Proofs.Sdl.Types
import GraphSchema.Schema.Builders

/-!
# Printed schemas are unambiguous

Whole documents can be read back from their text, so two schemas with one text have one document.
-/

namespace GraphSchema.Sdl

open Text

/-! ## Documents -/

/-- The line of a root. -/
def rootLines (root : Operation × String) : List Line :=
  [.text 0 (root.1.text ++ ": " ++ root.2)]

theorem isValid_operation (operation : Operation) : Name.isValid operation.text := by
  cases operation <;> decide

theorem operation_text_injective : Function.Injective Operation.text := by
  rintro (_ | _) (_ | _) h <;> simp_all [Operation.text]

theorem readable_roots (step : List Char) :
    ReadableLines step (fun root => Name.isValid root.2) rootLines := by
  refine ⟨?_, ?_⟩
  · rintro pad _ ⟨operation, name⟩ ⟨operation', name'⟩ ha hb r s - - h
    simp only [rootLines, layout_text, layout_nil, String.toList_append, List.append_assoc,
      List.append_cancel_left_eq, List.cons_append, List.nil_append] at h
    obtain ⟨hoperation, h⟩ := readable_name (isValid_operation operation)
      (isValid_operation operation') (by simp; rfl) (by simp; rfl) h
    obtain ⟨hname, h⟩ := readable_name ha hb (by simp; rfl) (by simp; rfl)
      (List.append_cancel_left h)
    exact ⟨Prod.ext (operation_text_injective hoperation) hname, (List.cons.inj h).2⟩
  · intro pad root _
    exact ⟨_, by rw [rootLines, layout_text, List.append_assoc]⟩

theorem mem_declared_iff {roots : Roots} {operation : Operation} {name : String} :
    (operation, name) ∈ roots.declared ↔ roots.get? operation = some name := by
  rw [Roots.declared, List.mem_filterMap]
  constructor
  · rintro ⟨other, -, hother⟩
    obtain ⟨found, hfound, heq⟩ := Option.map_eq_some_iff.1 hother
    cases heq
    exact hfound
  · intro h
    refine ⟨operation, ?_, by rw [h, Option.map_some]⟩
    cases operation <;> simp [Operation.all]

theorem declared_injective : Function.Injective Roots.declared := by
  intro roots other h
  have hget : ∀ operation, roots.get? operation = other.get? operation := by
    intro operation
    rw [Option.ext_iff]
    intro name
    rw [← mem_declared_iff, ← mem_declared_iff, h]
  have hquery := hget .query
  have hmutation := hget .mutation
  have hsubscription := hget .subscription
  cases roots
  cases other
  simp_all [Roots.get?]

/-- The block of roots or a type. -/
abbrev Block := Roots ⊕ PrintedType

namespace Block

def lines : Block → List Line
  | .inl roots => rootsLines roots
  | .inr type => type.lines

def Valid : Block → Prop
  | .inl roots => ∀ root ∈ roots.declared, Name.isValid root.2
  | .inr type => type.Valid

theorem layout_roots (step : List Char) (roots : Roots) :
    layout step [] (rootsLines roots) = "schema".toList ++ ' ' :: '\x7b' :: '\n' ::
      (layout step ([] ++ step) (roots.declared.flatMap rootLines) ++ ['\x7d', '\n']) := by
  have hroots : rootsLines roots = block "schema \x7b" "\x7d" (roots.declared.flatMap rootLines) :=
    congrArg (block _ _) (List.flatMap_pure_eq_map _ roots.declared).symm
  rw [hroots, layout_block]
  simp

/-- Types start with a quote or with their keyword, and `schema` is none. -/
theorem layout_roots_ne_type {step : List Char} (roots : Roots) (type : PrintedType)
    (r s : List Char) :
    layout step [] (rootsLines roots) ++ r ≠ layout step [] type.lines ++ s := by
  intro h
  rw [layout_roots, PrintedType.lines] at h
  cases hdescription : type.description with
  | some content =>
    rw [hdescription, layout_above] at h
    simp [fence] at h
  | none =>
    rw [hdescription, Description.above, PrintedBody.layout_lines] at h
    simp only [List.append_assoc, List.nil_append, List.cons_append] at h
    have hkeyword := (readable_name (a := "schema") (by decide) type.body.isValid_keyword
      (by simp; rfl) (by simp; rfl) h).1
    cases hbody : type.body <;> simp [hbody, PrintedBody.keyword] at hkeyword

theorem readable {step : List Char} (hstep : Blank step) (hne : step ≠ []) :
    Readable Valid (fun block => layout step [] (lines block)) fun _ => True := by
  have hpad : Blank [] := by simp [Blank]
  rintro (roots | type) (roots' | type') ha hb r s - - h
  · simp only [lines, layout_roots, List.append_assoc, List.append_cancel_left_eq,
      List.cons_append, List.cons.injEq, true_and] at h
    obtain ⟨hroots, hrest⟩ := (readable_roots step).block hstep hne hpad ha hb
      ⟨_, rfl, by simp⟩ ⟨_, rfl, by simp⟩ h
    rw [declared_injective hroots]
    exact ⟨rfl, by simpa using hrest⟩
  · exact absurd h (layout_roots_ne_type roots type' r s)
  · exact absurd h.symm (layout_roots_ne_type roots' type s r)
  · obtain ⟨rfl, hrest⟩ := (readable_types hstep hne).read [] hpad ha hb trivial trivial h
    exact ⟨rfl, hrest⟩

theorem layout_ne_nil (step : List Char) (block : Block) : layout step [] (lines block) ≠ [] := by
  rcases block with roots | type
  · simp [lines, layout_roots]
  · cases hdescription : type.description with
    | none => simp [lines, PrintedType.lines, hdescription, Description.above,
        PrintedBody.layout_lines]
    | some content => simp [lines, PrintedType.lines, hdescription, layout_above, fence]

end Block

namespace Document

def blocks (document : Document) : List Block :=
  (if document.roots.isEmpty then [] else [.inl document.roots]) ++ document.types.map .inr

theorem lines_eq (document : Document) :
    document.lines = separated (document.blocks.map Block.lines) := by
  unfold lines blocks
  split <;> simp [Block.lines, Function.comp_def]

theorem blocks_injective : Function.Injective blocks := by
  intro document other h
  have hmap : Function.Injective (List.map (Sum.inr : PrintedType → Block)) :=
    List.map_injective_iff.2 Sum.inr_injective
  have hno : ∀ {types others : List PrintedType} {roots : Roots},
      types.map (Sum.inr : PrintedType → Block) ≠ .inl roots :: others.map .inr := by
    rintro (_ | _) others roots h <;> simp at h
  unfold blocks at h
  split_ifs at h with hroots hroots' hroots'
  · have hsame : document.roots.declared = other.roots.declared := by
      rw [List.isEmpty_iff.1 hroots, List.isEmpty_iff.1 hroots']
    exact Document.ext (declared_injective hsame) (hmap h)
  · exact absurd h hno
  · exact absurd h.symm hno
  · obtain ⟨hsame, htypes⟩ := List.cons.inj h
    exact Document.ext (Sum.inl_injective hsame) (hmap htypes)

/-- With a line feed in front of it, every block of the text has one. -/
theorem layout_blocks (step : List Char) (first : Block) (rest : List Block) :
    '\n' :: layout step [] (separated ((first :: rest).map Block.lines)) =
      (first :: rest).flatMap fun block => '\n' :: layout step [] block.lines := by
  induction rest generalizing first with
  | nil => simp [separated]
  | cons second rest ih =>
    have hsplit : separated ((first :: second :: rest).map Block.lines) =
        first.lines ++ .blank :: separated ((second :: rest).map Block.lines) := by
      simp [separated]
    rw [hsplit, layout_append, layout_blank, ih]
    rfl

theorem layout_blocks_ne_nil {step : List Char} {first : Block} {rest : List Block} :
    layout step [] (separated ((first :: rest).map Block.lines)) ≠ [] := by
  intro heq
  have hfirst := layout_blocks step first rest
  rw [heq, List.flatMap_cons, List.cons_append, List.cons.injEq] at hfirst
  exact Block.layout_ne_nil step first (List.append_eq_nil_iff.1 hfirst.2.symm).1

theorem readable_blocks {step : List Char} (hstep : Blank step) (hne : step ≠ []) :
    Readable (fun blocks : List Block => ∀ block ∈ blocks, block.Valid)
      (List.flatMap fun block => '\n' :: layout step [] block.lines) (· = []) := by
  have hblock : Readable Block.Valid (fun block => '\n' :: layout step [] block.lines)
      fun _ => True := by
    intro a b ha hb r s hr hs heq
    exact Block.readable hstep hne ha hb hr hs (List.cons.inj heq).2
  refine hblock.flatMap (fun _ _ _ => trivial) (fun _ _ => trivial) ?_
  rintro block _ s - rfl heq
  cases heq

structure Valid (document : Document) : Prop where
  roots : ∀ root ∈ document.roots.declared, Name.isValid root.2
  types : ∀ type ∈ document.types, type.Valid

theorem valid_of_mem_blocks {document : Document} (h : document.Valid) :
    ∀ block ∈ document.blocks, Block.Valid block := by
  intro block hblock
  rcases List.mem_append.1 hblock with hblock | hblock
  · split at hblock
    · cases hblock
    · rw [List.mem_singleton.1 hblock]
      exact h.roots
  · obtain ⟨type, htype, rfl⟩ := List.mem_map.1 hblock
    exact h.types type htype

/-- A document can be read back from its text. -/
theorem eq_of_layout {step : List Char} (hstep : Blank step) (hne : step ≠ [])
    {document other : Document} (hvalid : document.Valid) (hvalid' : other.Valid)
    (h : layout step [] document.lines = layout step [] other.lines) : document = other := by
  have hall := valid_of_mem_blocks hvalid
  have hall' := valid_of_mem_blocks hvalid'
  refine blocks_injective ?_
  rw [lines_eq, lines_eq] at h
  cases hleft : document.blocks with
  | nil =>
    cases hright : other.blocks with
    | nil => rfl
    | cons first rest =>
      rw [hleft, hright] at h
      exact absurd h.symm layout_blocks_ne_nil
  | cons first rest =>
    cases hright : other.blocks with
    | nil =>
      rw [hleft, hright] at h
      exact absurd h layout_blocks_ne_nil
    | cons first' rest' =>
      rw [hleft] at h hall
      rw [hright] at h hall'
      have heq := congrArg (List.cons '\n') h
      rw [layout_blocks, layout_blocks] at heq
      exact (readable_blocks hstep hne hall hall' rfl rfl (congrArg (· ++ []) heq)).1

end Document

/-! ## Documents of schemas -/

/-- Every field of a type that has printed has printed by itself. -/
theorem valid_of_withFields {α : Type} {Valid : α → Prop} {header : String} {fields : FieldMap}
    {print : Field → Except CompileError (List Line)} {printed : Field → α} {lines : List Line}
    (hvalid : ∀ field lines, (∀ name ∈ field.names, Name.isValid name) →
      print field = .ok lines → Valid (printed field))
    (hown : ∀ name ∈ FieldMap.names fields, Name.isValid name)
    (h : withFields header fields print = .ok lines) :
    ∀ field ∈ fields.values.map printed, Valid field := by
  rw [List.forall_mem_map]
  intro field hfield
  obtain ⟨all, hall, -⟩ := bind_eq_ok_iff.1 h
  obtain ⟨described, hdescribed⟩ := forall_ok_of_mapM hall field hfield
  obtain ⟨lines, hlines, -⟩ := bind_eq_ok_iff.1 hdescribed
  rw [FieldMap.names, List.forall_mem_append] at hown
  exact hvalid field lines (fun name hname =>
    hown.2 name (List.mem_flatMap.2 ⟨field, hfield, hname⟩)) hlines

section

variable {schema : Schema} {naming : Naming} (hnames : schema.NamesValid)
  (hnaming : naming.KeepsNames)
include hnames

theorem isValid_baseName_of_typeText {type : TypeRef} {place : Place} {text : String}
    (h : typeText schema type place = .ok text) : Name.isValid type.baseName := by
  unfold typeText at h
  split at h
  · rename_i hcontains
    exact hnames.registered hcontains
  · cases h

include hnaming

theorem delimited_printedDefault {type : TypeRef} {default : Option Value}
    (hown : ∀ name ∈ Value.enumNamesOf default, Name.isValid name) :
    ∀ text ∈ printedDefault schema naming type default, Delimited text.toList := by
  intro text htext
  obtain ⟨value, rfl, hliteral⟩ := Option.bind_eq_some_iff.1 htext
  cases hok : literal schema naming type value with
  | error error =>
    rw [hok] at hliteral
    cases hliteral
  | ok found =>
    rw [hok] at hliteral
    cases hliteral
    exact delimited_literal hnames hnaming hown hok

theorem valid_printedArgument {field : Field} {argument : Argument} {text : String}
    (hown : ∀ name ∈ argument.names, Name.isValid name)
    (h : argumentText schema naming field argument = .ok text) :
    (printedArgument schema naming argument).Valid := by
  unfold argumentText at h
  obtain ⟨type, htype, -⟩ := bind_eq_ok_iff.1 h
  rw [Argument.names, List.forall_mem_cons] at hown
  exact ⟨hnaming.argument _ hown.1, isValid_baseName_of_typeText hnames htype, valid_describe _,
    delimited_printedDefault hnames hnaming hown.2⟩

theorem valid_printedInputField {field : Field} {lines : List Line}
    (hown : ∀ name ∈ field.names, Name.isValid name)
    (h : inputFieldLines schema naming field = .ok lines) :
    (printedInputField schema naming field).Valid := by
  unfold inputFieldLines at h
  obtain ⟨type, htype, -⟩ := bind_eq_ok_iff.1 h
  rw [Field.names, List.cons_append, List.forall_mem_cons, List.forall_mem_append] at hown
  exact ⟨hnaming.field _ hown.1, isValid_baseName_of_typeText hnames htype, valid_describe _,
    delimited_printedDefault hnames hnaming hown.2.1⟩

theorem valid_printedField {field : Field} {lines : List Line}
    (hown : ∀ name ∈ field.names, Name.isValid name)
    (h : fieldLines schema naming field = .ok lines) :
    (printedField schema naming field).Valid := by
  unfold fieldLines at h
  obtain ⟨type, htype, h⟩ := bind_eq_ok_iff.1 h
  have harguments : ∀ argument ∈ field.arguments.values,
      ∃ text, argumentText schema naming field argument = .ok text := by
    dsimp only at h
    split at h
    · rename_i hempty
      simp [List.isEmpty_iff.1 hempty]
    · split at h
      · obtain ⟨all, hall, -⟩ := bind_eq_ok_iff.1 h
        intro argument hargument
        obtain ⟨lines, hlines⟩ := forall_ok_of_mapM hall argument hargument
        obtain ⟨text, htext, -⟩ := bind_eq_ok_iff.1 hlines
        exact ⟨text, htext⟩
      · obtain ⟨all, hall, -⟩ := bind_eq_ok_iff.1 h
        exact forall_ok_of_mapM hall
  rw [Field.names, List.cons_append, List.forall_mem_cons, List.forall_mem_append] at hown
  refine ⟨hnaming.field _ hown.1, isValid_baseName_of_typeText hnames htype, valid_describe _, ?_⟩
  rw [printedField, List.forall_mem_map]
  intro argument hargument
  obtain ⟨text, htext⟩ := harguments argument hargument
  exact valid_printedArgument hnames hnaming (fun name hname =>
    hown.2.2 name (List.mem_flatMap.2 ⟨argument, hargument, hname⟩)) htext

theorem valid_printedBody {name : String} {body : TypeBody} {lines : List Line}
    (hown : ∀ name ∈ body.names, Name.isValid name)
    (h : bodyLines schema naming name body = .ok lines) :
    (printedBody schema naming body).Valid := by
  cases body with
  | object =>
    rw [TypeBody.names, List.forall_mem_append] at hown
    exact ⟨hown.1, valid_of_withFields (fun _ _ => valid_printedField hnames hnaming) hown.2 h⟩
  | interface =>
    rw [TypeBody.names, List.forall_mem_append] at hown
    exact ⟨hown.1, valid_of_withFields (fun _ _ => valid_printedField hnames hnaming) hown.2 h⟩
  | inputObject =>
    exact valid_of_withFields (fun _ _ => valid_printedInputField hnames hnaming) hown h
  | union => exact hown
  | enum values =>
    rw [printedBody, PrintedBody.Valid, List.forall_mem_map]
    rw [TypeBody.names, List.forall_mem_map] at hown
    exact fun value hvalue => ⟨hown value hvalue, valid_describe _⟩
  | scalar => trivial

theorem valid_document {indent : Indent} {text : String}
    (h : print schema { naming, indent } = .ok text) : (document schema naming).Valid := by
  refine ⟨fun root => hnames.root, ?_⟩
  rw [document, List.forall_mem_map]
  intro type htype
  obtain ⟨all, hall, -⟩ := bind_eq_ok_iff.1 h
  obtain ⟨types, htypes, -⟩ := bind_eq_ok_iff.1 hall
  obtain ⟨lines, hlines⟩ := forall_ok_of_mapM htypes type htype
  obtain ⟨body, hbody, -⟩ := bind_eq_ok_iff.1 hlines
  have hown : ∀ name ∈ type.names, Name.isValid name := fun name =>
    hnames.type (List.mem_filter.1 htype).1
  rw [TypeDef.names, List.forall_mem_cons] at hown
  exact ⟨hown.1, valid_describe _, valid_printedBody hnames hnaming hown.2 hbody⟩

end

/-- The text of a schema tells its document: two schemas whose names are all valid and that print
the same text under one naming, which keeps names valid as both built-in ones do, and with one
indentation, have the same roots and print the same types, fields, arguments, defaults, members and
values, with the same descriptions line by line and the same deprecations. -/
theorem print_unambiguous :
    Naming.camel.KeepsNames ∧ Naming.passthrough.KeepsNames ∧
      ∀ (style : Style) (first second : Schema) (text : String), style.naming.KeepsNames →
        first.NamesValid → second.NamesValid → print first style = .ok text →
        print second style = .ok text →
        document first style.naming = document second style.naming := by
  refine ⟨Naming.keepsNames_camel, Naming.keepsNames_passthrough, ?_⟩
  intro style first second text hnaming hfirst hsecond hprint hprint'
  obtain ⟨hstep, hne⟩ := blank_indent style.indent
  refine Document.eq_of_layout hstep hne (valid_document hfirst hnaming hprint)
    (valid_document hsecond hnaming hprint') ?_
  rw [← toList_renderLines, ← toList_renderLines, ← text_of_print hprint, text_of_print hprint']

/-- A query of one module or another, whose description has two lines that end in `feed`. -/
def leaflet (feed : String) (moduleName : Option String) : Schema :=
  let title : Argument := { name := "title", type := .named "String",
                            default := some (.string "a, b") }
  let find : Field := { name := "find_book", type := .named "String" }
  Schema.build { query := some "Query" } [
    { name := "Query", moduleName, description := some ("Start" ++ feed ++ "here" ++ feed)
      body := .object [] (.ofFields "Query" [find.withArguments [title]]) [] }]

def leafletText : String :=
  "schema \x7b\n  query: Query\n\x7d\n\n" ++ "\"\"\"\nStart\nhere\n\"\"\"\n" ++
    "type Query \x7b\n  findBook(title: String = \"a, b\"): String\n\x7d\n"

theorem print_unambiguous_leaflet : ∃ text,
    (leaflet "\n" none).NamesValid ∧ (leaflet "\r\n" (some "books")).NamesValid ∧
      print (leaflet "\n" none) {} = .ok text ∧
      print (leaflet "\r\n" (some "books")) {} = .ok text ∧
      document (leaflet "\n" none) .camel = document (leaflet "\r\n" (some "books")) .camel := by
  have hnames : ∀ feed moduleName, (leaflet feed moduleName).NamesValid := by
    intro feed moduleName
    have hlist : (leaflet feed moduleName).names = ["Query"] ++ builtinScalars ++ ["Query"] ++
        builtinScalars ++ ["Query", "find_book", "find_book", "title"] := rfl
    unfold Schema.NamesValid
    rw [hlist]
    decide
  have hprint : print (leaflet "\n" none) {} = .ok leafletText := rfl
  have hprint' : print (leaflet "\r\n" (some "books")) {} = .ok leafletText := rfl
  exact ⟨_, hnames _ _, hnames _ _, hprint, hprint',
    print_unambiguous.2.2 {} _ _ _ Naming.keepsNames_camel (hnames _ _) (hnames _ _) hprint
      hprint'⟩

end GraphSchema.Sdl
