import GraphSchema.Proofs.Sdl.Document
import GraphSchema.Proofs.Sdl.LiteralTable
import GraphSchema.Schema.Builders

/-!
# Printing and the types of a schema

While a type is printed, other types are looked up by name, and nothing else of the schema counts. So
schemas of the same types print the same, and a schema that has one type more prints the old types as
before.
-/

namespace GraphSchema.Sdl

/-! ## What is looked up -/

section

variable {r : ∀ {α : Type}, Except CompileError α → Except CompileError α → Prop}
  (hr : Stepwise r) {schema other : Schema} {naming : Naming}
  (htype : ∀ type place, r (typeText schema type place) (typeText other type place))
  (hliteral : ∀ type value, r (literal schema naming type value) (literal other naming type value))
include hr hliteral

theorem related_defaultText (type : TypeRef) (default : Option Value) :
    r (defaultText schema naming type default) (defaultText other naming type default) := by
  cases default with
  | none => exact hr.refl _
  | some value => exact hr.bind (hliteral type value) fun _ => hr.refl _

include htype

theorem related_argumentText (field : Field) (argument : Argument) :
    r (argumentText schema naming field argument) (argumentText other naming field argument) :=
  hr.bind (htype _ _) fun _ => hr.bind (related_defaultText hr hliteral _ _) fun _ => hr.refl _

theorem related_fieldLines (field : Field) :
    r (fieldLines schema naming field) (fieldLines other naming field) := by
  have hargument := related_argumentText hr htype hliteral field
  refine hr.bind (htype _ _) fun _ => ?_
  dsimp only
  split
  · exact hr.refl _
  · split
    · exact hr.bind (hr.mapM fun argument _ => hr.bind (hargument argument) fun _ => hr.refl _)
        fun _ => hr.refl _
    · exact hr.bind (hr.mapM fun argument _ => hargument argument) fun _ => hr.refl _

theorem related_inputFieldLines (field : Field) :
    r (inputFieldLines schema naming field) (inputFieldLines other naming field) :=
  hr.bind (htype _ _) fun _ => hr.bind (related_defaultText hr hliteral _ _) fun _ => hr.refl _

omit htype hliteral in
theorem related_withFields {print print' : Field → Except CompileError (List Line)}
    (h : ∀ field, r (print field) (print' field)) (header : String) (fields : FieldMap) :
    r (withFields header fields print) (withFields header fields print') :=
  hr.bind (hr.mapM fun field _ => hr.bind (h field) fun _ => hr.refl _) fun _ => hr.refl _

/-- Types are looked up for references and for defaults, so those decide how a type prints. -/
theorem related_typeLines (type : TypeDef) :
    r (typeLines schema naming type) (typeLines other naming type) := by
  have hfield := related_fieldLines hr htype hliteral
  have hinput := related_inputFieldLines hr htype hliteral
  refine hr.bind ?_ fun _ => hr.refl _
  cases type.body with
  | object | interface => exact related_withFields hr hfield _ _
  | inputObject => exact related_withFields hr hinput _ _
  | union | enum | scalar => exact hr.refl _

end

/-- Behaviors are not printed. -/
theorem print_withBehaviors (schema : Schema) (behaviors : BehaviorTable) (style : Style) :
    print { schema with behaviors } style = print schema style := by
  have htype : ∀ type place,
      typeText { schema with behaviors } type place = typeText schema type place := fun _ _ => rfl
  have hliteral : ∀ type value, literal { schema with behaviors } style.naming type value =
      literal schema style.naming type value := by
    intro type value
    rw [literal_congr]
    exact fun _ _ _ => rfl
  have hlines := funext (related_typeLines stepwise_eq htype hliteral)
  simp only [print, lines, hlines]
  rfl

/-! ## More types -/

section

variable {schema larger : Schema}
  (hfind : ∀ name type, schema.find? name = some type → larger.find? name = some type)
include hfind

theorem Row.mono {naming : Naming} {type : TypeRef} {value : Value} {text : String}
    (row : Row schema naming type value text) : Row larger naming type value text := by
  induction row with
  | null type => exact .null type
  | nonNull _ ih => exact .nonNull ih
  | list length _ ih => exact .list length ih
  | item single _ ih => exact .item single ih
  | builtin found scalar row => exact .builtin (hfind _ _ found) scalar row
  | custom found scalar row => exact .custom (hfind _ _ found) scalar row
  | enum found enum given row => exact .enum (hfind _ _ found) enum given row
  | input found input known single _ ih => exact .input (hfind _ _ found) input known single ih

/-- What prints goes on printing the same. -/
theorem keeps_typeLines (naming : Naming) (type : TypeDef) :
    Keeps (typeLines schema naming type) (typeLines larger naming type) := by
  refine related_typeLines stepwise_keeps (fun ref place text htext => ?_)
    (fun ref value text htext => ?_) type
  · unfold typeText at htext ⊢
    split at htext
    · rename_i hknown
      obtain ⟨found, hfound⟩ := Option.isSome_iff_exists.1 hknown
      have hlarger : larger.contains ref.baseName :=
        Option.isSome_iff_exists.2 ⟨found, hfind _ _ hfound⟩
      rw [if_pos hlarger, ← htext]
    · cases htext
  · exact literal_of_row ((row_of_literal htext).mono hfind)

end

/-! ## Flaws of a type -/

/-- Where a field is said to be when its type is not known. -/
def fieldPlace (kind : TypeKind) (field : Field) : Place :=
  if kind = .inputObject then .inputField field.parent field.name
  else .field field.parent field.name

/-- What keeps a type from printing: a reference inside it to a type that the schema does not have,
or a default value inside it without a literal. Arguments are printed outside of input objects and
defaults of fields inside of them. -/
inductive Flaw (schema : Schema) (naming : Naming) (type : TypeDef) : CompileError → Prop where
  | field {field : Field} (inside : field ∈ type.fieldList)
      (unknown : schema.find? field.type.baseName = none) :
    Flaw schema naming type (.unknownType field.type.baseName (fieldPlace type.kind field))
  | fieldDefault {field : Field} {value : Value} {error : CompileError}
      (inside : field ∈ type.fieldList) (input : type.kind = .inputObject)
      (given : field.default = some value)
      (refused : literal schema naming field.type value = .error error) :
    Flaw schema naming type error
  | argument {field : Field} {argument : Argument} (inside : field ∈ type.fieldList)
      (output : type.kind ≠ .inputObject) (taken : argument ∈ field.arguments.values)
      (unknown : schema.find? argument.type.baseName = none) :
    Flaw schema naming type (.unknownType argument.type.baseName
      (.argument field.parent field.name argument.name))
  | argumentDefault {field : Field} {argument : Argument} {value : Value} {error : CompileError}
      (inside : field ∈ type.fieldList) (output : type.kind ≠ .inputObject)
      (taken : argument ∈ field.arguments.values) (given : argument.default = some value)
      (refused : literal schema naming argument.type value = .error error) :
    Flaw schema naming type error

theorem typeText_eq_error {schema : Schema} {type : TypeRef} {place : Place} {error : CompileError}
    (h : typeText schema type place = .error error) :
    schema.find? type.baseName = none ∧ error = .unknownType type.baseName place := by
  unfold typeText at h
  split at h
  · cases h
  · rename_i hunknown
    exact ⟨Option.not_isSome_iff_eq_none.1 hunknown, (Except.error.inj h).symm⟩

theorem defaultText_eq_error {schema : Schema} {naming : Naming} {type : TypeRef}
    {default : Option Value} {error : CompileError}
    (h : defaultText schema naming type default = .error error) :
    ∃ value, default = some value ∧ literal schema naming type value = .error error := by
  cases default with
  | none => cases h
  | some value => exact ⟨value, rfl, error_of_bind_pure h⟩

section

variable {schema : Schema} {naming : Naming} {type : TypeDef} {field : Field}
  (hfield : field ∈ type.fieldList)
include hfield

theorem flaw_of_argumentText (hkind : type.kind ≠ .inputObject) {argument : Argument}
    (hargument : argument ∈ field.arguments.values) {error : CompileError}
    (h : argumentText schema naming field argument = .error error) :
    Flaw schema naming type error := by
  rcases bind_eq_error_iff.1 h with htype | ⟨_, -, hrest⟩
  · obtain ⟨hunknown, rfl⟩ := typeText_eq_error htype
    exact .argument hfield hkind hargument hunknown
  · obtain ⟨value, hvalue, hrefused⟩ := defaultText_eq_error (error_of_bind_pure hrest)
    exact .argumentDefault hfield hkind hargument hvalue hrefused

theorem flaw_of_fieldLines (hkind : type.kind ≠ .inputObject) {error : CompileError}
    (h : fieldLines schema naming field = .error error) : Flaw schema naming type error := by
  rcases bind_eq_error_iff.1 h with htype | ⟨_, -, hrest⟩
  · obtain ⟨hunknown, rfl⟩ := typeText_eq_error htype
    have hplace : Place.field field.parent field.name = fieldPlace type.kind field :=
      (if_neg hkind).symm
    exact hplace ▸ .field hfield hunknown
  · dsimp only at hrest
    split at hrest
    · cases hrest
    · split at hrest
      · obtain ⟨argument, hargument, hlines⟩ := exists_error_of_mapM (error_of_bind_pure hrest)
        exact flaw_of_argumentText hfield hkind hargument (error_of_bind_pure hlines)
      · obtain ⟨argument, hargument, htext⟩ := exists_error_of_mapM (error_of_bind_pure hrest)
        exact flaw_of_argumentText hfield hkind hargument htext

theorem flaw_of_inputFieldLines (hkind : type.kind = .inputObject) {error : CompileError}
    (h : inputFieldLines schema naming field = .error error) : Flaw schema naming type error := by
  rcases bind_eq_error_iff.1 h with htype | ⟨_, -, hrest⟩
  · obtain ⟨hunknown, rfl⟩ := typeText_eq_error htype
    have hplace : Place.inputField field.parent field.name = fieldPlace type.kind field :=
      (if_pos hkind).symm
    exact hplace ▸ .field hfield hunknown
  · obtain ⟨value, hvalue, hrefused⟩ := defaultText_eq_error (error_of_bind_pure hrest)
    exact .fieldDefault hfield hkind hvalue hrefused

end

theorem exists_error_of_withFields {header : String} {fields : FieldMap}
    {print : Field → Except CompileError (List Line)} {error : CompileError}
    (h : withFields header fields print = .error error) :
    ∃ field ∈ fields.values, print field = .error error := by
  obtain ⟨field, hfield, herror⟩ := exists_error_of_mapM (error_of_bind_pure h)
  exact ⟨field, hfield, error_of_bind_pure herror⟩

/-- A type that does not print has a flaw. -/
theorem flaw_of_typeLines {schema : Schema} {naming : Naming} {type : TypeDef}
    {error : CompileError} (h : typeLines schema naming type = .error error) :
    Flaw schema naming type error := by
  obtain ⟨name, description, moduleName, body⟩ := type
  have hbody := error_of_bind_pure h
  cases body with
  | object | interface =>
    obtain ⟨field, hfield, herror⟩ := exists_error_of_withFields hbody
    exact flaw_of_fieldLines hfield (by rintro ⟨⟩) herror
  | inputObject =>
    obtain ⟨field, hfield, herror⟩ := exists_error_of_withFields hbody
    exact flaw_of_inputFieldLines hfield rfl herror
  | union | enum | scalar => cases hbody

/-! ## Blocks -/

/-- The lines start and end with lines at the margin that are not blank. -/
structure AtMargin (lines : List Line) : Prop where
  first : ∃ text, lines.head? = some (.text 0 text) ∧ text ≠ ""
  last : ∃ text, lines.getLast? = some (.text 0 text) ∧ text ≠ ""

namespace AtMargin

theorem single {text : String} (h : text ≠ "") : AtMargin [.text 0 text] :=
  ⟨⟨text, rfl, h⟩, ⟨text, rfl, h⟩⟩

theorem block {header close : String} (hheader : header ≠ "") (hclose : close ≠ "")
    (body : List Line) : AtMargin (block header close body) :=
  ⟨⟨header, rfl, hheader⟩, ⟨close, List.getLast?_concat, hclose⟩⟩

theorem braced {header : String} (h : header ≠ "") (isEmpty : Bool) (body : List Line) :
    AtMargin (bracedLines header isEmpty body) := by
  unfold bracedLines
  split
  · exact single h
  · exact block (by simp) (by decide) body

/-- What is written above a block starts at the margin as well. -/
theorem above {lines : List Line} (h : AtMargin lines) (description : Description) :
    AtMargin (description.above lines) := by
  obtain ⟨last, hlast, hne⟩ := h.last
  cases description with
  | none => exact h
  | some content =>
    refine ⟨⟨_, rfl, by decide⟩, last, ?_, hne⟩
    simp [Description.above, List.getLast?_append, List.getLast?_cons, hlast]

theorem body (name : String) (body : PrintedBody) : AtMargin (body.lines name) := by
  cases body with
  | object | interface | inputObject | enum => exact braced (by simp) _ _
  | union members => exact single (by unfold unionText; split <;> simp)
  | scalar => exact single (by simp)

theorem type {schema : Schema} {naming : Naming} {type : TypeDef} {lines : List Line}
    (h : typeLines schema naming type = .ok lines) : AtMargin lines :=
  lines_of_typeLines h ▸ (body _ _).above _

theorem ne_nil {lines : List Line} (h : AtMargin lines) : lines ≠ [] := by
  obtain ⟨_, hfirst, -⟩ := h.first
  rintro rfl
  cases hfirst

end AtMargin

theorem getLast?_renderLines (indent : Indent) {lines : List Line} (h : lines ≠ []) :
    (renderLines indent lines).toList.getLast? = some '\n' := by
  obtain ⟨front, line, rfl⟩ := (List.eq_nil_or_concat' lines).resolve_left h
  cases line <;> simp [renderLines, Line.render]

/-- The text of blocks, with an empty line between each two. -/
def blocksText (indent : Indent) (blocks : List (List Line)) : String :=
  "\n".intercalate (blocks.map (renderLines indent))

theorem renderLines_separated (indent : Indent) (blocks : List (List Line)) :
    renderLines indent (separated blocks) = blocksText indent blocks := by
  unfold blocksText
  induction blocks with
  | nil => rfl
  | cons block rest ih =>
    cases rest with
    | nil => simp [separated]
    | cons next rest =>
      rw [List.map_cons, List.map_cons, String.intercalate_cons_cons, ← List.map_cons, ← ih]
      simp [separated, renderLines, Line.render, String.append_assoc]

theorem blocksText_concat (indent : Indent) {blocks : List (List Line)} (hne : blocks ≠ [])
    (own : List Line) :
    blocksText indent (blocks ++ [own]) =
      blocksText indent blocks ++ "\n" ++ renderLines indent own := by
  unfold blocksText
  rw [List.map_append, String.intercalate_append_of_ne_nil (by simpa using hne) (by simp)]
  simp

section

variable (indent : Indent) {blocks : List (List Line)} (h : ∀ block ∈ blocks, AtMargin block)
include h

theorem getLast?_blocksText (hne : blocks ≠ []) :
    (blocksText indent blocks).toList.getLast? = some '\n' := by
  obtain ⟨front, last, rfl⟩ := (List.eq_nil_or_concat' blocks).resolve_left hne
  have hlast := getLast?_renderLines indent (h last (by simp)).ne_nil
  by_cases hfront : front = []
  · subst hfront
    simpa [blocksText] using hlast
  · rw [blocksText_concat indent hfront, String.toList_append, List.getLast?_append, hlast,
      Option.some_or]

theorem blocksText_ends :
    blocksText indent blocks = "" ∨ (blocksText indent blocks).toList.getLast? = some '\n' := by
  by_cases hnone : blocks = []
  · exact .inl (hnone ▸ rfl)
  · exact .inr (getLast?_blocksText indent h hnone)

/-- No text means no blocks, and then nothing stands between. -/
theorem blocksText_push (own : List Line) :
    blocksText indent (blocks ++ [own]) =
      blocksText indent blocks ++ (if blocksText indent blocks = "" then "" else "\n") ++
        renderLines indent own := by
  by_cases hnone : blocks = []
  · subst hnone
    simp [blocksText]
  · have htext : blocksText indent blocks ≠ "" := by
      intro hempty
      have hlast := getLast?_blocksText indent h hnone
      rw [hempty] at hlast
      cases hlast
    rw [blocksText_concat indent hnone, if_neg htext]

end

/-- The block of root types, if there are any. -/
def rootsBlock (roots : Roots) : List (List Line) :=
  if roots.isEmpty then [] else [rootsLines roots]

theorem atMargin_rootsBlock {roots : Roots} : ∀ block ∈ rootsBlock roots, AtMargin block := by
  unfold rootsBlock
  split
  · nofun
  · exact List.forall_mem_singleton.2 (.block (by decide) (by decide) _)

theorem print_eq (schema : Schema) (style : Style) :
    print schema style = do
      let types ← schema.authored.mapM (typeLines schema style.naming)
      return blocksText style.indent (rootsBlock schema.roots ++ types) := by
  simp only [print, lines, bind_assoc, pure_bind, renderLines_separated]
  rfl

theorem atMargin_blocks {schema : Schema} {naming : Naming} {types : List (List Line)}
    (h : schema.authored.mapM (typeLines schema naming) = .ok types) :
    ∀ block ∈ rootsBlock schema.roots ++ types, AtMargin block := by
  refine List.forall_mem_append.2 ⟨atMargin_rootsBlock, fun lines hlines => ?_⟩
  obtain ⟨_, -, hprinted⟩ := exists_of_mem_mapM h hlines
  exact .type hprinted

/-! ## A new type -/

theorem find?_of_addType {schema larger : Schema} {type : TypeDef}
    (h : schema.addType type = .ok larger) {name : String} {found : TypeDef}
    (hfound : schema.find? name = some found) : larger.find? name = some found := by
  obtain ⟨hnew, rfl⟩ := Schema.addType_eq_ok_iff.1 h
  have hne : name ≠ type.name := fun heq => hnew (heq ▸ OrderedMap.mem_keys_of_get? hfound)
  exact (OrderedMap.get?_insert_of_ne _ hne type).trans hfound

theorem authored_of_addType {schema larger : Schema} {type : TypeDef}
    (h : schema.addType type = .ok larger) :
    larger.authored = schema.authored ++ (if type.isBuiltin then [] else [type]) ∧
      larger.roots = schema.roots := by
  obtain ⟨hnew, rfl⟩ := Schema.addType_eq_ok_iff.1 h
  refine ⟨?_, rfl⟩
  simp only [Schema.authored, Schema.typeList, OrderedMap.values,
    OrderedMap.entries_insert_of_not_mem hnew, List.map_append, List.filter_append]
  by_cases hbuiltin : type.isBuiltin <;> simp [hbuiltin]

theorem mapM_of_addType {schema larger : Schema} {type : TypeDef} {naming : Naming}
    {types : List (List Line)} (h : schema.addType type = .ok larger)
    (htypes : schema.authored.mapM (typeLines schema naming) = .ok types) :
    larger.authored.mapM (typeLines larger naming) =
      if type.isBuiltin then .ok types
      else do
        let own ← typeLines larger naming type
        return types ++ [own] := by
  have hkept : schema.authored.mapM (typeLines larger naming) = .ok types :=
    stepwise_keeps.mapM
      (fun old _ => keeps_typeLines (fun _ _ => find?_of_addType h) naming old) _ htypes
  rw [(authored_of_addType h).1, List.mapM_append, hkept]
  split
  · simp [pure, Except.pure, bind, Except.bind]
  · cases hown : typeLines larger naming type <;> simp [hown, bind, Except.bind, pure, Except.pure]

/-- What was printed without a new type is printed in front of its block, unless something inside
the new type does not print. Scalars that are marked as built in have no block. -/
theorem print_addType {schema larger : Schema} {style : Style} {text : String} {type : TypeDef}
    (hprint : print schema style = .ok text) (hadd : schema.addType type = .ok larger) :
    (if type.isBuiltin then print larger style = .ok text
     else
      (∃ error, print larger style = .error error ∧ Flaw larger style.naming type error) ∨
      ∃ own, typeLines larger style.naming type = .ok own ∧ AtMargin own ∧
        print larger style =
          .ok (text ++ (if text = "" then "" else "\n") ++ renderLines style.indent own)) ∧
    (∃ types, schema.authored.mapM (typeLines schema style.naming) = .ok types ∧
      (∀ block ∈ rootsBlock schema.roots ++ types, AtMargin block) ∧
      text = blocksText style.indent (rootsBlock schema.roots ++ types)) ∧
    (text = "" ∨ text.toList.getLast? = some '\n') := by
  rw [print_eq, bind_eq_ok_iff] at hprint
  obtain ⟨types, htypes, hprint⟩ := hprint
  cases hprint
  have hmargin := atMargin_blocks htypes
  have hlarger := print_eq larger style
  rw [(authored_of_addType hadd).2, mapM_of_addType hadd htypes] at hlarger
  refine ⟨?_, ⟨types, htypes, hmargin, rfl⟩, blocksText_ends style.indent hmargin⟩
  split
  · rename_i hbuiltin
    rw [hlarger, if_pos hbuiltin]
    rfl
  · rename_i hbuiltin
    rw [if_neg hbuiltin] at hlarger
    cases hown : typeLines larger style.naming type with
    | error error =>
      rw [hown] at hlarger
      exact .inl ⟨error, hlarger, flaw_of_typeLines hown⟩
    | ok own =>
      rw [hown] at hlarger
      refine .inr ⟨own, rfl, .type hown, ?_⟩
      rw [← blocksText_push style.indent hmargin, List.append_assoc]
      exact hlarger

/-- A query that takes a filter, with a default that sets one of its fields. -/
def shop : Schema :=
  let limit : Field := { name := "limit", type := .nonNull (.named "Int")
                         default := some (.int 5) }
  let filter : Argument := { name := "filter", type := .named "Filter"
                             default := some (.object [("limit", .int 3)]) }
  let find : Field := { name := "find", type := .list (.named "String") }
  Schema.build { query := some "Query" } [
    { name := "Query", body := .object [] (.ofFields "Query" [find.withArguments [filter]]) [] },
    { name := "Filter", body := .inputObject (.ofFields "Filter" [limit]) [] }]

/-- A new input whose default goes through the filter of the shop. -/
def search : TypeDef :=
  let filters : Field := { name := "filters", type := .list (.named "Filter")
                           default := some (.object [("limit", .int 3)]) }
  { name := "Search", description := some "All at once."
    body := .inputObject (.ofFields "Search" [filters]) [] }

def shopText : String :=
  "schema \x7b\n  query: Query\n\x7d\n\n" ++
    "type Query \x7b\n  find(filter: Filter = \x7blimit: 3\x7d): [String]\n\x7d\n\n" ++
    "input Filter \x7b\n  limit: Int! = 5\n\x7d\n"

theorem print_addType_search : ∃ larger own,
    print shop {} = .ok shopText ∧ shop.addType search = .ok larger ∧
      typeLines larger .camel search = .ok own ∧
      print larger {} = .ok (shopText ++ "\n" ++ renderLines .standard own) := by
  have hprint : print shop {} = .ok shopText := rfl
  have hadd : shop.addType search =
      .ok { shop with types := shop.types.insert "Search" search } := rfl
  obtain ⟨hnew, -⟩ := print_addType hprint hadd
  obtain ⟨own, hown, -, hlarger⟩ := hnew.resolve_left fun ⟨error, herror, _⟩ => by
    have hok : (print { shop with types := shop.types.insert "Search" search } {}).isOk := rfl
    rw [herror] at hok
    cases hok
  exact ⟨_, own, hprint, hadd, hown, hlarger⟩

end GraphSchema.Sdl
