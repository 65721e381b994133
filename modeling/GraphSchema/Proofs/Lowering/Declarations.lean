import GraphSchema.Proofs.Authoring.WellFormed
import GraphSchema.Proofs.Lowering
import GraphSchema.Schema.Builders

/-!
# Lowered declarations

The type of a declaration has what the declaration says, entry by entry and in the same order. A
type is put together by builders, among which an entry of a name that is there already would take
the place of the earlier one. In a module that is accepted no name comes twice, so none does.
-/

namespace GraphSchema

/-! ## Declarations by kind -/

inductive DeclContent where
  | object (decl : CompositeDecl)
  | interface (decl : CompositeDecl)
  | union (decl : UnionDecl)
  | enum (decl : EnumDecl)
  | input (decl : InputDecl)
  | scalar (decl : ScalarDecl)

namespace DeclContent

def kind : DeclContent → TypeKind
  | object _ => .object
  | interface _ => .interface
  | union _ => .union
  | enum _ => .enum
  | input _ => .inputObject
  | scalar _ => .scalar

def description : DeclContent → Option String
  | object decl | interface decl => decl.description
  | union decl => decl.description
  | enum decl => decl.description
  | input decl => decl.description
  | scalar decl => decl.description

/-- Declarations of one kind under their identifiers. -/
def listed {α : Type} (kind : α → DeclContent) (decls : OrderedMap String α) :
    List (String × DeclContent) :=
  decls.entries.map fun (name, decl) => (name, kind decl)

end DeclContent

/-- The declarations of a module under their identifiers, kind by kind. -/
def SchemaModule.contents (m : SchemaModule) : List (String × DeclContent) :=
  DeclContent.listed .object m.objects ++ DeclContent.listed .interface m.interfaces ++
    DeclContent.listed .union m.unions ++ DeclContent.listed .enum m.enums ++
    DeclContent.listed .input m.inputs ++ DeclContent.listed .scalar m.scalars

def DeclContent.WellFormed : DeclContent → Prop
  | object decl | interface decl => decl.WellFormed
  | union decl => decl.WellFormed
  | enum decl => decl.WellFormed
  | input decl => decl.WellFormed
  | scalar _ => True

theorem SchemaModule.WellFormed.contents {m : SchemaModule} (h : m.WellFormed) :
    ∀ declared ∈ m.contents, declared.2.WellFormed := by
  have hvalues {α : Type} {decls : OrderedMap String α} {entry : String × α}
      (hentry : entry ∈ decls.entries) : entry.2 ∈ decls.values := List.mem_map_of_mem hentry
  simp only [SchemaModule.contents, DeclContent.listed, List.forall_mem_append,
    List.forall_mem_map]
  exact ⟨⟨⟨⟨⟨fun entry he => h.objects entry.2 (hvalues he),
    fun entry he => h.interfaces entry.2 (hvalues he)⟩,
    fun entry he => h.unions entry.2 (hvalues he)⟩,
    fun entry he => h.enums entry.2 (hvalues he)⟩,
    fun entry he => h.inputs entry.2 (hvalues he)⟩, fun _ _ => trivial⟩

namespace Lowering

/-! ## What lowering keeps -/

structure LowersArgument (declared : String × InputValueDecl) (lowered : String × Argument) :
    Prop where
  key : lowered.1 = declared.1
  name : lowered.2.name = declared.1
  type : lowered.2.type = declared.2.type.mapName Name.typeName
  description : lowered.2.description = declared.2.description
  default : lowered.2.default = declared.2.default

structure LowersField (parent : String) (declared : String × FieldDecl)
    (lowered : String × Field) : Prop where
  key : lowered.1 = declared.1
  name : lowered.2.name = declared.1
  parent : lowered.2.parent = parent
  type : lowered.2.type = declared.2.type.mapName Name.typeName
  description : lowered.2.description = declared.2.description
  deprecation : lowered.2.deprecation = declared.2.deprecated.bind (·.deprecation?)
  default : lowered.2.default = none
  arguments : List.Forall₂ LowersArgument declared.2.arguments.entries lowered.2.arguments.entries

structure LowersInputField (parent : String) (declared : String × InputValueDecl)
    (lowered : String × Field) : Prop where
  key : lowered.1 = declared.1
  name : lowered.2.name = declared.1
  parent : lowered.2.parent = parent
  type : lowered.2.type = declared.2.type.mapName Name.typeName
  description : lowered.2.description = declared.2.description
  deprecation : lowered.2.deprecation = none
  default : lowered.2.default = declared.2.default
  arguments : lowered.2.arguments.entries = []

structure LowersImport (declared lowered : FieldImport) : Prop where
  source : lowered.source = Name.typeName declared.source
  moduleName : lowered.moduleName = declared.moduleName
  except : lowered.except = declared.except

/-- A value without an alias prints as its key in upper case. -/
structure LowersValue (declared : EnumValueDecl) (lowered : String × EnumValue) : Prop where
  stored : lowered.1 = declared.key
  key : lowered.2.key = declared.key
  aliasName : lowered.2.aliasName = declared.aliasName.getD (EnumValue.defaultAlias declared.key)
  description : lowered.2.description = declared.description
  deprecation : lowered.2.deprecation = declared.deprecated.bind (·.deprecation?)

/-- The interfaces, fields and imports of an object or an interface. -/
structure LowersComposite (parent : String) (decl : CompositeDecl) (interfaces : List String)
    (fields : FieldMap) (imports : List FieldImport) : Prop where
  interfaces : interfaces = decl.interfaces.map Name.typeName
  fields : List.Forall₂ (LowersField parent) decl.fields.entries fields.entries
  imports : List.Forall₂ LowersImport decl.imports imports

inductive LowersBody (parent : String) : DeclContent → TypeBody → Prop where
  | object {decl : CompositeDecl} {interfaces : List String} {fields : FieldMap}
      {imports : List FieldImport} (parts : LowersComposite parent decl interfaces fields imports) :
    LowersBody parent (.object decl) (.object interfaces fields imports)
  | interface {decl : CompositeDecl} {interfaces : List String} {fields : FieldMap}
      {imports : List FieldImport} (parts : LowersComposite parent decl interfaces fields imports) :
    LowersBody parent (.interface decl) (.interface interfaces fields imports [])
  | union (decl : UnionDecl) :
    LowersBody parent (.union decl) (.union (decl.members.map Name.typeName))
  | enum {decl : EnumDecl} {values : OrderedMap String EnumValue}
      (parts : List.Forall₂ LowersValue decl.values values.entries) :
    LowersBody parent (.enum decl) (.enum values)
  | input {decl : InputDecl} {fields : FieldMap} {imports : List FieldImport}
      (parts : List.Forall₂ (LowersInputField parent) decl.fields.entries fields.entries)
      (borrowed : List.Forall₂ LowersImport decl.imports imports) :
    LowersBody parent (.input decl) (.inputObject fields imports)
  | scalar (decl : ScalarDecl) : LowersBody parent (.scalar decl) (.scalar false)

/-- The type is what the declaration says. -/
structure LowersType (moduleName : String) (declared : String × DeclContent) (type : TypeDef) :
    Prop where
  name : type.name = Name.typeName declared.1
  description : type.description = declared.2.description
  moduleName : type.moduleName = some moduleName
  body : LowersBody type.name declared.2 type.body

/-- A relation that holds of every item and what it is mapped to. -/
theorem forall₂_map {α β : Type} {r : α → β → Prop} {f : α → β} {items : List α}
    (h : ∀ item ∈ items, r item (f item)) : List.Forall₂ r items (items.map f) := by
  rw [List.forall₂_map_right_iff, List.forall₂_same]
  exact h

theorem lowersImports (imports : List FieldImport) :
    List.Forall₂ LowersImport imports (imports.map fieldImport) :=
  forall₂_map fun _ _ => ⟨rfl, rfl, rfl⟩

theorem lowersComposite (parent : String) (decl : CompositeDecl) :
    LowersComposite parent decl (decl.interfaces.map Name.typeName)
      (fieldsOf parent field decl.fields) (decl.imports.map fieldImport) := by
  refine ⟨rfl, ?_, lowersImports _⟩
  refine forall₂_map fun entry _ => ⟨rfl, rfl, rfl, rfl, rfl, rfl, rfl, ?_⟩
  exact forall₂_map fun _ _ => ⟨rfl, rfl, rfl, rfl, rfl⟩

/-- An enum that repeats no key keeps all its values. -/
theorem lowersValues {decl : EnumDecl} (h : (decl.values.map (·.key)).Nodup) :
    List.Forall₂ LowersValue decl.values
      (OrderedMap.ofList (decl.values.map fun value => (value.key, enumValue value))).entries := by
  rw [OrderedMap.entries_ofList (by rwa [List.map_map])]
  exact forall₂_map fun _ _ => ⟨rfl, rfl, rfl, rfl, rfl⟩

theorem lowersInputFields (parent : String) (fields : OrderedMap String InputValueDecl) :
    List.Forall₂ (LowersInputField parent) fields.entries
      (fieldsOf parent inputField fields).entries :=
  forall₂_map fun _ _ => ⟨rfl, rfl, rfl, rfl, rfl, rfl, rfl, rfl⟩

/-- The body of the type that a declaration makes. -/
def bodyOf (name : String) : DeclContent → TypeBody
  | .object decl => objectBody name decl
  | .interface decl => interfaceBody name decl
  | .union decl => .union (decl.members.map Name.typeName)
  | .enum decl => enumBody decl
  | .input decl => inputBody name decl
  | .scalar _ => .scalar false

/-- The type of one declaration of a module. -/
def lowered (m : SchemaModule) (declared : String × DeclContent) : TypeDef :=
  typeOf m declared.1 declared.2.description (bodyOf · declared.2)

theorem typesOf_eq_map (m : SchemaModule) : typesOf m = m.contents.map (lowered m) := by
  simp only [typesOf, SchemaModule.contents, DeclContent.listed, List.map_append, List.map_map]
  rfl

theorem lowersType_lowered (m : SchemaModule) {declared : String × DeclContent}
    (h : declared.2.WellFormed) : LowersType m.name declared (lowered m declared) := by
  obtain ⟨name, content⟩ := declared
  refine ⟨rfl, rfl, rfl, ?_⟩
  cases content with
  | object decl => exact .object (lowersComposite _ decl)
  | interface decl => exact .interface (lowersComposite _ decl)
  | union decl => exact .union decl
  | enum decl => exact .enum (lowersValues h.once)
  | input decl => exact .input (lowersInputFields _ decl.fields) (lowersImports decl.imports)
  | scalar decl => exact .scalar decl

theorem forall₂_lowersType {m : SchemaModule} (h : m.WellFormed) :
    List.Forall₂ (LowersType m.name) m.contents (typesOf m) := by
  rw [typesOf_eq_map]
  exact forall₂_map fun declared hdeclared => lowersType_lowered m (h.contents declared hdeclared)

/-! ## Builders -/

/-- A field to which its arguments are added one after the other. -/
def buildField (name : String) (decl : FieldDecl) : Field :=
  (decl.arguments.entries.map fun (name, decl) => argument name decl).foldl Field.withArgument
    { name
      type := typeRef decl.type
      description := decl.description
      deprecation := decl.deprecated.bind (·.deprecation?) }

/-- A type that has nothing yet but what a declaration says of it as a whole. -/
def opened (m : SchemaModule) (declared : String × DeclContent) : TypeDef :=
  { TypeDef.new (Name.typeName declared.1) declared.2.kind with
    description := declared.2.description, moduleName := some m.name }

def addImports (imports : List FieldImport) (type : TypeDef) : TypeDef :=
  (imports.map fieldImport).foldl TypeDef.withImport type

def addComposite (decl : CompositeDecl) (type : TypeDef) : TypeDef :=
  (decl.fields.entries.map fun (name, decl) => buildField name decl).foldl TypeDef.withField
    (addImports decl.imports ((decl.interfaces.map Name.typeName).foldl TypeDef.withInterface type))

/-- A type to which the parts of its declaration are added one after the other. -/
def build (m : SchemaModule) (declared : String × DeclContent) : TypeDef :=
  let type := opened m declared
  match declared.2 with
  | .object decl | .interface decl => addComposite decl type
  | .union decl => (decl.members.map Name.typeName).foldl TypeDef.withMember type
  | .enum decl => (decl.values.map enumValue).foldl TypeDef.withValue type
  | .input decl =>
    (decl.fields.entries.map fun (name, decl) => inputField name decl).foldl TypeDef.withField
      (addImports decl.imports type)
  | .scalar _ => type

theorem buildField_eq (name : String) (decl : FieldDecl) :
    buildField name decl = field name decl := by
  unfold buildField field
  rw [Field.foldl_withArgument, List.map_map]
  congr 1
  exact OrderedMap.ofList_entries_map decl.arguments argument

/-- Fields that are added to a type that has none. -/
theorem addFields_eq {α : Type} {type : TypeDef} {lower : String → α → Field}
    (h : type.fields? = some .empty) (hname : ∀ name decl, (lower name decl).name = name)
    (fields : OrderedMap String α) :
    (fields.entries.map fun (name, decl) => lower name decl).foldl TypeDef.withField type =
      { type with body := type.body.setFields (fieldsOf type.name lower fields) } := by
  have hentries : ((fields.entries.map fun (name, decl) => lower name decl).map
      fun f => (f.name, { f with parent := type.name })) =
      fields.entries.map fun (name, decl) =>
        (name, { lower name decl with parent := type.name }) := by
    rw [List.map_map]
    exact List.map_congr_left fun entry _ => Prod.ext (hname entry.1 entry.2) rfl
  rw [TypeDef.foldl_withField h, hentries]
  congr 2
  exact OrderedMap.ofList_entries_map fields fun name decl =>
    { lower name decl with parent := type.name }

theorem addImports_eq {type : TypeDef} (body : List FieldImport → TypeBody)
    (h : type.body = body [])
    (himport : ∀ imports request, (body imports).withImport request = body (imports ++ [request]))
    (imports : List FieldImport) :
    addImports imports type = { type with body := body (imports.map fieldImport) } :=
  TypeDef.foldl_parts .withImport body himport h _

/-- Objects and interfaces get their interfaces, imports and fields alike. -/
theorem addComposite_eq {type : TypeDef} {decl : CompositeDecl}
    (body : List String → FieldMap → List FieldImport → TypeBody)
    (h : type.body = body [] .empty [])
    (hinterface : ∀ interfaces name,
      (body interfaces .empty []).withInterface name = body (interfaces ++ [name]) .empty [])
    (himport : ∀ interfaces imports request,
      (body interfaces .empty imports).withImport request =
        body interfaces .empty (imports ++ [request]))
    (hfields : ∀ interfaces imports, (body interfaces .empty imports).fields? = some .empty)
    (hset : ∀ interfaces fields imports,
      (body interfaces .empty imports).setFields fields = body interfaces fields imports) :
    addComposite decl type =
      { type with
        body := body (decl.interfaces.map Name.typeName) (fieldsOf type.name field decl.fields)
          (decl.imports.map fieldImport) } := by
  have hbuild : buildField = field := funext fun name => funext (buildField_eq name)
  have hinterfaces : (decl.interfaces.map Name.typeName).foldl TypeDef.withInterface type =
      { type with body := body (decl.interfaces.map Name.typeName) .empty [] } :=
    TypeDef.foldl_parts .withInterface (body · .empty []) hinterface h _
  unfold addComposite
  rw [hinterfaces, addImports_eq (body _ .empty) rfl (himport _), hbuild]
  refine (addFields_eq ?_ (fun _ _ => rfl) decl.fields).trans ?_
  · exact hfields _ _
  · rw [hset]

/-- Building a type part by part makes the type that is described at once. -/
theorem build_eq_lowered (m : SchemaModule) (declared : String × DeclContent) :
    build m declared = lowered m declared := by
  obtain ⟨name, content⟩ := declared
  cases content with
  | object decl =>
    exact addComposite_eq .object rfl (fun _ _ => rfl) (fun _ _ _ => rfl) (fun _ _ => rfl)
      fun _ _ _ => rfl
  | interface decl =>
    exact addComposite_eq (.interface · · · []) rfl (fun _ _ => rfl) (fun _ _ _ => rfl)
      (fun _ _ => rfl) fun _ _ _ => rfl
  | union decl =>
    have hbody : (opened m (name, .union decl)).body = .union [] := rfl
    exact TypeDef.foldl_parts .withMember .union (fun _ _ => rfl) hbody _
  | enum decl =>
    have hbody : (opened m (name, .enum decl)).body = .enum .empty := rfl
    refine (TypeDef.foldl_withValue hbody _).trans ?_
    unfold lowered typeOf bodyOf enumBody OrderedMap.ofList
    rw [List.map_map]
    rfl
  | input decl =>
    have himports : addImports decl.imports (opened m (name, .input decl)) =
        { opened m (name, .input decl) with
          body := .inputObject .empty (decl.imports.map fieldImport) } :=
      addImports_eq (.inputObject .empty) rfl (fun _ _ => rfl) decl.imports
    unfold build
    dsimp only
    rw [himports]
    exact addFields_eq rfl (fun _ _ => rfl) decl.fields
  | scalar decl => rfl

/-! ## Whole modules -/

theorem isBuiltin_typesOf (m : SchemaModule) : ∀ type ∈ typesOf m, type.isBuiltin = false := by
  rw [typesOf_eq_map, List.forall_mem_map]
  rintro ⟨name, content⟩ -
  cases content <;> rfl

theorem authored_of_run {modules : List SchemaModule} {schema : Schema}
    (h : run modules = .ok schema) : schema.authored = modules.flatMap typesOf := by
  have hscalars : (builtinScalars.map TypeDef.builtinScalar).filter (!·.isBuiltin) = [] := by
    decide
  have hdeclared : (modules.flatMap typesOf).filter (!·.isBuiltin) = modules.flatMap typesOf := by
    rw [List.filter_eq_self, List.forall_mem_flatMap]
    intro m _ type htype
    rw [isBuiltin_typesOf m type htype]
    rfl
  unfold Schema.authored
  rw [typeList_of_keeps (keeps_of_run h), List.filter_append, hscalars, hdeclared, List.nil_append]

/-- A module whose input fields have named types is accepted if and only if it is well-formed. Those
of every module that was read do (`Authoring.inputTypesNamed_of_moduleOf`). The types of an accepted
module, put together part by part, are what its declarations say, and the authored types of a schema
are those of its modules. -/
theorem accepts_wellFormed_lowers_whole {m : SchemaModule} (htypes : m.InputTypesNamed)
    (context : Authoring.Context) :
    (Authoring.checkModule context m = .ok () ↔ m.WellFormed) ∧
    (Authoring.checkModule context m = .ok () →
      typesOf m = m.contents.map (build m) ∧
        List.Forall₂ (LowersType m.name) m.contents (typesOf m)) ∧
    ∀ modules schema, run modules = .ok schema → schema.authored = modules.flatMap typesOf := by
  have haccepts : Authoring.checkModule context m = .ok () ↔ m.WellFormed :=
    Authoring.accepts_iff_of_inputTypesNamed htypes
  refine ⟨haccepts, fun haccepted => ⟨?_, forall₂_lowersType (haccepts.1 haccepted)⟩,
    fun _ _ => authored_of_run⟩
  rw [typesOf_eq_map]
  exact (List.map_congr_left fun declared _ => build_eq_lowered m declared).symm

/-- A module whose types have fields with arguments and values. -/
def shelf : SchemaModule where
  name := "shelf"
  objects := .ofList [
    ("query", { fields := .ofList [("books", {
      type := .nonNull (.list (.nonNull (.named "book")))
      arguments := .ofList [
        ("genre", { type := .named "genre", default := some (.string "verse") }),
        ("first", { type := .nonNull (.named "int") })] })] }),
    ("book", { interfaces := ["printed"] })]
  enums := .ofList [("genre", { values := [{ key := "verse" }, { key := "prose" }] })]
  inputs := .ofList [("page", { fields := .ofList [("size", { type := .named "int" })] })]

theorem accepts_wellFormed_lowers_whole_shelf :
    shelf.InputTypesNamed ∧ shelf.WellFormed ∧
      List.Forall₂ (LowersType shelf.name) shelf.contents (typesOf shelf) ∧
      ∃ schema, run [shelf] = .ok schema ∧ schema.authored = shelf.contents.map (build shelf) ∧
        schema.authored.map (·.name) = ["Query", "Book", "Genre", "Page"] := by
  have htypes : shelf.InputTypesNamed := by
    unfold SchemaModule.InputTypesNamed InputDecl.TypesNamed
    simp only [← Name.isValid_iff_isIdentifier]
    decide
  have hchecked : Authoring.checkModule ⟨[], []⟩ shelf = .ok () := by cbv
  have hnames : (run [shelf]).toOption.map (fun schema => schema.authored.map (·.name)) =
      some ["Query", "Book", "Genre", "Page"] := by cbv
  obtain ⟨schema, hrun, hnames⟩ := toOption_map_eq_some_iff.1 hnames
  obtain ⟨haccepts, hlowers, hauthored⟩ := accepts_wellFormed_lowers_whole htypes ⟨[], []⟩
  obtain ⟨hbuild, hkept⟩ := hlowers hchecked
  refine ⟨htypes, haccepts.1 hchecked, hkept, schema, hrun, ?_, hnames⟩
  rw [hauthored [shelf] schema hrun, List.flatMap_singleton, hbuild]

end Lowering

end GraphSchema
