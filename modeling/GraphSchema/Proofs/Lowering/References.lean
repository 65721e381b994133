import GraphSchema.Proofs.Lowering.Names

/-!
# References in other spellings

The name of a type is spelled so that it names the type again: it has no underscore, begins with no
small letter and so is none of the words for built-in scalars. A module may write its references to
types in either spelling.
-/

namespace GraphSchema

namespace Name

open GraphSchema.Text

/-! ## Names of names -/

/-- The words for built-in scalars. -/
def scalarWords : List String := ["string", "integer", "int", "float", "boolean", "bool", "id"]

theorem typeName_of_not_mem {name : String} (h : name ∉ scalarWords) :
    typeName name = pascal name := by
  simp only [scalarWords, List.mem_cons, List.not_mem_nil, or_false, not_or] at h
  simp [typeName, h]

theorem isAlphanum_pascalChars {text : List Char} (h : ∀ c ∈ text, isPart c) :
    ∀ c ∈ pascalChars text, c.isAlphanum := by
  intro c hc
  obtain ⟨word, hword, hc⟩ := List.mem_flatMap.1 hc
  refine isAlphanum_capitalize (fun d hd => ?_) c hc
  obtain ⟨hmem, hne⟩ := mem_split hword hd
  exact isAlphanum_of_isPart (h d hmem) hne

/-- The first character is no small letter. -/
theorem pascalChars_head {text : List Char} (h : ∀ c ∈ text, isPart c) :
    pascalChars text = [] ∨
      ∃ (c : Char) (rest : List Char), pascalChars text = c.toUpper :: rest := by
  cases hlead : text.dropWhile (· == '_') with
  | nil =>
    rw [← pascalChars_dropWhile, hlead]
    exact .inl rfl
  | cons c rest =>
    obtain ⟨-, tail, heq, -⟩ := pascalChars_of_dropWhile h hlead
    exact .inr ⟨c, tail, heq⟩

theorem pascalChars_pascalChars {text : List Char} (h : ∀ c ∈ text, isPart c) :
    pascalChars (pascalChars text) = pascalChars text := by
  -- Without underscores there is one word, which begins with a capital already.
  have hletters := isAlphanum_pascalChars h
  have hone : pascalChars (pascalChars text) = capitalize (pascalChars text) := by
    rw [pascalChars, split_of_not_mem (score_not_mem hletters), List.flatMap_singleton]
  rw [hone]
  rcases pascalChars_head h with hnil | ⟨c, rest, hcons⟩
  · rw [hnil]
    rfl
  · rw [hcons] at hletters ⊢
    rw [capitalize, upper_of_ascii (toNat_lt_of_isAlphanum (hletters _ List.mem_cons_self)),
      Char.toUpper_toUpper_eq_toUpper]
    rfl

section

variable {identifier : String} (h : IsIdentifier identifier)
include h

theorem pascal_pascal : pascal (pascal identifier) = pascal identifier := by
  unfold pascal
  rw [String.toList_ofList, pascalChars_pascalChars (isPart_of_isIdentifier h)]

/-- The words begin with small letters. -/
theorem pascal_not_mem_scalarWords : pascal identifier ∉ scalarWords := by
  have hsmall : ∀ word ∈ scalarWords, word.toList.head?.any Char.isLower := by decide
  intro hmem
  have hlower := hsmall _ hmem
  rw [pascal, String.toList_ofList] at hlower
  rcases pascalChars_head (isPart_of_isIdentifier h) with hnil | ⟨c, rest, hcons⟩
  · rw [hnil] at hlower
    cases hlower
  · rw [hcons, List.head?_cons, Option.any_some, Char.isLower_toUpper_eq_false] at hlower
    cases hlower

theorem typeName_not_mem_scalarWords : typeName identifier ∉ scalarWords := by
  by_cases hword : identifier ∈ scalarWords
  · have hall : ∀ word ∈ scalarWords, typeName word ∉ scalarWords := by decide
    exact hall identifier hword
  · rw [typeName_of_not_mem hword]
    exact pascal_not_mem_scalarWords h

theorem pascal_typeName : pascal (typeName identifier) = typeName identifier := by
  by_cases hword : identifier ∈ scalarWords
  · have hall : ∀ word ∈ scalarWords, pascal (typeName word) = typeName word := by decide
    exact hall identifier hword
  · rw [typeName_of_not_mem hword, pascal_pascal h]

theorem typeName_typeName : typeName (typeName identifier) = typeName identifier := by
  rw [typeName_of_not_mem (typeName_not_mem_scalarWords h), pascal_typeName h]

end

end Name

/-! ## References of modules -/

def FieldDecl.references (decl : FieldDecl) : List String :=
  decl.type.baseName :: decl.arguments.values.map (·.type.baseName)

/-- The types that a declaration refers to, by the names that its author wrote. -/
def DeclContent.references : DeclContent → List String
  | object decl | interface decl =>
    decl.interfaces ++ decl.imports.map (·.source) ++
      decl.fields.values.flatMap FieldDecl.references
  | union decl => decl.members
  | enum _ => []
  | input decl => decl.imports.map (·.source) ++ decl.fields.values.map (·.type.baseName)
  | scalar _ => []

def SchemaModule.references (m : SchemaModule) : List String :=
  m.roots.declared.map Prod.snd ++ m.contents.flatMap (·.2.references)

/-! ## Modules in other spellings

What a module declares keeps its identifier. -/

section

variable (spell : String → String)

def FieldImport.respelled (request : FieldImport) : FieldImport :=
  { request with source := spell request.source }

def InputValueDecl.respelled (decl : InputValueDecl) : InputValueDecl :=
  { decl with type := decl.type.mapName spell }

def FieldDecl.respelled (decl : FieldDecl) : FieldDecl :=
  { decl with
    type := decl.type.mapName spell
    arguments := decl.arguments.mapValues fun _ argument => argument.respelled spell }

def CompositeDecl.respelled (decl : CompositeDecl) : CompositeDecl :=
  { decl with
    interfaces := decl.interfaces.map spell
    imports := decl.imports.map (·.respelled spell)
    fields := decl.fields.mapValues fun _ field => field.respelled spell }

def UnionDecl.respelled (decl : UnionDecl) : UnionDecl :=
  { decl with members := decl.members.map spell }

def InputDecl.respelled (decl : InputDecl) : InputDecl :=
  { decl with
    imports := decl.imports.map (·.respelled spell)
    fields := decl.fields.mapValues fun _ field => field.respelled spell }

def DeclContent.respelled : DeclContent → DeclContent
  | object decl => object (decl.respelled spell)
  | interface decl => interface (decl.respelled spell)
  | union decl => union (decl.respelled spell)
  | enum decl => enum decl
  | input decl => input (decl.respelled spell)
  | scalar decl => scalar decl

def Roots.respelled (roots : Roots) : Roots where
  query := roots.query.map spell
  mutation := roots.mutation.map spell
  subscription := roots.subscription.map spell

def SchemaModule.respelled (m : SchemaModule) : SchemaModule :=
  { m with
    roots := m.roots.respelled spell
    objects := m.objects.mapValues fun _ decl => decl.respelled spell
    interfaces := m.interfaces.mapValues fun _ decl => decl.respelled spell
    unions := m.unions.mapValues fun _ decl => decl.respelled spell
    inputs := m.inputs.mapValues fun _ decl => decl.respelled spell }

theorem Roots.declared_respelled (roots : Roots) :
    (roots.respelled spell).declared =
      roots.declared.map fun (operation, name) => (operation, spell name) := by
  obtain ⟨query, mutation, subscription⟩ := roots
  cases query <;> cases mutation <;> cases subscription <;> rfl

theorem SchemaModule.contents_respelled (m : SchemaModule) :
    (m.respelled spell).contents =
      m.contents.map fun (name, content) => (name, content.respelled spell) := by
  simp only [contents, DeclContent.listed, List.map_append, List.map_map]
  simp only [respelled, OrderedMap.mapValues, List.map_map]
  rfl

end

namespace Lowering

/-! ## Lowering in other spellings -/

/-- The names make the same names of types in the other spelling. -/
def KeepsTypes (spell : String → String) (names : List String) : Prop :=
  ∀ name ∈ names, Name.typeName (spell name) = Name.typeName name

section

variable {spell : String → String}

theorem keepsTypes_append {names others : List String} :
    KeepsTypes spell (names ++ others) ↔ KeepsTypes spell names ∧ KeepsTypes spell others :=
  List.forall_mem_append

theorem map_respelled {names : List String} (h : KeepsTypes spell names) :
    (names.map spell).map Name.typeName = names.map Name.typeName := by
  rw [List.map_map]
  exact List.map_congr_left h

theorem typeRef_mapName {type : TypeRef}
    (h : Name.typeName (spell type.baseName) = Name.typeName type.baseName) :
    typeRef (type.mapName spell) = typeRef type := by
  unfold typeRef
  induction type with
  | named name => exact congrArg TypeRef.named h
  | nonNull inner ih => exact congrArg TypeRef.nonNull (ih h)
  | list item ih => exact congrArg TypeRef.list (ih h)

theorem fieldImports_respelled {imports : List FieldImport}
    (h : KeepsTypes spell (imports.map (·.source))) :
    (imports.map (·.respelled spell)).map fieldImport = imports.map fieldImport := by
  rw [List.map_map]
  refine List.map_congr_left fun request hrequest => ?_
  have hsource := h request.source (List.mem_map_of_mem hrequest)
  simp only [Function.comp_apply, fieldImport, FieldImport.respelled, hsource]

theorem fieldsOf_changed {α : Type} {lower : String → α → Field} {change : α → α}
    {fields : OrderedMap String α} (parent : String)
    (h : ∀ decl ∈ fields.values, ∀ name, lower name (change decl) = lower name decl) :
    fieldsOf parent lower (fields.mapValues fun _ decl => change decl) =
      fieldsOf parent lower fields :=
  OrderedMap.mapValues_changed fun decl hdecl name => by rw [h decl hdecl name]

theorem argument_respelled {decl : InputValueDecl} (name : String)
    (h : Name.typeName (spell decl.type.baseName) = Name.typeName decl.type.baseName) :
    argument name (decl.respelled spell) = argument name decl := by
  simp only [argument, InputValueDecl.respelled, typeRef_mapName h]

theorem inputField_respelled {decl : InputValueDecl} (name : String)
    (h : Name.typeName (spell decl.type.baseName) = Name.typeName decl.type.baseName) :
    inputField name (decl.respelled spell) = inputField name decl := by
  simp only [inputField, InputValueDecl.respelled, typeRef_mapName h]

theorem field_respelled {decl : FieldDecl} (name : String) (h : KeepsTypes spell decl.references) :
    field name (decl.respelled spell) = field name decl := by
  have htype : typeRef (decl.type.mapName spell) = typeRef decl.type :=
    typeRef_mapName (h _ List.mem_cons_self)
  have harguments : (decl.respelled spell).arguments.mapValues argument =
      decl.arguments.mapValues argument := by
    refine OrderedMap.mapValues_changed fun value hvalue key => argument_respelled key (h _ ?_)
    exact List.mem_cons_of_mem _ (List.mem_map_of_mem hvalue)
  unfold field
  rw [harguments]
  simp only [FieldDecl.respelled, htype]

theorem bodyOf_respelled (name : String) {content : DeclContent}
    (h : KeepsTypes spell content.references) :
    bodyOf name (content.respelled spell) = bodyOf name content := by
  cases content with
  | object decl | interface decl =>
    obtain ⟨hnames, hfields⟩ := keepsTypes_append.1 h
    obtain ⟨hinterfaces, himports⟩ := keepsTypes_append.1 hnames
    have hlowered : fieldsOf name field (decl.respelled spell).fields =
        fieldsOf name field decl.fields :=
      fieldsOf_changed name fun field hfield key => field_respelled key fun other hother =>
        hfields other (List.mem_flatMap.2 ⟨field, hfield, hother⟩)
    simp only [DeclContent.respelled, bodyOf, objectBody, interfaceBody, hlowered]
    simp only [CompositeDecl.respelled, map_respelled hinterfaces, fieldImports_respelled himports]
  | union decl => exact congrArg TypeBody.union (map_respelled h)
  | input decl =>
    obtain ⟨himports, hfields⟩ := keepsTypes_append.1 h
    have hlowered : fieldsOf name inputField (decl.respelled spell).fields =
        fieldsOf name inputField decl.fields :=
      fieldsOf_changed name fun field hfield key =>
        inputField_respelled key (hfields _ (List.mem_map_of_mem hfield))
    simp only [DeclContent.respelled, bodyOf, inputBody, hlowered]
    simp only [InputDecl.respelled, fieldImports_respelled himports]
  | enum | scalar => rfl

theorem typesOf_respelled {m : SchemaModule} (h : KeepsTypes spell m.references) :
    typesOf (m.respelled spell) = typesOf m := by
  have hcontents := (keepsTypes_append.1 h).2
  rw [typesOf_eq_map, typesOf_eq_map, SchemaModule.contents_respelled, List.map_map]
  refine List.map_congr_left fun declared hdeclared => ?_
  have hbody (name : String) :
      bodyOf name (declared.2.respelled spell) = bodyOf name declared.2 :=
    bodyOf_respelled name fun other hother =>
      hcontents other (List.mem_flatMap.2 ⟨declared, hdeclared, hother⟩)
  have hdescription : (declared.2.respelled spell).description = declared.2.description := by
    cases declared.2 <;> rfl
  simp only [Function.comp_apply, lowered, typeOf, hbody, hdescription, SchemaModule.respelled]

theorem addRoots_respelled {roots : Roots}
    (h : KeepsTypes spell (roots.declared.map Prod.snd)) (draft : Draft) :
    (roots.respelled spell).declared.foldl Draft.addRoot draft =
      roots.declared.foldl Draft.addRoot draft := by
  rw [Roots.declared_respelled, List.foldl_map]
  refine List.foldl_ext _ _ draft fun gathered (operation, identifier) hroot => ?_
  have hname := h identifier (List.mem_map_of_mem hroot)
  unfold Draft.addRoot
  dsimp only
  rw [hname]

theorem run_respelled {modules : List SchemaModule}
    (h : ∀ m ∈ modules, KeepsTypes spell m.references) :
    run (modules.map (·.respelled spell)) = run modules := by
  have hdraft : (modules.map (·.respelled spell)).foldl Draft.addModule {} =
      modules.foldl Draft.addModule {} := by
    rw [List.foldl_map]
    refine List.foldl_ext _ _ _ fun draft m hm => ?_
    have hroots := addRoots_respelled (keepsTypes_append.1 (h m hm)).1 draft
    unfold Draft.addModule
    rw [typesOf_respelled (h m hm)]
    exact congrArg (List.foldl Draft.addType · (typesOf m)) hroots
  unfold run
  rw [hdraft]

end

/-- The name of a type is no word for a built-in scalar and is its own name as a type. So modules
say the same if some of their references are written as the names of the types themselves. -/
theorem typeName_stable :
    (∀ identifier, Name.IsIdentifier identifier →
      Name.typeName (Name.typeName identifier) = Name.typeName identifier ∧
      Name.typeName identifier ∉ Name.scalarWords ∧
      Name.pascal (Name.typeName identifier) = Name.typeName identifier) ∧
    ∀ (modules : List SchemaModule) (spell : String → String),
      (∀ m ∈ modules, ∀ name ∈ m.references, Name.IsIdentifier name) →
      (∀ name, spell name = name ∨ spell name = Name.typeName name) →
      run (modules.map (·.respelled spell)) = run modules := by
  refine ⟨fun identifier h => ⟨Name.typeName_typeName h, Name.typeName_not_mem_scalarWords h,
    Name.pascal_typeName h⟩, fun modules spell hnames hspell => ?_⟩
  refine run_respelled fun m hm name hname => ?_
  rcases hspell name with heq | heq
  · rw [heq]
  · rw [heq, Name.typeName_typeName (hnames m hm name hname)]

def orders : SchemaModule where
  name := "orders"
  roots := { query := some "order_desk" }
  objects := .ofList
    [("order_desk", {
        fields := .ofList
          [("open", {
              type := .list (.named "line_item")
              arguments := .ofList [("at_most", { type := .named "int" })] })] }),
      ("line_item", { fields := .ofList [("amount", { type := .nonNull (.named "integer") })] })]

theorem typeName_stable_orders :
    (orders.respelled Name.typeName).references = ["OrderDesk", "LineItem", "Int", "Int"] ∧
      (run [orders]).isOk ∧ run [orders.respelled Name.typeName] = run [orders] ∧
      Name.typeName (Name.typeName "line_item") = Name.typeName "line_item" := by
  have hnames : ∀ m ∈ [orders], ∀ name ∈ m.references, Name.IsIdentifier name := by
    have hvalid : ∀ name ∈ ["order_desk", "line_item", "int", "integer"], Name.isValid name := by
      decide
    have hreferences : orders.references = ["order_desk", "line_item", "int", "integer"] := by cbv
    rw [List.forall_mem_singleton, hreferences]
    exact fun name hname => Name.isValid_iff_isIdentifier.1 (hvalid name hname)
  have hidentifier : Name.IsIdentifier "line_item" :=
    Name.isValid_iff_isIdentifier.1 (by decide)
  exact ⟨by cbv, by cbv, typeName_stable.2 [orders] Name.typeName hnames fun _ => .inr rfl,
    (typeName_stable.1 "line_item" hidentifier).1⟩

end Lowering

end GraphSchema
