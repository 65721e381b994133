import Mathlib.Data.List.Forall2
import GraphSchema.Proofs.Linking
import GraphSchema.Schema.Builders

/-!
# Well-linked schemas

Linking looks at every name that a schema refers to, but for those in the arguments of input
fields. It succeeds if all of them resolve, and reports each that does not once. A schema that it
returns differs from the given one in parents and implementors only.
-/

namespace GraphSchema.Linking

/-! ## References -/

/-- A name in a schema, with the place where it stands and the kind that the place asks for. -/
structure Reference where
  place : Place
  name : String
  kind : Option TypeKind

def Reference.resolves (schema : Schema) (reference : Reference) : Bool :=
  (schema.find? reference.name).any fun type => reference.kind.all (type.kind == ·)

def rootReferences (schema : Schema) : List Reference :=
  schema.roots.declared.map fun (operation, name) => ⟨.root operation, name, some .object⟩

def fieldReferences (type : String) (field : Field) : List Reference :=
  ⟨.field type field.name, field.type.baseName, none⟩ ::
    field.arguments.values.map fun argument =>
      ⟨.argument type field.name argument.name, argument.type.baseName, none⟩

def bodyReferences (type : String) : TypeBody → List Reference
  | .object interfaces fields _ =>
    (interfaces.map fun name => ⟨.interfaces type, name, some .interface⟩) ++
      fields.values.flatMap (fieldReferences type)
  | .interface interfaces fields _ _ =>
    (interfaces.map fun name => ⟨.interfaces type, name, some .interface⟩) ++
      fields.values.flatMap (fieldReferences type)
  | .inputObject fields _ =>
    fields.values.map fun field =>
      ⟨.inputField type field.name, field.type.baseName, none⟩
  | .union members => members.map fun name => ⟨.union type, name, some .object⟩
  | .enum _ => []
  | .scalar _ => []

/-- Every reference that linking looks at, in the order in which it does. -/
def references (schema : Schema) : List Reference :=
  rootReferences schema ++ schema.typeList.flatMap fun type => bodyReferences type.name type.body

/-- The references that do not resolve. -/
def violations (schema : Schema) : List Reference :=
  (references schema).filter (!·.resolves schema)

/-! ## Well-linked schemas -/

/-- The name is that of a registered type of the kind. -/
def Names (schema : Schema) (kind : TypeKind) (name : String) : Prop :=
  ∃ type, schema.find? name = some type ∧ type.kind = kind

@[mk_iff]
structure WellLinkedType (schema : Schema) (type : TypeDef) : Prop where
  interfaces : ∀ name ∈ type.interfaces, Names schema .interface name
  members : ∀ members, type.body = .union members → ∀ name ∈ members, Names schema .object name
  fields : ∀ field ∈ type.fieldList, schema.contains field.type.baseName
  arguments : type.kind = .object ∨ type.kind = .interface → ∀ field ∈ type.fieldList,
    ∀ argument ∈ field.arguments.values, schema.contains argument.type.baseName

structure WellLinked (schema : Schema) : Prop where
  query : schema.roots.query.isSome
  roots : ∀ root ∈ schema.roots.declared, Names schema .object root.2
  types : ∀ type ∈ schema.typeList, WellLinkedType schema type

@[simp] theorem resolves_some {schema : Schema} {place : Place} {name : String} {kind : TypeKind} :
    Reference.resolves schema ⟨place, name, some kind⟩ ↔ Names schema kind name := by
  unfold Reference.resolves Names
  cases schema.find? name <;> simp

@[simp] theorem resolves_none {schema : Schema} {place : Place} {name : String} :
    Reference.resolves schema ⟨place, name, none⟩ ↔ schema.contains name := by
  change (schema.find? name).any _ ↔ (schema.find? name).isSome
  cases schema.find? name <;> simp

theorem resolves_fieldReferences_iff {schema : Schema} {type : String} {field : Field} :
    (∀ reference ∈ fieldReferences type field, reference.resolves schema) ↔
      schema.contains field.type.baseName ∧
        ∀ argument ∈ field.arguments.values, schema.contains argument.type.baseName := by
  simp [fieldReferences]

theorem resolves_bodyReferences_iff {schema : Schema} {type : TypeDef} :
    (∀ reference ∈ bodyReferences type.name type.body, reference.resolves schema) ↔
      WellLinkedType schema type := by
  have hfields : (∀ reference ∈ type.fieldList.flatMap (fieldReferences type.name),
      reference.resolves schema) ↔
        (∀ field ∈ type.fieldList, schema.contains field.type.baseName) ∧
          ∀ field ∈ type.fieldList, ∀ argument ∈ field.arguments.values,
            schema.contains argument.type.baseName := by
    simp only [List.forall_mem_flatMap, resolves_fieldReferences_iff, imp_and, forall_and]
  have hinterfaces : ∀ names : List String,
      (∀ reference ∈ names.map fun name =>
        (⟨.interfaces type.name, name, some .interface⟩ : Reference), reference.resolves schema) ↔
        ∀ name ∈ names, Names schema .interface name := fun names =>
    List.forall_mem_map.trans (forall₂_congr fun _ _ => resolves_some)
  obtain ⟨name, description, moduleName, body⟩ := type
  rw [wellLinkedType_iff]
  cases body with
  | object interfaces fields | interface interfaces fields =>
    refine (List.forall_mem_append.trans (and_congr (hinterfaces interfaces) hfields)).trans ?_
    simp [TypeDef.interfaces, TypeBody.interfaces, TypeDef.kind, TypeBody.kind]
  | inputObject | union | enum | scalar =>
    simp [bodyReferences, TypeDef.interfaces, TypeBody.interfaces, TypeDef.fieldList,
      TypeDef.fields?, TypeBody.fields?, TypeDef.kind, TypeBody.kind]

theorem wellLinked_iff {schema : Schema} :
    WellLinked schema ↔ schema.roots.query.isSome ∧ violations schema = [] := by
  have hresolve : violations schema = [] ↔
      ∀ reference ∈ references schema, reference.resolves schema := by
    simp [violations, List.filter_eq_nil_iff]
  have hroots : (∀ reference ∈ rootReferences schema, reference.resolves schema) ↔
      ∀ root ∈ schema.roots.declared, Names schema .object root.2 :=
    List.forall_mem_map.trans (forall₂_congr fun _ _ => resolves_some)
  rw [hresolve, references, List.forall_mem_append, hroots, List.forall_mem_flatMap]
  simp only [resolves_bodyReferences_iff]
  exact ⟨fun h => ⟨h.query, h.roots, h.types⟩, fun ⟨hquery, hroots, htypes⟩ =>
    ⟨hquery, hroots, htypes⟩⟩

/-! ## Blame -/

/-- The error says what is wrong with the reference. -/
inductive Blames (schema : Schema) : Reference → CompileError → Prop where
  | unknown {place : Place} {name : String} {kind : Option TypeKind}
      (missing : schema.find? name = none) :
    Blames schema ⟨place, name, kind⟩ (.unknownType name place)
  | root {operation : Operation} {name : String} {type : TypeDef}
      (found : schema.find? name = some type) (other : type.kind ≠ .object) :
    Blames schema ⟨.root operation, name, some .object⟩ (.invalidRootType operation name type.kind)
  | interface {owner name : String} {type : TypeDef}
      (found : schema.find? name = some type) (other : type.kind ≠ .interface) :
    Blames schema ⟨.interfaces owner, name, some .interface⟩ (.notAnInterface owner name)
  | member {owner name : String} {type : TypeDef}
      (found : schema.find? name = some type) (other : type.kind ≠ .object) :
    Blames schema ⟨.union owner, name, some .object⟩ (.invalidUnionMember owner name)

/-- The errors blame the references that do not resolve, each once and in order. -/
def Blamed (schema : Schema) (references : List Reference) (errors : List CompileError) : Prop :=
  List.Forall₂ (Blames schema) (references.filter (!·.resolves schema)) errors

section

variable {schema : Schema}

theorem Blamed.append {references rest : List Reference} {errors more : List CompileError}
    (h : Blamed schema references errors) (hrest : Blamed schema rest more) :
    Blamed schema (references ++ rest) (errors ++ more) := by
  unfold Blamed
  rw [List.filter_append]
  exact List.rel_append h hrest

theorem Blamed.flatMap {α : Type} {items : List α} {references : α → List Reference}
    {errors : α → List CompileError} (h : ∀ item, Blamed schema (references item) (errors item)) :
    Blamed schema (items.flatMap references) (items.flatMap errors) := by
  induction items with
  | nil => exact .nil
  | cons item rest ih => exact (h item).append ih

theorem Blamed.map {α : Type} {items : List α} {reference : α → Reference}
    {errors : α → List CompileError} (h : ∀ item, Blamed schema [reference item] (errors item)) :
    Blamed schema (items.map reference) (items.flatMap errors) := by
  rw [List.map_eq_flatMap]
  exact Blamed.flatMap h

theorem blamed_refError {place : Place} {name : String} {kind : TypeKind}
    {otherwise : TypeKind → CompileError}
    (h : ∀ type, schema.find? name = some type → type.kind ≠ kind →
      Blames schema ⟨place, name, some kind⟩ (otherwise type.kind)) :
    Blamed schema [⟨place, name, some kind⟩] (refError schema name place (· == kind) otherwise) := by
  unfold Blamed refError Reference.resolves
  cases hfound : schema.find? name with
  | none => simpa [hfound] using .unknown hfound
  | some type =>
    by_cases hkind : type.kind = kind
    · simp [hfound, hkind]
    · simpa [hfound, hkind] using h type hfound hkind

theorem blamed_typeRefErrors {place : Place} {type : TypeRef} :
    Blamed schema [⟨place, type.baseName, none⟩] (typeRefErrors schema type place) := by
  unfold Blamed typeRefErrors
  by_cases h : schema.contains type.baseName
  · simp [h]
  · have hmissing : schema.find? type.baseName = none := Option.not_isSome_iff_eq_none.1 h
    have hresolves : Reference.resolves schema ⟨place, type.baseName, none⟩ = false :=
      Bool.eq_false_iff.2 (mt resolves_none.1 h)
    simpa [h, hresolves] using Blames.unknown hmissing

theorem blamed_fieldErrors (type : String) (field : Field) :
    Blamed schema (fieldReferences type field) (fieldErrors schema type field) :=
  blamed_typeRefErrors.append (.map fun _ => blamed_typeRefErrors)

theorem blamed_bodyErrors (type : String) (body : TypeBody) :
    Blamed schema (bodyReferences type body) (bodyErrors schema type body) := by
  have hinterfaces : ∀ names : List String,
      Blamed schema (names.map fun name => ⟨.interfaces type, name, some .interface⟩)
        (names.flatMap (interfaceErrors schema type)) := fun names =>
    .map fun name => blamed_refError fun _ => .interface
  cases body with
  | object interfaces | interface interfaces =>
    exact (hinterfaces interfaces).append (.flatMap (blamed_fieldErrors type))
  | inputObject => exact .map fun field => blamed_typeRefErrors
  | union => exact .map fun name => blamed_refError fun _ => .member
  | enum | scalar => exact .nil

/-- The errors of linking blame the violations, behind the error of a missing query root. -/
theorem blamed_errors (schema : Schema) : ∃ blamed,
    errors schema = (if schema.roots.query.isNone then [.missingQueryRoot] else []) ++ blamed ∧
      List.Forall₂ (Blames schema) (violations schema) blamed := by
  refine ⟨_, List.append_assoc .., ?_⟩
  refine Blamed.append (.map fun root => ?_) (.flatMap fun type => blamed_bodyErrors ..)
  exact blamed_refError fun _ => .root

end

/-! ## What linking changes -/

/-- The body without parents and implementors. -/
def unlinkedBody : TypeBody → TypeBody
  | .object interfaces fields imports => .object interfaces (stampFields "" fields) imports
  | .interface interfaces fields imports _ =>
    .interface interfaces (stampFields "" fields) imports []
  | .inputObject fields imports => .inputObject (stampFields "" fields) imports
  | other => other

def unlinked (schema : Schema) : Schema :=
  { schema with types := schema.types.mapValues fun _ type =>
      { type with body := unlinkedBody type.body } }

/-- The implementors that an interface lists, none for another kind. -/
def listed (type : TypeDef) : List String :=
  match type.body with
  | .interface _ _ _ implementors => implementors
  | _ => []

/-- The schema is the given one but for parents and implementors, and these are as linking computes
them. -/
structure Links (schema result : Schema) : Prop where
  unlinked : unlinked result = unlinked schema
  parents : ∀ type ∈ result.typeList, ∀ field ∈ type.fieldList, field.parent = type.name
  implementors : ∀ key type, result.find? key = some type → type.kind = .interface →
    listed type = implementorsFor schema key type.name
  -- Two interfaces of one name cannot both get its objects. Types under their own names share none.
  declared : ∀ key type, result.find? key = some type → type.kind = .interface →
    (∀ other found, result.find? other = some found → found.kind = .interface →
      found.name = type.name → other = key) →
    listed type = Linking.implementors schema type.name

theorem unlinked_linked (schema : Schema) : unlinked (linked schema) = unlinked schema := by
  have htypes : (unlinked (linked schema)).types = (unlinked schema).types := by
    apply OrderedMap.ext
    simp only [unlinked, OrderedMap.mapValues, entries_linked, List.map_map]
    apply List.map_congr_left
    rintro ⟨key, type⟩ -
    rw [Function.comp_apply, linkedType_eq]
    cases type.body <;> simp [linkedBody, unlinkedBody, stampFields_stampFields]
  exact congrArg (fun types => { schema with types }) htypes

theorem listed_linkedType {schema : Schema} {key : String} {type : TypeDef}
    (h : type.kind = .interface) :
    listed (linkedType schema key type) = implementorsFor schema key type.name := by
  obtain ⟨name, description, moduleName, body⟩ := type
  cases body with
  | interface => rfl
  | object | union | enum | inputObject | scalar => cases h

theorem firstInterface?_of_unique {schema : Schema} {key : String} {type : TypeDef}
    (hfound : schema.find? key = some type) (hkind : type.kind = .interface)
    (hunique : ∀ other found, schema.find? other = some found → found.kind = .interface →
      found.name = type.name → other = key) :
    firstInterface? schema type.name = some key := by
  rw [firstInterface?_eq]
  cases hfirst : schema.types.entries.find? (isInterface type.name) with
  | none =>
    have hnot := List.find?_eq_none.1 hfirst _ (OrderedMap.get?_eq_some_iff.1 hfound)
    exact absurd (by simp [isInterface, hkind]) hnot
  | some entry =>
    have hentry := List.find?_some hfirst
    rw [isInterface, Bool.and_eq_true, beq_iff_eq, beq_iff_eq] at hentry
    have hother : schema.find? entry.1 = some entry.2 :=
      OrderedMap.get?_eq_some_iff.2 (List.mem_of_find?_eq_some hfirst)
    exact congrArg some (hunique entry.1 entry.2 hother hentry.1 hentry.2)

theorem links_linked (schema : Schema) : Links schema (linked schema) := by
  have himplementors : ∀ key type, (linked schema).find? key = some type →
      type.kind = .interface → listed type = implementorsFor schema key type.name := by
    intro key type hfound hkind
    rw [find?_linked, Option.map_eq_some_iff] at hfound
    obtain ⟨before, -, rfl⟩ := hfound
    rw [kind_linkedType] at hkind
    rw [listed_linkedType hkind, name_linkedType]
  refine ⟨unlinked_linked schema, ?_, himplementors, ?_⟩
  · intro type htype field hfield
    obtain ⟨key, before, -, rfl⟩ := mem_typeList_linked.1 htype
    rw [fieldList_linkedType] at hfield
    obtain ⟨_, -, rfl⟩ := List.mem_map.1 hfield
    rw [name_linkedType]
  · intro key type hfound hkind hunique
    have hfirst := firstInterface?_of_unique hfound hkind hunique
    rw [firstInterface?_linked] at hfirst
    rw [himplementors key type hfound hkind, implementorsFor, if_pos hfirst]

theorem errors_eq_nil_iff {schema : Schema} : errors schema = [] ↔ WellLinked schema := by
  obtain ⟨blamed, herrors, hblamed⟩ := blamed_errors schema
  have hviolations : violations schema = [] ↔ blamed = [] := by
    rw [← List.length_eq_zero_iff, hblamed.length_eq, List.length_eq_zero_iff]
  rw [wellLinked_iff, hviolations, herrors, List.append_eq_nil_iff]
  cases schema.roots.query <;> simp

/-- Linking accepts exactly the well-linked schemas, and changes only parents and implementors.
Otherwise it reports every reference that does not resolve, once and in order. -/
theorem run_links (schema : Schema) :
    ((∃ result, run schema = .ok result) ↔ WellLinked schema) ∧
    (∀ found, run schema = .error found → ∃ blamed,
      found = (if schema.roots.query.isNone then [.missingQueryRoot] else []) ++ blamed ∧
        List.Forall₂ (Blames schema) (violations schema) blamed) ∧
    ∀ result, run schema = .ok result → Links schema result := by
  rw [run_eq]
  refine ⟨?_, ?_, ?_⟩
  · simp only [Checked.unless_eq_ok_iff, exists_and_left, exists_eq', and_true, errors_eq_nil_iff]
  · intro found hfound
    obtain ⟨-, rfl⟩ := Checked.unless_eq_error_iff.1 hfound
    exact blamed_errors schema
  · intro result hresult
    obtain ⟨-, rfl⟩ := Checked.unless_eq_ok_iff.1 hresult
    exact links_linked schema

/-- `Query` declares its interface twice, and the interface lists an object that is not there. -/
def guild : Schema :=
  let fields : FieldMap := .ofFields "Ghost" [{ name := "id", type := .named "ID" }]
  let object (name : String) (interfaces : List String) : TypeDef :=
    { name, body := .object interfaces fields [] }
  Schema.build { query := some "Query" } [
    object "Query" ["Node", "Node"],
    { name := "Node", body := .interface [] fields [] ["Ghost"] },
    object "Mason" ["Node"]]

theorem run_links_guild : ∃ result, run guild = .ok result ∧ WellLinked guild ∧
    Links guild result ∧ (result.find? "Node").map listed = some ["Query", "Query", "Mason"] := by
  obtain ⟨haccepts, -, hlinks⟩ := run_links guild
  have hrun : run guild = .ok (linked guild) := by
    rw [run_eq, Checked.unless_eq_ok_iff]
    exact ⟨by decide, rfl⟩
  exact ⟨_, hrun, haccepts.1 ⟨_, hrun⟩, hlinks _ hrun, by decide⟩

end GraphSchema.Linking
