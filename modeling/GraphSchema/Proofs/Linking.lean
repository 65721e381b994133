import Mathlib.Data.List.Basic
import GraphSchema.Compile.Linking

/-!
# Linked schemas

Linking stamps parents and lists implementors. It changes nothing that its own checks or the lists
depend on, so a linked schema passes if the schema did, and linking it again changes nothing.
-/

namespace GraphSchema.Linking

/-! ## The linked schema

What linking computes in two passes, said of each type at once. -/

/-- The objects that declare an interface, in registration order, once for each declaration. -/
def implementors (schema : Schema) (interface : String) : List String :=
  schema.typeList.flatMap fun type =>
    match type.body with
    | .object interfaces _ _ => (interfaces.filter (· == interface)).map fun _ => type.name
    | _ => []

/-- The key of the first interface that has a name. -/
def firstInterface? (schema : Schema) (name : String) : Option String :=
  (schema.types.entries.find? fun entry =>
    entry.2.kind == .interface && entry.2.name == name).map Prod.fst

/-- The implementors that an interface gets. Of several interfaces with one name, only the first
gets them. -/
def implementorsFor (schema : Schema) (key name : String) : List String :=
  if firstInterface? schema name = some key then implementors schema name else []

def setImplementors (schema : Schema) (key : String) (type : TypeDef) : TypeDef :=
  match type.body with
  | .interface interfaces fields imports _ =>
    let implementors := implementorsFor schema key type.name
    { type with body := .interface interfaces fields imports implementors }
  | _ => type

def linked (schema : Schema) : Schema :=
  { schema with
    types := schema.types.mapValues fun key type => setImplementors schema key (stampParents type) }

/-! ### The first pass -/

theorem Roll.of_enter (object : String) (roll : Roll) (interface name : String) :
    (roll.enter object interface).of name =
      roll.of name ++ if interface = name then [object] else [] := by
  unfold Roll.enter
  by_cases h : name = interface
  · subst h; simp [Roll.of]
  · simp [Roll.of, OrderedMap.get?_insert_of_ne _ h, Ne.symm h]

theorem Roll.of_foldl_enter (object : String) (interfaces : List String) (roll : Roll)
    (name : String) : (interfaces.foldl (Roll.enter object) roll).of name =
      roll.of name ++ (interfaces.filter (· == name)).map fun _ => object := by
  induction interfaces generalizing roll with
  | nil => simp
  | cons interface rest ih =>
    rw [List.foldl_cons, ih, Roll.of_enter]
    by_cases h : interface = name <;> simp [h]

theorem Roll.of_foldl_enterType (types : List TypeDef) (roll : Roll) (name : String) :
    (types.foldl Roll.enterType roll).of name = roll.of name ++ types.flatMap fun type =>
      match type.body with
      | .object interfaces _ _ => (interfaces.filter (· == name)).map fun _ => type.name
      | _ => [] := by
  induction types generalizing roll with
  | nil => simp
  | cons type rest ih =>
    rw [List.foldl_cons, ih, List.flatMap_cons, ← List.append_assoc]
    congr 1
    obtain ⟨own, description, moduleName, body⟩ := type
    cases body with
    | object interfaces => exact Roll.of_foldl_enter own interfaces roll name
    | interface | union | enum | inputObject | scalar => exact (List.append_nil _).symm

theorem of_roll (schema : Schema) (name : String) :
    (roll schema).of name = implementors schema name :=
  Roll.of_foldl_enterType schema.typeList .empty name

/-! ### The second pass -/

theorem Roll.of_erase (roll : Roll) (interface name : String) :
    Roll.of (roll.erase interface) name = if name = interface then [] else roll.of name := by
  unfold Roll.of
  rw [OrderedMap.get?_erase]
  split <;> rfl

/-- The entry holds an interface of the name. -/
def isInterface (name : String) (entry : String × TypeDef) : Bool :=
  entry.2.kind == .interface && entry.2.name == name

theorem firstInterface?_eq (schema : Schema) (name : String) :
    firstInterface? schema name =
      (schema.types.entries.find? (isInterface name)).map Prod.fst :=
  rfl

/-- An interface is the first of its name if none stands before it. -/
theorem firstInterface?_of_place {schema : Schema} {done rest : List (String × TypeDef)}
    {key : String} {type : TypeDef} (hentries : schema.types.entries = done ++ (key, type) :: rest)
    (hkind : type.kind = .interface) :
    firstInterface? schema type.name = some key ↔ done.any (isInterface type.name) = false := by
  have hself : isInterface type.name (key, type) = true := by simp [isInterface, hkind]
  rw [firstInterface?_eq, hentries, List.find?_append]
  cases hfound : done.find? (isInterface type.name) with
  | none =>
    have hnone : done.any (isInterface type.name) = false := by simpa using hfound
    simp [hself, hnone]
  | some entry =>
    have hmem : entry ∈ done := List.mem_of_find?_eq_some hfound
    have hany : done.any (isInterface type.name) = true :=
      List.any_eq_true.2 ⟨entry, hmem, List.find?_some hfound⟩
    have hne : entry.1 ≠ key := by
      rintro rfl
      have hnodup := schema.types.nodup
      rw [hentries, List.map_append, List.map_cons, List.nodup_append] at hnodup
      exact hnodup.2.2 _ (List.mem_map_of_mem hmem) _ List.mem_cons_self rfl
    simp [hany, hne]

theorem handOut_of_kind_ne {type : TypeDef} (h : type.kind ≠ .interface) (roll : Roll)
    (key : String) (rest : List (String × TypeDef)) :
    handOut roll ((key, type) :: rest) = (key, type) :: handOut roll rest := by
  obtain ⟨name, description, moduleName, body⟩ := type
  cases body with
  | interface => exact absurd rfl h
  | object | union | enum | inputObject | scalar => rfl

theorem setImplementors_of_kind_ne {type : TypeDef} (h : type.kind ≠ .interface) (schema : Schema)
    (key : String) : setImplementors schema key type = type := by
  obtain ⟨name, description, moduleName, body⟩ := type
  cases body with
  | interface => exact absurd rfl h
  | object | union | enum | inputObject | scalar => rfl

theorem handOut_of_kind_eq {type : TypeDef} (h : type.kind = .interface) {schema : Schema}
    {roll : Roll} {key : String} (hroll : roll.of type.name = implementorsFor schema key type.name)
    (rest : List (String × TypeDef)) :
    handOut roll ((key, type) :: rest) =
      (key, setImplementors schema key type) :: handOut (roll.erase type.name) rest := by
  obtain ⟨name, description, moduleName, body⟩ := type
  cases body with
  | interface => rw [handOut, hroll]; rfl
  | object | union | enum | inputObject | scalar => cases h

/-- The roll of what is not handed out yet gives every interface its implementors. -/
theorem handOut_eq {schema : Schema} {done rest : List (String × TypeDef)} {roll : Roll}
    (hentries : schema.types.entries = done ++ rest)
    (hroll : ∀ name, roll.of name =
      if done.any (isInterface name) then [] else implementors schema name) :
    handOut roll rest = rest.map fun entry =>
      (entry.1, setImplementors schema entry.1 entry.2) := by
  induction rest generalizing done roll with
  | nil => rfl
  | cons entry rest ih =>
    obtain ⟨key, type⟩ := entry
    have hnext : schema.types.entries = (done ++ [(key, type)]) ++ rest := by simp [hentries]
    rw [List.map_cons]
    by_cases hkind : type.kind = .interface
    · have hgiven : roll.of type.name = implementorsFor schema key type.name := by
        have hfirst := firstInterface?_of_place hentries hkind
        rw [hroll, implementorsFor, if_congr hfirst rfl rfl]
        cases done.any (isInterface type.name) <;> rfl
      have hleft : ∀ name, Roll.of (roll.erase type.name) name =
          if (done ++ [(key, type)]).any (isInterface name) then []
            else implementors schema name := by
        intro name
        rw [Roll.of_erase, hroll, List.any_append]
        by_cases hname : name = type.name
        · simp [hname, isInterface, hkind]
        · have hother : isInterface name (key, type) = false := by
            simp [isInterface, Ne.symm hname]
          rw [if_neg hname, List.any_cons, hother, List.any_nil, Bool.or_false, Bool.or_false]
      rw [handOut_of_kind_eq hkind hgiven, ih hnext hleft]
    · have hleft : ∀ name, roll.of name =
          if (done ++ [(key, type)]).any (isInterface name) then []
            else implementors schema name := by
        intro name
        have hother : isInterface name (key, type) = false := by simp [isInterface, hkind]
        rw [hroll, List.any_append, List.any_cons, hother, List.any_nil, Bool.or_false,
          Bool.or_false]
      rw [handOut_of_kind_ne hkind, setImplementors_of_kind_ne hkind, ih hnext hleft]

theorem withImplementors_eq (schema : Schema) :
    withImplementors schema =
      { schema with types := schema.types.mapValues (setImplementors schema) } := by
  have htypes : handOut (roll schema) schema.types.entries =
      schema.types.entries.map fun entry => (entry.1, setImplementors schema entry.1 entry.2) :=
    handOut_eq (List.nil_append _).symm fun name => by simp [of_roll]
  unfold withImplementors OrderedMap.mapValues
  simp only [htypes]

/-! ### Both passes -/

@[simp] theorem name_stampParents (type : TypeDef) : (stampParents type).name = type.name := by
  cases h : type.fields? <;> simp [stampParents, h]

@[simp] theorem kind_stampParents (type : TypeDef) : (stampParents type).kind = type.kind := by
  rcases type with ⟨name, description, moduleName, body⟩
  cases body <;> rfl

theorem entries_stamped (schema : Schema) :
    (stamped schema).types.entries =
      schema.types.entries.map fun entry => (entry.1, stampParents entry.2) :=
  rfl

/-- Stamping changes neither the interfaces that objects declare nor which interface is first. -/
theorem implementorsFor_stamped (schema : Schema) (key name : String) :
    implementorsFor (stamped schema) key name = implementorsFor schema key name := by
  have hfirst : firstInterface? (stamped schema) name = firstInterface? schema name := by
    simp only [firstInterface?, entries_stamped, List.find?_map, Option.map_map, Function.comp_def,
      name_stampParents, kind_stampParents]
  have himplementors : implementors (stamped schema) name = implementors schema name := by
    simp only [implementors, Schema.typeList, OrderedMap.values, entries_stamped,
      List.flatMap_map, List.map_map, Function.comp_def]
    apply List.flatMap_congr
    rintro ⟨key, ⟨name, description, moduleName, body⟩⟩ -
    cases body <;> rfl
  rw [implementorsFor, implementorsFor, hfirst, himplementors]

theorem withImplementors_stamped (schema : Schema) :
    withImplementors (stamped schema) = linked schema := by
  have hset : setImplementors (stamped schema) = setImplementors schema := by
    funext key type
    simp only [setImplementors, implementorsFor_stamped]
  have htypes : (stamped schema).types.mapValues (setImplementors schema) =
      (linked schema).types := by
    apply OrderedMap.ext
    simp [stamped, linked, OrderedMap.mapValues]
  rw [withImplementors_eq, hset, htypes]
  rfl

theorem run_eq (schema : Schema) : run schema = Checked.unless (errors schema) (linked schema) := by
  rw [run, withImplementors_stamped]

/-! ## One type -/

@[simp] theorem values_stampFields (parent : String) (fields : FieldMap) :
    (stampFields parent fields).values = fields.values.map ({ · with parent }) := by
  simp [stampFields, OrderedMap.values, OrderedMap.mapValues]

theorem stampFields_stampFields (parent other : String) (fields : FieldMap) :
    stampFields parent (stampFields other fields) = stampFields parent fields := by
  apply OrderedMap.ext
  simp [stampFields, OrderedMap.mapValues]

/-- What linking makes of the type that stands under a key. -/
def linkedType (schema : Schema) (key : String) (type : TypeDef) : TypeDef :=
  setImplementors schema key (stampParents type)

/-- What linking makes of the body of a type. -/
def linkedBody (schema : Schema) (key name : String) : TypeBody → TypeBody
  | .object interfaces fields imports => .object interfaces (stampFields name fields) imports
  | .interface interfaces fields imports _ =>
    .interface interfaces (stampFields name fields) imports (implementorsFor schema key name)
  | .inputObject fields imports => .inputObject (stampFields name fields) imports
  | other => other

theorem linkedType_eq (schema : Schema) (key : String) (type : TypeDef) :
    linkedType schema key type =
      { type with body := linkedBody schema key type.name type.body } := by
  rcases type with ⟨name, description, moduleName, body⟩
  cases body <;> rfl

@[simp] theorem name_linkedType (schema : Schema) (key : String) (type : TypeDef) :
    (linkedType schema key type).name = type.name := by
  rw [linkedType_eq]

@[simp] theorem kind_linkedType (schema : Schema) (key : String) (type : TypeDef) :
    (linkedType schema key type).kind = type.kind := by
  rw [linkedType_eq]
  cases h : type.body <;> simp [TypeDef.kind, linkedBody, TypeBody.kind, h]

@[simp] theorem imports_linkedType (schema : Schema) (key : String) (type : TypeDef) :
    (linkedType schema key type).imports = type.imports := by
  rw [linkedType_eq]
  cases h : type.body <;> simp [TypeDef.imports, linkedBody, TypeBody.imports, h]

@[simp] theorem fieldList_linkedType (schema : Schema) (key : String) (type : TypeDef) :
    (linkedType schema key type).fieldList =
      type.fieldList.map ({ · with parent := type.name }) := by
  rw [linkedType_eq]
  cases h : type.body <;> simp [TypeDef.fieldList, TypeDef.fields?, linkedBody, TypeBody.fields?, h]

/-- Linking a type twice is linking it once, if it gets the same implementors. -/
theorem linkedType_linkedType {schema other : Schema} {key : String} {type : TypeDef}
    (h : implementorsFor other key type.name = implementorsFor schema key type.name) :
    linkedType other key (linkedType schema key type) = linkedType schema key type := by
  rw [linkedType_eq schema, linkedType_eq]
  cases type.body <;> simp [linkedBody, stampFields_stampFields, h]

/-! ## Lookups -/

theorem find?_linked (schema : Schema) (key : String) :
    (linked schema).find? key = (schema.find? key).map (linkedType schema key) :=
  OrderedMap.get?_mapValues schema.types _ key

theorem entries_linked (schema : Schema) :
    (linked schema).types.entries =
      schema.types.entries.map fun entry => (entry.1, linkedType schema entry.1 entry.2) :=
  rfl

/-- The implementors of an interface are names of registered types. -/
theorem contains_of_mem_implementorsFor {schema : Schema} (h : schema.types.KeyedBy TypeDef.name)
    {key interface name : String} (hname : name ∈ implementorsFor schema key interface) :
    schema.contains name := by
  unfold implementorsFor at hname
  split at hname
  · obtain ⟨type, htype, hdeclares⟩ := List.mem_flatMap.1 hname
    obtain ⟨key, hfound⟩ := OrderedMap.mem_values_iff.1 htype
    have hsame : name = type.name := by
      split at hdeclares
      · obtain ⟨_, -, rfl⟩ := List.mem_map.1 hdeclares
        rfl
      · cases hdeclares
    rw [hsame, h.of_get? hfound]
    exact Option.isSome_iff_exists.2 ⟨type, hfound⟩
  · cases hname

theorem mem_typeList_linked {schema : Schema} {type : TypeDef} :
    type ∈ (linked schema).typeList ↔
      ∃ key before, schema.find? key = some before ∧ linkedType schema key before = type := by
  simp only [Schema.typeList, OrderedMap.mem_values_iff]
  constructor
  · rintro ⟨key, hfound⟩
    rw [← Schema.find?, find?_linked, Option.map_eq_some_iff] at hfound
    obtain ⟨before, hbefore, rfl⟩ := hfound
    exact ⟨key, before, hbefore, rfl⟩
  · rintro ⟨key, before, hbefore, rfl⟩
    refine ⟨key, ?_⟩
    rw [← Schema.find?, find?_linked, hbefore, Option.map_some]

theorem contains_linked (schema : Schema) (name : String) :
    (linked schema).contains name = schema.contains name := by
  simp only [Schema.contains, OrderedMap.contains]
  rw [← Schema.find?, find?_linked, Option.isSome_map, Schema.find?]

/-! ## Checks -/

theorem find?_of_refError {schema : Schema} {name : String} {place : Place}
    {accepts : TypeKind → Bool} {otherwise : TypeKind → CompileError}
    (h : refError schema name place accepts otherwise = []) :
    ∃ type, schema.find? name = some type ∧ accepts type.kind := by
  unfold refError at h
  split at h
  · cases h
  · rename_i type hfound
    refine ⟨type, hfound, ?_⟩
    by_contra hnot
    rw [if_neg hnot] at h
    cases h

theorem find?_interface {schema : Schema} (h : errors schema = []) {type : TypeDef}
    (htype : type ∈ schema.typeList) {name : String} (hname : name ∈ type.interfaces) :
    ∃ interface, schema.find? name = some interface ∧ interface.kind = .interface := by
  rw [errors, List.append_eq_nil_iff, List.flatMap_eq_nil_iff] at h
  have hbody := h.2 type htype
  rcases type with ⟨own, description, moduleName, body⟩
  cases body with
  | object interfaces | interface interfaces =>
    rw [bodyErrors, List.append_eq_nil_iff, List.flatMap_eq_nil_iff] at hbody
    obtain ⟨interface, hfound, hkind⟩ := find?_of_refError (hbody.1 name hname)
    exact ⟨interface, hfound, beq_iff_eq.1 hkind⟩
  | union | enum | inputObject | scalar => cases hname

theorem refError_linked (schema : Schema) (name : String) (place : Place)
    (accepts : TypeKind → Bool) (otherwise : TypeKind → CompileError) :
    refError (linked schema) name place accepts otherwise =
      refError schema name place accepts otherwise := by
  unfold refError
  rw [find?_linked]
  cases schema.find? name <;> simp

theorem rootErrors_linked (schema : Schema) : rootErrors (linked schema) = rootErrors schema := by
  simp only [rootErrors, refError_linked]
  rfl

theorem bodyErrors_linked (schema : Schema) (type : String) (body : TypeBody) :
    bodyErrors (linked schema) type body = bodyErrors schema type body := by
  have hfield : fieldErrors (linked schema) type = fieldErrors schema type := by
    funext field
    simp only [fieldErrors, typeRefErrors, contains_linked]
  have hinterface : interfaceErrors (linked schema) type = interfaceErrors schema type := by
    funext name
    exact refError_linked ..
  have hmember : memberErrors (linked schema) type = memberErrors schema type := by
    funext name
    exact refError_linked ..
  cases body <;> simp [bodyErrors, hfield, hinterface, hmember, typeRefErrors, contains_linked]

/-- The checks of a type read neither parents nor implementors. -/
theorem bodyErrors_linkedType (schema : Schema) (key : String) (type : TypeDef) :
    bodyErrors schema type.name (linkedType schema key type).body =
      bodyErrors schema type.name type.body := by
  have hfield : ∀ parent field, fieldErrors schema type.name { field with parent } =
      fieldErrors schema type.name field := fun _ _ => rfl
  rw [linkedType_eq]
  cases type.body <;> simp [linkedBody, bodyErrors, hfield, List.flatMap_map]

theorem errors_linked (schema : Schema) : errors (linked schema) = errors schema := by
  have htypes : (linked schema).typeList.flatMap
      (fun type => bodyErrors (linked schema) type.name type.body) =
        schema.typeList.flatMap fun type => bodyErrors schema type.name type.body := by
    simp only [Schema.typeList, OrderedMap.values, entries_linked, List.flatMap_map,
      List.map_map, Function.comp_def, bodyErrors_linked, name_linkedType, bodyErrors_linkedType]
  rw [errors, errors, rootErrors_linked, htypes]

/-! ## Linking again -/

theorem firstInterface?_linked (schema : Schema) (name : String) :
    firstInterface? (linked schema) name = firstInterface? schema name := by
  simp only [firstInterface?, entries_linked, List.find?_map, Option.map_map, Function.comp_def,
    kind_linkedType, name_linkedType]

theorem implementors_linked (schema : Schema) (interface : String) :
    implementors (linked schema) interface = implementors schema interface := by
  simp only [implementors, Schema.typeList, OrderedMap.values, entries_linked, List.flatMap_map,
    List.map_map, Function.comp_def]
  apply List.flatMap_congr
  rintro ⟨key, type⟩ -
  rw [linkedType_eq]
  cases type.body <;> simp [linkedBody]

theorem implementorsFor_linked (schema : Schema) (key name : String) :
    implementorsFor (linked schema) key name = implementorsFor schema key name := by
  rw [implementorsFor, implementorsFor, firstInterface?_linked, implementors_linked]

theorem linked_linked (schema : Schema) : linked (linked schema) = linked schema := by
  have htypes : (linked (linked schema)).types = (linked schema).types := by
    apply OrderedMap.ext
    rw [entries_linked, entries_linked, List.map_map]
    apply List.map_congr_left
    rintro ⟨key, type⟩ -
    simp [linkedType_linkedType (implementorsFor_linked schema key type.name)]
  exact congrArg (fun types => { schema with types }) htypes

end GraphSchema.Linking
