import GraphSchema.Proofs.Hydration
import GraphSchema.Proofs.Imports.Origins
import GraphSchema.Proofs.Linking
import GraphSchema.Compile.Pipeline
import GraphSchema.Schema.Builders
import GraphSchema.Results

/-!
# Reachable schemas

A schema that is put together by builders, changes and phases has every type, field, argument and
enum value under its own name, fields that know their types, and the built-in scalars in front.
-/

namespace GraphSchema

/-! ## What can be reached -/

/-- The field is put together by builders. One that was taken from a type has that type as its
parent. -/
inductive Field.Assembled : Field → Prop where
  | new (name : String) (type : TypeRef) : Assembled { name, type }
  | withDescription {field : Field} (h : field.Assembled) (text : String) :
    Assembled { field with description := some text }
  | withArgument {field : Field} (h : field.Assembled) (argument : Argument) :
    Assembled (field.withArgument argument)
  | withDefault {field : Field} (h : field.Assembled) (value : Value) :
    Assembled { field with default := some value }
  | deprecated {field : Field} (h : field.Assembled) (reason : Option String) :
    Assembled { field with deprecation := some { reason } }
  | taken {field : Field} (h : field.Assembled) (parent : String) :
    Assembled { field with parent }

inductive TypeDef.Assembled : TypeDef → Prop where
  | new (name : String) (kind : TypeKind) : Assembled (.new name kind)
  | withDescription {type : TypeDef} (h : type.Assembled) (text : String) :
    Assembled { type with description := some text }
  | withModule {type : TypeDef} (h : type.Assembled) (name : String) :
    Assembled { type with moduleName := some name }
  | withInterface {type : TypeDef} (h : type.Assembled) (name : String) :
    Assembled (type.withInterface name)
  | withField {type : TypeDef} (h : type.Assembled) {field : Field} (hfield : field.Assembled) :
    Assembled (type.withField field)
  | withImport {type : TypeDef} (h : type.Assembled) (request : FieldImport) :
    Assembled (type.withImport request)
  | withMember {type : TypeDef} (h : type.Assembled) (name : String) :
    Assembled (type.withMember name)
  | withValue {type : TypeDef} (h : type.Assembled) (value : EnumValue) :
    Assembled (type.withValue value)

inductive Phase.BuiltIn : Phase → Prop where
  | imports : BuiltIn .imports
  | link : BuiltIn .link
  | validate (lints : List Lint) : BuiltIn (.validate lints)
  | conformance : BuiltIn .conformance
  | defaults : BuiltIn .defaults
  | hydrate (hydrators : List Hydration.Hydrator) : BuiltIn (.hydrate hydrators)

/-- The schema comes from the initial one by changes and by phases that succeed. -/
inductive Schema.Reachable : Schema → Prop where
  | initial : Reachable .initial
  | withRoots {schema : Schema} (h : schema.Reachable) (roots : Roots) :
    Reachable { schema with roots }
  | addType {schema result : Schema} (h : schema.Reachable) {type : TypeDef}
      (htype : type.Assembled) (hadd : schema.addType type = .ok result) : Reachable result
  | addField {schema result : Schema} (h : schema.Reachable) {type : String} {field : Field}
      (hfield : field.Assembled) (hadd : schema.addField type field = .ok result) :
    Reachable result
  | addInterface {schema result : Schema} (h : schema.Reachable) {type interface : String}
      (hadd : schema.addInterface type interface = .ok result) : Reachable result
  | attach {schema : Schema} (h : schema.Reachable) (node : NodeId) (behavior : Behavior) :
    Reachable (schema.attach node behavior)
  | setBehaviors {schema : Schema} (h : schema.Reachable) (node : NodeId)
      (behaviors : List Behavior) : Reachable (schema.setBehaviors node behaviors)
  | run {schema result : Schema} (h : schema.Reachable) {phase : Phase} (hphase : phase.BuiltIn)
      (hrun : phase.run schema = .ok result) : Reachable result

/-! ## Well-formed schemas -/

/-- Fields and arguments stand under their own names, and the fields know their type. -/
structure FieldMap.WellFormed (parent : String) (fields : FieldMap) : Prop where
  names : fields.IndexedBy Field.name
  arguments : ∀ field ∈ fields.values, field.arguments.IndexedBy Argument.name
  parents : ∀ field ∈ fields.values, field.parent = parent

structure TypeDef.WellFormed (type : TypeDef) : Prop where
  fields : ∀ fields ∈ type.fields?, FieldMap.WellFormed type.name fields
  values : ∀ values, type.body = .enum values → values.IndexedBy EnumValue.key

/-- The entries of the built-in scalars, as every schema has them from the start. -/
def builtinEntries : List (String × TypeDef) :=
  builtinScalars.map fun name => (name, .builtinScalar name)

structure Schema.WellFormed (schema : Schema) : Prop where
  names : schema.types.IndexedBy TypeDef.name
  types : ∀ type ∈ schema.typeList, type.WellFormed
  scalars : builtinEntries <+: schema.types.entries

/-! ## Fields -/

namespace FieldMap.WellFormed

variable {parent : String} {fields : FieldMap}

theorem empty (parent : String) : FieldMap.WellFormed parent .empty :=
  ⟨OrderedMap.KeyedBy.indexedBy nofun, nofun, nofun⟩

theorem insert (h : FieldMap.WellFormed parent fields) {field : Field}
    (hfield : field.arguments.IndexedBy Argument.name) :
    FieldMap.WellFormed parent (fields.insert field.name { field with parent }) := by
  have hkeyed : (fields.insert field.name { field with parent }).KeyedBy Field.name :=
    h.names.keyed.insert rfl
  refine ⟨hkeyed.indexedBy, ?_, ?_⟩
  · intro other hother
    rcases OrderedMap.mem_values_insert hother with rfl | hother
    · exact hfield
    · exact h.arguments other hother
  · intro other hother
    rcases OrderedMap.mem_values_insert hother with rfl | hother
    · rfl
    · exact h.parents other hother

theorem insertNew (h : FieldMap.WellFormed parent fields) {field : Field}
    (hfield : field.arguments.IndexedBy Argument.name) :
    FieldMap.WellFormed parent (fields.insertNew field.name { field with parent }) := by
  unfold OrderedMap.insertNew
  split
  · exact h
  · exact h.insert hfield

theorem addBorrowed (h : FieldMap.WellFormed parent fields) {borrowed : List Field}
    (hborrowed : ∀ field ∈ borrowed, field.arguments.IndexedBy Argument.name) :
    FieldMap.WellFormed parent (Imports.addBorrowed parent fields borrowed) := by
  induction borrowed generalizing fields with
  | nil => exact h
  | cons field rest ih =>
    rw [List.forall_mem_cons] at hborrowed
    exact ih (h.insertNew hborrowed.1) hborrowed.2

/-- Fields that know their type are stamped already. -/
theorem stampFields_eq (h : FieldMap.WellFormed parent fields) :
    Linking.stampFields parent fields = fields := by
  apply OrderedMap.ext
  refine (List.map_congr_left fun entry hentry => ?_).trans (List.map_id _)
  have hparent : entry.2.parent = parent := h.parents entry.2 (List.mem_map_of_mem hentry)
  subst hparent
  rfl

end FieldMap.WellFormed

theorem Field.Assembled.arguments {field : Field} (h : field.Assembled) :
    field.arguments.IndexedBy Argument.name := by
  induction h with
  | new => exact OrderedMap.KeyedBy.indexedBy nofun
  | withArgument _ argument ih => exact (ih.keyed.insert rfl).indexedBy
  | withDescription _ _ ih | withDefault _ _ ih | deprecated _ _ ih | taken _ _ ih => exact ih

/-! ## Types -/

namespace TypeDef.WellFormed

variable {type : TypeDef}

/-- A type with the fields and values of a well-formed one is well-formed. -/
theorem congr {other : TypeDef} (h : type.WellFormed) (hname : other.name = type.name)
    (hfields : other.fields? = type.fields?)
    (hvalues : ∀ values, other.body = .enum values → type.body = .enum values) :
    other.WellFormed := by
  refine ⟨?_, fun values hbody => h.values values (hvalues values hbody)⟩
  rw [hfields, hname]
  exact h.fields

theorem setFields (h : type.WellFormed) {fields : FieldMap}
    (hfields : FieldMap.WellFormed type.name fields) :
    { type with body := type.body.setFields fields }.WellFormed := by
  obtain ⟨name, description, moduleName, body⟩ := type
  cases body with
  | object | interface | inputObject => exact ⟨by rintro _ ⟨⟩; exact hfields, nofun⟩
  | union | enum | scalar => exact h

theorem arguments (h : type.WellFormed) {field : Field} (hfield : field ∈ type.fieldList) :
    field.arguments.IndexedBy Argument.name := by
  unfold fieldList at hfield
  split at hfield
  · rename_i fields hfields
    exact (h.fields fields hfields).arguments field hfield
  · cases hfield

theorem nodup_fieldNames (h : type.WellFormed) : (type.fieldList.map Field.name).Nodup := by
  unfold fieldList
  split
  · rename_i fields hfields
    exact (h.fields fields hfields).names.once
  · exact .nil

theorem nodup_valueKeys (h : type.WellFormed) : (type.enumValues.map EnumValue.key).Nodup := by
  unfold enumValues
  split
  · rename_i values hbody
    exact (h.values values hbody).once
  · exact .nil

theorem new (name : String) (kind : TypeKind) : (TypeDef.new name kind).WellFormed := by
  cases kind with
  | object | interface | inputObject =>
    exact ⟨by rintro _ ⟨⟩; exact FieldMap.WellFormed.empty name, nofun⟩
  | enum => exact ⟨nofun, by rintro _ ⟨⟩; exact OrderedMap.KeyedBy.indexedBy nofun⟩
  | union | scalar => exact ⟨nofun, nofun⟩

theorem builtinScalar (name : String) : (TypeDef.builtinScalar name).WellFormed :=
  ⟨nofun, nofun⟩

theorem withField (h : type.WellFormed) {field : Field}
    (hfield : field.arguments.IndexedBy Argument.name) : (type.withField field).WellFormed := by
  unfold TypeDef.withField
  split
  · exact h
  · rename_i fields hfields
    exact h.setFields ((h.fields fields hfields).insert hfield)

theorem withInterface (h : type.WellFormed) (name : String) :
    (type.withInterface name).WellFormed := by
  obtain ⟨own, description, moduleName, body⟩ := type
  cases body with
  | object | interface => exact h.congr rfl rfl nofun
  | union | enum | inputObject | scalar => exact h

theorem withImport (h : type.WellFormed) (request : FieldImport) :
    (type.withImport request).WellFormed := by
  obtain ⟨name, description, moduleName, body⟩ := type
  cases body with
  | object | interface | inputObject => exact h.congr rfl rfl nofun
  | union | enum | scalar => exact h

theorem withMember (h : type.WellFormed) (name : String) : (type.withMember name).WellFormed := by
  obtain ⟨own, description, moduleName, body⟩ := type
  cases body with
  | union => exact h.congr rfl rfl nofun
  | object | interface | enum | inputObject | scalar => exact h

theorem withValue (h : type.WellFormed) (value : EnumValue) : (type.withValue value).WellFormed := by
  obtain ⟨name, description, moduleName, body⟩ := type
  cases body with
  | enum values =>
    refine ⟨nofun, ?_⟩
    rintro _ ⟨⟩
    exact ((h.values values rfl).keyed.insert rfl).indexedBy
  | object | interface | union | inputObject | scalar => exact h

/-- A field that is inserted is one more than those that the type has. -/
theorem insertField (h : type.WellFormed) {field : Field}
    (hfield : field.arguments.IndexedBy Argument.name) {changed : TypeDef}
    (hinsert : type.insertField field = .ok changed) : changed.WellFormed := by
  unfold TypeDef.insertField at hinsert
  split at hinsert
  · cases hinsert
  · rename_i fields hfields
    split at hinsert
    · cases hinsert
    · cases hinsert
      exact h.setFields ((h.fields fields hfields).insert hfield)

theorem implement (h : type.WellFormed) {interface : String} {changed : TypeDef}
    (himplement : type.implement interface = .ok changed) : changed.WellFormed := by
  obtain ⟨name, description, moduleName, body⟩ := type
  cases body with
  | object | interface =>
    cases himplement
    exact h.congr rfl rfl nofun
  | union | enum | inputObject | scalar => cases himplement

/-- Borrowed fields get the type as their parent. -/
theorem settle (h : type.WellFormed) {borrowed : List Field}
    (hborrowed : ∀ field ∈ borrowed, field.arguments.IndexedBy Argument.name) :
    (Imports.settle type.name borrowed type).WellFormed := by
  have hdropped : { type with body := type.body.dropImports }.WellFormed := by
    refine h.congr rfl (TypeBody.fields?_dropImports type.body) fun values hbody => ?_
    cases hold : type.body <;> simp_all [TypeBody.dropImports]
  simp only [Imports.settle]
  split
  · exact hdropped
  · rename_i fields hfields
    exact hdropped.setFields ((hdropped.fields fields hfields).addBorrowed hborrowed)

theorem stampParents_eq (h : type.WellFormed) : Linking.stampParents type = type := by
  unfold Linking.stampParents
  split
  · rfl
  · rename_i fields hfields
    rw [(h.fields fields hfields).stampFields_eq, TypeBody.setFields_eq_self hfields]

theorem setImplementors (h : type.WellFormed) (schema : Schema) (key : String) :
    (Linking.setImplementors schema key type).WellFormed := by
  obtain ⟨name, description, moduleName, body⟩ := type
  cases body with
  | interface => exact h.congr rfl rfl nofun
  | object | union | enum | inputObject | scalar => exact h

end TypeDef.WellFormed

theorem TypeDef.Assembled.wellFormed {type : TypeDef} (h : type.Assembled) : type.WellFormed := by
  induction h with
  | new name kind => exact .new name kind
  | withDescription _ _ ih | withModule _ _ ih => exact ih.congr rfl rfl fun _ h => h
  | withInterface _ interface ih => exact ih.withInterface interface
  | withField _ hfield ih => exact ih.withField hfield.arguments
  | withImport _ request ih => exact ih.withImport request
  | withMember _ member ih => exact ih.withMember member
  | withValue _ value ih => exact ih.withValue value

/-! ## Schemas -/

theorem name_insertField {type changed : TypeDef} {field : Field}
    (h : type.insertField field = .ok changed) : changed.name = type.name := by
  unfold TypeDef.insertField at h
  split at h
  · cases h
  · split at h
    · cases h
    · cases h
      rfl

theorem name_implement {type changed : TypeDef} {interface : String}
    (h : type.implement interface = .ok changed) : changed.name = type.name := by
  unfold TypeDef.implement at h
  split at h
  · cases h
  · cases h
    rfl

theorem builtin_of_prefix {types : OrderedMap String TypeDef} (h : builtinEntries <+: types.entries)
    {name : String} (hname : name ∈ builtinScalars) :
    types.get? name = some (.builtinScalar name) :=
  OrderedMap.get?_eq_some_iff.2 (h.subset (List.mem_map_of_mem hname))

namespace Schema.WellFormed

variable {schema : Schema}

theorem find? (h : schema.WellFormed) {key : String} {type : TypeDef}
    (hfound : schema.find? key = some type) : type.name = key ∧ type.WellFormed :=
  ⟨h.names.keyed.of_get? hfound, h.types type (OrderedMap.mem_values_iff.2 ⟨key, hfound⟩)⟩

theorem initial : Schema.initial.WellFormed where
  names := OrderedMap.KeyedBy.indexedBy (by decide)
  types := by
    intro type htype
    have htypes : Schema.initial.typeList = builtinScalars.map TypeDef.builtinScalar := by rfl
    rw [htypes] at htype
    obtain ⟨name, -, rfl⟩ := List.mem_map.1 htype
    exact .builtinScalar name
  scalars := List.prefix_rfl

/-- Every type may change that is no built-in scalar, if it keeps its name and stays well-formed. -/
theorem mapValues (h : schema.WellFormed) {change : String → TypeDef → TypeDef}
    (hname : ∀ key type, (change key type).name = type.name)
    (htype : ∀ key type, schema.find? key = some type → (change key type).WellFormed)
    (hscalar : ∀ name ∈ builtinScalars, change name (.builtinScalar name) = .builtinScalar name) :
    { schema with types := schema.types.mapValues change }.WellFormed := by
  refine ⟨(h.names.keyed.mapValues hname).indexedBy, ?_, ?_⟩
  · intro type hmem
    obtain ⟨entry, hentry, rfl⟩ := List.mem_map.1 hmem
    obtain ⟨⟨key, before⟩, hbefore, rfl⟩ := List.mem_map.1 hentry
    exact htype key before (OrderedMap.get?_eq_some_iff.2 hbefore)
  · have hprefix := h.scalars.map fun entry => (entry.1, change entry.1 entry.2)
    have hsame : builtinEntries.map (fun entry => (entry.1, change entry.1 entry.2)) =
        builtinEntries := by
      unfold builtinEntries
      rw [List.map_map]
      exact List.map_congr_left fun name hmem => Prod.ext rfl (hscalar name hmem)
    rwa [hsame] at hprefix

/-- A well-formed type may be written under its name, unless the name is that of a built-in
scalar. -/
theorem insert (h : schema.WellFormed) {type : TypeDef} (htype : type.WellFormed)
    (hname : type.name ∉ builtinScalars) :
    { schema with types := schema.types.insert type.name type }.WellFormed := by
  refine ⟨(h.names.keyed.insert rfl).indexedBy, ?_, ?_⟩
  · intro other hother
    rcases OrderedMap.mem_values_insert hother with rfl | hother
    · exact htype
    · exact h.types other hother
  · obtain ⟨rest, hrest⟩ := h.scalars
    have hkeys : type.name ∉ builtinEntries.map Prod.fst := by
      simpa [builtinEntries, Function.comp_def] using hname
    refine ⟨Entries.insert type.name type rest, ?_⟩
    rw [← Entries.insert_append_of_not_mem hkeys, hrest]
    rfl

theorem withTypes (h : schema.WellFormed) {result : Schema} (htypes : result.types = schema.types) :
    result.WellFormed := by
  refine ⟨htypes ▸ h.names, ?_, htypes ▸ h.scalars⟩
  rw [Schema.typeList, htypes]
  exact h.types

theorem addType (h : schema.WellFormed) {type : TypeDef} (htype : type.WellFormed)
    {result : Schema} (hadd : schema.addType type = .ok result) : result.WellFormed := by
  obtain ⟨hnew, rfl⟩ := Schema.addType_eq_ok_iff.1 hadd
  refine h.insert htype fun hbuiltin => ?_
  have hold := builtin_of_prefix h.scalars hbuiltin
  exact absurd (OrderedMap.mem_keys_of_get? hold) hnew

/-- A change that leaves a type its name keeps a schema well-formed. Built-in scalars refuse it. -/
theorem changeType (h : schema.WellFormed) {name : String}
    {change : TypeDef → Except SchemaError TypeDef}
    (hchange : ∀ type changed, type.WellFormed → change type = .ok changed →
      changed.WellFormed ∧ changed.name = type.name)
    (hscalar : ∀ name changed, change (.builtinScalar name) ≠ .ok changed) {result : Schema}
    (hrun : schema.changeType name change = .ok result) : result.WellFormed := by
  obtain ⟨type, changed, hfound, hchanged, rfl⟩ := Schema.changeType_eq_ok_iff.1 hrun
  obtain ⟨hname, htype⟩ := h.find? hfound
  obtain ⟨hwell, hkept⟩ := hchange type changed htype hchanged
  rw [← hname, ← hkept]
  refine h.insert hwell fun hbuiltin => ?_
  rw [hkept, hname] at hbuiltin
  have hbuiltinType := builtin_of_prefix h.scalars hbuiltin
  cases hfound.symm.trans hbuiltinType
  exact hscalar name changed hchanged

theorem addField (h : schema.WellFormed) {type : String} {field : Field}
    (hfield : field.arguments.IndexedBy Argument.name) {result : Schema}
    (hadd : schema.addField type field = .ok result) : result.WellFormed :=
  h.changeType (fun _ _ htype hinsert => ⟨htype.insertField hfield hinsert, name_insertField hinsert⟩)
    nofun hadd

theorem addInterface (h : schema.WellFormed) {type interface : String} {result : Schema}
    (hadd : schema.addInterface type interface = .ok result) : result.WellFormed :=
  h.changeType (fun _ _ htype hadded => ⟨htype.implement hadded, name_implement hadded⟩) nofun hadd

/-! ### Phases -/

theorem settle (h : schema.WellFormed) (name : String) {borrowed : List Field}
    (hborrowed : ∀ field ∈ borrowed, field.arguments.IndexedBy Argument.name) :
    { schema with types := schema.types.modify name (Imports.settle name borrowed) }.WellFormed := by
  refine h.mapValues ?_ ?_ ?_
  · intro key type
    split
    · exact Imports.name_settle name borrowed type
    · rfl
  · intro key type hfound
    obtain ⟨hname, htype⟩ := h.find? hfound
    split
    · rename_i hkey
      rw [← hkey, ← hname]
      exact htype.settle hborrowed
    · exact htype
  · intro key _
    split <;> rfl

/-- Entering a type for its imports changes types that are well-formed to types that are. -/
theorem resolve {progress later : Imports.Progress} {chain : List String} {name : String}
    (h : Imports.resolve schema chain name progress = .ok later) :
    { schema with types := progress.types }.WellFormed →
      { schema with types := later.types }.WellFormed := by
  refine Imports.resolve_induction
    (fun _ _ progress later => { schema with types := progress.types }.WellFormed →
      { schema with types := later.types }.WellFormed)
    (fun _ _ progress borrowed later all => { schema with types := progress.types }.WellFormed →
      (∀ field ∈ borrowed, field.arguments.IndexedBy Argument.name) →
      { schema with types := later.types }.WellFormed ∧
        ∀ field ∈ all, field.arguments.IndexedBy Argument.name) ?_ ?_ ?_ ?_ ?_ h
  · exact fun _ _ _ _ hbefore => hbefore
  · exact fun _ _ _ _ _ _ hbefore => hbefore
  · intro chain name progress type later borrowed _ _ _ ih hbefore
    obtain ⟨hlater, hborrowed⟩ := ih hbefore nofun
    exact hlater.settle name hborrowed
  · exact fun _ _ _ hbefore hborrowed => ⟨hbefore, hborrowed⟩
  · intro chain request rest source progress between later fields borrowed all _ ihentry hborrow
      ihround hbefore hborrowed
    have hbetween := ihentry hbefore
    refine ihround hbetween fun field hfield => ?_
    rcases List.mem_append.1 hfield with hfield | hfield
    · exact hborrowed field hfield
    · obtain ⟨type, hfound, -, rfl⟩ := Imports.borrow_eq_ok hborrow
      exact (hbetween.find? hfound).2.arguments (List.mem_of_mem_filter hfield)

theorem imports (h : schema.WellFormed) {result : Schema} (hrun : Imports.run schema = .ok result) :
    result.WellFormed := by
  obtain ⟨progress, rfl, hprogress⟩ := Imports.run_keeps (fun _ _ _ => resolve) h hrun
  exact hprogress

theorem stamped_eq (h : schema.WellFormed) : Linking.stamped schema = schema := by
  have htypes : (Linking.stamped schema).types = schema.types := by
    apply OrderedMap.ext
    rw [Linking.entries_stamped]
    refine (List.map_congr_left fun entry hentry => ?_).trans (List.map_id _)
    have htype := h.types entry.2 (List.mem_map_of_mem hentry)
    rw [htype.stampParents_eq]
    rfl
  exact congrArg (fun types => { schema with types }) htypes

theorem link (h : schema.WellFormed) {result : Schema} (hrun : Linking.run schema = .ok result) :
    result.WellFormed := by
  obtain ⟨-, rfl⟩ := Checked.unless_eq_ok_iff.1 hrun
  rw [h.stamped_eq, Linking.withImplementors_eq]
  refine h.mapValues ?_ (fun key type hfound => (h.find? hfound).2.setImplementors schema key) ?_
  · intro key type
    unfold Linking.setImplementors
    split <;> rfl
  · exact fun _ _ => rfl

theorem run (h : schema.WellFormed) {phase : Phase} (hphase : phase.BuiltIn) {result : Schema}
    (hrun : phase.run schema = .ok result) : result.WellFormed := by
  cases hphase with
  | imports => exact h.imports hrun
  | link => exact h.link hrun
  | validate | conformance | defaults =>
    obtain ⟨-, rfl⟩ := Checked.unless_eq_ok_iff.1 hrun
    exact h
  | hydrate hydrators =>
    cases hrun
    rw [Hydration.run_eq]
    exact h.withTypes rfl

end Schema.WellFormed

theorem Schema.Reachable.wellFormed {schema : Schema} (h : schema.Reachable) :
    schema.WellFormed := by
  induction h with
  | initial => exact .initial
  | withRoots _ roots ih => exact ih.withTypes rfl
  | addType _ htype hadd ih => exact ih.addType htype.wellFormed hadd
  | addField _ hfield hadd ih => exact ih.addField hfield.arguments hadd
  | addInterface _ hadd ih => exact ih.addInterface hadd
  | attach _ node behavior ih => exact ih.withTypes rfl
  | setBehaviors _ node behaviors ih => exact ih.withTypes rfl
  | run _ hphase hrun ih => exact ih.run hphase hrun

/-- Every reachable schema is well-formed, so that linking finds the parents of fields as it would
stamp them. -/
theorem Schema.reachable_wellFormed {schema : Schema} (h : schema.Reachable) :
    schema.WellFormed ∧ Linking.stamped schema = schema :=
  ⟨h.wellFormed, h.wellFormed.stamped_eq⟩

theorem Schema.reachable_build (roots : Roots) {types : List TypeDef}
    (h : ∀ type ∈ types, type.Assembled) : (Schema.build roots types).Reachable := by
  refine List.foldlRecOn types _ (Reachable.initial.withRoots roots) ?_
  intro schema hschema type htype
  cases hadd : schema.addType type with
  | error error => exact hschema
  | ok result => exact hschema.addType (h type htype) hadd

/-- `Query` implements `Picture` and takes its field from it. -/
def gallery : List TypeDef :=
  let title : Field := { name := "title", type := .named "String" }
  let language : Argument := { name := "language", type := .named "Style" }
  [((TypeDef.new "Query" .object).withInterface "Picture").withImport { source := "Picture" },
    (TypeDef.new "Picture" .interface).withField (title.withArgument language),
    (TypeDef.new "Style" .enum).withValue { key := "plain", aliasName := "PLAIN" }]

theorem gallery_assembled : ∀ type ∈ gallery, type.Assembled := by
  simp only [gallery, List.forall_mem_cons]
  exact ⟨.withImport (.withInterface (.new ..) _) _, .withField (.new ..) (.withArgument (.new ..) _),
    .withValue (.new ..) _, nofun⟩

/-- The gallery with its imports resolved and its names linked. -/
def hang : Checked Schema := do
  let imported ← Phase.imports.run (Schema.build { query := some "Query" } gallery)
  Phase.link.run imported

theorem Schema.reachable_wellFormed_gallery : ∃ schema, hang = .ok schema ∧ schema.Reachable ∧
    (schema.WellFormed ∧ Linking.stamped schema = schema) ∧
    (schema.findField? "Query" "title").map (·.parent) = some "Query" := by
  have hfield : hang.toOption.map (fun schema =>
      (schema.findField? "Query" "title").map (·.parent)) = some (some "Query") := by cbv
  obtain ⟨schema, hhang, hfield⟩ := toOption_map_eq_some_iff.1 hfield
  have hreachable : schema.Reachable := by
    obtain ⟨imported, himports, hlink⟩ := bind_eq_ok_iff.1 hhang
    have hbuilt := Schema.reachable_build { query := some "Query" } gallery_assembled
    exact (hbuilt.run .imports himports).run .link hlink
  exact ⟨schema, hhang, hreachable, Schema.reachable_wellFormed hreachable, hfield⟩

end GraphSchema
