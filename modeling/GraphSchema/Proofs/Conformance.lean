import GraphSchema.Compile.Conformance
import GraphSchema.Results

/-!
# Missing fields

What the conformance check reports, place by place. A type lacks a field of an interface if none of
its own fields prints like it in camel case. That one of them has the very same name makes no
difference to this.
-/

namespace GraphSchema

/-- The names under which the fields of a type stand, none for a kind without fields. -/
def TypeDef.fieldKeys (type : TypeDef) : List String :=
  match type.fields? with
  | some fields => fields.keys
  | none => []

/-! ## Places -/

section Placed

variable {α β ε : Type}

theorem pairwise_places (items : List α) : (items.zipIdx.map Prod.snd).Pairwise (· < ·) := by
  rw [List.zipIdx_map_snd]
  exact List.pairwise_lt_range'

/-- What is found at the items of a list, each with the place of its item in front. -/
def placed (items : List α) (found : α → List (β × ε)) : List ((Nat × β) × ε) :=
  items.zipIdx.flatMap fun (item, i) => (found item).map fun (place, e) => ((i, place), e)

theorem mem_placed_iff {items : List α} {found : α → List (β × ε)} {place : Nat × β} {e : ε} :
    (place, e) ∈ placed items found ↔
      ∃ item, items[place.1]? = some item ∧ (place.2, e) ∈ found item := by
  obtain ⟨i, rest⟩ := place
  simp only [placed, List.mem_flatMap, List.mem_map, Prod.exists, List.mem_zipIdx_iff_getElem?,
    Prod.mk.injEq]
  constructor
  · rintro ⟨item, _, hitem, _, _, hfound, ⟨rfl, rfl⟩, rfl⟩
    exact ⟨item, hitem, hfound⟩
  · rintro ⟨item, hitem, hfound⟩
    exact ⟨item, i, hitem, rest, e, hfound, ⟨rfl, rfl⟩, rfl⟩

theorem map_snd_placed (items : List α) (found : α → List (β × ε)) :
    (placed items found).map Prod.snd = items.flatMap fun item => (found item).map Prod.snd := by
  conv_rhs => rw [← List.zipIdx_map_fst 0 items, List.flatMap_map]
  unfold placed
  rw [List.map_flatMap]
  simp only [List.map_map]
  rfl

/-- Places come in order if those of each item do. -/
theorem pairwise_placed {before : β → β → Prop} (items : List α) {found : α → List (β × ε)}
    (h : ∀ item, ((found item).map Prod.fst).Pairwise before) :
    ((placed items found).map Prod.fst).Pairwise (Prod.Lex (· < ·) before) := by
  have hplaces := pairwise_places items
  rw [List.pairwise_map] at hplaces ⊢
  unfold placed
  rw [List.pairwise_flatMap]
  refine ⟨?_, hplaces.imp ?_⟩
  · rintro ⟨item, i⟩ -
    have hitem := h item
    rw [List.pairwise_map] at hitem ⊢
    refine hitem.imp fun hlt => ?_
    exact Prod.Lex.right i hlt
  · rintro ⟨item, i⟩ ⟨other, j⟩ hlt first hfirst second hsecond
    obtain ⟨_, -, rfl⟩ := List.mem_map.1 hfirst
    obtain ⟨_, -, rfl⟩ := List.mem_map.1 hsecond
    exact Prod.Lex.left _ _ hlt

end Placed

namespace Conformance

/-! ## Fields that print alike -/

/-- A field of the type prints like the given one. -/
def Provides (type : TypeDef) (field : String) : Prop :=
  ∃ own ∈ type.fieldKeys, Name.camel own = Name.camel field

/-- A field of the very name prints like itself, so the comparison of printed names decides. -/
theorem defines_iff_provides (type : TypeDef) (field : String) :
    defines type field ↔ Provides type field := by
  unfold defines Provides TypeDef.findField? TypeDef.fieldKeys
  cases type.fields? with
  | none => simp
  | some fields =>
    rw [Option.bind_some, Bool.or_eq_true, List.any_eq_true]
    simp only [beq_iff_eq]
    constructor
    · rintro (hsame | hprint)
      · exact ⟨field, OrderedMap.contains_iff.1 hsame, rfl⟩
      · exact hprint
    · exact .inr

/-! ## Missing fields -/

/-- Every type provides the fields of the interfaces that it declares. -/
def Conforms (schema : Schema) : Prop :=
  ∀ type ∈ schema.typeList, ∀ name ∈ type.interfaces, ∀ interface,
    schema.find? name = some interface → interface.kind = .interface →
      ∀ field ∈ interface.fieldKeys, Provides type field

/-- The places of a type in the schema, of an interface among those that the type declares, and of
a field in the interface. -/
abbrev FieldPlace := Nat × Nat × Nat

/-- Types in order, for each type its interfaces, and for each interface its fields. -/
def FieldPlace.Before : FieldPlace → FieldPlace → Prop :=
  Prod.Lex (· < ·) (Prod.Lex (· < ·) (· < ·))

/-- The field at the place is not provided, which the error tells. -/
def Missing (schema : Schema) (place : FieldPlace) (violation : CompileError) : Prop :=
  ∃ type name interface field,
    schema.typeList[place.1]? = some type ∧ type.interfaces[place.2.1]? = some name ∧
    schema.find? name = some interface ∧ interface.kind = .interface ∧
    interface.fieldKeys[place.2.2]? = some field ∧ ¬ Provides type field ∧
    violation = .nonConforming type.name interface.name field

/-- The fields of one interface that the type does not define, with their places. -/
def missingFields (schema : Schema) (type : TypeDef) (name : String) : List (Nat × CompileError) :=
  match schema.find? name with
  | some interface =>
    if interface.kind = .interface then
      (interface.fieldKeys.zipIdx.filter fun (field, _) => !defines type field).map
        fun (field, i) => (i, .nonConforming type.name interface.name field)
    else []
  | none => []

theorem interfaceErrors_of_find? {schema : Schema} {name : String} {interface : TypeDef}
    (hfound : schema.find? name = some interface) (type : TypeDef) :
    interfaceErrors schema type name =
      if interface.kind = .interface then
        (interface.fieldKeys.filter fun field => !defines type field).map
          (.nonConforming type.name interface.name)
      else [] := by
  obtain ⟨own, description, moduleName, body⟩ := interface
  unfold interfaceErrors
  rw [hfound]
  cases body <;> rfl

theorem map_snd_missingFields (schema : Schema) (type : TypeDef) (name : String) :
    (missingFields schema type name).map Prod.snd = interfaceErrors schema type name := by
  unfold missingFields
  cases hfound : schema.find? name with
  | none =>
    unfold interfaceErrors
    rw [hfound]
    rfl
  | some interface =>
    rw [interfaceErrors_of_find? hfound]
    dsimp only
    split
    · conv_rhs => rw [← List.zipIdx_map_fst 0 interface.fieldKeys, List.filter_map, List.map_map]
      rw [List.map_map]
      rfl
    · rfl

theorem pairwise_missingFields (schema : Schema) (type : TypeDef) (name : String) :
    ((missingFields schema type name).map Prod.fst).Pairwise (· < ·) := by
  unfold missingFields
  split
  · rename_i interface _
    split
    · rw [List.map_map]
      exact (pairwise_places interface.fieldKeys).sublist (List.filter_sublist.map Prod.snd)
    · exact .nil
  · exact .nil

theorem mem_missingFields_iff {schema : Schema} {type : TypeDef} {name : String} {i : Nat}
    {violation : CompileError} :
    (i, violation) ∈ missingFields schema type name ↔
      ∃ interface field, schema.find? name = some interface ∧ interface.kind = .interface ∧
        interface.fieldKeys[i]? = some field ∧ ¬ Provides type field ∧
        violation = .nonConforming type.name interface.name field := by
  unfold missingFields
  cases hfound : schema.find? name with
  | none => simp
  | some interface =>
    dsimp only
    by_cases hkind : interface.kind = .interface
    · rw [if_pos hkind]
      simp only [List.mem_map, List.mem_filter, Prod.exists, List.mem_zipIdx_iff_getElem?,
        Prod.mk.injEq, ← defines_iff_provides, Bool.not_eq_true', Bool.not_eq_true]
      constructor
      · rintro ⟨field, _, ⟨hfield, hmissing⟩, rfl, rfl⟩
        exact ⟨interface, field, rfl, hkind, hfield, hmissing, rfl⟩
      · rintro ⟨_, field, ⟨⟩, -, hfield, hmissing, rfl⟩
        exact ⟨field, i, ⟨hfield, hmissing⟩, rfl, rfl⟩
    · rw [if_neg hkind]
      constructor
      · nofun
      · rintro ⟨_, _, ⟨⟩, hkind', -⟩
        exact absurd hkind' hkind

/-- What the check reports, with places. -/
def missing (schema : Schema) : List (FieldPlace × CompileError) :=
  placed schema.typeList fun type => placed type.interfaces (missingFields schema type)

theorem map_snd_missing (schema : Schema) : (missing schema).map Prod.snd = errors schema := by
  unfold missing errors
  simp only [map_snd_placed, map_snd_missingFields]

theorem pairwise_missing (schema : Schema) :
    ((missing schema).map Prod.fst).Pairwise FieldPlace.Before :=
  pairwise_placed _ fun _ => pairwise_placed _ fun _ => pairwise_missingFields schema _ _

theorem mem_missing_iff {schema : Schema} {place : FieldPlace} {violation : CompileError} :
    (place, violation) ∈ missing schema ↔ Missing schema place violation := by
  unfold missing Missing
  simp only [mem_placed_iff, mem_missingFields_iff]
  constructor
  · rintro ⟨type, htype, name, hname, interface, field, hrest⟩
    exact ⟨type, name, interface, field, htype, hname, hrest⟩
  · rintro ⟨type, name, interface, field, htype, hname, hrest⟩
    exact ⟨type, htype, name, hname, interface, field, hrest⟩

theorem errors_eq_nil_iff_conforms {schema : Schema} : errors schema = [] ↔ Conforms schema := by
  rw [← map_snd_missing, List.map_eq_nil_iff, List.eq_nil_iff_forall_not_mem]
  constructor
  · intro hnone type htype name hname interface hfound hkind field hfield
    obtain ⟨i, hi⟩ := List.mem_iff_getElem?.1 htype
    obtain ⟨j, hj⟩ := List.mem_iff_getElem?.1 hname
    obtain ⟨k, hk⟩ := List.mem_iff_getElem?.1 hfield
    by_contra hlacks
    exact hnone ((i, j, k), _)
      (mem_missing_iff.2 ⟨type, name, interface, field, hi, hj, hfound, hkind, hk, hlacks, rfl⟩)
  · rintro hconforms ⟨place, violation⟩ hmem
    obtain ⟨type, name, interface, field, hi, hj, hfound, hkind, hk, hlacks, -⟩ :=
      mem_missing_iff.1 hmem
    exact hlacks (hconforms type (List.mem_of_getElem? hi) name (List.mem_of_getElem? hj) interface
      hfound hkind field (List.mem_of_getElem? hk))

/-- The check passes the schema on as it is if every type provides the fields of its interfaces.
Otherwise it reports each missing field once, in the order of the types, their interfaces and the
fields. Fields are compared as they print, also where one has the very name. -/
theorem run_reports_missing (schema : Schema) :
    (∀ result, run schema = .ok result ↔ result = schema ∧ Conforms schema) ∧
    (∃ found : List (FieldPlace × CompileError),
      (∀ place violation, (place, violation) ∈ found ↔ Missing schema place violation) ∧
      (found.map Prod.fst).Pairwise FieldPlace.Before ∧
      ∀ reported, run schema = .error reported ↔
        ¬ Conforms schema ∧ reported = found.map Prod.snd) ∧
    ∀ type field, defines type field ↔ Provides type field := by
  refine ⟨?_, ⟨missing schema, ?_, pairwise_missing schema, ?_⟩, defines_iff_provides⟩
  · intro result
    rw [run, Checked.unless_eq_ok_iff, errors_eq_nil_iff_conforms, and_comm, eq_comm]
  · intro place violation
    exact mem_missing_iff
  · intro reported
    rw [run, Checked.unless_eq_error_iff, Ne, errors_eq_nil_iff_conforms, map_snd_missing, eq_comm]

end Conformance

end GraphSchema
