import GraphSchema.Proofs.Imports.Walk
import GraphSchema.Results
import GraphSchema.Schema.Builders

/-!
# Flattened types

A successful run gives every type its own fields and, after them, what its imports add: the fields
of their sources as the run leaves them. Nothing else of the schema changes.
-/

namespace GraphSchema.Imports

/-! ## What imports add -/

/-- What a type is apart from its fields and its pending imports. -/
def outline (type : TypeDef) : TypeDef :=
  { type with body := type.body.dropImports.setFields .empty }

/-- The fields that an import adds to those a type has: the source's, but those the import leaves
out and those whose names are taken. They get the type as their parent. -/
def additions (parent : String) (taken : List Field) (request : FieldImport)
    (source : List Field) : List Field :=
  (source.filter fun field =>
    field.name ∉ request.except ∧ field.name ∉ taken.map (·.name)).map ({ · with parent })

/-- The fields of a type with what imports add to them, in order of declaration. -/
def extended (parent : String) (fieldsOf : String → List Field) (fields : List Field)
    (imports : List FieldImport) : List Field :=
  imports.foldl
    (fun taken request => taken ++ additions parent taken request (fieldsOf request.source)) fields

/-! ## Borrowed fields -/

theorem addBorrowed_append (parent : String) (fields : FieldMap) (first second : List Field) :
    addBorrowed parent fields (first ++ second) =
      addBorrowed parent (addBorrowed parent fields first) second :=
  List.foldl_append

theorem keyed_addBorrowed {fields : FieldMap} (h : fields.KeyedBy Field.name) (parent : String)
    (borrowed : List Field) : (addBorrowed parent fields borrowed).KeyedBy Field.name := by
  induction borrowed generalizing fields with
  | nil => exact h
  | cons field rest ih => exact ih (h.insertNew { field with parent })

/-- Fields with distinct names are added behind the others, but for names that are taken. -/
theorem values_addBorrowed {fields : FieldMap} (h : fields.KeyedBy Field.name) (parent : String)
    {borrowed : List Field} (hnodup : (borrowed.map (·.name)).Nodup) :
    (addBorrowed parent fields borrowed).values = fields.values ++
      (borrowed.filter fun field => field.name ∉ fields.values.map (·.name)).map
        ({ · with parent }) := by
  induction borrowed generalizing fields with
  | nil => simp [addBorrowed]
  | cons field rest ih =>
    rw [List.map_cons, List.nodup_cons] at hnodup
    have hstep : addBorrowed parent fields (field :: rest) =
        addBorrowed parent (fields.insertNew field.name { field with parent }) rest := rfl
    rw [hstep, ih (h.insertNew { field with parent }) hnodup.2]
    by_cases hmem : field.name ∈ fields.keys
    · rw [OrderedMap.insertNew_of_mem hmem, List.filter_cons_of_neg]
      rw [h.keys_eq] at hmem
      simpa using hmem
    · have hvalues : (fields.insertNew field.name { field with parent }).values =
          fields.values ++ [{ field with parent }] := by
        simp [OrderedMap.values, OrderedMap.entries_insertNew_of_not_mem hmem]
      rw [h.keys_eq] at hmem
      -- Later fields have other names, so they are kept or dropped as before.
      have hrest : ∀ other ∈ rest, other.name ≠ field.name := by
        rintro other hother heq
        exact hnodup.1 (heq ▸ List.mem_map_of_mem hother)
      rw [hvalues, List.filter_cons_of_pos (by simpa using hmem), List.map_cons,
        List.append_assoc, List.singleton_append]
      congr 3
      apply List.filter_congr
      intro other hother
      simp [hrest other hother]

theorem values_addBorrowed_flatMap {fields : FieldMap} (h : fields.KeyedBy Field.name)
    (parent : String) {fieldsOf : String → List Field} {lend : FieldImport → List Field}
    (requests : List FieldImport)
    (hlend : ∀ request ∈ requests, lend request =
      (fieldsOf request.source).filter fun field => field.name ∉ request.except)
    (hnodup : ∀ source, ((fieldsOf source).map (·.name)).Nodup) :
    (addBorrowed parent fields (requests.flatMap lend)).values =
      extended parent fieldsOf fields.values requests := by
  induction requests generalizing fields with
  | nil => rfl
  | cons request rest ih =>
    have hfirst : (addBorrowed parent fields (lend request)).values =
        fields.values ++
          additions parent fields.values request (fieldsOf request.source) := by
      have hnodup' : ((lend request).map (·.name)).Nodup := by
        rw [hlend request List.mem_cons_self]
        exact (hnodup request.source).sublist (List.filter_sublist.map _)
      rw [values_addBorrowed h parent hnodup', hlend request List.mem_cons_self,
        List.filter_filter, additions]
      simp only [Bool.decide_and, Bool.and_comm]
    rw [List.flatMap_cons, addBorrowed_append,
      ih (keyed_addBorrowed h parent (lend request))
        fun other hother => hlend other (List.mem_cons_of_mem _ hother),
      hfirst]
    rfl

/-! ## Types after a run -/

theorem outline_settle (name : String) (borrowed : List Field) (type : TypeDef) :
    outline (settle name borrowed type) = outline type := by
  cases hbody : type.body <;> simp [outline, settle, hbody, TypeBody.dropImports,
    TypeBody.fields?, TypeBody.setFields]

theorem nodup_fieldList {type : TypeDef}
    (h : ∀ fields ∈ type.fields?, fields.KeyedBy Field.name) :
    (type.fieldList.map (·.name)).Nodup := by
  unfold TypeDef.fieldList
  split
  · rename_i fields hfields
    rw [← (h fields hfields).keys_eq]
    exact fields.nodup
  · simp

/-- After a run, every type is resolved against the types as they are then. -/
theorem find?_run {schema result : Schema} (hkeyed : schema.types.KeyedBy TypeDef.name)
    (h : run schema = .ok result) {name : String} {type : TypeDef}
    (hfound : schema.find? name = some type) :
    result.find? name = some (resolved schema result.types name type) ∧
      ∀ request ∈ type.imports, source? schema request = some request.source := by
  obtain ⟨progress, hwalked, hpending, rfl⟩ := run_walked h
  by_cases hmem : name ∈ progress.finished
  · refine ⟨?_, ?_⟩
    · exact (hwalked.settled name hmem).trans (by rw [hfound, Option.map_some])
    · intro request hrequest
      obtain ⟨source, _, hsource, -⟩ := hwalked.served name hmem type hfound request hrequest
      rw [hsource, ((source?_eq_some_iff hkeyed).1 hsource).1]
  · have himports : type.imports = [] := by
      by_contra hne
      exact hmem (hpending name (mem_pending hkeyed hfound hne))
    refine ⟨?_, by simp [himports]⟩
    rw [resolved, himports, List.flatMap_nil, settle_nil himports, ← hfound]
    exact hwalked.waiting name hmem

theorem keyed_resolved {schema : Schema} {types : OrderedMap String TypeDef} {name : String}
    {type : TypeDef} (h : ∀ fields ∈ type.fields?, fields.KeyedBy Field.name) :
    ∀ fields ∈ (resolved schema types name type).fields?, fields.KeyedBy Field.name := by
  intro fields hfields
  rw [resolved, fields?_settle, Option.mem_def, Option.map_eq_some_iff] at hfields
  obtain ⟨own, hown, rfl⟩ := hfields
  exact keyed_addBorrowed (h own hown) name _

theorem nodup_fieldsOf_run {schema result : Schema} (hkeyed : schema.Keyed)
    (h : run schema = .ok result) (name : String) :
    ((result.fieldsOf name).map (·.name)).Nodup := by
  unfold Schema.fieldsOf
  split
  · rename_i after hafter
    have hkeys := (run_frame h).2.2
    obtain ⟨before, hbefore⟩ : ∃ before, schema.find? name = some before := by
      rw [← Option.isSome_iff_exists]
      exact OrderedMap.contains_iff.2 (hkeys ▸ OrderedMap.mem_keys_of_get? hafter)
    rw [(find?_run hkeyed.types h hbefore).1, Option.some.injEq] at hafter
    rw [← hafter]
    exact nodup_fieldList (keyed_resolved
      (hkeyed.fields before (OrderedMap.mem_values_iff.2 ⟨name, hbefore⟩)))
  · simp

theorem fieldList_resolved {schema result : Schema} (hkeyed : schema.Keyed)
    (h : run schema = .ok result) {name : String} {type : TypeDef}
    (hfound : schema.find? name = some type) :
    (resolved schema result.types name type).fieldList =
      extended name result.fieldsOf type.fieldList type.imports := by
  have hsources := (find?_run hkeyed.types h hfound).2
  cases hfields : type.fields? with
  | none =>
    have himports : type.imports = [] := TypeBody.imports_of_fields?_eq_none hfields
    simp [resolved, TypeDef.fieldList, hfields, himports, extended]
  | some fields =>
    have hown : fields.KeyedBy Field.name :=
      hkeyed.fields type (OrderedMap.mem_values_iff.2 ⟨name, hfound⟩) fields hfields
    have hlend : ∀ request ∈ type.imports, loan schema result.types request =
        (result.fieldsOf request.source).filter fun field => field.name ∉ request.except := by
      intro request hrequest
      rw [loan, hsources request hrequest, Option.bind_some, Schema.fieldsOf, Schema.find?]
      cases hlender : result.types.get? request.source <;> rfl
    have hvalues := values_addBorrowed_flatMap hown name type.imports hlend
      (nodup_fieldsOf_run hkeyed h)
    simpa [resolved, TypeDef.fieldList, hfields] using hvalues

/-- Resolving imports flattens them: every type ends with its own fields, unchanged and in order,
and then, import by import, with the fields that the sources have in the end, but for excepted and
taken names. Nothing else changes. -/
theorem run_flattens {schema result : Schema} (hkeyed : schema.Keyed)
    (h : run schema = .ok result) :
    result.roots = schema.roots ∧ result.behaviors = schema.behaviors ∧
      result.types.keys = schema.types.keys ∧
      ∀ name before, schema.find? name = some before → ∃ after, result.find? name = some after ∧
        after.imports = [] ∧ outline after = outline before ∧
        (∀ fields ∈ after.fields?, fields.KeyedBy Field.name) ∧
        after.fieldList = extended name result.fieldsOf before.fieldList before.imports := by
  obtain ⟨hroots, hbehaviors, hkeys⟩ := run_frame h
  refine ⟨hroots, hbehaviors, hkeys, ?_⟩
  intro name before hbefore
  refine ⟨resolved schema result.types name before, (find?_run hkeyed.types h hbefore).1,
    imports_settle name _ before, outline_settle name _ before, ?_, ?_⟩
  · exact keyed_resolved (hkeyed.fields before (OrderedMap.mem_values_iff.2 ⟨name, hbefore⟩))
  · exact fieldList_resolved hkeyed h hbefore

/-- `A` imports from `B`, which imports from `C`; `A` leaves out `z` and has an `x` of its own. -/
def relay : Schema :=
  let object (name : String) (fields : List String) (imports : List FieldImport) : TypeDef :=
    let fields := fields.map fun field => { name := field, type := .named "String" }
    { name, body := .object [] (.ofFields name fields) imports }
  Schema.build {} [
    object "A" ["a", "x"] [{ source := "B", except := ["z"] }],
    object "B" ["b"] [{ source := "C" }],
    object "C" ["x", "c", "z"] []]

theorem run_flattens_relay : ∃ result, relay.Keyed ∧ run relay = .ok result ∧
    ∃ after, result.find? "A" = some after ∧
      after.fieldList = extended "A" result.fieldsOf (relay.fieldsOf "A")
        [{ source := "B", except := ["z"] }] ∧
      after.fieldList.map (fun field => (field.name, field.parent)) =
        [("a", "A"), ("x", "A"), ("b", "A"), ("c", "A")] := by
  have hkeyed : relay.Keyed := ⟨by decide, by decide⟩
  have hfields : (run relay).toOption.map (fun result =>
      (result.fieldsOf "A").map fun field => (field.name, field.parent)) =
        some [("a", "A"), ("x", "A"), ("b", "A"), ("c", "A")] := by cbv
  obtain ⟨result, hrun, hfields⟩ := toOption_map_eq_some_iff.1 hfields
  obtain ⟨-, -, -, htypes⟩ := run_flattens hkeyed hrun
  obtain ⟨after, hafter, -, -, -, hlist⟩ := htypes "A" _ rfl
  refine ⟨result, hkeyed, hrun, after, hafter, hlist, ?_⟩
  have hsame : result.fieldsOf "A" = after.fieldList := by simp only [Schema.fieldsOf, hafter]
  rw [← hsame, hfields]

end GraphSchema.Imports
