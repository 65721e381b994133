import GraphSchema.Proofs.Imports.Walk

/-!
# Where fields come from

After a run a type still has the fields it declared, and every field that it has was declared by
some type, perhaps under another parent.
-/

namespace GraphSchema.Imports

/-- Some type of the schema has the field, perhaps under another parent. -/
def Declared (schema : Schema) (field : Field) : Prop :=
  ∃ type ∈ schema.typeList, ∃ own ∈ type.fieldList, field = { own with parent := field.parent }

theorem Declared.withParent {schema : Schema} {field : Field} (h : Declared schema field)
    (parent : String) : Declared schema { field with parent } := by
  obtain ⟨type, htype, own, hown, heq⟩ := h
  refine ⟨type, htype, own, hown, ?_⟩
  rw [heq]

theorem declared_of_find? {schema : Schema} {name : String} {type : TypeDef} {field : Field}
    (hfound : schema.find? name = some type) (hfield : field ∈ type.fieldList) :
    Declared schema field :=
  ⟨type, OrderedMap.mem_values_iff.2 ⟨name, hfound⟩, field, hfield, rfl⟩

/-! ## One type -/

theorem values_insertNew (fields : FieldMap) (field : Field) :
    (fields.insertNew field.name field).values = fields.values ∨
      (fields.insertNew field.name field).values = fields.values ++ [field] := by
  by_cases hmem : field.name ∈ fields.keys
  · exact .inl (by rw [OrderedMap.insertNew_of_mem hmem])
  · exact .inr (by simp [OrderedMap.values, OrderedMap.entries_insertNew_of_not_mem hmem])

/-- Borrowed fields come behind those that were there. -/
theorem values_prefix_addBorrowed (parent : String) (fields : FieldMap) (borrowed : List Field) :
    fields.values <+: (addBorrowed parent fields borrowed).values := by
  induction borrowed generalizing fields with
  | nil => exact List.prefix_refl _
  | cons field rest ih =>
    refine List.IsPrefix.trans ?_ (ih (fields.insertNew field.name { field with parent }))
    rcases values_insertNew fields { field with parent } with h | h
    · exact h ▸ List.prefix_refl _
    · exact h ▸ List.prefix_append _ _

theorem mem_addBorrowed {parent : String} {fields : FieldMap} {borrowed : List Field}
    {field : Field} (h : field ∈ (addBorrowed parent fields borrowed).values) :
    field ∈ fields.values ∨ ∃ lent ∈ borrowed, field = { lent with parent } := by
  induction borrowed generalizing fields with
  | nil => exact .inl h
  | cons lent rest ih =>
    rcases ih h with h | ⟨other, hother, heq⟩
    · rcases values_insertNew fields { lent with parent } with hvalues | hvalues
      · exact .inl (hvalues ▸ h)
      · rw [hvalues, List.mem_append, List.mem_singleton] at h
        exact h.imp_right fun heq => ⟨lent, List.mem_cons_self, heq⟩
    · exact .inr ⟨other, List.mem_cons_of_mem _ hother, heq⟩

@[simp] theorem name_settle (name : String) (borrowed : List Field) (type : TypeDef) :
    (settle name borrowed type).name = type.name := by
  cases hfields : type.body.fields? <;> simp [settle, hfields]

@[simp] theorem kind_settle (name : String) (borrowed : List Field) (type : TypeDef) :
    (settle name borrowed type).kind = type.kind := by
  cases hbody : type.body <;> simp [settle, TypeDef.kind, hbody, TypeBody.dropImports,
    TypeBody.fields?, TypeBody.setFields, TypeBody.kind]

theorem fieldList_prefix_settle (name : String) (borrowed : List Field) (type : TypeDef) :
    type.fieldList <+: (settle name borrowed type).fieldList := by
  cases hfields : type.fields? with
  | none => simp [TypeDef.fieldList, hfields]
  | some fields =>
    simpa [TypeDef.fieldList, hfields] using values_prefix_addBorrowed name fields borrowed

theorem mem_fieldList_settle {name : String} {borrowed : List Field} {type : TypeDef}
    {field : Field} (h : field ∈ (settle name borrowed type).fieldList) :
    field ∈ type.fieldList ∨ ∃ lent ∈ borrowed, field = { lent with parent := name } := by
  cases hfields : type.fields? with
  | none => simp [TypeDef.fieldList, hfields] at h
  | some fields =>
    have h' : field ∈ (addBorrowed name fields borrowed).values := by
      simpa [TypeDef.fieldList, hfields] using h
    simpa [TypeDef.fieldList, hfields] using mem_addBorrowed h'

/-! ## The whole run -/

/-- Fields are lent along chains of imports that end. -/
theorem declared_of_finished {schema : Schema} {progress : Progress}
    (h : Walked schema progress) {name : String} (hmem : name ∈ progress.finished)
    {type : TypeDef} (hfound : progress.types.get? name = some type) {field : Field}
    (hfield : field ∈ type.fieldList) : Declared schema field := by
  induction h.grounded name hmem generalizing type field with
  | intro name _ ih =>
    rw [h.settled name hmem, Option.map_eq_some_iff] at hfound
    obtain ⟨before, hbefore, rfl⟩ := hfound
    rcases mem_fieldList_settle hfield with hown | ⟨lent, hlent, rfl⟩
    · exact declared_of_find? hbefore hown
    · obtain ⟨request, hrequest, hloan⟩ := List.mem_flatMap.1 hlent
      obtain ⟨source, lender, hsource, hfinished, hlender, -⟩ :=
        h.served name hmem before hbefore request hrequest
      have hnow : progress.types.get? source =
          some (resolved schema progress.types source lender) := by
        rw [h.settled source hfinished, hlender, Option.map_some]
      rw [loan, hsource, Option.bind_some, hnow] at hloan
      have hlends : Lends schema source name := ⟨before, hbefore, request, hrequest, hsource⟩
      exact (ih source hlends hfinished hnow (List.mem_of_mem_filter hloan)).withParent name

theorem declared_of_run {schema result : Schema} (h : run schema = .ok result) {name : String}
    {type : TypeDef} (hfound : result.find? name = some type) {field : Field}
    (hfield : field ∈ type.fieldList) : Declared schema field := by
  obtain ⟨progress, hwalked, -, rfl⟩ := run_walked h
  by_cases hmem : name ∈ progress.finished
  · exact declared_of_finished hwalked hmem hfound hfield
  · exact declared_of_find? ((hwalked.waiting name hmem).symm.trans hfound) hfield

/-- A run leaves a type its name, its kind and the fields it had. -/
theorem find?_of_run {schema result : Schema} (h : run schema = .ok result) {name : String}
    {before : TypeDef} (hfound : schema.find? name = some before) :
    ∃ after, result.find? name = some after ∧ after.name = before.name ∧
      after.kind = before.kind ∧ before.fieldList ⊆ after.fieldList := by
  obtain ⟨progress, hwalked, -, rfl⟩ := run_walked h
  by_cases hmem : name ∈ progress.finished
  · refine ⟨resolved schema progress.types name before, ?_, name_settle name _ before,
      kind_settle name _ before, (fieldList_prefix_settle name _ before).subset⟩
    exact (hwalked.settled name hmem).trans (by rw [hfound, Option.map_some])
  · exact ⟨before, (hwalked.waiting name hmem).trans hfound, rfl, rfl, List.Subset.refl _⟩

theorem contains_of_run {schema result : Schema} (h : run schema = .ok result) (name : String) :
    result.contains name = schema.contains name := by
  rw [Bool.eq_iff_iff, Schema.contains, Schema.contains, OrderedMap.contains_iff,
    OrderedMap.contains_iff, (run_frame h).2.2]

theorem keyedBy_of_run {schema result : Schema} (h : run schema = .ok result)
    (hkeyed : schema.types.KeyedBy TypeDef.name) : result.types.KeyedBy TypeDef.name := by
  rintro ⟨key, after⟩ hentry
  have hafter : result.find? key = some after := OrderedMap.get?_eq_some_iff.2 hentry
  have hcontains : schema.contains key := by
    rw [← contains_of_run h key]
    exact Option.isSome_iff_exists.2 ⟨after, hafter⟩
  obtain ⟨before, hbefore⟩ := Option.isSome_iff_exists.1 hcontains
  obtain ⟨found, hfound, hname, -⟩ := find?_of_run h hbefore
  obtain rfl : found = after := Option.some.inj (hfound.symm.trans hafter)
  exact hname.trans (hkeyed.of_get? hbefore)

end GraphSchema.Imports
