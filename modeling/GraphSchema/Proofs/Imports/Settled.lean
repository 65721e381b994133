import GraphSchema.Proofs.Imports.Walk

/-!
# Settled schemas

A run leaves nothing pending under the names it started from, and a schema without anything
pending there is left as it is.
-/

namespace GraphSchema.Imports

/-- No type that is registered under the name of a pending one has imports. -/
def Settled (schema : Schema) : Prop :=
  ∀ name ∈ pending schema, ∀ type, schema.find? name = some type → type.imports = []

/-- In a settled schema, a type under its own name has no imports. -/
theorem Settled.imports_eq_nil {schema : Schema} (h : Settled schema) {name : String}
    {type : TypeDef} (hfound : schema.find? name = some type) (hname : type.name = name) :
    type.imports = [] := by
  by_contra himports
  exact himports (h name (mem_pending_iff.2 ⟨name, type, hfound, himports, hname⟩) type hfound)

theorem settled_of_run {schema result : Schema} (h : run schema = .ok result) :
    Settled result := by
  obtain ⟨progress, hwalked, hpending, rfl⟩ := run_walked h
  have hfinished : ∀ name ∈ progress.finished, ∀ type,
      progress.types.get? name = some type → type.imports = [] := by
    intro name hname type hfound
    rw [hwalked.settled name hname, Option.map_eq_some_iff] at hfound
    obtain ⟨before, -, rfl⟩ := hfound
    exact imports_settle name _ before
  intro name hname
  apply hfinished name
  obtain ⟨key, type, hfound, himports, rfl⟩ := mem_pending_iff.1 hname
  -- What still has imports was not reached, so it was pending from the start.
  have hkey : key ∉ progress.finished := fun hkey => himports (hfinished key hkey type hfound)
  have hfound' : schema.find? key = some type := by
    rw [← hwalked.waiting key hkey]
    exact hfound
  exact hpending type.name (mem_pending_iff.2 ⟨key, type, hfound', himports, rfl⟩)

/-! ## Running again -/

theorem resolve_of_imports_eq_nil {schema : Schema} {name : String} {progress : Progress}
    (htypes : progress.types = schema.types)
    (h : ∀ type, schema.find? name = some type → type.imports = []) :
    ∃ later, resolve schema [] name progress = .ok later ∧ later.types = schema.types := by
  unfold resolve
  by_cases hmem : name ∈ progress.finished
  · exact ⟨progress, by rw [if_pos hmem], htypes⟩
  · rw [if_neg hmem, dif_neg List.not_mem_nil]
    split
    · exact ⟨_, rfl, htypes⟩
    · rename_i type hfound
      have hsame : schema.types.modify name (settle name []) = schema.types := by
        apply OrderedMap.modify_eq_self
        intro other hother
        exact settle_nil (h other hother) name
      simp only [h type hfound, collect, htypes]
      exact ⟨_, rfl, hsame⟩

theorem run_eq_self {schema : Schema} (h : Settled schema) : run schema = .ok schema := by
  obtain ⟨progress, hrun, htypes⟩ := @run_of_entries schema (·.types = schema.types)
    (fun name hname progress htypes => resolve_of_imports_eq_nil htypes (h name hname)) rfl
  rw [hrun, htypes]

end GraphSchema.Imports
