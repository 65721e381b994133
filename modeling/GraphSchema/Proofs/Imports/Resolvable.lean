import GraphSchema.Proofs.Imports.Walk
import GraphSchema.Schema.Builders

/-!
# Resolvable imports

A run succeeds on the schemas whose imports all name types that have fields, with no cycle among
them, and on no others.
-/

namespace GraphSchema.Imports

/-- One type has a pending import that names the other. -/
def ImportsFrom (schema : Schema) (importer source : String) : Prop :=
  ∃ type, schema.find? importer = some type ∧ ∃ request ∈ type.imports, request.source = source

/-- Every import names a registered type with fields, of the module it asks for, and no chain of
imports comes back to its start. -/
structure Resolvable (schema : Schema) : Prop where
  sources : ∀ name type, schema.find? name = some type → ∀ request ∈ type.imports,
    ∃ source, schema.find? request.source = some source ∧
      (∀ moduleName ∈ request.moduleName, source.moduleName = some moduleName) ∧
      (source.kind = .object ∨ source.kind = .interface ∨ source.kind = .inputObject)
  acyclic : ∀ name, ¬ Relation.TransGen (ImportsFrom schema) name name

theorem chain_source {schema : Schema} {chain : List String} {importer : String} {type : TypeDef}
    {request : FieldImport} (hfound : schema.find? importer = some type)
    (hrequest : request ∈ type.imports)
    (hchain : ∀ other ∈ chain, Relation.ReflTransGen (ImportsFrom schema) other importer) :
    ∀ other ∈ chain, Relation.TransGen (ImportsFrom schema) other request.source :=
  fun other hother => .tail' (hchain other hother) ⟨type, hfound, request, hrequest, rfl⟩

/-! ## Resolvable schemas succeed -/

/-- A source that was finished can be borrowed from. -/
theorem borrow_of_resolvable {schema : Schema} (hresolvable : Resolvable schema) {name : String}
    {type : TypeDef} {request : FieldImport} {progress : Progress}
    (hfound : schema.find? name = some type)
    (hrequest : request ∈ type.imports) (hwalked : Walked schema progress)
    (hmem : request.source ∈ progress.finished) :
    ∃ fields, borrow progress request.source request = .ok fields := by
  obtain ⟨source, hsource, -, hkind⟩ := hresolvable.sources name type hfound request hrequest
  have hnow := hwalked.settled request.source hmem
  rw [hsource, Option.map_some] at hnow
  obtain ⟨own, hown⟩ : ∃ own, source.fields? = some own :=
    Option.isSome_iff_exists.1 (TypeBody.fields?_isSome_iff.2 hkind)
  obtain ⟨fields, hfields⟩ :
      ∃ fields, (resolved schema progress.types request.source source).fields? = some fields :=
    ⟨_, by rw [resolved, fields?_settle, hown, Option.map_some]⟩
  refine ⟨fields.values.filter fun field => field.name ∉ request.except, ?_⟩
  simp only [borrow, hnow, hfields]

section Resolvable

variable {schema : Schema} (hkeyed : schema.types.KeyedBy TypeDef.name)
  (hresolvable : Resolvable schema)
include hkeyed hresolvable

theorem source?_of_resolvable {name : String} {type : TypeDef} {request : FieldImport}
    (hfound : schema.find? name = some type) (hrequest : request ∈ type.imports) :
    source? schema request = some request.source := by
  obtain ⟨source, hsource, hmodule, -⟩ := hresolvable.sources name type hfound request hrequest
  exact (source?_eq_some_iff hkeyed).2 ⟨rfl, source, hsource, hmodule⟩

/-- An entry succeeds if its chain leads to the type along imports. -/
theorem resolve_of_resolvable {chain : List String} {name : String} {progress : Progress}
    (hwalked : Walked schema progress)
    (hchain : ∀ other ∈ chain, Relation.TransGen (ImportsFrom schema) other name) :
    ∃ later, resolve schema chain name progress = .ok later := by
  have hboth := resolve.mutual_induct_unfolding schema
    (fun chain name progress outcome => Walked schema progress →
      (∀ other ∈ chain, Relation.TransGen (ImportsFrom schema) other name) →
      ∃ later, outcome = .ok later)
    (fun chain importer requests progress _ outcome => Walked schema progress →
      (∃ type, schema.find? importer = some type ∧ requests ⊆ type.imports) →
      (∀ other ∈ chain, Relation.ReflTransGen (ImportsFrom schema) other importer) →
      ∃ later, outcome = .ok later)
  refine (hboth ?_ ?_ ?_ ?_ ?_ ?_ ?_ ?_ ?_ ?_).1 chain name progress hwalked hchain
  · intro chain name progress _ _ _
    exact ⟨progress, rfl⟩
  · intro chain name progress _ hmem _ hchain
    exact absurd (hchain name hmem) (hresolvable.acyclic name)
  · intro chain name progress _ _ _ _ _
    exact ⟨_, rfl⟩
  · intro chain name progress _ _ type hfound failure hcollect ih hwalked hchain
    have hchain' : ∀ other ∈ name :: chain,
        Relation.ReflTransGen (ImportsFrom schema) other name := by
      intro other hother
      rcases List.mem_cons.1 hother with rfl | hother
      · exact .refl
      · exact (hchain other hother).to_reflTransGen
    obtain ⟨later, hlater⟩ := ih hwalked ⟨type, hfound, List.Subset.refl _⟩ hchain'
    rw [hcollect] at hlater
    cases hlater
  · intro chain name progress _ _ type _ later borrowed _ _ _ _
    exact ⟨_, rfl⟩
  · intro chain importer progress borrowed _ _ _
    exact ⟨_, rfl⟩
  · rintro chain importer request rest progress borrowed hnone - - ⟨type, hfound, hsub⟩ -
    rw [source?_of_resolvable hkeyed hresolvable hfound (hsub List.mem_cons_self)] at hnone
    cases hnone
  · rintro chain importer request rest progress borrowed source hsource failure hfailed ih hwalked
      ⟨type, hfound, hsub⟩ hchain
    obtain rfl := ((source?_eq_some_iff hkeyed).1 hsource).1
    obtain ⟨later, hlater⟩ :=
      ih hwalked (chain_source hfound (hsub List.mem_cons_self) hchain)
    rw [hfailed] at hlater
    cases hlater
  · rintro chain importer request rest progress borrowed source hsource between hresolve error
      hborrow - hwalked ⟨type, hfound, hsub⟩ -
    obtain rfl := ((source?_eq_some_iff hkeyed).1 hsource).1
    obtain ⟨hadvances, hmem⟩ := resolve_advances hresolve hwalked
    obtain ⟨fields, hfields⟩ := borrow_of_resolvable hresolvable hfound
      (hsub List.mem_cons_self) hadvances.walked hmem
    rw [hborrow] at hfields
    cases hfields
  · rintro chain importer request rest progress borrowed source - between hresolve fields - - ih
      hwalked ⟨type, hfound, hsub⟩ hchain
    exact ih (resolve_advances hresolve hwalked).1.walked
      ⟨type, hfound, List.Subset.trans (List.subset_cons_self request rest) hsub⟩ hchain

theorem run_of_resolvable : ∃ result, run schema = .ok result := by
  have hentry : ∀ name ∈ pending schema, ∀ progress, Walked schema progress →
      ∃ later, resolve schema [] name progress = .ok later ∧ Walked schema later := by
    intro name _ progress hwalked
    obtain ⟨later, hlater⟩ : ∃ later, resolve schema [] name progress = .ok later :=
      resolve_of_resolvable hkeyed hresolvable hwalked (by simp)
    exact ⟨later, hlater, (resolve_advances hlater hwalked).1.walked⟩
  obtain ⟨progress, hrun, -⟩ := run_of_entries hentry (walked_start schema)
  exact ⟨_, hrun⟩

end Resolvable

/-! ## Successful runs -/

/-- A type that lends to itself along some way would give an endless chain. -/
theorem not_transGen_of_acc {schema : Schema} {name : String} (h : Acc (Lends schema) name) :
    ¬ Relation.TransGen (Lends schema) name name := by
  have hacc := h.transGen
  induction hacc with
  | intro name hbelow ih => exact fun hcycle => ih name hcycle (h.inv_of_transGen hcycle) hcycle

theorem resolvable_of_run {schema result : Schema} (hkeyed : schema.types.KeyedBy TypeDef.name)
    (h : run schema = .ok result) : Resolvable schema := by
  obtain ⟨progress, hwalked, hpending, -⟩ := run_walked h
  have hfinished : ∀ name type, schema.find? name = some type → ∀ request ∈ type.imports,
      name ∈ progress.finished := by
    intro name type hfound request hrequest
    exact hpending name (mem_pending hkeyed hfound (List.ne_nil_of_mem hrequest))
  have hserved : ∀ name type, schema.find? name = some type → ∀ request ∈ type.imports,
      Served schema progress.finished request := fun name type hfound request hrequest =>
    hwalked.served name (hfinished name type hfound request hrequest) type hfound request hrequest
  refine ⟨?_, ?_⟩
  · intro name type hfound request hrequest
    obtain ⟨source, lender, hsource, -, hlender, hfields⟩ :=
      hserved name type hfound request hrequest
    obtain ⟨rfl, found, hfound', hmodule⟩ := (source?_eq_some_iff hkeyed).1 hsource
    obtain rfl : found = lender := Option.some.inj (hfound'.symm.trans hlender)
    exact ⟨found, hfound', hmodule, TypeBody.fields?_isSome_iff.1 hfields⟩
  · intro name hcycle
    have hlends : ∀ importer source, ImportsFrom schema importer source →
        Lends schema source importer := by
      rintro importer source ⟨type, hfound, request, hrequest, rfl⟩
      obtain ⟨source, -, hsource, -⟩ := hserved importer type hfound request hrequest
      rw [((source?_eq_some_iff hkeyed).1 hsource).1] at hsource
      exact ⟨type, hfound, request, hrequest, hsource⟩
    have hcycle' : Relation.TransGen (Lends schema) name name :=
      Relation.transGen_swap.1 (Relation.TransGen.mono hlends name name hcycle)
    obtain ⟨_, ⟨type, hfound, request, hrequest, -⟩, -⟩ := Relation.TransGen.head'_iff.1 hcycle
    exact not_transGen_of_acc
      (hwalked.grounded name (hfinished name type hfound request hrequest)) hcycle'

/-! ## The decision -/

theorem run_ok_or_error (schema : Schema) :
    (∃ result, run schema = .ok result) ∨ ∃ errors, errors ≠ [] ∧ run schema = .error errors := by
  let found := (pending schema).foldl (start schema) (⟨schema.types, []⟩, [])
  by_cases h : found.2 = []
  · exact .inl ⟨_, Checked.unless_eq_ok_iff.2 ⟨h, rfl⟩⟩
  · exact .inr ⟨found.2, h, Checked.unless_of_ne_nil h _⟩

/-- Resolving imports always ends. It succeeds exactly on the resolvable schemas and reports at
least one error on every other. -/
theorem run_eq_ok_iff_resolvable {schema : Schema} (hkeyed : schema.types.KeyedBy TypeDef.name) :
    ((∃ result, run schema = .ok result) ↔ Resolvable schema) ∧
      (¬ Resolvable schema → ∃ errors, errors ≠ [] ∧ run schema = .error errors) := by
  have hiff : (∃ result, run schema = .ok result) ↔ Resolvable schema := by
    constructor
    · rintro ⟨result, hrun⟩
      exact resolvable_of_run hkeyed hrun
    · intro hresolvable
      exact run_of_resolvable hkeyed hresolvable
  refine ⟨hiff, ?_⟩
  intro hnot
  rcases run_ok_or_error schema with hok | herror
  · exact absurd (hiff.1 hok) hnot
  · exact herror

/-- `Left` and `Right` import from each other, and `Outer` from `Left`. -/
def ring : Schema :=
  let importing (name source : String) : TypeDef :=
    { name, body := .object [] .empty [{ source }] }
  Schema.build {} [importing "Outer" "Left", importing "Left" "Right",
    importing "Right" "Left"]

theorem run_ring : ring.types.KeyedBy TypeDef.name ∧ ¬ Resolvable ring ∧
    ∃ errors, errors ≠ [] ∧ run ring = .error errors := by
  have hkeyed : ring.types.KeyedBy TypeDef.name := by decide
  have hleft : ImportsFrom ring "Left" "Right" := ⟨_, rfl, _, List.mem_cons_self, rfl⟩
  have hright : ImportsFrom ring "Right" "Left" := ⟨_, rfl, _, List.mem_cons_self, rfl⟩
  have hcycle : ¬ Resolvable ring := fun h => h.acyclic "Left" (.tail (.single hleft) hright)
  exact ⟨hkeyed, hcycle, (run_eq_ok_iff_resolvable hkeyed).2 hcycle⟩

end GraphSchema.Imports
