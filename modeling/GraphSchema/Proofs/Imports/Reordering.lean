import GraphSchema.Proofs.Imports.Flattening
import GraphSchema.Proofs.Imports.Resolvable

/-!
# Imports in another order

The walk starts from the types in the order in which they are registered. Which schemas resolve,
and what their types become, depends on what stands under each name and not on that order.
-/

namespace GraphSchema

namespace OrderedMap

variable {κ α : Type} [DecidableEq κ] {m n : OrderedMap κ α}

/-- Maps hold the same entries, in any order, if they hold the same values under the same keys. -/
theorem perm_entries_iff :
    m.entries.Perm n.entries ↔ ∀ key, m.get? key = n.get? key := by
  rw [List.perm_ext_iff_of_nodup (.of_map Prod.fst m.nodup) (.of_map Prod.fst n.nodup),
    Prod.forall]
  refine forall_congr' fun key => ?_
  rw [Option.ext_iff]
  simp only [get?_eq_some_iff]

theorem keyedBy_iff {name : α → κ} :
    m.KeyedBy name ↔ ∀ key value, m.get? key = some value → name value = key := by
  simp only [KeyedBy, Prod.forall, get?_eq_some_iff]

end OrderedMap

/-- The same roots, and the same types under the same names, registered in any order. -/
structure Schema.Reordered (first second : Schema) : Prop where
  roots : first.roots = second.roots
  types : first.types.entries.Perm second.types.entries

theorem Schema.Reordered.find? {first second : Schema} (h : first.Reordered second)
    (name : String) : first.find? name = second.find? name :=
  OrderedMap.perm_entries_iff.1 h.types name

namespace Imports

/-! ## The same types under the same names -/

/-- No chain of imports goes on for ever in a schema that resolved. -/
theorem acc_lends_of_run {schema result : Schema} (hkeyed : schema.types.KeyedBy TypeDef.name)
    (h : run schema = .ok result) (name : String) : Acc (Lends schema) name := by
  obtain ⟨progress, hwalked, hpending, -⟩ := run_walked h
  by_cases hmem : name ∈ progress.finished
  · exact hwalked.grounded name hmem
  · constructor
    rintro source ⟨type, hfound, request, hrequest, -⟩
    exact absurd (hpending name (mem_pending hkeyed hfound (List.ne_nil_of_mem hrequest))) hmem

section

variable {first second : Schema} (hfind : ∀ name, first.find? name = second.find? name)
include hfind

theorem source?_congr : source? first = source? second := by
  funext request
  simp only [source?, hfind]

theorem resolvable_congr : Resolvable first ↔ Resolvable second := by
  have himports : ImportsFrom first = ImportsFrom second := by
    funext importer source
    simp only [ImportsFrom, hfind]
  constructor
  · rintro ⟨hsources, hacyclic⟩
    exact ⟨by simpa only [hfind] using hsources, by simpa only [himports] using hacyclic⟩
  · rintro ⟨hsources, hacyclic⟩
    exact ⟨by simpa only [hfind] using hsources, by simpa only [himports] using hacyclic⟩

theorem keyedBy_congr (hkeyed : first.types.KeyedBy TypeDef.name) :
    second.types.KeyedBy TypeDef.name := by
  rw [OrderedMap.keyedBy_iff] at hkeyed ⊢
  intro key type hfound
  exact hkeyed key type ((hfind key).trans hfound)

theorem find?_run_congr {imported imported' : Schema}
    (hkeyed : first.types.KeyedBy TypeDef.name) (h : run first = .ok imported)
    (h' : run second = .ok imported') (name : String) :
    imported.find? name = imported'.find? name := by
  have hkeyed' := keyedBy_congr hfind hkeyed
  -- A type becomes what its imports make of it, so the sources must have become the same first.
  induction acc_lends_of_run hkeyed h name with
  | intro name _ ih =>
    cases hfound : first.find? name with
    | none =>
      have hleft : imported.find? name = none :=
        OrderedMap.get?_eq_none_iff.2 ((run_frame h).2.2 ▸ OrderedMap.get?_eq_none_iff.1 hfound)
      rw [hfind] at hfound
      have hright : imported'.find? name = none :=
        OrderedMap.get?_eq_none_iff.2 ((run_frame h').2.2 ▸ OrderedMap.get?_eq_none_iff.1 hfound)
      rw [hleft, hright]
    | some type =>
      obtain ⟨hleft, hsources⟩ := find?_run hkeyed h hfound
      obtain ⟨hright, -⟩ := find?_run hkeyed' h' ((hfind name).symm.trans hfound)
      have hloans : ∀ request ∈ type.imports,
          loan first imported.types request = loan second imported'.types request := by
        intro request hrequest
        have hsource := hsources request hrequest
        have hsame := ih request.source ⟨type, hfound, request, hrequest, hsource⟩
        simp only [Schema.find?] at hsame
        simp only [loan, ← source?_congr hfind, hsource, Option.bind_some, hsame]
      rw [hleft, hright, resolved, resolved, List.flatMap_congr hloans]

end

/-! ## Reordered schemas -/

/-- The imports of reordered schemas resolve alike, or fail in both. -/
theorem run_reordered {first second : Schema} (hkeyed : first.types.KeyedBy TypeDef.name)
    (h : first.Reordered second) :
    (run first).isOk = (run second).isOk ∧
      ∀ imported imported', run first = .ok imported → run second = .ok imported' →
        imported.Reordered imported' := by
  have hkeyed' := keyedBy_congr h.find? hkeyed
  have hiff : ∀ {schema : Schema}, schema.types.KeyedBy TypeDef.name →
      ((run schema).isOk ↔ Resolvable schema) := by
    intro schema hkeyed
    rw [isOk_iff]
    exact ⟨fun ⟨_, hrun⟩ => resolvable_of_run hkeyed hrun, run_of_resolvable hkeyed⟩
  refine ⟨?_, ?_⟩
  · rw [Bool.eq_iff_iff, hiff hkeyed, hiff hkeyed']
    exact resolvable_congr h.find?
  · intro imported imported' hrun hrun'
    refine ⟨?_, OrderedMap.perm_entries_iff.2 (find?_run_congr h.find? hkeyed hrun hrun')⟩
    rw [(run_frame hrun).1, (run_frame hrun').1, h.roots]

end Imports

end GraphSchema
