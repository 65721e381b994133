import GraphSchema.Proofs.Imports.Settled
import GraphSchema.Proofs.Pipeline.Outcome
import GraphSchema.Schema.Builders

/-!
# Compiling again

What the built-in phases return is a fixed point of each of them: its imports are settled, it is
linked, it is accepted, and it has the behaviors that its hydrators return.
-/

namespace GraphSchema.Pipeline

/-! ## Fixed points -/

/-- Linking and behaviors leave imports alone. -/
theorem settled_linked {schema : Schema} (h : Imports.Settled schema) (behaviors : BehaviorTable) :
    Imports.Settled { Linking.linked schema with behaviors } := by
  have hfind : ∀ name, Schema.find? { Linking.linked schema with behaviors } name =
      (schema.find? name).map (Linking.linkedType schema name) := Linking.find?_linked schema
  intro name hname type hfound
  obtain ⟨key, pending, hkey, himports, rfl⟩ := Imports.mem_pending_iff.1 hname
  rw [hfind, Option.map_eq_some_iff] at hkey hfound
  obtain ⟨before, hbefore, rfl⟩ := hkey
  obtain ⟨found, hfound, rfl⟩ := hfound
  rw [Linking.name_linkedType] at hfound
  rw [Linking.imports_linkedType] at himports ⊢
  exact h before.name (Imports.mem_pending_iff.2 ⟨key, before, hbefore, himports, rfl⟩) found hfound

/-- A compiled schema is linked, whatever behaviors it has. -/
theorem linked_withBehaviors (schema : Schema) (behaviors : BehaviorTable) :
    Linking.linked { Linking.linked schema with behaviors } =
      { Linking.linked schema with behaviors } := by
  have htypes := congrArg Schema.types (Linking.linked_linked schema)
  exact congrArg (fun types => { schema with types, behaviors }) htypes

/-- Compiling is idempotent: a compiled schema compiles to itself, with the same types in the same
order, the same roots and the same table of behaviors. No type that is registered under its name
has imports left. -/
theorem compile_idempotent {hydrators : List Hydration.Hydrator} {schema compiled : Schema}
    (h : (standard hydrators).compile schema = .ok compiled) :
    (standard hydrators).compile compiled = .ok compiled ∧
      ∀ type, compiled.find? type.name = some type → type.imports = [] := by
  have haccepted : Accepted compiled := accepted_of_compile h
  obtain ⟨imported, himports, -, hcompiled⟩ := chain_standard_iff.1 (chain_of_runPhases h)
  have hsettled : Imports.Settled compiled := by
    rw [hcompiled, Hydration.run_eq]
    exact settled_linked (Imports.settled_of_run himports) _
  have hlinked : Linking.linked compiled = compiled := by
    rw [hcompiled, Hydration.run_eq]
    exact linked_withBehaviors imported _
  have hhydrated : Hydration.run hydrators compiled = compiled := by
    rw [hcompiled, Hydration.run_run]
  refine ⟨runPhases_nil_of_chain (chain_standard_iff.2 ?_), ?_⟩
  · exact ⟨compiled, Imports.run_eq_self hsettled, by rwa [hlinked], by rw [hlinked, hhydrated]⟩
  · intro type hfound
    exact hsettled.imports_eq_nil hfound rfl

/-- `Query` implements `Named` and takes its field from it; the field has a cost already. -/
def library : Schema :=
  let title : FieldMap := .ofFields "Named" [{ name := "title", type := .named "String" }]
  let schema := Schema.build { query := some "Query" } [
    { name := "Named", body := .interface [] title [] [] },
    { name := "Query", body := .object ["Named"] .empty [{ source := "Named" }] }]
  (schema.attach (.field "Query" "title") (.complexity 1)).attach .schema (.isTypeOf ⟨7⟩)

/-- Sets the cost of every field of the name. -/
def pricing : Hydration.Hydrator where
  behaviors node _ :=
    if node.kind = .field ∧ node.name = "title" then [.complexity 5] else []

theorem compile_idempotent_library : ∃ compiled,
    (standard [pricing]).compile library = .ok compiled ∧
      (standard [pricing]).compile compiled = .ok compiled ∧
      compiled.behaviors.entries = [(.field "Query" "title", [.complexity 5]),
        (.schema, [.isTypeOf ⟨7⟩]), (.field "Named" "title", [.complexity 5])] := by
  have hentries : ((standard [pricing]).compile library).toOption.map (·.behaviors.entries) =
      some [(.field "Query" "title", [.complexity 5]), (.schema, [.isTypeOf ⟨7⟩]),
        (.field "Named" "title", [.complexity 5])] := by cbv
  obtain ⟨compiled, hcompile, hentries⟩ := toOption_map_eq_some_iff.1 hentries
  exact ⟨compiled, hcompile, (compile_idempotent hcompile).1, hentries⟩

end GraphSchema.Pipeline
