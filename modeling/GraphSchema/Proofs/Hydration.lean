import GraphSchema.Compile.Hydration

/-!
# Hydrated schemas

Hydration writes into the table of behaviors and leaves the rest of a schema alone. What it writes
depends on that rest only, so hydrating again writes the same behaviors to the same nodes.
-/

namespace GraphSchema.Hydration

/-- What is written for a visit: the behaviors of the node, if hydrators return any. -/
def written (hydrators : List Hydrator) (visit : Visit) : List (NodeId × List Behavior) :=
  match behaviorsFor hydrators visit with
  | [] => []
  | behaviors => [(visit.id, behaviors)]

theorem attach_eq (hydrators : List Hydrator) (schema : Schema) (visit : Visit) :
    attach hydrators schema visit =
      { schema with behaviors := schema.behaviors.insertAll (written hydrators visit) } := by
  cases h : behaviorsFor hydrators visit <;> simp [attach, written, h, Schema.setBehaviors,
    OrderedMap.insertAll]

theorem foldl_attach (hydrators : List Hydrator) (visits : List Visit) (schema : Schema) :
    visits.foldl (attach hydrators) schema =
      { schema with
        behaviors := schema.behaviors.insertAll (visits.flatMap (written hydrators)) } := by
  induction visits generalizing schema with
  | nil => rfl
  | cons visit rest ih =>
    rw [List.foldl_cons, ih, attach_eq, List.flatMap_cons, OrderedMap.insertAll_append]

/-- Hydrating changes the table of behaviors only. -/
theorem run_eq (hydrators : List Hydrator) (schema : Schema) :
    run hydrators schema =
      { schema with
        behaviors :=
          schema.behaviors.insertAll ((visits schema).flatMap (written hydrators)) } :=
  foldl_attach hydrators (visits schema) schema

theorem run_run (hydrators : List Hydrator) (schema : Schema) :
    run hydrators (run hydrators schema) = run hydrators schema := by
  have hvisits : visits (run hydrators schema) = visits schema := by
    rw [run_eq]
    rfl
  rw [run_eq hydrators (run hydrators schema), hvisits, run_eq hydrators schema]
  simp only [OrderedMap.insertAll_insertAll]

end GraphSchema.Hydration
