import GraphSchema.Schema.Basic

/-!
# Hydration

Hydrators are shown every node of a schema, from the top down, with the chain of nodes that own
it. The behaviors they return replace those of the node; a node for which they return none keeps
what it has.
-/

namespace GraphSchema.Hydration

/-- A node as it is visited: its address, and its owners from the schema down. -/
structure Visit where
  node : Node
  id : NodeId
  owners : List Node

structure Hydrator where
  /-- The behaviors for a node, given its owners. -/
  behaviors : Node → List Node → List Behavior

/-! ## The visits -/

/-- A field and its arguments, under the owners of the field. -/
def fieldVisits (owners : List Node) (type : TypeDef) (field : Field) : List Visit :=
  ⟨.field field, .field type.name field.name, owners⟩ ::
    field.arguments.values.map fun a =>
      ⟨.argument a, .argument type.name field.name a.name, owners ++ [.field field]⟩

/-- A type, then its enum values, or its fields each followed by their arguments. -/
def typeVisits (root : Node) (type : TypeDef) : List Visit :=
  ⟨.type type, .type type.name, [root]⟩ ::
    (type.enumValues.map fun v =>
      ⟨.enumValue v, .enumValue type.name v.key, [root, .type type]⟩) ++
    type.fieldList.flatMap (fieldVisits [root, .type type] type)

/-- Every node of the schema in the order of visits. -/
def visits (schema : Schema) : List Visit :=
  let root := Node.schema schema.roots
  ⟨root, .schema, []⟩ :: schema.typeList.flatMap (typeVisits root)

/-! ## Attaching -/

/-- What the hydrators return for a visit, one after the other. -/
def behaviorsFor (hydrators : List Hydrator) (visit : Visit) : List Behavior :=
  hydrators.flatMap fun hydrator => hydrator.behaviors visit.node visit.owners

def attach (hydrators : List Hydrator) (schema : Schema) (visit : Visit) : Schema :=
  match behaviorsFor hydrators visit with
  | [] => schema
  | behaviors => schema.setBehaviors visit.id behaviors

/-- The schema with the behaviors that the hydrators return. Visits see the schema as it was. -/
def run (hydrators : List Hydrator) (schema : Schema) : Schema :=
  (visits schema).foldl (attach hydrators) schema

end GraphSchema.Hydration
