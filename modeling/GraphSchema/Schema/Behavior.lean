import GraphSchema.Schema.Node

/-!
# Behaviors

What a running server attaches to nodes. Behaviors are kept in a table beside the types; they are
no part of a node and are not written out with the schema.
-/

namespace GraphSchema

/-- A function of the server, known by where it is. What it makes of a value is up to the server. -/
structure Closure where
  address : Nat
  deriving DecidableEq, Repr, Inhabited

inductive Behavior where
  /-- The static cost of resolving a field. -/
  | complexity (cost : Nat)
  /-- Picks the object type of an abstract value. -/
  | typeResolver (function : Closure)
  /-- Tells whether a value belongs to an object type. -/
  | isTypeOf (function : Closure)
  deriving DecidableEq, Repr, Inhabited

namespace Behavior

def name : Behavior → String
  | complexity _ => "complexity"
  | typeResolver _ => "type_resolver"
  | isTypeOf _ => "is_type_of"

/-- The behavior for debugging; what a function does is not shown. -/
def debugText : Behavior → String
  | complexity cost => "Complexity(" ++ toString cost ++ ")"
  | typeResolver _ => "TypeResolver(TypeResolver(..))"
  | isTypeOf _ => "IsTypeOf(IsTypeOf(..))"

def debugTexts (behaviors : List Behavior) : String :=
  "[" ++ String.intercalate ", " (behaviors.map debugText) ++ "]"

end Behavior

/-- The behaviors of each node, in the order in which nodes first got one. -/
abbrev BehaviorTable := OrderedMap NodeId (List Behavior)

namespace BehaviorTable

def of (table : BehaviorTable) (node : NodeId) : List Behavior := (table.get? node).getD []

/-- Adds a behavior after those the node has. -/
def attach (table : BehaviorTable) (node : NodeId) (behavior : Behavior) : BehaviorTable :=
  table.insert node (table.of node ++ [behavior])

end BehaviorTable

end GraphSchema
