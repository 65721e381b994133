import GraphSchema.Schema.TypeDef

/-!
# Nodes

The places of a schema that behaviors can be attached to, addressed by names.
-/

namespace GraphSchema

/-- The operations that a schema can have a root type for, in their canonical order. -/
inductive Operation where
  | query | mutation | subscription
  deriving DecidableEq, Repr

namespace Operation

def all : List Operation := [query, mutation, subscription]

def text : Operation → String
  | query => "query"
  | mutation => "mutation"
  | subscription => "subscription"

end Operation

/-- The root types of a schema. -/
structure Roots where
  query : Option String := none
  mutation : Option String := none
  subscription : Option String := none
  deriving DecidableEq, Inhabited

namespace Roots

def get? (roots : Roots) : Operation → Option String
  | .query => roots.query
  | .mutation => roots.mutation
  | .subscription => roots.subscription

def set (roots : Roots) (operation : Operation) (name : String) : Roots :=
  match operation with
  | .query => { roots with query := some name }
  | .mutation => { roots with mutation := some name }
  | .subscription => { roots with subscription := some name }

/-- The declared roots, in canonical order. -/
def declared (roots : Roots) : List (Operation × String) :=
  Operation.all.filterMap fun operation => (roots.get? operation).map (operation, ·)

def isEmpty (roots : Roots) : Bool := roots.declared.isEmpty

end Roots

/-- What a node is, in the order in which nodes are sorted. -/
inductive NodeKind where
  | schema | type | field | argument | enumValue
  deriving DecidableEq, Repr

namespace NodeKind

def text : NodeKind → String
  | schema => "schema"
  | type => "type"
  | field => "field"
  | argument => "argument"
  | enumValue => "enum value"

def rank : NodeKind → Nat
  | schema => 0
  | type => 1
  | field => 2
  | argument => 3
  | enumValue => 4

end NodeKind

/-- The address of a node. -/
inductive NodeId where
  | schema
  | type (type : String)
  | field (type field : String)
  | argument (type field argument : String)
  | enumValue (type key : String)
  deriving DecidableEq, Repr, Inhabited

namespace NodeId

/-- The type that the node belongs to. -/
def typeName? : NodeId → Option String
  | schema => none
  | type t => some t
  | field t _ => some t
  | argument t _ _ => some t
  | enumValue t _ => some t

def text : NodeId → String
  | schema => "schema"
  | type t => t
  | field t f => t ++ "." ++ f
  | argument t f a => t ++ "." ++ f ++ "(" ++ a ++ ")"
  | enumValue t v => t ++ "::" ++ v

def kind : NodeId → NodeKind
  | schema => .schema
  | type _ => .type
  | field .. => .field
  | argument .. => .argument
  | enumValue .. => .enumValue

/-- What the node is and its address, for messages. -/
def describe (id : NodeId) : String := id.kind.text ++ " `" ++ id.text ++ "`"

/-! ## Order -/

def path : NodeId → List String
  | schema => []
  | type t => [t]
  | field t f => [t, f]
  | argument t f a => [t, f, a]
  | enumValue t v => [t, v]

/-- Nodes are ordered by what they are, then by the names of their address. -/
def before (a b : NodeId) : Bool :=
  a.kind.rank < b.kind.rank || (a.kind == b.kind && (compare a.path b.path).isLE)

def sort (ids : List NodeId) : List NodeId := ids.mergeSort before

/-! ## As data -/

def toJson (id : NodeId) : Json :=
  .object <|
    match id with
    | schema => [("node", .string "schema")]
    | type t => [("node", .string "type"), ("type_name", .string t)]
    | field t f => [("node", .string "field"), ("type_name", .string t), ("field", .string f)]
    | argument t f a =>
      [("node", .string "argument"), ("type_name", .string t), ("field", .string f),
        ("argument", .string a)]
    | enumValue t v =>
      [("node", .string "enum_value"), ("type_name", .string t), ("value", .string v)]

end NodeId

/-- A node as a hydrator sees it. -/
inductive Node where
  | schema (roots : Roots)
  | type (type : TypeDef)
  | field (field : Field)
  | argument (argument : Argument)
  | enumValue (value : EnumValue)

namespace Node

def kind : Node → NodeKind
  | schema _ => .schema
  | type _ => .type
  | field _ => .field
  | argument _ => .argument
  | enumValue _ => .enumValue

/-- The node's own name; the schema is called `schema`. -/
def name : Node → String
  | schema _ => "schema"
  | type t => t.name
  | field f => f.name
  | argument a => a.name
  | enumValue v => v.key

end Node

end GraphSchema
