import GraphSchema.Schema.Node

/-!
# Schema modules

What an author declares in one schema module: root types, and types of every kind under the
identifiers that the author chose.
-/

namespace GraphSchema

/-- A mark on a field or enum value that should not be used any more. -/
inductive DeprecationMark where
  | flag (set : Bool)
  | reason (text : String)
  deriving DecidableEq, Repr

namespace DeprecationMark

def isSet : DeprecationMark → Bool
  | flag set => set
  | reason _ => true

def reason? : DeprecationMark → Option String
  | flag _ => none
  | reason text => some text

/-- What the mark says: nothing, if it is a flag that is off. -/
def deprecation? (mark : DeprecationMark) : Option Deprecation :=
  if mark.isSet then some ⟨mark.reason?⟩ else none

end DeprecationMark

/-- An argument, or a field of an input. -/
structure InputValueDecl where
  type : TypeRef
  description : Option String := none
  default : Option Value := none
  deriving Inhabited

structure FieldDecl where
  type : TypeRef
  description : Option String := none
  deprecated : Option DeprecationMark := none
  arguments : OrderedMap String InputValueDecl := .empty
  deriving Inhabited

/-- An object or an interface. -/
structure CompositeDecl where
  description : Option String := none
  interfaces : List String := []
  imports : List FieldImport := []
  fields : OrderedMap String FieldDecl := .empty

structure UnionDecl where
  description : Option String := none
  members : List String := []

structure EnumValueDecl where
  key : String
  aliasName : Option String := none
  description : Option String := none
  deprecated : Option DeprecationMark := none

structure EnumDecl where
  description : Option String := none
  values : List EnumValueDecl := []

structure InputDecl where
  description : Option String := none
  imports : List FieldImport := []
  fields : OrderedMap String InputValueDecl := .empty

structure ScalarDecl where
  description : Option String := none

/-- The kinds of declarations, in the order in which a module lists them. -/
inductive DeclKind where
  | object | interface | union | enum | input | scalar
  deriving DecidableEq, Repr

def DeclKind.text : DeclKind → String
  | object => "object"
  | interface => "interface"
  | union => "union"
  | enum => "enum"
  | input => "input"
  | scalar => "scalar"

structure SchemaModule where
  /-- The name by which field imports refer to the module. -/
  name : String := ""
  description : Option String := none
  roots : Roots := {}
  objects : OrderedMap String CompositeDecl := .empty
  interfaces : OrderedMap String CompositeDecl := .empty
  unions : OrderedMap String UnionDecl := .empty
  enums : OrderedMap String EnumDecl := .empty
  inputs : OrderedMap String InputDecl := .empty
  scalars : OrderedMap String ScalarDecl := .empty

/-- The declared identifiers with their kinds, kind by kind. -/
def SchemaModule.declarations (m : SchemaModule) : List (DeclKind × String) :=
  m.objects.keys.map (DeclKind.object, ·) ++ m.interfaces.keys.map (DeclKind.interface, ·) ++
    m.unions.keys.map (DeclKind.union, ·) ++ m.enums.keys.map (DeclKind.enum, ·) ++
    m.inputs.keys.map (DeclKind.input, ·) ++ m.scalars.keys.map (DeclKind.scalar, ·)

end GraphSchema
