import GraphSchema.Compile.Error
import GraphSchema.Sdl.Naming

/-!
# Lints

Checks of the names in a schema: they follow the syntax of names, keep off the reserved ones, and
stay apart when they print.
-/

namespace GraphSchema

/-- A check of a schema with a name and a description. -/
structure Lint where
  name : String
  description : String
  check : Schema → List CompileError

/-! ## Named nodes -/

def fieldNodes (type : TypeDef) (field : Field) : List (String × NodeId) :=
  (field.name, .field type.name field.name) ::
    field.arguments.values.map fun a => (a.name, .argument type.name field.name a.name)

/-- A type, its fields each followed by their arguments, and its enum values, with their names. -/
def typeNodes (type : TypeDef) : List (String × NodeId) :=
  (type.name, .type type.name) ::
    type.fieldList.flatMap (fieldNodes type) ++
    type.enumValues.map fun v => (v.key, .enumValue type.name v.key)

/-- Every authored name with its node, in registration order. -/
def Schema.namedNodes (schema : Schema) : List (String × NodeId) :=
  schema.authored.flatMap typeNodes

/-! ## The built-in lints -/

namespace Lint

/-- Keys of enum values never print, so they may be any text. -/
def nameErrors : String × NodeId → List CompileError
  | (_, .enumValue _ _) => []
  | (name, node) =>
    match Name.flaw? name with
    | some flaw => [.invalidName name node flaw]
    | none => []

def naming : Lint where
  name := "naming"
  description := "Type, field, and argument names must be valid GraphQL names"
  check schema := schema.namedNodes.flatMap nameErrors

def isReserved (name : String) : Bool := name.toList.take 2 == ['_', '_']

def reservedPrefix : Lint where
  name := "reserved-prefix"
  description := "Names beginning with \"__\" are reserved for introspection"
  check schema :=
    (schema.namedNodes.filter fun (name, _) => isReserved name).map fun (name, node) =>
      .reservedName name node

/-- The aliases that an earlier value of the enum has too. -/
def repeatedAliases (seen : List String) : List EnumValue → List String
  | [] => []
  | value :: values =>
    if value.aliasName ∈ seen then value.aliasName :: repeatedAliases seen values
    else repeatedAliases (value.aliasName :: seen) values

def duplicateEnumAlias : Lint where
  name := "duplicate-enum-alias"
  description := "Enum values must print distinct names"
  check schema :=
    schema.typeList.flatMap fun type =>
      (repeatedAliases [] type.enumValues).map (.duplicateEnumAlias type.name)

/-- An error for each name that prints like an earlier one; `seen` holds what has printed so far,
with the first name that did. -/
def collisions (scope : Scope) (print : String → String) (seen : List (String × String)) :
    List String → List CompileError
  | [] => []
  | name :: names =>
    match Entries.get? (print name) seen with
    | some first =>
      .printedNameCollision scope (print name) first name :: collisions scope print seen names
    | none => collisions scope print ((print name, name) :: seen) names

def fieldCollisions (naming : Sdl.Naming) (type : TypeDef) (field : Field) : List CompileError :=
  collisions (.field type.name field.name) naming.argument [] (field.arguments.values.map (·.name))

def typeCollisions (naming : Sdl.Naming) (type : TypeDef) : List CompileError :=
  collisions (.type type.name) naming.field [] (type.fieldList.map (·.name)) ++
    type.fieldList.flatMap (fieldCollisions naming type)

/-- Names are compared as they print under a naming. -/
def printedName (naming : Sdl.Naming) : Lint where
  name := "printed-name"
  description := "Fields and arguments must print distinct names"
  check schema := schema.authored.flatMap (typeCollisions naming)

/-- The lints that are run unless others are asked for. -/
def standard : List Lint := [naming, reservedPrefix, duplicateEnumAlias, printedName .camel]

/-- The schema, unchanged, if no lint finds an error. -/
def runAll (lints : List Lint) (schema : Schema) : Checked Schema :=
  Checked.unless (lints.flatMap (·.check schema)) schema

end Lint

end GraphSchema
