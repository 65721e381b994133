import GraphSchema.Sdl.Literal
import GraphSchema.Sdl.Writer

/-!
# Printing a schema

The schema as text: the block of root types, then every authored type in registration order, with
one blank line between them. Printing fails where a field refers to an undefined type or a default
value has no literal.
-/

namespace GraphSchema.Sdl

/-! ## Descriptions and marks -/

/-- Three quotes in a row would end the description, so they get a backslash. -/
def escapeQuotes : List Char → List Char
  | '"' :: '"' :: '"' :: rest => '\\' :: '"' :: '"' :: '"' :: escapeQuotes rest
  | c :: rest => c :: escapeQuotes rest
  | [] => []

/-- A description stands between lines of three quotes. -/
def descriptionLines : Option String → List Line
  | none => []
  | some description =>
    .text 0 "\"\"\"" :: textLines (escapeQuotes description.toList) ++ [.text 0 "\"\"\""]

def deprecationText : Option Deprecation → String
  | none => ""
  | some ⟨none⟩ => " @deprecated"
  | some ⟨some reason⟩ => " @deprecated(reason: " ++ Text.quote reason ++ ")"

def implementsText (interfaces : List String) : String :=
  if interfaces.isEmpty then "" else " implements " ++ String.intercalate " & " interfaces

/-! ## Fields -/

/-- How a schema is printed. -/
structure Style where
  naming : Naming := .camel
  indent : Indent := .standard

/-- The text of a type reference, which must name a type of the schema. -/
def typeText (schema : Schema) (type : TypeRef) (place : Place) : Except CompileError String :=
  if schema.contains type.baseName then .ok type.text
  else .error (.unknownType type.baseName place)

def defaultText (schema : Schema) (naming : Naming) (type : TypeRef) :
    Option Value → Except CompileError String
  | none => .ok ""
  | some value => do
    let text ← literal schema naming type value
    return " = " ++ text

def argumentText (schema : Schema) (naming : Naming) (field : Field) (argument : Argument) :
    Except CompileError String := do
  let place := Place.argument field.parent field.name argument.name
  let type ← typeText schema argument.type place
  let default ← defaultText schema naming argument.type argument.default
  return naming.argument argument.name ++ ": " ++ type ++ default

/-- An argument on lines of its own, under its description. -/
def argumentLines (schema : Schema) (naming : Naming) (field : Field) (argument : Argument) :
    Except CompileError (List Line) := do
  let text ← argumentText schema naming field argument
  return descriptionLines argument.description ++ [.text 0 text]

/-- A field of an object or interface. Its arguments stand on the same line unless one of them is
described. -/
def fieldLines (schema : Schema) (naming : Naming) (field : Field) :
    Except CompileError (List Line) := do
  let type ← typeText schema field.type (.field field.parent field.name)
  let name := naming.field field.name
  let ending := ": " ++ type ++ deprecationText field.deprecation
  let arguments := field.arguments.values
  if arguments.isEmpty then
    return [.text 0 (name ++ ending)]
  else if arguments.any (·.description.isSome) then
    let lines ← arguments.mapM (argumentLines schema naming field)
    return block (name ++ "(") (")" ++ ending) lines.flatten
  else
    let texts ← arguments.mapM (argumentText schema naming field)
    return [.text 0 (name ++ "(" ++ String.intercalate ", " texts ++ ")" ++ ending)]

def inputFieldLines (schema : Schema) (naming : Naming) (field : Field) :
    Except CompileError (List Line) := do
  let type ← typeText schema field.type (.inputField field.parent field.name)
  let default ← defaultText schema naming field.type field.default
  return [.text 0 (naming.field field.name ++ ": " ++ type ++ default ++
    deprecationText field.deprecation)]

/-! ## Types -/

/-- A header, with a body in braces if there is something in it. -/
def bracedLines (header : String) (isEmpty : Bool) (body : List Line) : List Line :=
  if isEmpty then [.text 0 header] else block (header ++ " \x7b") "\x7d" body

/-- A header with the fields of a type, each under its description. -/
def withFields (header : String) (fields : FieldMap)
    (print : Field → Except CompileError (List Line)) : Except CompileError (List Line) := do
  let lines ← fields.values.mapM fun field => do
    let lines ← print field
    return descriptionLines field.description ++ lines
  return bracedLines header fields.isEmpty lines.flatten

def unionText (name : String) (members : List String) : String :=
  if members.isEmpty then "union " ++ name
  else "union " ++ name ++ " = " ++ String.intercalate " | " members

def enumValueLines (value : EnumValue) : List Line :=
  descriptionLines value.description ++
    [.text 0 (value.aliasName ++ deprecationText value.deprecation)]

def bodyLines (schema : Schema) (naming : Naming) (name : String) :
    TypeBody → Except CompileError (List Line)
  | .object interfaces fields _ =>
    withFields ("type " ++ name ++ implementsText interfaces) fields (fieldLines schema naming)
  | .interface interfaces fields _ _ =>
    withFields ("interface " ++ name ++ implementsText interfaces) fields (fieldLines schema naming)
  | .inputObject fields _ => withFields ("input " ++ name) fields (inputFieldLines schema naming)
  | .union members => .ok [.text 0 (unionText name members)]
  | .enum values =>
    .ok (bracedLines ("enum " ++ name) values.isEmpty (values.values.flatMap enumValueLines))
  | .scalar _ => .ok [.text 0 ("scalar " ++ name)]

/-- The lines of one type: its description and its body. -/
def typeLines (schema : Schema) (naming : Naming) (type : TypeDef) :
    Except CompileError (List Line) := do
  let lines ← bodyLines schema naming type.name type.body
  return descriptionLines type.description ++ lines

/-! ## The schema -/

def rootsLines (roots : Roots) : List Line :=
  block "schema \x7b" "\x7d"
    (roots.declared.map fun (operation, name) => .text 0 (operation.text ++ ": " ++ name))

/-- Blocks of lines with a blank line between each two. -/
def separated (blocks : List (List Line)) : List Line :=
  (blocks.intersperse [.blank]).flatten

/-- The lines of the whole schema. -/
def lines (schema : Schema) (naming : Naming) : Except CompileError (List Line) := do
  let types ← schema.authored.mapM (typeLines schema naming)
  return separated ((if schema.roots.isEmpty then [] else [rootsLines schema.roots]) ++ types)

/-- The text of the whole schema. -/
def print (schema : Schema) (style : Style) : Except CompileError String := do
  let lines ← lines schema style.naming
  return renderLines style.indent lines

end GraphSchema.Sdl
