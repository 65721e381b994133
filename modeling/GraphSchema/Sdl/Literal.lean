import GraphSchema.Compile.Error
import GraphSchema.Sdl.Naming

/-!
# Literals

A default value prints as the declared type wants it: an integer under `ID` is quoted, an enum
value prints its alias, a single value stands for a list of one, and non-null markers change
nothing.
-/

namespace GraphSchema.Sdl

/-- Positional from `0.00001` to below `1e15`, else with an exponent. -/
def floatLayout : Double.Layout := ⟨-5, 15, false, .up⟩

/-- The literal of a float, which must be finite. -/
def floatText? (x : Double) : Option String :=
  if x.isFinite then some (x.finiteText floatLayout) else none

def boolText (b : Bool) : String := if b then "true" else "false"

def isInt32 (n : Int) : Bool := -2147483648 ≤ n && n ≤ 2147483647

def mismatch (type : String) (expected : Expected) (value : Value) : CompileError :=
  .invalidDefault type expected (.kind value.kind)

/-! ## Scalars and enums -/

/-- The literal of a custom scalar: single values print as they are. -/
def customScalarText? : Value → Option String
  | .null => some "null"
  | .string s => some (Text.quote s)
  | .int n => some (toString n)
  | .float x => floatText? x
  | .boolean b => some (boolText b)
  | .enum name => some name
  | .list _ => none
  | .object _ => none

def stringLiteral (type : String) : Value → Except CompileError String
  | .string s => .ok (Text.quote s)
  | value => .error (mismatch type .string value)

def intLiteral (type : String) : Value → Except CompileError String
  | .int n =>
    if isInt32 n then .ok (toString n) else .error (.invalidDefault type .integer32 (.integer n))
  | value => .error (mismatch type .integer value)

def floatLiteral (type : String) : Value → Except CompileError String
  | .int n => .ok (toString n)
  | .float x =>
    match floatText? x with
    | some text => .ok text
    | none => .error (mismatch type .finiteFloat (.float x))
  | value => .error (mismatch type .number value)

def booleanLiteral (type : String) : Value → Except CompileError String
  | .boolean b => .ok (boolText b)
  | value => .error (mismatch type .boolean value)

/-- Identifiers are quoted, whatever they are made of. -/
def idLiteral (type : String) : Value → Except CompileError String
  | .string s => .ok (Text.quote s)
  | .enum s => .ok (Text.quote s)
  | .int n => .ok (Text.quote (toString n))
  | .boolean b => .ok (Text.quote (boolText b))
  | .float x =>
    match floatText? x with
    | some text => .ok (Text.quote text)
    | none => .error (mismatch type .finiteFloat (.float x))
  | value => .error (mismatch type .scalar value)

def builtinLiteral (type : String) (value : Value) : Except CompileError String :=
  if type = "String" then stringLiteral type value
  else if type = "Int" then intLiteral type value
  else if type = "Float" then floatLiteral type value
  else if type = "Boolean" then booleanLiteral type value
  else if type = "ID" then idLiteral type value
  else .error (mismatch type .scalar value)

def scalarLiteral (type : String) (builtin : Bool) (value : Value) : Except CompileError String :=
  if builtin then builtinLiteral type value
  else
    match customScalarText? value with
    | some text => .ok text
    | none => .error (.unsupportedDefault type (.customScalar value.kind))

/-- The alias of the value that the raw text names. -/
def enumNameLiteral (type : String) (values : OrderedMap String EnumValue) (raw : String) :
    Except CompileError String :=
  match findEnumValue? values raw with
  | some found => .ok found.aliasName
  | none => .error (.unknownEnumValue type raw)

def enumLiteral (type : String) (values : OrderedMap String EnumValue) :
    Value → Except CompileError String
  | .string raw => enumNameLiteral type values raw
  | .enum raw => enumNameLiteral type values raw
  | value => .error (mismatch type .enumValue value)

/-! ## All types -/

/-- Writes the literal of an input object, given its name and fields. -/
abbrev InputLiteral := String → FieldMap → Value → Except CompileError String

def namedLiteral (schema : Schema) (input : InputLiteral) (name : String) (value : Value) :
    Except CompileError String :=
  match schema.find? name with
  | none => .error (.unknownType name .defaultValue)
  | some type =>
    match type.body with
    | .scalar builtin => scalarLiteral type.name builtin value
    | .enum values => enumLiteral type.name values value
    | .inputObject fields _ => input type.name fields value
    | _ => .error (.unsupportedDefault name (.typeKind type.kind))

/-- The literal of a value that is not null, with input objects written by `input`. -/
def literalWith (schema : Schema) (input : InputLiteral) :
    TypeRef → Value → Except CompileError String
  | _, .null => .ok "null"
  | .nonNull inner, value => literalWith schema input inner value
  | .list item, .list items => do
    let texts ← items.mapM (literalWith schema input item)
    return "[" ++ String.intercalate ", " texts ++ "]"
  | .list item, value => literalWith schema input item value
  | .named name, value => namedLiteral schema input name value

/-- The literal of a single value, which is no input object. -/
def singleLiteral (schema : Schema) : TypeRef → Value → Except CompileError String :=
  literalWith schema fun type _ value => .error (mismatch type .inputObject value)

/-- An input object sets exactly one of its fields, to a single value. -/
def inputLiteral (schema : Schema) (naming : Naming) : InputLiteral := fun type fields value =>
  match value with
  | .object [(key, entry)] =>
    if !entry.isSingle then .error (.unsupportedDefault type (.nestedValue key entry.kind))
    else
      match fields.get? key with
      | none => .error (.invalidDefault type .oneOfItsFields (.key key))
      | some field => do
        let text ← singleLiteral schema field.type entry
        return "\x7b" ++ naming.field key ++ ": " ++ text ++ "\x7d"
  | .object entries => .error (.unsupportedDefault type (.fieldCount entries.length))
  | other => .error (mismatch type .inputObject other)

/-- The literal of a default value of the type. -/
def literal (schema : Schema) (naming : Naming) : TypeRef → Value → Except CompileError String :=
  literalWith schema (inputLiteral schema naming)

end GraphSchema.Sdl
