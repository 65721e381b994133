import GraphSchema.Authoring.Record
import GraphSchema.Text.Span

/-!
# Errors of schema modules

What can be wrong with a schema module, as causes, and how each is reported: a message, a code,
and for some a help text and a labelled place in the text.
-/

namespace GraphSchema

open Authoring Text

/-- What is wrong with declarations whose names are in order. -/
inductive ModuleFault where
  | typeTwice (name : String)
  | emptyUnion (name : String)
  | emptyEnum (name : String)
  | valueTwice (key enum : String)
  | other (message : String)
  deriving DecidableEq, Repr

def ModuleFault.message : ModuleFault → String
  | typeTwice name => "type '" ++ name ++ "' is declared more than once"
  | emptyUnion name => "union '" ++ name ++ "' must declare at least one member"
  | emptyEnum name => "enum '" ++ name ++ "' must declare at least one value"
  | valueTwice key enum =>
    "enum value '" ++ key ++ "' is declared more than once in '" ++ enum ++ "'"
  | other message => message

inductive ModuleError where
  /-- The file cannot be read. -/
  | unreadable (path : String)
  /-- The text is no document, or its document is no module. -/
  | malformed (cause : Option Mismatch)
  | invalid (fault : ModuleFault) (span : Option Span)
  | badName (name context : String) (flaw : Name.Flaw) (span : Option Span)
  deriving DecidableEq, Repr

namespace ModuleError

def message : ModuleError → String
  | unreadable path => "failed to read '" ++ path ++ "'"
  | malformed _ => "failed to parse schema module"
  | invalid fault _ => fault.message
  | badName name context _ _ => "invalid " ++ context ++ " name '" ++ name ++ "'"

def code : ModuleError → String
  | unreadable _ => "schemata::io_error"
  | malformed _ => "schemata::parse_error"
  | invalid .. => "schemata::validation_error"
  | badName .. => "schemata::invalid_identifier"

def help? : ModuleError → Option String
  | badName _ _ flaw _ =>
    some (flaw.message ++
      ". Use only letters, numbers, and underscores, starting with a letter or underscore.")
  | _ => none

/-- The place in the text that the error points at. -/
def span? : ModuleError → Option Span
  | malformed (some (.expression _ span)) => span
  | invalid _ span => span
  | badName _ _ _ span => span
  | _ => none

/-- The text at that place. -/
def label? : ModuleError → Option String
  | invalid fault (some _) => some fault.message
  | badName _ _ _ (some _) => some "invalid identifier"
  | _ => none

/-- What is known of the cause of a malformed module. -/
def detail? : ModuleError → Option String
  | malformed (some (.expression error _)) => some error.message
  | malformed (some (.missingKey key)) => some ("missing field `" ++ key ++ "`")
  | _ => none

end ModuleError

end GraphSchema
