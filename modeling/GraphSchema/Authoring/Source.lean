import GraphSchema.Authoring.Error

/-!
# Places of names

A check of a module knows the module's text and the path of declarations that it is in. A name is
looked up in the text as a header, a quoted text or a key, in this order.
-/

namespace GraphSchema.Authoring

open Text

/-- The characters around a name that tell that it is declared there. -/
structure Frame where
  before : String
  after : String
  /-- Whether the name must be at the start of the text. -/
  atStart : Bool := false

def frames : List Frame := [
  ⟨".", "]", false⟩, ⟨".", ".", false⟩, ⟨"\"", "\"", false⟩, ⟨"'", "'", false⟩,
  ⟨"", " ", true⟩, ⟨"", "=", true⟩,
  ⟨"\n", " ", false⟩, ⟨"\n", "=", false⟩, ⟨"\x7b ", " ", false⟩, ⟨", ", " ", false⟩]

/-- The offset of a framed name in a text. -/
def Frame.find? (frame : Frame) (source name : List Char) : Option Nat :=
  let pattern := frame.before.toList ++ name ++ frame.after.toList
  if frame.atStart then
    if pattern.isPrefixOf source then some 0 else none
  else
    (offsetOf? pattern 0 source).map (· + frame.before.utf8ByteSize)

/-- Where a module's text and the way to what is being checked are known. -/
structure Context where
  source : List Char
  path : List String := []

namespace Context

def push (context : Context) (segment : String) : Context :=
  { context with path := context.path ++ [segment] }

def pathText (context : Context) : String := String.intercalate "." context.path

/-- A kind of name, with the declaration that it is in. -/
def describe (context : Context) (kind : String) : String :=
  if context.path.isEmpty then kind else kind ++ " in '" ++ context.pathText ++ "'"

/-- The place of a name, if it is found. -/
def spanOf? (context : Context) (name : String) : Option Span :=
  if name.isEmpty then none
  else
    (frames.findSome? fun frame => frame.find? context.source name.toList).map
      (⟨·, name.utf8ByteSize⟩)

/-- An error that points at a name. -/
def fault (context : Context) (fault : ModuleFault) (name : String) : ModuleError :=
  .invalid fault (context.spanOf? name)

/-- Fails if a text is no name. -/
def checkName (context : Context) (name kind : String) : Except ModuleError Unit :=
  match Name.flaw? name with
  | some flaw => .error (.badName name (context.describe kind) flaw (context.spanOf? name))
  | none => .ok ()

end Context

end GraphSchema.Authoring
