import GraphSchema.Name

/-!
# Naming

How authored names of fields and arguments print.
-/

namespace GraphSchema.Sdl

structure Naming where
  name : String
  field : String → String
  argument : String → String

/-- The conventions of the language: `hello_world` prints as `helloWorld`. -/
def Naming.camel : Naming := ⟨"camel", Name.camel, Name.camel⟩

/-- Names print as authored. -/
def Naming.passthrough : Naming := ⟨"passthrough", id, id⟩

end GraphSchema.Sdl
