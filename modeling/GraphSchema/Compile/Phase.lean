import GraphSchema.Compile.Conformance
import GraphSchema.Compile.Defaults
import GraphSchema.Compile.Hydration
import GraphSchema.Compile.Imports
import GraphSchema.Compile.Linking
import GraphSchema.Compile.Lint

/-!
# Phases

A phase is a named step of compilation: it changes or checks a schema, or attaches behaviors.
-/

namespace GraphSchema

inductive Work where
  | transform (step : Schema → Checked Schema)
  | hydrate (hydrators : List Hydration.Hydrator)

structure Phase where
  name : String
  description : String
  work : Work

namespace Phase

def run (phase : Phase) (schema : Schema) : Checked Schema :=
  match phase.work with
  | .transform step => step schema
  | .hydrate hydrators => .ok (Hydration.run hydrators schema)

def imports : Phase where
  name := "imports"
  description := "Copy imported fields into their target types"
  work := .transform Imports.run

def link : Phase where
  name := "link"
  description := "Resolve type references and compute interface implementors"
  work := .transform Linking.run

def validate (lints : List Lint) : Phase where
  name := "validate"
  description := "Check names against GraphQL naming rules"
  work := .transform (Lint.runAll lints)

def conformance : Phase where
  name := "conformance"
  description := "Check that implementors define every interface field"
  work := .transform Conformance.run

def defaults : Phase where
  name := "defaults"
  description := "Check that every default value renders as a literal"
  work := .transform Defaults.run

def hydrate (hydrators : List Hydration.Hydrator) : Phase where
  name := "hydrate"
  description := "Attach runtime behaviors to schema nodes"
  work := .hydrate hydrators

end Phase

end GraphSchema
