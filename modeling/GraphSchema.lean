import GraphSchema.Text.Blank
import GraphSchema.Text.Quoted
import GraphSchema.Name
import GraphSchema.OrderedMap
import GraphSchema.Number.Shortest
import GraphSchema.Schema.TypeRef
import GraphSchema.Schema.Json
import GraphSchema.Schema.Builders
import GraphSchema.Sdl.Printer
import GraphSchema.Number.Reading
import GraphSchema.Compile.Snapshot
import GraphSchema.Authoring.Check
import GraphSchema.Main
import GraphSchema.Provider
import GraphSchema.Proofs.Imports.Walk
import GraphSchema.Proofs.Imports.Flattening
import GraphSchema.Proofs.Imports.Resolvable
import GraphSchema.Proofs.Linking
import GraphSchema.Proofs.Linking.WellLinked
import GraphSchema.Proofs.Reachable
import GraphSchema.Proofs.Hydration
import GraphSchema.Proofs.Pipeline.Outcome
import GraphSchema.Proofs.Sdl.Literals
import GraphSchema.Proofs.Sdl.Printing
import GraphSchema.Proofs.Pipeline.Printing
import GraphSchema.Proofs.Imports.Settled
import GraphSchema.Proofs.Pipeline.Idempotence
import GraphSchema.Proofs.Imports.Origins
import GraphSchema.Proofs.Pipeline.References
import GraphSchema.Proofs.Lint
import GraphSchema.Proofs.Imports.Errors
import GraphSchema.Proofs.Imports.Reordering
import GraphSchema.Proofs.Pipeline.Reordering
import GraphSchema.Proofs.Name
import GraphSchema.Proofs.Text.Reading
import GraphSchema.Proofs.Text.Lines
import GraphSchema.Proofs.Sdl.Document
import GraphSchema.Proofs.Text.Quoted
import GraphSchema.Proofs.Text.StringToken
import GraphSchema.Proofs.Sdl.Delimited
import GraphSchema.Proofs.Sdl.Layout
import GraphSchema.Proofs.Sdl.BlockString
import GraphSchema.Proofs.Sdl.Fields
import GraphSchema.Proofs.Sdl.Unambiguous
import GraphSchema.Proofs.Sdl.Types
import GraphSchema.Proofs.Pipeline.PrintedNames
import GraphSchema.Proofs.Lowering
import GraphSchema.Proofs.TypeExpression
import GraphSchema.Proofs.Pipeline.Conformance
import GraphSchema.Proofs.Pipeline.Types
import GraphSchema.Proofs.Pipeline.Repetition
import GraphSchema.Proofs.Pipeline.Edits
import GraphSchema.Proofs.Pipeline.Calls
import GraphSchema.Proofs.Provider
import GraphSchema.Proofs.Number.Shortest
import GraphSchema.Proofs.Number.FloatText
import GraphSchema.Proofs.Sdl.LiteralTable
import GraphSchema.Proofs.Sdl.NonNull
import GraphSchema.Proofs.Sdl.Extension
import GraphSchema.Proofs.Hydration.Visits
import GraphSchema.Proofs.Conformance
import GraphSchema.Proofs.Authoring.WellFormed
import GraphSchema.Proofs.Authoring.Reading
import GraphSchema.Proofs.Lowering.Declarations
import GraphSchema.Proofs.Lowering.Names
import GraphSchema.Proofs.Files.Writing
import GraphSchema.Proofs.Pipeline.Passing
import GraphSchema.Proofs.Snapshot
import GraphSchema.Proofs.Name.Camel
import GraphSchema.Proofs.Lowering.References
import GraphSchema.Proofs.Authoring.Spans
import GraphSchema.Proofs.Sdl.Blocks
import GraphSchema.Proofs.Pipeline.Counts
