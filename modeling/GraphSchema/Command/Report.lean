import GraphSchema.Authoring.Check
import GraphSchema.Compile.Lowering
import GraphSchema.Compile.Pipeline
import GraphSchema.Files.System

/-!
# Reports

What the commands find out, and the lines in which it is told.
-/

namespace GraphSchema.Command

/-- A step of compilation that failed, with the message of each error. -/
structure FailureReport where
  phase : String
  errors : List String
  deriving DecidableEq, Repr

structure CheckReport where
  schemas : List String
  roots : List (Operation × String)
  typeCount : Nat
  deriving DecidableEq, Repr

/-- How many authored types of each kind a schema has. -/
structure TypeCounts where
  objects : Nat
  interfaces : Nat
  unions : Nat
  enums : Nat
  inputs : Nat
  scalars : Nat
  deriving DecidableEq, Repr

structure ModuleInfo where
  path : String
  name : String
  typeCount : Nat
  deriving DecidableEq, Repr

structure ExplainReport where
  modules : List ModuleInfo
  /-- The phases, each with its description. -/
  phases : List (String × String)
  /-- The lints, each with its description. -/
  lints : List (String × String)
  roots : List (Operation × String)
  types : TypeCounts
  deriving DecidableEq, Repr

structure SdlReport where
  sdl : String
  /-- The file that the text went to, if any. -/
  written : Option (String × Files.WriteResult) := none
  /-- The directory that snapshots went to, and their number. -/
  snapshots : Option (String × Nat) := none
  deriving DecidableEq, Repr

/-! ## Making reports -/

/-- Lowers modules and runs a pipeline. -/
def compile (modules : List SchemaModule) (pipeline : Pipeline) : Except FailureReport Schema := do
  let schema ← (Lowering.run modules).mapError fun errors => ⟨"lower", errors.map (·.message)⟩
  (pipeline.compile schema).mapError fun e => ⟨e.phase, e.errors.map (·.message)⟩

/-- Compiles modules that stand in the given files. -/
def check (modules : List SchemaModule) (schemas : List String) :
    Except FailureReport CheckReport := do
  let schema ← compile modules .standard
  return ⟨schemas, schema.roots.declared, schema.authored.length⟩

def countKind (types : List TypeDef) (kind : TypeKind) : Nat :=
  types.countP (·.kind == kind)

def TypeCounts.of (schema : Schema) : TypeCounts where
  objects := countKind schema.authored .object
  interfaces := countKind schema.authored .interface
  unions := countKind schema.authored .union
  enums := countKind schema.authored .enum
  inputs := countKind schema.authored .inputObject
  scalars := countKind schema.authored .scalar

def TypeCounts.total (c : TypeCounts) : Nat :=
  c.objects + c.interfaces + c.unions + c.enums + c.inputs + c.scalars

/-- Compiles modules that stand in the given files, and tells what was done. -/
def explain (modules : List SchemaModule) (schemas : List String) :
    Except FailureReport ExplainReport := do
  let schema ← compile modules .standard
  return {
    modules := (modules.zip schemas).map fun (m, path) => ⟨path, m.name, m.declarations.length⟩
    phases := Pipeline.standard.phases.map fun phase => (phase.name, phase.description)
    lints := Lint.standard.map fun lint => (lint.name, lint.description)
    roots := schema.roots.declared
    types := .of schema }

/-! ## Lines -/

def FailureReport.lines (report : FailureReport) : List String :=
  let count := report.errors.length
  ("error: phase `" ++ report.phase ++ "` failed with " ++ toString count ++ " error" ++
    (if count = 1 then "" else "s")) ::
  report.errors.map ("error:   - " ++ ·)

def rootLines (roots : List (Operation × String)) : List String :=
  roots.map fun (operation, name) => "  " ++ operation.text ++ ": " ++ name

def CheckReport.lines (report : CheckReport) : List String :=
  report.schemas.map (fun path => "✓ " ++ path ++ " is valid") ++ [""] ++
    rootLines report.roots ++
    ["  " ++ toString report.typeCount ++ " type" ++ (if report.typeCount = 1 then "" else "s")]

/-- The kinds of which there are types, with their numbers. -/
def TypeCounts.lines (c : TypeCounts) : List String :=
  let kinds := [(c.objects, "objects"), (c.interfaces, "interfaces"), (c.unions, "unions"),
    (c.enums, "enums"), (c.inputs, "inputs"), (c.scalars, "scalars")]
  (kinds.filter (0 < ·.1)).map fun (count, kind) => "  - " ++ toString count ++ " " ++ kind

/-- Items numbered from one. -/
def numbered (items : List String) : List String :=
  items.mapIdx fun i item => "  " ++ toString (i + 1) ++ ". " ++ item

/-- The line of a module; the first one is the root module. -/
def ModuleInfo.line (index : Nat) (m : ModuleInfo) : String :=
  m.name ++ " (" ++ m.path ++ ", " ++ toString m.typeCount ++ " types" ++
    (if index = 0 then ", root" else "") ++ ")"

def ExplainReport.lines (report : ExplainReport) : List String :=
  let title := "Schemata Pipeline Explanation"
  [title, String.ofList (List.replicate title.length '='), "", "Schema Modules:"] ++
  numbered (report.modules.mapIdx ModuleInfo.line) ++
  ["", "Pipeline Phases:"] ++
  numbered (report.phases.map fun (name, description) => name ++ " - " ++ description) ++
  ["", "Validation Lints:"] ++
  report.lints.map (fun (name, description) => "  - " ++ name ++ ": " ++ description) ++
  ["", "Compiled Schema:"] ++
  rootLines report.roots ++
  ["  types: " ++ toString report.types.total] ++
  report.types.lines

def endLine (line : String) : String := line ++ "\n"

/-- Lines as a text, each with its end. -/
def textOf (lines : List String) : String := String.join (lines.map endLine)

/-- The text that the command prints: where the schema went, or the schema itself. -/
def SdlReport.text (report : SdlReport) : String :=
  match report.written with
  | none => if report.sdl.endsWith "\n" then report.sdl else endLine report.sdl
  | some (path, .written) => endLine ("✓ wrote " ++ path)
  | some (path, .unchanged) => endLine ("✓ " ++ path ++ " is up to date")

/-- The notes that must not mix with the printed text. -/
def SdlReport.notes (report : SdlReport) : List String :=
  match report.snapshots with
  | none => []
  | some (directory, count) =>
    ["wrote " ++ toString count ++ " phase snapshots to " ++ directory]

end GraphSchema.Command
