import GraphSchema.Command.Arguments
import GraphSchema.Command.Report
import GraphSchema.Compile.Snapshot
import GraphSchema.Sdl.Printer

/-!
# Running commands

A command reads schema modules from a file system, compiles them, and may write files. It ends
with an exit code and with texts for the two output streams.
-/

namespace GraphSchema.Command

open Files

structure Result where
  code : Nat
  output : String := ""
  /-- The lines of messages. -/
  messages : List String := []
  deriving DecidableEq, Repr

def Result.success (output : String) (messages : List String := []) : Result :=
  { code := 0, output, messages }

def Result.failure (messages : List String) : Result := { code := 1, messages }

def versionText : String := "schemata 0.3.0"

def usage : List String := [
  "Compile TOML schema modules into GraphQL SDL",
  "",
  "Usage: schemata [-v] sdl [-s FILE]... [-o FILE] [-a camel|passthrough] [--visualize DIR]",
  "       schemata [-v] check [-s FILE]...",
  "       schemata [-v] explain [-s FILE]..."]

variable {m : Type → Type} [Monad m]

/-- A heading and texts under it, every line of which is set in. -/
def underHeading (heading : String) (texts : List String) : List String :=
  heading :: (texts.flatMap fun text => (Text.split '\n' text.toList).map String.ofList).map
    ("  " ++ ·)

/-- What is told of a module that is not accepted. -/
def moduleMessages (path : String) (e : ModuleError) : List String :=
  underHeading e.code ([path ++ ": " ++ e.message] ++ e.detail?.toList ++ e.help?.toList)

/-- What is told of an error, with the step that it came from. -/
def stepMessages (step cause : String) : List String := underHeading "Error:" [step, cause]

/-- Reads schema modules in order, up to the first that is not accepted. -/
def load (fs : FileSystem m) : List String → ExceptT Result m (List SchemaModule)
  | [] => return []
  | path :: paths => do
    let source ← (fs.read ⟨path⟩).adapt fun _ =>
      .failure (moduleMessages path (.unreadable path))
    match SchemaModule.read source with
    | .error e => throw (.failure (moduleMessages path e))
    | .ok first => return first :: (← load fs paths)

def writeSnapshot (fs : FileSystem m) (directory : Path) (snapshot : Snapshot) :
    ExceptT FileError m Unit := do
  fs.makeDirectories directory
  fs.write (directory.join ⟨snapshot.fileName⟩) snapshot.text

/-- Writes snapshots up to the first that cannot be written. -/
def writeSnapshots (fs : FileSystem m) (directory : Path) :
    List Snapshot → ExceptT FailureReport m Unit
  | [] => return ()
  | snapshot :: snapshots => do
    (writeSnapshot fs directory snapshot).adapt fun e =>
      ⟨snapshot.phase, [(CompileError.plugin Snapshot.pluginName e.message).message]⟩
    writeSnapshots fs directory snapshots

/-- Compiles modules and writes the schema after each phase into a directory. -/
def compileVisibly (fs : FileSystem m) (directory : String) (modules : List SchemaModule) :
    ExceptT FailureReport m (Schema × Nat) := do
  let schema ← ExceptT.mk (pure
    ((Lowering.run modules).mapError fun errors => ⟨"lower", errors.map (·.message)⟩))
  let pipeline := Pipeline.standard.addPlugin Snapshot.plugin
  let run := pipeline.run schema
  let snapshots := Snapshot.recordCalls pipeline [] run.calls
  writeSnapshots fs ⟨directory⟩ snapshots
  match run.result with
  | .ok compiled => return (compiled, snapshots.length)
  | .error e => throw ⟨e.phase, e.errors.map (·.message)⟩

/-- Compiles modules, with snapshots if a directory is given for them. -/
def compileFor (fs : FileSystem m) (visualize : Option String) (modules : List SchemaModule) :
    ExceptT FailureReport m (Schema × Option (String × Nat)) := do
  match visualize with
  | none =>
    let schema ← ExceptT.mk (pure (compile modules .standard))
    return (schema, none)
  | some directory =>
    let (schema, count) ← compileVisibly fs directory modules
    return (schema, some (directory, count))

/-- Prints a compiled schema, into a file if one is given. -/
def printTo (fs : FileSystem m) (options : SdlOptions) (schema : Schema) :
    ExceptT Result m SdlReport := do
  match Sdl.print schema { naming := options.naming.getD .camel } with
  | .error e => throw (.failure (stepMessages "Failed to print SDL" e.message))
  | .ok sdl =>
    match options.output with
    | none => return { sdl }
    | some path =>
      let result ← (fs.output ⟨path⟩ sdl).adapt fun e =>
        .failure (stepMessages ("Failed to write " ++ path) e.message)
      return { sdl, written := some (path, result) }

def runSdl (fs : FileSystem m) (options : SdlOptions) (modules : List SchemaModule) :
    ExceptT Result m Result := do
  let (schema, snapshots) ← (compileFor fs options.visualize modules).adapt fun report =>
    .failure report.lines
  let report := { (← printTo fs options schema) with snapshots }
  return .success report.text report.notes

/-- The result of a report, which may be that of a failure. -/
def resultOf {ρ : Type} (lines : ρ → List String) : Except FailureReport ρ → Result
  | .ok report => .success (textOf (lines report))
  | .error report => .failure report.lines

def runAction (fs : FileSystem m) (action : Action) (schemas : List String) :
    ExceptT Result m Result := do
  let modules ← load fs schemas
  match action with
  | .sdl options => runSdl fs options modules
  | .check => return resultOf CheckReport.lines (check modules schemas)
  | .explain => return resultOf ExplainReport.lines (explain modules schemas)

/-- Runs the command that the arguments ask for. Wrong arguments end with code 2. -/
def run (fs : FileSystem m) (arguments : List String) : m Result := do
  match Request.ofArguments? arguments with
  | none => return { code := 2, messages := usage }
  | some .version => return .success (endLine versionText)
  | some .help => return .success (textOf usage)
  | some (.run action schemas) =>
    match ← (runAction fs action schemas).run with
    | .ok result => return result
    | .error result => return result

end GraphSchema.Command
