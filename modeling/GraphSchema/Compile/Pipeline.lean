import GraphSchema.Compile.Phase
import GraphSchema.Text.Visible

/-!
# Pipelines

A pipeline runs phases one after the other, each on the output of the one before, and calls the
hooks of its plugins around every phase. Edits keep the names of phases distinct.
-/

namespace GraphSchema

/-- An observer of a run. A hook that fails stops the run with its message. -/
structure Plugin where
  name : String
  /-- Called with the name of a phase and its input. -/
  before : String → Schema → Except String Unit := fun _ _ => .ok ()
  /-- Called with the name of a phase and its output. -/
  after : String → Schema → Except String Unit := fun _ _ => .ok ()

structure Pipeline where
  phases : List Phase := []
  plugins : List Plugin := []

namespace Pipeline

/-- The built-in phases, with hydrators for the last one. -/
def standard (hydrators : List Hydration.Hydrator := []) : Pipeline where
  phases := [.imports, .link, .validate Lint.standard, .conformance, .defaults, .hydrate hydrators]

def names (p : Pipeline) : List String := p.phases.map (·.name)

def contains (p : Pipeline) (name : String) : Bool := p.names.contains name

/-- The pipeline for debugging: the names of its phases and plugins. -/
def debugText (p : Pipeline) : String :=
  "Pipeline \x7b phases: " ++ texts p.names ++ ", plugins: " ++ texts (p.plugins.map (·.name)) ++
    " \x7d"
where
  texts (names : List String) : String :=
    "[" ++ String.intercalate ", " (names.map Text.inspect) ++ "]"

/-! ## Edits -/

/-- Adds a phase to run after all others. -/
def append (p : Pipeline) (phase : Phase) : Except CompileError Pipeline :=
  if p.contains phase.name then .error (.duplicatePhase phase.name)
  else .ok { p with phases := p.phases ++ [phase] }

/-- Puts what `around` makes of the first phase of a name in its place. -/
def splice (name : String) (around : Phase → List Phase) : List Phase → List Phase
  | [] => []
  | phase :: phases =>
    if phase.name = name then around phase ++ phases else phase :: splice name around phases

/-- Adds a phase next to an anchor. -/
def insertAt (p : Pipeline) (anchor : String) (phase : Phase) (around : Phase → List Phase) :
    Except CompileError Pipeline :=
  if !p.contains anchor then .error (.anchorNotFound anchor phase.name)
  else if p.contains phase.name then .error (.duplicatePhase phase.name)
  else .ok { p with phases := splice anchor around p.phases }

def insertAfter (p : Pipeline) (anchor : String) (phase : Phase) : Except CompileError Pipeline :=
  p.insertAt anchor phase fun found => [found, phase]

def insertBefore (p : Pipeline) (anchor : String) (phase : Phase) : Except CompileError Pipeline :=
  p.insertAt anchor phase fun found => [phase, found]

/-- Puts a phase in place of another one, whose name it may keep. -/
def replace (p : Pipeline) (name : String) (phase : Phase) : Except CompileError Pipeline :=
  if !p.contains name then .error (.phaseNotFound name)
  else if phase.name ≠ name ∧ p.contains phase.name then .error (.duplicatePhase phase.name)
  else .ok { p with phases := splice name (fun _ => [phase]) p.phases }

def remove (p : Pipeline) (name : String) : Except CompileError Pipeline :=
  if !p.contains name then .error (.phaseNotFound name)
  else .ok { p with phases := splice name (fun _ => []) p.phases }

/-- Gives the `hydrate` phase other hydrators, or adds one at the end. -/
def withHydration (p : Pipeline) (hydrators : List Hydration.Hydrator) : Pipeline :=
  let phase := Phase.hydrate hydrators
  if p.contains phase.name then
    { p with phases := splice phase.name (fun _ => [phase]) p.phases }
  else
    { p with phases := p.phases ++ [phase] }

def addPlugin (p : Pipeline) (plugin : Plugin) : Pipeline :=
  { p with plugins := p.plugins ++ [plugin] }

/-! ## Runs -/

/-- One call that a run makes. -/
inductive Call where
  /-- The hook of the plugin at a place among the plugins. -/
  | before (place : Nat) (plugin phase : String) (input : Schema)
  | phase (phase : Phase) (input : Schema)
  /-- The hook of the plugin at a place among the plugins. -/
  | after (place : Nat) (plugin phase : String) (output : Schema)

/-- A run: the calls it made in order, and how it ended. -/
structure Run (α : Type) where
  calls : List Call
  result : Except PipelineError α

namespace Run

def pure {α : Type} (value : α) : Run α := ⟨[], .ok value⟩

/-- Goes on with the value of a run, unless it failed. -/
def bind {α β : Type} (run : Run α) (next : α → Run β) : Run β :=
  match run.result with
  | .error e => ⟨run.calls, .error e⟩
  | .ok value =>
    let rest := next value
    ⟨run.calls ++ rest.calls, rest.result⟩

instance : Monad Run where
  pure := pure
  bind := bind

end Run

/-- Calls the hooks of plugins, the first of which has the given place. -/
def beforeHooks (phase : String) (input : Schema) (place : Nat) : List Plugin → Run Unit
  | [] => .pure ()
  | plugin :: plugins =>
    let call := Call.before place plugin.name phase input
    match plugin.before phase input with
    | .error message => ⟨[call], .error ⟨phase, [.plugin plugin.name message]⟩⟩
    | .ok () => Run.bind ⟨[call], .ok ()⟩ fun _ => beforeHooks phase input (place + 1) plugins

/-- Calls the hooks of plugins, the first of which has the given place. -/
def afterHooks (phase : String) (output : Schema) (place : Nat) : List Plugin → Run Unit
  | [] => .pure ()
  | plugin :: plugins =>
    let call := Call.after place plugin.name phase output
    match plugin.after phase output with
    | .error message => ⟨[call], .error ⟨phase, [.plugin plugin.name message]⟩⟩
    | .ok () => Run.bind ⟨[call], .ok ()⟩ fun _ => afterHooks phase output (place + 1) plugins

/-- Runs the phase itself. -/
def work (phase : Phase) (input : Schema) : Run Schema :=
  ⟨[.phase phase input], (phase.run input).mapError fun errors => ⟨phase.name, errors⟩⟩

/-- Runs one phase between the hooks of the plugins. -/
def runPhase (plugins : List Plugin) (phase : Phase) (input : Schema) : Run Schema := do
  beforeHooks phase.name input 0 plugins
  let output ← work phase input
  afterHooks phase.name output 0 plugins
  return output

def runPhases (plugins : List Plugin) : List Phase → Schema → Run Schema
  | [], schema => .pure schema
  | phase :: phases, schema => do
    let output ← runPhase plugins phase schema
    runPhases plugins phases output

def run (p : Pipeline) (schema : Schema) : Run Schema := runPhases p.plugins p.phases schema

/-- The outcome of a run. -/
def compile (p : Pipeline) (schema : Schema) : Except PipelineError Schema := (p.run schema).result

end Pipeline

end GraphSchema
