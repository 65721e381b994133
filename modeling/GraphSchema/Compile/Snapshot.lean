import GraphSchema.Compile.Pipeline
import GraphSchema.Files.System
import GraphSchema.Schema.Json

/-!
# Snapshots

A snapshot plugin keeps the schema as it stood after every phase. Snapshots are numbered from one
over all runs that the plugin observes. Of several snapshot plugins of a pipeline, the last one's
snapshots are told.
-/

namespace GraphSchema

structure Snapshot where
  index : Nat
  phase : String
  schema : Json

namespace Snapshot

/-- The name under which snapshot plugins observe a run. -/
def pluginName : String := "snapshot"

/-- The plugin that takes snapshots. Its hooks never fail. -/
def plugin : Plugin := { name := pluginName }

/-- A number with at least two digits. -/
def twoDigits (n : Nat) : String := if n < 10 then "0" ++ toString n else toString n

def fileName (s : Snapshot) : String := twoDigits s.index ++ "-" ++ s.phase ++ ".json"

/-- The schema of a snapshot, with sorted keys. -/
def schemaJson (schema : Schema) : Json := schema.toJson.sorted

def toJson (s : Snapshot) : Json :=
  .object [("index", .int s.index), ("phase", .string s.phase), ("blueprint", s.schema)]

/-- The text that is written for a snapshot. -/
def text (s : Snapshot) : String := s.toJson.pretty

/-- The place among a pipeline's plugins of its last snapshot plugin. -/
def observer? (p : Pipeline) : Option Nat :=
  (p.plugins.zipIdx.filter (·.1.name = pluginName)).getLast?.map (·.2)

/-- The phase and output that a call shows to an observer. -/
def seen? (observer : Option Nat) : Pipeline.Call → Option (String × Schema)
  | .after place _ phase output => if observer = some place then some (phase, output) else none
  | _ => none

/-- The snapshots after one more phase was seen. -/
def record (taken : List Snapshot) (phase : String) (output : Schema) : List Snapshot :=
  taken ++ [⟨taken.length + 1, phase, schemaJson output⟩]

/-- The snapshots after the calls of one more run, of which an observer is shown its own. -/
def recordAt (observer : Option Nat) (taken : List Snapshot) (calls : List Pipeline.Call) :
    List Snapshot :=
  (calls.filterMap (seen? observer)).foldl (fun taken (phase, output) => record taken phase output)
    taken

/-- The snapshots after the calls of one more run of a pipeline. -/
def recordCalls (p : Pipeline) (taken : List Snapshot) (calls : List Pipeline.Call) :
    List Snapshot :=
  recordAt (observer? p) taken calls

/-- Writes all snapshots into a directory, which is made if it is missing. -/
def writeAll {m : Type → Type} [Monad m] (fs : Files.FileSystem m) (directory : Files.Path)
    (taken : List Snapshot) : ExceptT Files.FileError m Unit := do
  fs.makeDirectories directory
  taken.forM fun s => fs.write (directory.join ⟨s.fileName⟩) s.text

end Snapshot

end GraphSchema
