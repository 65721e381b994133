import GraphSchema.Files.Tree

/-!
# File systems

The operations that programs need of a file system, which may be a tree in memory, and output
files, which are left alone if they hold the right text already.
-/

namespace GraphSchema.Files

structure FileSystem (m : Type → Type) where
  read : Path → ExceptT FileError m String
  makeDirectories : Path → ExceptT FileError m Unit
  write : Path → String → ExceptT FileError m Unit

/-- The file system in memory. -/
def FileSystem.memory : FileSystem (StateM FileTree) where
  read := FileOp.read
  makeDirectories := FileOp.makeDirectories
  write := FileOp.write

inductive WriteResult where
  | written
  /-- The file held the same text and was left alone. -/
  | unchanged
  deriving DecidableEq, Repr

/-- Writes an output file, and the directories that it is in. -/
def FileSystem.output {m : Type → Type} [Monad m] (fs : FileSystem m) (path : Path)
    (content : String) : ExceptT FileError m WriteResult := do
  let existing ← ExceptT.lift (fs.read path).run
  if existing.toOption = some content then return .unchanged
  fs.makeDirectories path.parent
  fs.write path content
  return .written

/-- Whether something stands at the end of a path. -/
def FileTree.holds (tree : FileTree) (path : Path) : Bool :=
  match (FileOp.entryAt path).run tree with
  | (.ok _, _) => true
  | (.error _, _) => false

end GraphSchema.Files
