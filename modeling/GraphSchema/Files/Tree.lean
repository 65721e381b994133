import GraphSchema.OrderedMap
import GraphSchema.Text.Lines

/-!
# Trees of files

Files and directories in memory. A path is followed name by name, and each step goes on from a
directory. Operations that fail may have made directories on their way.
-/

namespace GraphSchema.Files

/-- A path: names between slashes. A path that does not begin with a slash starts from the working
directory. -/
structure Path where
  text : String
  deriving DecidableEq, Repr

namespace Path

/-- What stands between the slashes. -/
def parts (path : Path) : List String := (Text.split '/' path.text.toList).map String.ofList

/-- The names on a path, among which `.` stays and `..` leads back. -/
def names (path : Path) : List String := path.parts.filter (· != "")

def isEmpty (path : Path) : Bool := path.text.isEmpty

def isAbsolute (path : Path) : Bool := path.text.toList.head? == some '/'

/-- Whether a path ends with a slash, so that it can only name a directory. -/
def namesDirectory (path : Path) : Bool := path.text.toList.getLast? == some '/'

/-- Goes on with a further path, which replaces the first one if it is absolute. -/
def join (path next : Path) : Path :=
  if next.isAbsolute ∨ path.isEmpty then next
  else if path.namesDirectory then ⟨path.text ++ next.text⟩
  else ⟨path.text ++ "/" ++ next.text⟩

/-- The paths up to each name but `.`, for the parts of a path with the last one first. -/
def trail : List String → List Path
  | [] => []
  | part :: parts =>
    if part = "" ∨ part = "." then trail parts
    else ⟨String.intercalate "/" (part :: parts).reverse⟩ :: trail parts

/-- The directories that a path leads through, the last one first. -/
def parents (path : Path) : List Path := (trail path.parts.reverse).drop 1

/-- The directory that a path leads through last; the empty path if there is none. -/
def parent (path : Path) : Path := path.parents.head?.getD ⟨""⟩

end Path

inductive FileError where
  | notFound | alreadyExists | notADirectory | isADirectory | nameTooLong | nulInName
  | other (message : String)
  deriving DecidableEq, Repr

def FileError.message : FileError → String
  | notFound => "No such file or directory (os error 2)"
  | alreadyExists => "File exists (os error 17)"
  | notADirectory => "Not a directory (os error 20)"
  | isADirectory => "Is a directory (os error 21)"
  | nameTooLong => "File name too long (os error 36)"
  | nulInName => "file name contained an unexpected NUL byte"
  | other message => message

inductive Entry where
  | file (content : String)
  | directory
  deriving DecidableEq, Repr

/-- The entries of a tree by the names that lead to them from the root. -/
structure FileTree where
  entries : OrderedMap (List String) Entry := .empty
  /-- The place of the working directory, which is there like all directories above it. -/
  working : List String := []

namespace FileTree

def find? (tree : FileTree) (place : List String) : Option Entry :=
  if place.isPrefixOf tree.working then some .directory else tree.entries.get? place

def insert (tree : FileTree) (place : List String) (entry : Entry) : FileTree :=
  { tree with entries := tree.entries.insert place entry }

end FileTree

/-! ## Operations -/

/-- An operation on a tree, which may fail. -/
abbrev FileOp := ExceptT FileError (StateM FileTree)

namespace FileOp

/-- The most bytes that a name can have. -/
def maxName : Nat := 255

/-- The most bytes that a path can have. -/
def maxPath : Nat := 4095

/-- Fails if no place can have the path, whatever there is. -/
def checkPath (path : Path) : FileOp Unit := do
  if path.text.toList.contains (Char.ofNat 0) then throw .nulInName
  if path.isEmpty then throw .notFound
  if maxPath < path.text.utf8ByteSize then throw .nameTooLong

/-- Fails if the place is no directory. -/
def enter (place : List String) : FileOp Unit := do
  match (← get).find? place with
  | some .directory => return ()
  | some (.file _) => throw .notADirectory
  | none => throw .notFound

/-- Follows names from a place. -/
def follow (place : List String) : List String → FileOp (List String)
  | [] => return place
  | name :: names => do
    enter place
    if name = "." then
      follow place names
    else if name = ".." then
      follow place.dropLast names
    else
      if maxName < name.utf8ByteSize then throw .nameTooLong
      follow (place ++ [name]) names

/-- The place that a path leads to, which need not hold anything. -/
def locate (path : Path) : FileOp (List String) := do
  checkPath path
  let tree ← get
  follow (if path.isAbsolute then [] else tree.working) path.names

/-- What stands at the end of a path. -/
def entryAt (path : Path) : FileOp Entry := do
  let place ← locate path
  match (← get).find? place with
  | some .directory => return .directory
  | some (.file content) =>
    if path.namesDirectory then throw .notADirectory
    return .file content
  | none => throw .notFound

def read (path : Path) : FileOp String := do
  match ← entryAt path with
  | .file content => return content
  | .directory => throw .isADirectory

/-- Makes a directory in a directory that is there. -/
def makeDirectory (path : Path) : FileOp Unit := do
  let place ← locate path
  if ((← get).find? place).isSome then throw .alreadyExists
  modify (·.insert place .directory)

/-- Makes a directory unless it is there already. -/
def ensureDirectory (path : Path) : FileOp Unit :=
  tryCatch (makeDirectory path) fun e => do
    let found ← ExceptT.lift (entryAt path).run
    unless found.toOption = some .directory do throw e

/-- Makes the first of the paths a directory, and before it those of the others that are missing. -/
def makeTrail : List Path → FileOp Unit
  | [] => return ()
  | path :: outer =>
    tryCatch (ensureDirectory path) fun e => do
      if e ≠ .notFound then throw e
      makeTrail outer
      ensureDirectory path

/-- Makes a directory and those that its path leads through, as far as they are missing. -/
def makeDirectories (path : Path) : FileOp Unit :=
  if path.isEmpty then return () else makeTrail (path :: path.parents)

/-- Writes a file into a directory that is there. -/
def write (path : Path) (content : String) : FileOp Unit := do
  let place ← locate path
  if path.namesDirectory ∨ (← get).find? place = some .directory then throw .isADirectory
  modify (·.insert place (.file content))

end FileOp

end GraphSchema.Files
