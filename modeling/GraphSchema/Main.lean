import GraphSchema.Command.Run

/-!
# The program

Runs a command on the files of the machine.
-/

open GraphSchema GraphSchema.Files

/-- Runs an action of the machine; what goes wrong is told by its message. -/
def attempt {α : Type} (action : IO α) : ExceptT FileError IO α :=
  ExceptT.mk do
    try
      return .ok (← action)
    catch e =>
      return .error (.other (toString e))

/-- The file system of the machine. -/
def machine : FileSystem IO where
  read path := attempt (IO.FS.readFile path.text)
  makeDirectories path :=
    if path.isEmpty then return () else attempt (IO.FS.createDirAll path.text)
  write path content := attempt (IO.FS.writeFile path.text content)

def main (arguments : List String) : IO UInt32 := do
  let result ← Command.run machine arguments
  let output ← IO.getStdout
  output.putStr result.output
  output.flush
  let messages ← IO.getStderr
  for line in result.messages do
    messages.putStrLn line
  return result.code.toUInt32
