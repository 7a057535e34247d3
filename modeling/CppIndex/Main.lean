import CppIndex.Command.Run

/-!
# The command line

The outermost layer: read the files that a command asks for, run it, and write what it answers. All it
decides is how to ask the operating system.
-/

namespace CppIndex

/-- The text of a file, or the reason why it cannot be read. -/
def readFile (path : String) : IO (Except String String) := do
  try
    return .ok (← IO.FS.readFile path)
  catch e =>
    match e with
    | .noFileOrDirectory .. => return .error "No such file or directory (os error 2)"
    | e => return .error (toString e)

/-- The files that a command asks for. -/
def Command.paths : Command → List String
  | .parse .. => []
  | .resolve manifest _ _ _ config | .build manifest _ config => manifest :: config.toList

/-- A reader that knows the given files only. -/
def FileReader.ofReadings (readings : List (String × Except String String)) : FileReader := fun path =>
  (readings.lookup path).getD (.error "No such file or directory (os error 2)")

end CppIndex

/-- Run the command that the arguments stand for. -/
def main (args : List String) : IO UInt32 := do
  let paths := ((CppIndex.Command.ofArgs? args).map CppIndex.Command.paths).getD []
  let readings ← paths.mapM fun path => do return (path, ← CppIndex.readFile path)
  let outcome := CppIndex.Command.runArgs (.ofReadings readings) args
  IO.print outcome.stdout
  IO.eprint outcome.stderr
  return outcome.status.toUInt32
