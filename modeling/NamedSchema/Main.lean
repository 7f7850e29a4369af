import NamedSchema.CommandLine.Run

/-!
The program: reads the arguments, the environment and the files that a command names, carries the
command out and ends with its status.
-/
namespace NamedSchema.CommandLine

/-- What is seen at a path. -/
def readView (path : String) : IO FileView := do
  try
    return .ofOctets (← IO.FS.readBinFile path)
  catch
    | .noFileOrDirectory .. | .inappropriateType .. => return .absent
    | error => return .unreadable (toString error)

def readCanonical (path : String) : IO (Except String String) := do
  try
    return .ok (← IO.FS.realPath path).toString
  catch error => return .error (toString error)

/-- The files at some paths. -/
def readFiles (paths : List String) : IO Files := do
  let seen ← paths.mapM fun path => do return (path, ← readView path, ← readCanonical path)
  let at? path := (seen.find? (·.1 = path)).map (·.2)
  return ⟨fun path => ((at? path).map (·.1)).getD .absent,
    fun path => ((at? path).map (·.2)).getD (.error "not read")⟩

def readEnvironment : IO Environment := do
  return ⟨← IO.getEnv "JSONSPEC_SCHEMA", ← IO.getEnv "JSONSPEC_FORMAT",
    ← IO.getEnv "JSONSPEC_MAX_DEPTH"⟩

def usage : String :=
  "Usage: [-v] [-q] validate --schema <SCHEMA> [--format <FORMAT>] [--all-errors]\n" ++
  "         [--max-depth <MAX_DEPTH>] <DOCUMENTS>...\n" ++
  "       [-v] [-q] check --schema <SCHEMA> [--format <FORMAT>]\n"

end NamedSchema.CommandLine

open NamedSchema.CommandLine

def main (arguments : List String) : IO UInt32 := do
  match Invocation.ofArguments (← readEnvironment) arguments with
  | .error .helpAsked | .error .versionAsked => do
    IO.print usage
    return 0
  | .error _ => do
    IO.eprint usage
    return 2
  | .ok invocation => do
    let colored ← (← IO.getStdout).isTty
    let result := invocation.run (← readFiles invocation.paths) colored
    IO.print result.stdout
    IO.eprint result.stderr
    return result.status.code.toUInt32
