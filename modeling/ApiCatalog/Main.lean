import ApiCatalog.CommandLine

/-!
# Program

Reads the files that a command names, lets the command make its text, and prints or writes it.
-/

namespace ApiCatalog.Main

/-- Why a file could not be used, from what the system says. -/
def faultOf : IO.Error → FileFault
  | .noFileOrDirectory .. => .notFound
  | .alreadyExists .. => .alreadyExists
  | .inappropriateType .. => .isDirectory
  | error => .other (toString error)

def readFile (path : String) : IO (Except FileFault String) := do
  match ← (IO.FS.readBinFile path).toBaseIO with
  | .ok bytes =>
    match String.fromUTF8? bytes with
    | some body => return .ok body
    | none => return .error .notText
  | .error error => return .error (faultOf error)

/-- Writes a file, and creates the directories on the way to it. -/
def writeFile (path text : String) : IO (Except FileFault Unit) := do
  let write : IO Unit := do
    let parent := FilePath.parentText path
    if parent ≠ "" then IO.FS.createDirAll parent
    IO.FS.writeFile path text
  match ← write.toBaseIO with
  | .ok () => return .ok ()
  | .error error => return .error (faultOf error)

/-- The library that a command line names, or an empty one. -/
def readLibrary : Option String → IO (Except CommandError Library)
  | none => return .ok {}
  | some path => do
    match ← readFile path with
    | .error fault => return .error (.file fault.message)
    | .ok body => return (Library.decode path body).mapError CommandError.load

def readAll (paths : List String) : IO FileReader := do
  let texts ← paths.mapM fun path => return (path, ← readFile path)
  return fun path => (texts.lookup path).getD (.error .notFound)

/-- Runs a command; its error is the result. -/
def runCommand (invocation : Invocation) : IO (Except CommandError Unit) := do
  match ← readLibrary invocation.library with
  | .error error => return .error error
  | .ok library =>
    let { manifest, patches, .. } := invocation.command.arguments
    let read ← readAll (manifest :: patches.toList)
    match (invocation.command.prepare library read).1 with
    | .error error => return .error error
    | .ok (.printed text) =>
      IO.print text
      return .ok ()
    | .ok (.file path text) => return (← writeFile path text).mapError fun fault => .file fault.message

end ApiCatalog.Main

open ApiCatalog in
def main (args : List String) : IO UInt32 := do
  match Invocation.ofArguments args with
  | .error message =>
    IO.eprintln message
    return 2
  | .ok invocation =>
    match ← Main.runCommand invocation with
    | .ok () => return 0
    | .error error =>
      IO.eprintln error.message
      return 1
