import ApiCatalog.Dump
import ApiCatalog.Files
import ApiCatalog.NamesReport

/-!
# Commands

The two commands: `dump` writes the dump of a load to a file or prints it, `names` prints its names report.

A command first settles its corrections, which may come from a file, then loads, and only then writes or prints.
-/

namespace ApiCatalog

inductive CommandError where
  /-- The load failed. -/
  | load (error : LoadError)
  /-- A file could not be read or written. -/
  | file (message : String)
  /-- The report could not be written as JSON. -/
  | report (message : String)
  /-- Any other failure. -/
  | general (text : String)
  deriving DecidableEq, Repr, Inhabited

def CommandError.message : CommandError → String
  | .load error => error.message
  | .file message => "IO Error: " ++ message
  | .report message => "Serialization Error: " ++ message
  | .general text => "Operation failed: " ++ text

/-- What to load, and with which corrections. -/
structure LoadArguments where
  /-- The path or URL of the manifest. -/
  manifest : String
  /-- The path of a file with corrections. -/
  patches : Option String := none
  /-- Whether to do without the corrections that are known to be needed. -/
  noBuiltinPatches : Bool := false
  deriving DecidableEq, Repr, Inhabited

inductive Command where
  /-- Writes the dump to a file, or prints it. -/
  | dump (load : LoadArguments) (output : Option String)
  /-- Prints the names report, on one line or indented. -/
  | names (load : LoadArguments) (compact : Bool)
  deriving DecidableEq, Repr

/-- What reading files gives, by path. -/
abbrev FileReader := String → Except FileFault String

namespace LoadArguments

/-- The corrections to apply: those that are known to be needed, then those of the file. -/
def corrections (arguments : LoadArguments) (read : FileReader) : Except CommandError (List SchemaPatch) :=
  let builtin := if arguments.noBuiltinPatches then [] else SchemaPatch.builtin
  match arguments.patches with
  | none => .ok builtin
  | some path =>
    match read path with
    | .error fault => .error (.file fault.message)
    | .ok body =>
      match SchemaPatch.decodeList path body with
      | .error error => .error (.load error)
      | .ok patches => .ok (builtin ++ patches)

/-- Whether the manifest is fetched like any other document. -/
def isRemote (arguments : LoadArguments) : Bool :=
  "http://".toList.isPrefixOf arguments.manifest.toList || "https://".toList.isPrefixOf arguments.manifest.toList

/-- Performs the load, and says which session it ends with. A manifest that can be opened and not read, such as a
directory, is an error of transport. -/
def perform (arguments : LoadArguments) (library : Library) (read : FileReader) :
    Except CommandError Loaded × Session :=
  match arguments.corrections read with
  | .error error => (.error error, {})
  | .ok patches =>
    let load (step : Load Loaded) : Except CommandError Loaded × Session :=
      let (result, session) := step.perform {}
      (result.mapError CommandError.load, session)
    if arguments.isRemote then load (library.loadRemoteManifest patches arguments.manifest)
    else
      match read arguments.manifest with
      | .ok body => load (library.loadManifest patches arguments.manifest body)
      | .error fault =>
        if fault.isFoundInReading then load (throw (.transport arguments.manifest fault.message))
        else (.error (.file fault.message), {})

end LoadArguments

/-- Where the text that a command makes goes. -/
inductive Output where
  | printed (text : String)
  | file (path text : String)
  deriving DecidableEq, Repr

namespace Command

def arguments : Command → LoadArguments
  | .dump load _ => load
  | .names load _ => load

/-- What a command makes of its load. -/
def output (loaded : Loaded) : Command → Output
  | .dump _ none => .printed (Dump.text loaded.dump)
  | .dump _ (some path) => .file path (Dump.text loaded.dump)
  | .names _ compact =>
    let report := loaded.names.toJson
    .printed ((if compact then report.compact else report.indented) ++ "\n")

/-- What a command does, up to writing or printing. -/
def prepare (command : Command) (library : Library) (read : FileReader) : Except CommandError Output × Session :=
  let (result, session) := command.arguments.perform library read
  (result.map command.output, session)

structure Outcome where
  result : Except CommandError Unit
  /-- The printed text. -/
  printed : String
  files : FileTree
  requests : List Request

def run (command : Command) (library : Library) (files : FileTree) : Outcome :=
  let (result, session) := command.prepare library files.read
  match result with
  | .error error => { result := .error error, printed := "", files, requests := session.requests }
  | .ok (.printed text) => { result := .ok (), printed := text, files, requests := session.requests }
  | .ok (.file path text) =>
    let (written, files) := (FileTree.write path text).run.run files
    { result := written.mapError fun fault => .file fault.message
      printed := ""
      files
      requests := session.requests }

end Command

end ApiCatalog
