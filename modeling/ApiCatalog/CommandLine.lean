import ApiCatalog.Command
import ApiCatalog.Json.Reader

/-!
# Command lines

What a command line asks for: a command with its arguments, and the file that holds the library.
-/

namespace ApiCatalog

structure Options where
  manifest : Option String := none
  patches : Option String := none
  noBuiltinPatches : Bool := false
  library : Option String := none
  output : Option String := none
  compact : Bool := false
  deriving DecidableEq, Repr, Inhabited

namespace Options

def usage : String :=
  "usage: apicatalog dump  --manifest LOCATION [OPTIONS] [--output FILE]\n" ++
  "       apicatalog names --manifest LOCATION [OPTIONS] [--compact]\n\n" ++
  "  --manifest LOCATION     file or http(s) URL of the manifest\n" ++
  "  --patches FILE          further corrections, a list of objects with url, path and value\n" ++
  "  --no-builtin-patches    leave out the corrections that are known to be needed\n" ++
  "  --library FILE          object of the documents that can be fetched, by location"

/-- Reads options into those read before. -/
def read : List String → Options → Except String Options
  | [], options => .ok options
  | "--no-builtin-patches" :: rest, options => read rest { options with noBuiltinPatches := true }
  | "--compact" :: rest, options => read rest { options with compact := true }
  | "--manifest" :: value :: rest, options => read rest { options with manifest := some value }
  | "--patches" :: value :: rest, options => read rest { options with patches := some value }
  | "--library" :: value :: rest, options => read rest { options with library := some value }
  | "--output" :: value :: rest, options => read rest { options with output := some value }
  | "-o" :: value :: rest, options => read rest { options with output := some value }
  | unknown :: _, _ => .error ("unexpected argument '" ++ unknown ++ "'\n\n" ++ usage)

/-- The command that a name and options stand for. -/
def command (name : String) (options : Options) : Except String Command :=
  match options.manifest with
  | none => .error ("--manifest is missing\n\n" ++ usage)
  | some manifest =>
    let { patches, noBuiltinPatches, .. } := options
    let load : LoadArguments := { manifest, patches, noBuiltinPatches }
    if name = "dump" then .ok (.dump load options.output)
    else if name = "names" then .ok (.names load options.compact)
    else .error ("unknown command '" ++ name ++ "'\n\n" ++ usage)

end Options

structure Invocation where
  command : Command
  /-- The path of the file that holds the library. -/
  library : Option String
  deriving DecidableEq, Repr

def Invocation.ofArguments : List String → Except String Invocation
  | [] => .error Options.usage
  | name :: rest => do
    let options ← Options.read rest {}
    return { command := ← options.command name, library := options.library }

/-- A library has no records in it. -/
def Library.layout : Json.Layout Empty := nofun

/-- Reads a library: an object of texts by location. -/
def Library.decode (location body : String) : Except LoadError Library :=
  match Json.read Library.layout (.map .text) body with
  | .ok json => .ok (.ofList (json.members.filterMap fun (key, value) => value.text?.map (key, ·)))
  | .error message => .error (.decode location message)

end ApiCatalog
