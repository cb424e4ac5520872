/-!
# Load errors

Every way in which a load can fail, and its wording. All of them are fatal: nothing is retried and no partial
result is handed out.
-/

namespace ApiCatalog

inductive LoadError where
  /-- A local file could not be read. -/
  | io (message : String)
  /-- A definition names a meta-schema that selects no kind of document. -/
  | unsupportedDocument (definition schema : String)
  /-- A manifest, document or schema could not be retrieved. -/
  | transport (location message : String)
  /-- A retrieved text is not of the expected form. -/
  | decode (location message : String)
  /-- Every numbered form of a name is taken. -/
  | namingExhausted (candidate : String)
  /-- A correction does not fit the schema it is meant for. -/
  | patch (url message : String)
  /-- Any other failure. -/
  | general (text : String)
  deriving DecidableEq, Repr, Inhabited

def LoadError.message : LoadError → String
  | .io message => "IO Error: " ++ message
  | .unsupportedDocument definition schema =>
    "Unsupported document schema '" ++ schema ++ "' for definition '" ++ definition ++ "'"
  | .transport location message => "Failed to fetch '" ++ location ++ "': " ++ message
  | .decode location message => "Failed to decode '" ++ location ++ "': " ++ message
  | .namingExhausted candidate => "Could not derive a unique identifier from '" ++ candidate ++ "'"
  | .patch url message => "Schema patch for '" ++ url ++ "' failed: " ++ message
  | .general text => "General Error: " ++ text

end ApiCatalog
