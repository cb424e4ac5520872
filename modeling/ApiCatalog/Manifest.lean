import ApiCatalog.Definition
import ApiCatalog.Json.Reader

/-!
# Manifests as JSON

A manifest is a JSON list of definitions.
-/

namespace ApiCatalog
open Json (Record)

inductive ManifestRecord where
  | definition
  deriving DecidableEq, Repr

def manifestLayout : ManifestRecord → Record ManifestRecord
  | .definition =>
    { name := "Definition"
      members :=
        [{ key := "url", shape := .text, required := true },
         { key := "schema", shape := .text, required := true },
         { key := "name", shape := .text, required := true },
         { key := "docroot", shape := .text }] }

def Definition.ofJson (json : Json) : Definition :=
  { url := json.textAt "url"
    schema := json.textAt "schema"
    name := json.textAt "name"
    docRoot := json.textAt "docroot" }

def decodeManifest (location body : String) : Except LoadError (List Definition) :=
  match Json.read manifestLayout (.list (.record .definition)) body with
  | .ok json => .ok (json.items.map Definition.ofJson)
  | .error message => .error (.decode location message)

end ApiCatalog
