import ApiCatalog.Document.Wire
import ApiCatalog.Linking
import ApiCatalog.Manifest
import ApiCatalog.Naming.Types
import ApiCatalog.Schema.Patch

/-!
# Loading

A load takes the definitions of a manifest in ascending order of their URLs, those with the same URL in the order
of the manifest. The document of each is fetched, read by its kind and linked, which caches every schema that it
leads to. When all documents are linked, the corrections are applied and the schemas are named.

The first failure ends the load.
-/

namespace ApiCatalog

structure LoadedDefinition where
  definition : Definition
  document : Document
  deriving DecidableEq, Repr

structure Loaded where
  /-- The definitions, in ascending order of their URLs. -/
  definitions : List LoadedDefinition
  schemas : SchemaCache

namespace Loaded

/-- The canonical URLs of all schemas, in ascending order. -/
def schemaUrls (loaded : Loaded) : List String := loaded.schemas.sortedUrls

def sortedSchemas (loaded : Loaded) : List SchemaRecord := loaded.schemaUrls.filterMap loaded.schemas.get?

/-- The definition that documents and entries point back to. -/
def definition? (loaded : Loaded) (id : DefinitionId) : Option Definition :=
  loaded.definitions[id.index]?.map (·.definition)

def schema? (loaded : Loaded) (url : String) : Option SchemaRecord := loaded.schemas.get? url

end Loaded

namespace Load

/-- Applies corrections to the cached schemas; the number of those applied comes out. -/
def applyPatches (patches : List SchemaPatch) : Load Nat :=
  ExceptT.mk fun session =>
    let (result, cache) := session.cache.applyPatches patches
    (result, { session with cache })

def assignTypeNames : Load Unit := do
  let cache ← (← get).cache.assignTypeNames
  modifyCache fun _ => cache

end Load

namespace Library

/-- Fetches the document of a definition. The kind is looked at first, so nothing is fetched for a definition
whose document could not be read. -/
def fetchDocument (library : Library) (definition : Definition) : Load Document := do
  let kind ← definition.kind
  let body ← Load.fetch library .document definition.url
  Document.decode kind definition.url body

/-- Definitions in the order in which they are loaded. -/
def loadOrder (definitions : List Definition) : List Definition :=
  definitions.mergeSort fun a b => a.url ≤ b.url

/-- Loads the documents of definitions, the first of which has the position `index`. -/
def loadDocuments (library : Library) (index : Nat) : List Definition → Load (List LoadedDefinition)
  | [] => return []
  | definition :: rest => do
    let document ← library.fetchDocument definition
    let document ← library.link ⟨index⟩ document
    let rest ← library.loadDocuments (index + 1) rest
    return { definition, document } :: rest

def loadDefinitions (library : Library) (patches : List SchemaPatch) (definitions : List Definition) :
    Load Loaded := do
  let definitions ← library.loadDocuments 0 (loadOrder definitions)
  let _ ← Load.applyPatches patches
  Load.assignTypeNames
  return { definitions, schemas := (← get).cache }

def loadManifest (library : Library) (patches : List SchemaPatch) (location body : String) : Load Loaded := do
  let definitions ← decodeManifest location body
  library.loadDefinitions patches definitions

def loadManifestBytes (library : Library) (patches : List SchemaPatch) (location : String) (bytes : ByteArray) :
    Load Loaded :=
  match String.fromUTF8? bytes with
  | some body => library.loadManifest patches location body
  | none => throw (.transport location "stream did not contain valid UTF-8")

/-- Loads a manifest that is fetched from its location. -/
def loadRemoteManifest (library : Library) (patches : List SchemaPatch) (location : String) : Load Loaded := do
  let body ← Load.fetch library .manifest location
  library.loadManifest patches location body

end Library

end ApiCatalog
