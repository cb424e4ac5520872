import ApiCatalog.Schema.Cache
import ApiCatalog.Schema.Wire
import ApiCatalog.Text.Basic

/-!
# Corrections

A patch replaces one field of one node of a schema. Its path leads from the root of the schema through properties
and items to the node, and ends with the field: `/properties/artifacts/items/type`.

A patch for a schema that is not in the cache is skipped. A patch that does not fit its schema is an error, and
the patches behind it are not applied.
-/

namespace ApiCatalog
open Json (Record)

/-- A correction of one schema. -/
structure SchemaPatch where
  /-- The URL of the schema. -/
  url : String
  /-- The way to the field. -/
  path : String
  /-- The new value. -/
  value : Json
  deriving Repr, Inhabited

inductive PatchFault where
  | emptyPath (path : String)
  | unnamedProperty
  | unknownProperty (name : String)
  | noItems
  | unknownStep (segment : String)
  | notText (field : String)
  | notType
  | unknownField (field : String)
  deriving DecidableEq, Repr

def PatchFault.message : PatchFault → String
  | .emptyPath path => "empty path '" ++ path ++ "'"
  | .unnamedProperty => "'properties' must be followed by a name"
  | .unknownProperty name => "no property '" ++ name ++ "'"
  | .noItems => "no 'items' schema"
  | .unknownStep segment => "unsupported path segment '" ++ segment ++ "'"
  | .notText field => "'" ++ field ++ "' must be a string"
  | .notType => "invalid type: " ++ (Json.Cause.noVariant "SchemaType").describe
  | .unknownField field => "field '" ++ field ++ "' cannot be patched"

namespace SchemaPatch

/-! ## As JSON -/

inductive RecordName where
  | patch
  deriving DecidableEq, Repr

def layout : RecordName → Record RecordName
  | .patch =>
    { name := "SchemaPatch"
      members :=
        [{ key := "url", shape := .text, required := true },
         { key := "path", shape := .text, required := true },
         { key := "value", shape := .any, required := true }] }

def ofJson (json : Json) : SchemaPatch :=
  { url := json.textAt "url"
    path := json.textAt "path"
    value := (json.get? "value").getD .null }

def toJson (patch : SchemaPatch) : Json :=
  .object [("url", .text patch.url), ("path", .text patch.path), ("value", patch.value)]

def decodeList (location body : String) : Except LoadError (List SchemaPatch) :=
  match Json.read layout (.list (.record .patch)) body with
  | .ok json => .ok (json.items.map ofJson)
  | .error message => .error (.decode location message)

/-- The corrections that are known to be needed: the entries of a list of artifacts are declared without a
type. -/
def builtin : List SchemaPatch :=
  [{ url := "http://schemas.taskcluster.net/queue/v1/list-artifacts-response.json#"
     path := "/properties/artifacts/items/type"
     value := .text "object" }]

/-! ## On a node -/

/-- The segments of a path, without the slashes at its start. -/
def segments (path : String) : List String :=
  (Text.splitAt '/' (path.toList.dropWhile (· = '/'))).map String.ofList

def setField (field : String) (value : Json) (node : SchemaNode) : Except PatchFault SchemaNode :=
  if field = "type" then
    match SchemaType.ofJson? value with
    | some type => .ok { node with type := some type }
    | none => .error .notType
  else if field = "title" then
    match value.text? with
    | some title => .ok { node with title := some title }
    | none => .error (.notText field)
  else if field = "description" then
    match value.text? with
    | some description => .ok { node with description := some description }
    | none => .error (.notText field)
  else if field = "format" then
    match value.text? with
    | some format => .ok { node with format := some format }
    | none => .error (.notText field)
  else .error (.unknownField field)

def setProperty (properties : List (String × SchemaNode)) (name : String) (node : SchemaNode) :
    List (String × SchemaNode) :=
  properties.map fun property => if property.1 == name then (name, node) else property

/-- Changes the node that steps lead to. -/
def changeAt (change : SchemaNode → Except PatchFault SchemaNode) :
    List String → SchemaNode → Except PatchFault SchemaNode
  | [], node => change node
  | ["properties"], _ => .error .unnamedProperty
  | "properties" :: name :: rest, node =>
    match node.properties.bind (·.lookup name) with
    | none => .error (.unknownProperty name)
    | some child => do
      let child ← changeAt change rest child
      return { node with properties := node.properties.map (setProperty · name child) }
  | "items" :: rest, node =>
    match node.items with
    | none => .error .noItems
    | some child => do
      let child ← changeAt change rest child
      return { node with items := some child }
  | segment :: _, _ => .error (.unknownStep segment)

def applyTo (patch : SchemaPatch) (root : SchemaNode) : Except PatchFault SchemaNode :=
  let segments := segments patch.path
  match segments.getLast? with
  | none => .error (.emptyPath patch.path)
  | some field =>
    if field = "" then .error (.emptyPath patch.path)
    else changeAt (setField field patch.value) segments.dropLast root

end SchemaPatch

/-! ## On a cache -/

namespace SchemaCache

/-- Applies one patch. Nothing comes of a patch whose schema is not there. -/
def applyPatch? (cache : SchemaCache) (patch : SchemaPatch) : Except LoadError (Option SchemaCache) :=
  match cache.get? patch.url with
  | none => .ok none
  | some record =>
    match patch.applyTo record.root with
    | .ok root => .ok (some (cache.modify patch.url fun record => { record with root }))
    | .error fault => .error (.patch (canonicalUrl patch.url) fault.message)

/-- Applies patches in order, up to the first that does not fit. The number of patches that were applied, or the
error, comes with the cache as it then is. -/
def applyPatches (cache : SchemaCache) : List SchemaPatch → Except LoadError Nat × SchemaCache
  | [] => (.ok 0, cache)
  | patch :: rest =>
    match cache.applyPatch? patch with
    | .error error => (.error error, cache)
    | .ok none => cache.applyPatches rest
    | .ok (some patched) =>
      let (count, final) := patched.applyPatches rest
      (count.map (· + 1), final)

end SchemaCache

end ApiCatalog
