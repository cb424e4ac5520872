import ApiCatalog.Error

/-!
# Definitions

A manifest is a list of definitions. Each one locates a reference document and says by a meta-schema URL which
kind of document that is.
-/

namespace ApiCatalog

inductive DocumentKind where
  /-- A reference of REST operations. -/
  | api
  /-- A reference of publish/subscribe exchanges. -/
  | exchange
  deriving DecidableEq, Repr, Inhabited

namespace DocumentKind

/-- How a kind is called in output. -/
def name : DocumentKind → String
  | .api => "Api"
  | .exchange => "Exchange"

/-- The meta-schema of API references. -/
def apiSchema : String := "http://schemas.taskcluster.net/base/v1/api-reference.json"

/-- The meta-schema of exchange references. -/
def exchangeSchema : String := "http://schemas.taskcluster.net/base/v1/exchanges-reference.json"

/-- The kind that a meta-schema URL selects, whatever number of `#` is at its end. -/
def ofSchemaUrl? (url : String) : Option DocumentKind :=
  let trimmed := String.ofList (url.toList.reverse.dropWhile (· = '#')).reverse
  if trimmed = apiSchema then some .api
  else if trimmed = exchangeSchema then some .exchange
  else none

end DocumentKind

/-- One entry of a manifest. -/
structure Definition where
  /-- Where the document is. -/
  url : String
  /-- The meta-schema URL of the document. -/
  schema : String
  /-- The name of the generated type. -/
  name : String
  /-- The root of the documentation. -/
  docRoot : String := ""
  deriving DecidableEq, Repr, Inhabited

namespace Definition

def kind (definition : Definition) : Except LoadError DocumentKind :=
  match DocumentKind.ofSchemaUrl? definition.schema with
  | some kind => .ok kind
  | none => .error (.unsupportedDocument definition.url definition.schema)

def entryLink (definition : Definition) (entry : String) : String :=
  String.ofList (definition.docRoot.toList.reverse.dropWhile (· = '/')).reverse ++ "/#" ++ entry

end Definition

/-- The position of a definition among those of a load, which its document and entries refer to. -/
structure DefinitionId where
  index : Nat := 0
  deriving DecidableEq, Repr, Inhabited

def DefinitionId.display (id : DefinitionId) : String := "#" ++ toString id.index

end ApiCatalog
