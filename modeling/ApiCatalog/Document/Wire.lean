import ApiCatalog.Document.Basic
import ApiCatalog.Json.Reader

/-!
# Documents as JSON

The members of each record of a document, reading a document of a given kind, and writing one.

An absent member reads as empty, and so does an empty `input`, `output`, `schema` or `constant`. What a load adds
to a document is written, and never read.
-/

namespace ApiCatalog
open Json (Member Record Shape)

inductive DocumentRecord where
  | api
  | apiEntry
  | exchange
  | exchangeEntry
  | routeElement
  deriving DecidableEq, Repr

/-- A text that may be absent or `null`. -/
def DocumentRecord.optionalText (key : String) : Member DocumentRecord := { key, shape := .text, nullable := true }

def documentLayout : DocumentRecord → Record DocumentRecord
  | .api =>
    { name := "ApiDocument"
      members :=
        [{ key := "version", shape := .text },
         { key := "title", shape := .text },
         { key := "description", shape := .text },
         { key := "baseUrl", shape := .text },
         { key := "entries", shape := .list (.record .apiEntry) }] }
  | .apiEntry =>
    { name := "ApiEntry"
      members :=
        [{ key := "type", shape := .text },
         { key := "method", shape := .text },
         { key := "route", shape := .text },
         { key := "args", shape := .list .text },
         { key := "name", shape := .text },
         { key := "scopes", shape := .list (.list .text) },
         DocumentRecord.optionalText "input",
         DocumentRecord.optionalText "output",
         { key := "title", shape := .text },
         { key := "description", shape := .text }] }
  | .exchange =>
    { name := "ExchangeDocument"
      members :=
        [{ key := "version", shape := .text },
         { key := "title", shape := .text },
         { key := "description", shape := .text },
         { key := "exchangePrefix", shape := .text },
         { key := "entries", shape := .list (.record .exchangeEntry) }] }
  | .exchangeEntry =>
    { name := "ExchangeEntry"
      members :=
        [{ key := "type", shape := .text },
         { key := "exchange", shape := .text },
         { key := "name", shape := .text },
         { key := "title", shape := .text },
         { key := "description", shape := .text },
         { key := "routingKey", shape := .list (.record .routeElement) },
         DocumentRecord.optionalText "schema"] }
  | .routeElement =>
    { name := "RouteElement"
      members :=
        [{ key := "name", shape := .text },
         { key := "summary", shape := .text },
         DocumentRecord.optionalText "constant",
         { key := "multipleWords", shape := .flag },
         { key := "required", shape := .flag }] }

/-! ## Reading -/

def ApiEntry.ofJson (json : Json) : ApiEntry :=
  { entryType := json.textAt "type"
    httpMethod := json.textAt "method"
    route := json.textAt "route"
    args := (json.itemsAt "args").filterMap Json.text?
    name := json.textAt "name"
    scopes := (json.itemsAt "scopes").map fun scope => scope.items.filterMap Json.text?
    input := json.nonEmptyTextAt "input"
    output := json.nonEmptyTextAt "output"
    title := json.textAt "title"
    description := json.textAt "description" }

def ApiDocument.ofJson (json : Json) : ApiDocument :=
  { version := json.textAt "version"
    title := json.textAt "title"
    description := json.textAt "description"
    baseUrl := json.textAt "baseUrl"
    entries := (json.itemsAt "entries").map ApiEntry.ofJson }

def RouteElement.ofJson (json : Json) : RouteElement :=
  { name := json.textAt "name"
    summary := json.textAt "summary"
    constant := json.nonEmptyTextAt "constant"
    multipleWords := json.boolAt "multipleWords"
    required := json.boolAt "required" }

def ExchangeEntry.ofJson (json : Json) : ExchangeEntry :=
  { entryType := json.textAt "type"
    exchange := json.textAt "exchange"
    name := json.textAt "name"
    title := json.textAt "title"
    description := json.textAt "description"
    routingKey := (json.itemsAt "routingKey").map RouteElement.ofJson
    schema := json.nonEmptyTextAt "schema" }

def ExchangeDocument.ofJson (json : Json) : ExchangeDocument :=
  { version := json.textAt "version"
    title := json.textAt "title"
    description := json.textAt "description"
    exchangePrefix := json.textAt "exchangePrefix"
    entries := (json.itemsAt "entries").map ExchangeEntry.ofJson }

def DocumentKind.record : DocumentKind → DocumentRecord
  | .api => .api
  | .exchange => .exchange

def Document.ofJson (kind : DocumentKind) (json : Json) : Document :=
  match kind with
  | .api => .api (.ofJson json)
  | .exchange => .exchange (.ofJson json)

/-- Reads the text of a document of a kind, found at a URL. -/
def Document.decode (kind : DocumentKind) (url body : String) : Except LoadError Document :=
  match Json.read documentLayout (.record kind.record) body with
  | .ok json => .ok (.ofJson kind json)
  | .error message => .error (.decode url message)

/-! ## Writing -/

def DefinitionId.toJson (id : DefinitionId) : Json := .number (.whole id.index)

def ApiEntry.toJson (entry : ApiEntry) : Json :=
  .object
    [("type", .text entry.entryType),
     ("method", .text entry.httpMethod),
     ("route", .text entry.route),
     ("args", .ofTexts entry.args),
     ("name", .text entry.name),
     ("scopes", .list (entry.scopes.map .ofTexts)),
     ("input", .ofOptionalText entry.input),
     ("output", .ofOptionalText entry.output),
     ("title", .text entry.title),
     ("description", .text entry.description),
     ("method_name", .text entry.methodName),
     ("definition", entry.definition.toJson)]

def RouteElement.toJson (element : RouteElement) : Json :=
  .object
    [("name", .text element.name),
     ("summary", .text element.summary),
     ("constant", .ofOptionalText element.constant),
     ("multipleWords", .bool element.multipleWords),
     ("required", .bool element.required),
     ("field_name", .text element.fieldName)]

def ExchangeEntry.toJson (entry : ExchangeEntry) : Json :=
  .object
    [("type", .text entry.entryType),
     ("exchange", .text entry.exchange),
     ("name", .text entry.name),
     ("title", .text entry.title),
     ("description", .text entry.description),
     ("routingKey", .list (entry.routingKey.map RouteElement.toJson)),
     ("schema", .ofOptionalText entry.schema),
     ("type_name", .text entry.typeName),
     ("definition", entry.definition.toJson)]

/-- The members of a document, its kind first. -/
def Document.toJson : Document → Json
  | .api document =>
    .object
      [("kind", .text "api"),
       ("version", .text document.version),
       ("title", .text document.title),
       ("description", .text document.description),
       ("baseUrl", .text document.baseUrl),
       ("entries", .list (document.entries.map ApiEntry.toJson)),
       ("definition", document.definition.toJson)]
  | .exchange document =>
    .object
      [("kind", .text "exchange"),
       ("version", .text document.version),
       ("title", .text document.title),
       ("description", .text document.description),
       ("exchangePrefix", .text document.exchangePrefix),
       ("entries", .list (document.entries.map ExchangeEntry.toJson)),
       ("definition", document.definition.toJson)]

end ApiCatalog
