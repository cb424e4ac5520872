import ApiCatalog.Json.Printer
import ApiCatalog.Loading

/-!
# Names reports

A names report lists what a load has named: the types of all schemas, and for every definition the methods of
its operations or the bindings of its exchanges. It is written as JSON.
-/

namespace ApiCatalog

/-- The name of the type of a schema, and what the schema is used for. -/
structure SchemaNames where
  url : String
  typeName : String
  isInput : Bool
  isOutput : Bool
  deriving DecidableEq, Repr

structure BindingNames where
  /-- The declared name of the binding. -/
  entry : String
  typeName : String
  /-- The full name of the exchange. -/
  exchange : String
  /-- The names of the segments of the routing key, in order. -/
  fields : List String
  deriving DecidableEq, Repr

structure DefinitionNames where
  url : String
  name : String
  kind : DocumentKind
  /-- The operations of an API reference: the declared name and that of the method. -/
  methods : List (String × String) := []
  /-- The bindings of an exchange reference. -/
  bindings : List BindingNames := []
  deriving DecidableEq, Repr

/-- All names of a load. -/
structure NamesReport where
  schemas : List SchemaNames
  definitions : List DefinitionNames
  deriving DecidableEq, Repr

/-! ## Making a report -/

def SchemaRecord.names (record : SchemaRecord) : SchemaNames :=
  { url := record.sourceUrl
    typeName := record.typeName.getD ""
    isInput := record.isInput
    isOutput := record.isOutput }

def ExchangeDocument.bindingNames (document : ExchangeDocument) (entry : ExchangeEntry) : BindingNames :=
  { entry := entry.name
    typeName := entry.typeName
    exchange := document.exchangeName entry
    fields := entry.routingKey.map (·.fieldName) }

def LoadedDefinition.names (loaded : LoadedDefinition) : DefinitionNames :=
  let { url, name, .. } := loaded.definition
  let kind := loaded.document.kind
  match loaded.document with
  | .api document => { url, name, kind, methods := document.entries.map fun entry => (entry.name, entry.methodName) }
  | .exchange document => { url, name, kind, bindings := document.entries.map document.bindingNames }

def Loaded.names (loaded : Loaded) : NamesReport :=
  { schemas := loaded.sortedSchemas.map SchemaRecord.names
    definitions := loaded.definitions.map LoadedDefinition.names }

/-! ## As JSON -/

def SchemaNames.toJson (names : SchemaNames) : Json :=
  .object
    [("url", .text names.url),
     ("type_name", .text names.typeName),
     ("input", .bool names.isInput),
     ("output", .bool names.isOutput)]

def BindingNames.toJson (names : BindingNames) : Json :=
  .object
    [("entry", .text names.entry),
     ("type_name", .text names.typeName),
     ("exchange", .text names.exchange),
     ("routing_key_fields", .ofTexts names.fields)]

/-- A member for a list, unless the list is empty. -/
def NamesReport.listMember (key : String) (items : List Json) : List (String × Json) :=
  if items.isEmpty then [] else [(key, .list items)]

def DefinitionNames.toJson (names : DefinitionNames) : Json :=
  .object
    ([("url", .text names.url), ("name", .text names.name), ("kind", .text names.kind.name)] ++
      NamesReport.listMember "methods"
        (names.methods.map fun (declared, given) => .ofTexts [declared, given]) ++
      NamesReport.listMember "bindings" (names.bindings.map BindingNames.toJson))

def NamesReport.toJson (report : NamesReport) : Json :=
  .object
    [("schemas", .list (report.schemas.map SchemaNames.toJson)),
     ("definitions", .list (report.definitions.map DefinitionNames.toJson))]

end ApiCatalog
