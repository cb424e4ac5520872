import ApiCatalog.Json.Printer
import ApiCatalog.Loading
import ApiCatalog.Text.Quoted

/-!
# Dumps

A dump shows a load as text to be read by people: every definition with its document, then every schema. It is
made of lines. A line names a field and shows its value between single quotes, as it is; lists are shown with
quoted items. The parts of a schema are indented under the line that names them.
-/

namespace ApiCatalog

/-! ## Lines -/

namespace Dump

/-- Lines as a text, in which every line is ended. -/
def text (lines : List String) : String := String.join (lines.map (· ++ "\n"))

def field (label value : String) : String := label ++ " = '" ++ value ++ "'"

/-- A line that shows the value of a field that may be absent, which then shows as empty. -/
def optionalField (label : String) (value : Option String) : String := field label (value.getD "")

def flag : Bool → String
  | true => "true"
  | false => "false"

def texts (values : List String) : String := Text.bracketed (values.map Text.quoted)

/-- A text filled up with spaces to a width. -/
def padded (width : Nat) (text : String) : String := text ++ "".pushn ' ' (width - text.length)

/-- The line in front of an item of a list. -/
def numbered (label : String) (index : Nat) : String := label ++ " " ++ padded 6 (toString index) ++ "= "

/-- A heading, underlined. -/
def heading (title : String) : List String := [title, "".pushn '=' title.length]

end Dump

open Dump

/-! ## Documents -/

def ApiEntry.dump (entry : ApiEntry) : List String :=
  [field "    Entry Type       " entry.entryType,
   field "    Entry Method     " entry.httpMethod,
   field "    Entry Route      " entry.route,
   field "    Entry Args       " (texts entry.args),
   field "    Entry Name       " entry.name,
   field "    Entry Method Name" entry.methodName,
   field "    Entry Scopes     " (Text.bracketed (entry.scopes.map texts)),
   optionalField "    Entry Input      " entry.input,
   optionalField "    Entry Output     " entry.output,
   field "    Entry Title      " entry.title,
   field "    Entry Description" entry.description]

/-- The lines of a list of items, each behind a line with its label and number. -/
def Dump.items {α : Type} (label : String) (lines : α → List String) (values : List α) : List String :=
  values.zipIdx.flatMap fun (value, index) => numbered label index :: lines value

def ApiDocument.dump (document : ApiDocument) : List String :=
  [field "Version    " document.version,
   field "Title      " document.title,
   field "Description" document.description,
   field "Base URL   " document.baseUrl] ++
  Dump.items "Entry" ApiEntry.dump document.entries

def RouteElement.dump (element : RouteElement) : List String :=
  [field "        Element Name     " element.name,
   field "        Element Field    " element.fieldName,
   field "        Element Summary  " element.summary,
   optionalField "        Element Constant " element.constant,
   field "        Element M Words  " (flag element.multipleWords),
   field "        Element Required " (flag element.required)]

def ExchangeEntry.dump (entry : ExchangeEntry) : List String :=
  [field "    Entry Type       " entry.entryType,
   field "    Entry Exchange   " entry.exchange,
   field "    Entry Name       " entry.name,
   field "    Entry Type Name  " entry.typeName,
   field "    Entry Title      " entry.title,
   field "    Entry Description" entry.description] ++
  Dump.items "    Routing Key Element" RouteElement.dump entry.routingKey ++
  [optionalField "    Entry Schema     " entry.schema]

def ExchangeDocument.dump (document : ExchangeDocument) : List String :=
  [field "Version        " document.version,
   field "Title          " document.title,
   field "Description    " document.description,
   field "Exchange Prefix" document.exchangePrefix] ++
  Dump.items "Entry" ExchangeEntry.dump document.entries

def Document.dump : Document → List String
  | .api document => document.dump
  | .exchange document => document.dump

/-! ## Schemas -/

/-- The line of a field of a node, unless it is absent. -/
def Dump.present (label : String) (value : Option String) : List String :=
  match value with
  | some value => [field label value]
  | none => []

def Dump.indented (depth : Nat) (line : String) : String := "".pushn ' ' (4 * depth) ++ line

/-- The lines of a node without those of its properties and items. -/
def SchemaNode.ownDump (node : SchemaNode) : List String :=
  Dump.present "Title        " node.title ++
  Dump.present "Description  " node.description ++
  Dump.present "Type         " (node.type.map SchemaType.display) ++
  Dump.present "Format       " node.format ++
  Dump.present "Reference    " node.reference ++
  (if node.required.isEmpty then [] else [field "Required     " (texts node.required)]) ++
  Dump.present "Enum         " (node.values.map fun values => ", ".intercalate (values.map Json.compact))

mutual

def SchemaNode.dump (depth : Nat) : SchemaNode → List String
  | { title, description, type, format, properties, required, items, values, reference } =>
    (SchemaNode.ownDump { title, description, type, format, required, values, reference }).map
        (Dump.indented depth) ++
      SchemaNode.dumpProperties depth properties ++ SchemaNode.dumpItems depth items

def SchemaNode.dumpProperties (depth : Nat) : Option (List (String × SchemaNode)) → List String
  | none => []
  | some properties => SchemaNode.dumpMembers depth properties

def SchemaNode.dumpMembers (depth : Nat) : List (String × SchemaNode) → List String
  | [] => []
  | (name, node) :: rest =>
    Dump.indented depth ("Property '" ++ name ++ "' =") :: (node.dump (depth + 1) ++
      SchemaNode.dumpMembers depth rest)

def SchemaNode.dumpItems (depth : Nat) : Option SchemaNode → List String
  | none => []
  | some node => Dump.indented depth "Items =" :: node.dump (depth + 1)

end

def SchemaRecord.dump (record : SchemaRecord) : List String :=
  [field "Source URL   " record.sourceUrl,
   optionalField "Type Name    " record.typeName,
   field "Input Schema " (flag record.isInput),
   field "Output Schema" (flag record.isOutput)] ++
  record.root.dump 0

/-! ## Loads -/

/-- What a dump says of itself. -/
def Dump.preamble : List String :=
  ["Static dump of the API models loaded during code generation.",
   "For reference only; no generated code depends on it.",
   ""]

/-- The lines of the document of a definition under its heading, and two empty ones behind them. -/
def LoadedDefinition.dumpUnderHeading (loaded : LoadedDefinition) : List String :=
  heading loaded.definition.url ++ loaded.document.dump ++ ["", ""]

def SchemaRecord.dumpUnderHeading (record : SchemaRecord) : List String :=
  heading record.sourceUrl ++ record.dump ++ ["", ""]

def Loaded.dump (loaded : Loaded) : List String :=
  Dump.preamble ++ loaded.definitions.flatMap LoadedDefinition.dumpUnderHeading ++
    loaded.sortedSchemas.flatMap SchemaRecord.dumpUnderHeading

end ApiCatalog
