import ApiCatalog.Error
import ApiCatalog.Json.Reader
import ApiCatalog.Schema.Record

/-!
# Schemas as JSON

The members of a schema node, reading a schema and writing one. Members outside this list are ignored, and what
is absent is not written; an empty list of required names counts as absent.
-/

namespace ApiCatalog
open Json (Record)

inductive SchemaRecordName where
  | node
  deriving DecidableEq, Repr

def schemaLayout : SchemaRecordName → Record SchemaRecordName
  | .node =>
    { name := "SchemaNode"
      members :=
        [{ key := "title", shape := .text, nullable := true },
         { key := "description", shape := .text, nullable := true },
         { key := "type", shape := .textOrTexts "SchemaType", nullable := true },
         { key := "format", shape := .text, nullable := true },
         { key := "properties", shape := .map (.record .node), nullable := true },
         { key := "required", shape := .list .text },
         { key := "items", shape := .record .node, nullable := true },
         { key := "enum", shape := .list .any, nullable := true },
         { key := "$ref", shape := .text, nullable := true }] }

/-! ## Reading -/

/-- A type from a text or a list of texts. -/
def SchemaType.ofJson? (json : Json) : Option SchemaType :=
  match json.text?, json.texts? with
  | some name, _ => some (.single name)
  | none, some names => some (.choice names)
  | none, none => none

def SchemaNode.listItems? : Json → Option (List Json)
  | .list items => some items
  | _ => none

mutual

def SchemaNode.ofJson : Json → SchemaNode
  | .object members => SchemaNode.withMembers members {}
  | _ => {}

/-- A node with members added to it. -/
def SchemaNode.withMembers : List (String × Json) → SchemaNode → SchemaNode
  | [], node => node
  | (key, value) :: rest, node =>
    SchemaNode.withMembers rest <|
      if key = "title" then { node with title := value.text? }
      else if key = "description" then { node with description := value.text? }
      else if key = "type" then { node with type := SchemaType.ofJson? value }
      else if key = "format" then { node with format := value.text? }
      else if key = "properties" then { node with properties := SchemaNode.propertiesOfJson value }
      else if key = "required" then { node with required := value.items.filterMap Json.text? }
      else if key = "items" then { node with items := SchemaNode.itemsOfJson value }
      else if key = "enum" then { node with values := SchemaNode.listItems? value }
      else if key = "$ref" then { node with reference := value.text? }
      else node

/-- The properties, unless `null` stands for them. -/
def SchemaNode.propertiesOfJson : Json → Option (List (String × SchemaNode))
  | .object members => some (SchemaNode.ofMembers members)
  | _ => none

def SchemaNode.ofMembers : List (String × Json) → List (String × SchemaNode)
  | [] => []
  | (name, value) :: rest => (name, SchemaNode.ofJson value) :: SchemaNode.ofMembers rest

def SchemaNode.itemsOfJson : Json → Option SchemaNode
  | .object members => some (SchemaNode.withMembers members {})
  | _ => none

end

/-- Reads the text of a schema, found at a URL. -/
def SchemaNode.decode (url body : String) : Except LoadError SchemaNode :=
  match Json.read schemaLayout (.record .node) body with
  | .ok json => .ok (.ofJson json)
  | .error message => .error (.decode url message)

/-! ## Writing -/

def SchemaType.toJson : SchemaType → Json
  | .single name => .text name
  | .choice names => .ofTexts names

def SchemaNode.optionalMember (key : String) (value : Option Json) : List (String × Json) :=
  match value with
  | some value => [(key, value)]
  | none => []

mutual

def SchemaNode.toJson : SchemaNode → Json
  | { title, description, type, format, properties, required, items, values, reference } =>
    .object
      (SchemaNode.optionalMember "title" (title.map .text) ++
        SchemaNode.optionalMember "description" (description.map .text) ++
        SchemaNode.optionalMember "type" (type.map SchemaType.toJson) ++
        SchemaNode.optionalMember "format" (format.map .text) ++
        SchemaNode.optionalMember "properties" (SchemaNode.propertiesToJson properties) ++
        (if required.isEmpty then [] else [("required", .ofTexts required)]) ++
        SchemaNode.optionalMember "items" (SchemaNode.itemsToJson items) ++
        SchemaNode.optionalMember "enum" (values.map .list) ++
        SchemaNode.optionalMember "$ref" (reference.map .text))

def SchemaNode.propertiesToJson : Option (List (String × SchemaNode)) → Option Json
  | none => none
  | some properties => some (.object (SchemaNode.toMembers properties))

def SchemaNode.toMembers : List (String × SchemaNode) → List (String × Json)
  | [] => []
  | (name, node) :: rest => (name, node.toJson) :: SchemaNode.toMembers rest

def SchemaNode.itemsToJson : Option SchemaNode → Option Json
  | none => none
  | some node => some node.toJson

end

def SchemaRecord.toJson (record : SchemaRecord) : Json :=
  .object
    [("source_url", .text record.sourceUrl),
     ("root", record.root.toJson),
     ("is_input_schema", .bool record.isInput),
     ("is_output_schema", .bool record.isOutput),
     ("type_name", .ofOptionalText record.typeName)]

end ApiCatalog
