import ApiCatalog.Json.Basic

/-!
# Schema nodes

The part of JSON Schema that is understood: titles, types, properties, items, allowed values and references to
other schemas. A node is visited in a fixed order: its own reference, then its properties in their order, then
its items.
-/

namespace ApiCatalog

/-- The type of a node: one, or a choice. -/
inductive SchemaType where
  | single (name : String)
  | choice (names : List String)
  deriving DecidableEq, Repr, Inhabited

def SchemaType.display : SchemaType → String
  | .single name => name
  | .choice names => String.intercalate "|" names

/-- A schema, or a part of one. -/
structure SchemaNode where
  title : Option String := none
  description : Option String := none
  type : Option SchemaType := none
  format : Option String := none
  /-- The properties of an object, in declaration order. -/
  properties : Option (List (String × SchemaNode)) := none
  /-- The names of the properties that must be given. -/
  required : List String := []
  /-- The schema of list items. -/
  items : Option SchemaNode := none
  /-- The allowed values. -/
  values : Option (List Json) := none
  /-- The URL of the schema that stands here. -/
  reference : Option String := none
  deriving Repr, Inhabited

/-! ## References -/

mutual

/-- All references of a node and the nodes in it, in visiting order. -/
def SchemaNode.references : SchemaNode → List String
  | { properties, items, reference, .. } =>
    reference.toList ++ SchemaNode.propertyReferences properties ++ SchemaNode.itemReferences items

def SchemaNode.propertyReferences : Option (List (String × SchemaNode)) → List String
  | none => []
  | some properties => SchemaNode.memberReferences properties

def SchemaNode.memberReferences : List (String × SchemaNode) → List String
  | [] => []
  | (_, node) :: rest => node.references ++ SchemaNode.memberReferences rest

def SchemaNode.itemReferences : Option SchemaNode → List String
  | none => []
  | some node => node.references

end

section Replacing
variable {m : Type → Type} [Monad m] (f : String → m String)

mutual

/-- Replaces every reference of a node and the nodes in it, in visiting order. The effects of `f` happen in
that order; where `f` fails, the rest is not visited. -/
def SchemaNode.mapReferences : SchemaNode → m SchemaNode
  | { title, description, type, format, properties, required, items, values, reference } => do
    let reference ← SchemaNode.mapReference reference
    let properties ← SchemaNode.mapPropertyReferences properties
    let items ← SchemaNode.mapItemReferences items
    return { title, description, type, format, properties, required, items, values, reference }

def SchemaNode.mapReference : Option String → m (Option String)
  | none => return none
  | some reference => return some (← f reference)

def SchemaNode.mapPropertyReferences :
    Option (List (String × SchemaNode)) → m (Option (List (String × SchemaNode)))
  | none => return none
  | some properties => return some (← SchemaNode.mapMemberReferences properties)

def SchemaNode.mapMemberReferences : List (String × SchemaNode) → m (List (String × SchemaNode))
  | [] => return []
  | (name, node) :: rest => do
    let node ← node.mapReferences
    let rest ← SchemaNode.mapMemberReferences rest
    return (name, node) :: rest

def SchemaNode.mapItemReferences : Option SchemaNode → m (Option SchemaNode)
  | none => return none
  | some node => return some (← node.mapReferences)

end

end Replacing

end ApiCatalog
