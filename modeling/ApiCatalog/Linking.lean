import ApiCatalog.Document.Basic
import ApiCatalog.Naming.Scope
import ApiCatalog.Schema.Resolve

/-!
# Linking documents

A document is linked entry by entry, in the order of declaration. Every reference to a schema is resolved and
written in canonical form, every operation and binding gets an identifier that is unique in its document, every
segment of a routing key one that is unique in its entry, and document and entries point back to their
definition. Schemas that operations send or receive are marked as such; messages mark nothing.
-/

namespace ApiCatalog

/-- What a schema is to the entry that refers to it. -/
inductive Role where
  | input
  | output
  | message
  deriving DecidableEq, Repr

def Role.mark : Role → SchemaRecord → SchemaRecord
  | .input, record => { record with isInput := true }
  | .output, record => { record with isOutput := true }
  | .message, record => record

namespace Library

/-- Resolves the reference of an entry, if it has one, and marks the schema. -/
def resolveAs (library : Library) (role : Role) : Option String → Load (Option String)
  | none => return none
  | some reference => do
    match ← library.resolve reference with
    | none => return none
    | some url =>
      Load.modifyCache (·.modify url role.mark)
      return some url

/-! ## API references -/

/-- Links operations; `methods` are the identifiers given out before. -/
def linkApiEntries (library : Library) (id : DefinitionId) (methods : Naming.NameScope) :
    List ApiEntry → Load (List ApiEntry)
  | [] => return []
  | entry :: rest => do
    let input ← library.resolveAs .input entry.input
    let output ← library.resolveAs .output entry.output
    let (methodName, methods) ← methods.claimFor entry.name
    let rest ← library.linkApiEntries id methods rest
    return { entry with input, output, methodName, definition := id } :: rest

def linkApi (library : Library) (id : DefinitionId) (document : ApiDocument) : Load ApiDocument := do
  let entries ← library.linkApiEntries id .empty document.entries
  return { document with entries, definition := id }

/-! ## Exchange references -/

/-- Gives the segments of a routing key their identifiers; `fields` are those given out before. -/
def nameElements (fields : Naming.NameScope) : List RouteElement → Except LoadError (List RouteElement)
  | [] => return []
  | element :: rest => do
    let (fieldName, fields) ← fields.claimFor element.name
    let rest ← nameElements fields rest
    return { element with fieldName } :: rest

/-- Links message bindings; `bindings` are the identifiers given out before. -/
def linkExchangeEntries (library : Library) (id : DefinitionId) (bindings : Naming.NameScope) :
    List ExchangeEntry → Load (List ExchangeEntry)
  | [] => return []
  | entry :: rest => do
    let schema ← library.resolveAs .message entry.schema
    let (typeName, bindings) ← bindings.claimFor entry.name
    let routingKey ← nameElements .empty entry.routingKey
    let rest ← library.linkExchangeEntries id bindings rest
    return { entry with schema, typeName, routingKey, definition := id } :: rest

def linkExchange (library : Library) (id : DefinitionId) (document : ExchangeDocument) :
    Load ExchangeDocument := do
  let entries ← library.linkExchangeEntries id .empty document.entries
  return { document with entries, definition := id }

/-- Links a document as that of a definition. -/
def link (library : Library) (id : DefinitionId) : Document → Load Document
  | .api document => return .api (← library.linkApi id document)
  | .exchange document => return .exchange (← library.linkExchange id document)

end Library

end ApiCatalog
