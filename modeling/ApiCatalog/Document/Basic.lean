import ApiCatalog.Definition

/-!
# Reference documents

The two kinds of documents. What a document declares is kept as it was read; what a load adds (method names,
binding names, field names and the links back to the definition) is empty until then.
-/

namespace ApiCatalog

/-- One REST operation. -/
structure ApiEntry where
  /-- The declared type of the entry. -/
  entryType : String := ""
  /-- The HTTP verb. -/
  httpMethod : String := ""
  /-- The route, relative to the base URL; `<name>` marks an argument. -/
  route : String := ""
  /-- The arguments, in call order. -/
  args : List String := []
  name : String := ""
  /-- Alternative sets of scopes; any one of them allows the call. -/
  scopes : List (List String) := []
  /-- The schema of the request. -/
  input : Option String := none
  /-- The schema of the response. -/
  output : Option String := none
  title : String := ""
  description : String := ""
  /-- The identifier of the method, unique in its document. -/
  methodName : String := ""
  definition : DefinitionId := {}
  deriving DecidableEq, Repr, Inhabited

/-- A reference of REST operations. -/
structure ApiDocument where
  version : String := ""
  title : String := ""
  description : String := ""
  /-- The URL that all routes are relative to. -/
  baseUrl : String := ""
  entries : List ApiEntry := []
  definition : DefinitionId := {}
  deriving DecidableEq, Repr, Inhabited

/-- One segment of a routing key. -/
structure RouteElement where
  name : String := ""
  summary : String := ""
  /-- The value of a segment that is always the same. -/
  constant : Option String := none
  /-- Whether the segment may hold several words. -/
  multipleWords : Bool := false
  /-- Whether the segment must be given. -/
  required : Bool := false
  /-- The identifier of the segment, unique in its entry. -/
  fieldName : String := ""
  deriving DecidableEq, Repr, Inhabited

/-- One message binding. -/
structure ExchangeEntry where
  /-- The declared type of the entry. -/
  entryType : String := ""
  /-- The exchange, without the prefix of the document. -/
  exchange : String := ""
  name : String := ""
  title : String := ""
  description : String := ""
  /-- The segments of the routing key, in order. -/
  routingKey : List RouteElement := []
  /-- The schema of the message. -/
  schema : Option String := none
  /-- The identifier of the binding, unique in its document. -/
  typeName : String := ""
  definition : DefinitionId := {}
  deriving DecidableEq, Repr, Inhabited

/-- A reference of exchanges. -/
structure ExchangeDocument where
  version : String := ""
  title : String := ""
  description : String := ""
  /-- What the names of all exchanges start with. -/
  exchangePrefix : String := ""
  entries : List ExchangeEntry := []
  definition : DefinitionId := {}
  deriving DecidableEq, Repr, Inhabited

inductive Document where
  | api (document : ApiDocument)
  | exchange (document : ExchangeDocument)
  deriving DecidableEq, Repr, Inhabited

namespace Document

def kind : Document → DocumentKind
  | .api _ => .api
  | .exchange _ => .exchange

def title : Document → String
  | .api document => document.title
  | .exchange document => document.title

def definition : Document → DefinitionId
  | .api document => document.definition
  | .exchange document => document.definition

end Document

def ExchangeDocument.exchangeName (document : ExchangeDocument) (entry : ExchangeEntry) : String :=
  document.exchangePrefix ++ entry.exchange

/-! ## Placeholders of a route -/

/-- The placeholders of what is left of a route: `name` is what has been read of one that is open. -/
def placeholdersFrom : (name : Option (List Char)) → List Char → List String
  | _, [] => []
  | none, c :: rest => placeholdersFrom (if c = '<' then some [] else none) rest
  | some name, c :: rest =>
    if c = '>' then String.ofList name :: placeholdersFrom none rest
    else placeholdersFrom (some (name ++ [c])) rest

/-- The names of the arguments in the route of an operation: the texts between `<` and the next `>`, in order.
What follows a `<` that is never closed names nothing. -/
def ApiEntry.placeholders (entry : ApiEntry) : List String :=
  placeholdersFrom none entry.route.toList

end ApiCatalog
