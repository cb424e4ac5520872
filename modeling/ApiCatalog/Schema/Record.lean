import ApiCatalog.Location
import ApiCatalog.Schema.Node
import ApiCatalog.Text.Basic

/-!
# Schema records

A schema that has been fetched, with what a load finds out about it: whether operations send or receive it, and
the name of its type.
-/

namespace ApiCatalog

/-- A fetched schema. -/
structure SchemaRecord where
  /-- The URL that the schema was fetched for. -/
  sourceUrl : String
  root : SchemaNode
  /-- Whether some operation takes the schema as its request. -/
  isInput : Bool := false
  /-- Whether some operation answers with the schema. -/
  isOutput : Bool := false
  /-- The name of the type, once names have been given. -/
  typeName : Option String := none
  deriving Repr, Inhabited

namespace SchemaRecord

/-- The URL by which the schema is looked up. -/
def key (record : SchemaRecord) : String := canonicalUrl record.sourceUrl

/-- The last segment of a URL, without trailing slashes and up to the first point. -/
def stem (url : String) : String :=
  let path := (documentLocation url).toList.reverse.dropWhile (· = '/')
  let segment := (path.takeWhile (· ≠ '/')).reverse
  String.ofList (segment.takeWhile (· ≠ '.'))

/-- The text that the name of the type is made from: the title, unless it is blank, or else the stem of the
URL. -/
def namingHint (record : SchemaRecord) : String :=
  match record.root.title with
  | some title => if Text.isBlank title then stem record.sourceUrl else title
  | none => stem record.sourceUrl

end SchemaRecord

end ApiCatalog
