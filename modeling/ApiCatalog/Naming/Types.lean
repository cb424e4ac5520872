import ApiCatalog.Naming.Scope
import ApiCatalog.Schema.Cache

/-!
# Type names

Every cached schema gets the name of a type, unique among all schemas. Names are given in ascending order of the
canonical URLs, so they do not depend on the order in which the schemas were found.
-/

namespace ApiCatalog.SchemaCache
open Naming (NameScope)

/-- Names the schemas of some URLs; `scope` holds the names given out before. -/
def nameEach (cache : SchemaCache) (scope : NameScope) : List String → Except LoadError SchemaCache
  | [] => .ok cache
  | url :: rest =>
    match cache.get? url with
    | none => cache.nameEach scope rest
    | some record =>
      match scope.claimFor record.namingHint with
      | .error error => .error error
      | .ok (name, scope) =>
        (cache.modify url fun record => { record with typeName := some name }).nameEach scope rest

def assignTypeNames (cache : SchemaCache) : Except LoadError SchemaCache :=
  cache.nameEach .empty cache.sortedUrls

end ApiCatalog.SchemaCache
