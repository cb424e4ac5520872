import ApiCatalog.Library
import ApiCatalog.Schema.Cache

/-!
# Sessions

What a load has done so far: the schemas it has cached and the requests it has made, those that failed
included. A step of a load may fail, and the session is then as the step left it.
-/

namespace ApiCatalog

/-- What a text is fetched for. -/
inductive Purpose where
  | manifest
  | document
  | schema
  deriving DecidableEq, Repr

structure Request where
  purpose : Purpose
  location : String
  deriving DecidableEq, Repr

/-- The state of a load. -/
structure Session where
  cache : SchemaCache := {}
  /-- The requests made so far, in order. -/
  requests : List Request := []

instance : Inhabited Session := ⟨{}⟩

def Session.request (session : Session) (purpose : Purpose) (location : String) : Session :=
  { session with requests := session.requests ++ [⟨purpose, location⟩] }

abbrev Load := ExceptT LoadError (StateM Session)

namespace Load

/-- The result of a step, and the session after it. -/
def perform {α : Type} (step : Load α) (session : Session) : Except LoadError α × Session :=
  step.run.run session

def fetch (library : Library) (purpose : Purpose) (location : String) : Load String := do
  modify (·.request purpose location)
  library.answer location

def modifyCache (f : SchemaCache → SchemaCache) : Load Unit :=
  modify fun session => { session with cache := f session.cache }

end Load

end ApiCatalog
