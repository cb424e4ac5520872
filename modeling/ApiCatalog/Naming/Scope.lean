import ApiCatalog.Error
import ApiCatalog.Naming.Identifier

/-!
# Name scopes

A scope holds the names handed out in one namespace. A name that is taken is given out with the least number
behind it that makes it free: `Task`, `Task1`, `Task2`, …
-/

namespace ApiCatalog.Naming

/-- The names handed out so far, the latest first. -/
structure NameScope where
  names : List String := []
  deriving DecidableEq, Repr, Inhabited

namespace NameScope

def empty : NameScope := {}

def contains (scope : NameScope) (name : String) : Bool := scope.names.contains name

def size (scope : NameScope) : Nat := scope.names.length

def isEmpty (scope : NameScope) : Bool := scope.names.isEmpty

def insert (scope : NameScope) (name : String) : NameScope := ⟨name :: scope.names⟩

/-- The largest number put behind a name. -/
def maxSuffix : Nat := 0xFFFFFFFF

/-- A candidate with a number behind it. -/
def numbered (candidate : String) (suffix : Nat) : String := candidate ++ toString suffix

/-- The first free name among the next `count` numbered ones. -/
def firstFree (scope : NameScope) (candidate : String) : (count suffix : Nat) → Option String
  | 0, _ => none
  | count + 1, suffix =>
    if scope.contains (numbered candidate suffix) then firstFree scope candidate count (suffix + 1)
    else some (numbered candidate suffix)

/-- Takes a candidate, or else the first free numbered form of it. -/
def claim (scope : NameScope) (candidate : String) : Except LoadError (String × NameScope) :=
  if scope.contains candidate then
    match firstFree scope candidate maxSuffix 1 with
    | some name => .ok (name, scope.insert name)
    | none => .error (.namingExhausted candidate)
  else .ok (candidate, scope.insert candidate)

def claimFor (scope : NameScope) (text : String) : Except LoadError (String × NameScope) :=
  scope.claim (identifier text)

end NameScope

end ApiCatalog.Naming
