import ApiCatalog.Decimal.Double

/-!
# JSON values

A value as it stands in a text: members keep their order, and a number is a whole number or a double.
-/

namespace ApiCatalog

/-- A JSON number. Whole numbers lie between `-2^63` and `2^64 - 1`; all others are doubles. -/
inductive Json.Number where
  | whole (value : Int)
  | double (value : Decimal.Double)
  deriving DecidableEq, Repr, Inhabited

inductive Json where
  | null
  | bool (value : Bool)
  | number (value : Json.Number)
  | text (value : String)
  | list (items : List Json)
  | object (members : List (String × Json))
  deriving Repr, Inhabited

namespace Json

def text? : Json → Option String
  | .text value => some value
  | _ => none

def bool? : Json → Option Bool
  | .bool value => some value
  | _ => none

def items : Json → List Json
  | .list items => items
  | _ => []

def members : Json → List (String × Json)
  | .object members => members
  | _ => []

def get? (json : Json) (key : String) : Option Json := json.members.lookup key

/-- The texts of a list of texts, or nothing when it is anything else. -/
def texts? : Json → Option (List String)
  | .list items => items.mapM text?
  | _ => none

/-- The text of a member, empty when the member is absent. -/
def textAt (json : Json) (key : String) : String := ((json.get? key).bind text?).getD ""

/-- The text of a member that may be absent; an empty text counts as absent. -/
def nonEmptyTextAt (json : Json) (key : String) : Option String :=
  ((json.get? key).bind text?).filter (· ≠ "")

/-- The truth value of a member, false when the member is absent. -/
def boolAt (json : Json) (key : String) : Bool := ((json.get? key).bind bool?).getD false

/-- The items of a member, none when the member is absent. -/
def itemsAt (json : Json) (key : String) : List Json := ((json.get? key).map items).getD []

def ofOptionalText : Option String → Json
  | some value => .text value
  | none => .null

def ofTexts (values : List String) : Json := .list (values.map .text)

/-- Adds a member, or replaces the value of the member with the same key, which keeps its place. -/
def putMember (members : List (String × Json)) (key : String) (value : Json) : List (String × Json) :=
  if members.any (·.1 == key) then members.map fun m => if m.1 == key then (key, value) else m
  else members ++ [(key, value)]

end Json

end ApiCatalog
