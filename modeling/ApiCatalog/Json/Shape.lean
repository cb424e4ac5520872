import ApiCatalog.Json.Basic

/-!
# Shapes of JSON texts

What a reader of a text expects is data: a *shape* says which values may stand at a place, and a *record* names
the members of an object, in the order in which they may also be given as a list. Records are referred to by a
name of type `ρ`, so that a record may contain itself.
-/

namespace ApiCatalog.Json

/-- What may stand at a place. -/
inductive Shape (ρ : Type) where
  /-- A text. -/
  | text
  /-- `true` or `false`. -/
  | flag
  /-- Any value. -/
  | any
  /-- A text or a list of texts; `name` is how messages call the two together. -/
  | textOrTexts (name : String)
  /-- A list of items of one shape. -/
  | list (item : Shape ρ)
  /-- An object with any keys and values of one shape. -/
  | map (item : Shape ρ)
  /-- A record. -/
  | record (name : ρ)
  deriving Repr, DecidableEq, Inhabited

structure Member (ρ : Type) where
  key : String
  shape : Shape ρ
  /-- Whether `null` may stand for an absent value. -/
  nullable : Bool := false
  /-- Whether the member must be given. -/
  required : Bool := false
  deriving Repr, Inhabited

/-- The members of an object, in the order of the list form, and what messages call it. -/
structure Record (ρ : Type) where
  name : String
  members : List (Member ρ)
  deriving Repr, Inhabited

/-- The record that each name stands for. -/
abbrev Layout (ρ : Type) := ρ → Record ρ

def Record.find? {ρ : Type} (record : Record ρ) (key : String) : Option (Member ρ) :=
  record.members.find? (·.key == key)

/-- The text that wants a shape, as messages have it. -/
def Shape.wanted {ρ : Type} (layout : Layout ρ) : Shape ρ → String
  | .text => "a string"
  | .flag => "a boolean"
  | .any => "any value"
  | .textOrTexts name => name
  | .list _ => "a sequence"
  | .map _ => "a map"
  | .record name => "struct " ++ (layout name).name

end ApiCatalog.Json
