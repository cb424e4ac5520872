import ApiCatalog.Json.Lexical

/-!
# Skipped values

The value of an unknown member is skipped: its grammar is checked, nothing is kept, and no limit is put on its
depth. A stack of open brackets takes the place of recursion.
-/

namespace ApiCatalog.Json

/-- Where a skipped value stands, with the open brackets, the innermost first. -/
inductive SkipState where
  /-- A value comes next. -/
  | value (open_ : List Bracket)
  /-- The bracket `inner` has just been opened. -/
  | opened (inner : Bracket) (outer : List Bracket)
  /-- A value has just ended. -/
  | ended (open_ : List Bracket)
  deriving Repr

/-- Skips a text, a number or a word. -/
def skipScalar (input : List Char) : Except Failure (List Char) :=
  match input with
  | [] => .error (.next .endInValue [])
  | c :: rest =>
    if c = '"' then skipText rest
    else if c = 'n' then readWord ['u', 'l', 'l'] rest
    else if c = 't' then readWord ['r', 'u', 'e'] rest
    else if c = 'f' then readWord ['a', 'l', 's', 'e'] rest
    else if c = '-' then skipNumber rest
    else if c.isDigit then skipNumber input
    else .error (.next .expectedValue input)

/-- Takes the start of a value: the whole of it, or its opening bracket. -/
def skipValueStart (open_ : List Bracket) (input : List Char) : Outcome SkipState :=
  match skipSpace input with
  | '[' :: rest => .ok (.opened .list open_, rest)
  | '\x7b' :: rest => .ok (.opened .object open_, rest)
  | scalar => (skipScalar scalar).map fun rest => (.ended open_, rest)

/-- Takes the start of an item or member of the innermost bracket. -/
def skipElementStart (inner : Bracket) (outer : List Bracket) (input : List Char) : Outcome SkipState :=
  match inner with
  | .list => skipValueStart (.list :: outer) input
  | .object =>
    match skipSpace input with
    | [] => .error (.next (.endIn .object) [])
    | c :: rest =>
      if c = '"' then
        match skipText rest with
        | .error failure => .error failure
        | .ok rest =>
          match skipSpace rest with
          | [] => .error (.next (.endIn .object) [])
          | ':' :: rest => .ok (.value (.object :: outer), rest)
          | rest => .error (.next .expectedColon rest)
      else .error (.next .keyMustBeText (c :: rest))

/-- One step, which takes at least one character. -/
def skipStep : SkipState → List Char → Outcome SkipState
  | .value open_, input => skipValueStart open_ input
  | .opened inner outer, input =>
    match skipSpace input with
    | [] => .error (.next (.endIn inner) [])
    | c :: rest =>
      if c = inner.closing then .ok (.ended outer, rest) else skipElementStart inner outer (c :: rest)
  | .ended [], input => .ok (.ended [], input)
  | .ended (inner :: outer), input =>
    match skipSpace input with
    | [] => .error (.next (.endIn inner) [])
    | c :: rest =>
      if c = ',' then skipElementStart inner outer rest
      else if c = inner.closing then .ok (.ended outer, rest)
      else .error (.next (.expectedCommaOrEnd inner) (c :: rest))

/-- Steps until no bracket is open, at most `budget` times. -/
def skipFrom : (budget : Nat) → SkipState → List Char → Except Failure (List Char)
  | _, .ended [], input => .ok input
  | 0, _, input => .error (.here .endInValue input)
  | budget + 1, state, input =>
    match skipStep state input with
    | .error failure => .error failure
    | .ok (state, rest) => skipFrom budget state rest

/-- Skips a value. Every step takes a character, so there are fewer steps than characters. -/
def skipValue (input : List Char) : Except Failure (List Char) :=
  skipFrom (input.length + 1) (.value []) input

end ApiCatalog.Json
