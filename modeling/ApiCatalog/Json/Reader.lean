import ApiCatalog.Json.Shape
import ApiCatalog.Json.Skip

/-!
# Reading JSON by shape

`read layout shape text` reads a text that must have a shape. The result is a JSON value in which every record
is an object of its known members: unknown members are skipped, and a record given as a list has become an
object.

The text is read once from left to right, and the first thing that does not fit is the failure. At most 127
brackets may be open (`depthLimit`), not counting those of skipped values.
-/

namespace ApiCatalog.Json

/-- How many brackets may be open at a time. -/
def depthLimit : Nat := 127

/-! ## Between the brackets -/

/-- Goes to the next item of a list, if there is one: past the comma, to the start of the item. -/
def nextItem (first : Bool) (input : List Char) : Except Failure (Option (List Char)) :=
  match skipSpace input with
  | [] => .error (.next (.endIn .list) [])
  | c :: rest =>
    if c = ']' then .ok none
    else if first then .ok (some (c :: rest))
    else if c = ',' then
      match skipSpace rest with
      | [] => .error (.next .endInValue [])
      | c :: rest =>
        if c = ']' then .error (.next .trailingComma (c :: rest)) else .ok (some (c :: rest))
    else .error (.next (.expectedCommaOrEnd .list) (c :: rest))

/-- Goes to the next member of an object, if there is one: past the comma, behind the opening quote of its
key. -/
def nextKey (first : Bool) (input : List Char) : Except Failure (Option (List Char)) :=
  match skipSpace input with
  | [] => .error (.next (.endIn .object) [])
  | c :: rest =>
    if c = '\x7d' then .ok none
    else if first then
      if c = '"' then .ok (some rest) else .error (.next .keyMustBeText (c :: rest))
    else if c = ',' then
      match skipSpace rest with
      | [] => .error (.next .endInValue [])
      | c :: rest =>
        if c = '"' then .ok (some rest)
        else if c = '\x7d' then .error (.next .trailingComma (c :: rest))
        else .error (.next .keyMustBeText (c :: rest))
    else .error (.next (.expectedCommaOrEnd .object) (c :: rest))

def readColon (input : List Char) : Except Failure (List Char) :=
  match skipSpace input with
  | [] => .error (.next (.endIn .object) [])
  | ':' :: rest => .ok rest
  | rest => .error (.next .expectedColon rest)

def close (bracket : Bracket) (input : List Char) : Except Failure (List Char) :=
  match skipSpace input with
  | [] => .error (.next (.endIn bracket) [])
  | c :: rest =>
    if c = bracket.closing then .ok rest
    else if c = ',' then
      match bracket with
      | .object => .error (.next .trailingComma (c :: rest))
      | .list =>
        match skipSpace rest with
        | ']' :: rest => .error (.next .trailingComma (']' :: rest))
        | rest => .error (.next .trailingCharacters rest)
    else .error (.next .trailingCharacters (c :: rest))

/-- How far an attempt to close a bracket goes on. -/
def closeAttempt (bracket : Bracket) (input : List Char) : List Char :=
  match skipSpace input with
  | [] => []
  | c :: rest =>
    if c = bracket.closing then rest
    else if c = ',' && bracket = .list then skipSpace rest
    else c :: rest

/-- Supplies the place of an unplaced failure: where the attempt to close the bracket around it ends. -/
def Failure.settle (failure : Failure) (bracket : Bracket) : Failure :=
  if failure.placed then failure
  else { failure with rest := closeAttempt bracket failure.rest, past := 0, placed := true }

/-- Reads what stands between two brackets, from behind the opening one, and the closing one. -/
def enclosed (bracket : Bracket) (body : List Char → Outcome Json) (input : List Char) : Outcome Json :=
  match body input with
  | .error failure => .error (failure.settle bracket)
  | .ok (value, rest) =>
    match close bracket rest with
    | .error failure => .error failure
    | .ok rest => .ok (value, rest)

/-! ## Loops -/

/-- Reads the items of a list, at most `budget` of them; a list has fewer items than characters. -/
def readItems (item : List Char → Outcome Json) : (budget : Nat) → (first : Bool) → List Char → Outcome (List Json)
  | 0, _, input => .ok ([], input)
  | budget + 1, first, input =>
    match nextItem first input with
    | .error failure => .error failure
    | .ok none => .ok ([], input)
    | .ok (some start) =>
      match item start with
      | .error failure => .error failure
      | .ok (value, rest) =>
        (readItems item budget false rest).map fun (more, rest) => (value :: more, rest)

/-- Reads the members of an object with any keys, into those read before. -/
def readEntries (item : List Char → Outcome Json) :
    (budget : Nat) → (first : Bool) → List (String × Json) → List Char → Outcome (List (String × Json))
  | 0, _, seen, input => .ok (seen, input)
  | budget + 1, first, seen, input =>
    match nextKey first input with
    | .error failure => .error failure
    | .ok none => .ok (seen, input)
    | .ok (some start) =>
      match readText start with
      | .error failure => .error failure
      | .ok (key, rest) =>
        match readColon rest with
        | .error failure => .error failure
        | .ok rest =>
          match item rest with
          | .error failure => .error failure
          | .ok (value, rest) => readEntries item budget false (putMember seen key value) rest

/-- Reads the members of a record, of which those in `seen` have been read. -/
def readMembers {ρ : Type} (record : Record ρ) (member : Member ρ → List Char → Outcome Json) :
    (budget : Nat) → (first : Bool) → List (String × Json) → List Char → Outcome (List (String × Json))
  | 0, _, seen, input => .ok (seen, input)
  | budget + 1, first, seen, input =>
    match nextKey first input with
    | .error failure => .error failure
    | .ok none => .ok (seen, input)
    | .ok (some start) =>
      match readText start with
      | .error failure => .error failure
      | .ok (key, rest) =>
        match record.find? key with
        | some known =>
          if seen.any (·.1 == key) then .error (.unplaced (.duplicateMember key) rest)
          else
            match readColon rest with
            | .error failure => .error failure
            | .ok rest =>
              match member known rest with
              | .error failure => .error failure
              | .ok (value, rest) => readMembers record member budget false (seen ++ [(key, value)]) rest
        | none =>
          match readColon rest with
          | .error failure => .error failure
          | .ok rest =>
            match skipValue rest with
            | .error failure => .error failure
            | .ok rest => readMembers record member budget false seen rest

/-- Reads a record given as an object, from behind the opening bracket. -/
def readRecordObject {ρ : Type} (record : Record ρ) (member : Member ρ → List Char → Outcome Json)
    (input : List Char) : Outcome Json :=
  match readMembers record member (input.length + 1) true [] input with
  | .error failure => .error failure
  | .ok (seen, rest) =>
    match record.members.find? fun m => m.required && !seen.any (·.1 == m.key) with
    | some missing => .error (.unplaced (.missingMember missing.key) rest)
    | none => .ok (.object seen, rest)

/-- Reads the members of a record given as a list; `index` is the number of those that came before. -/
def readPositional {ρ : Type} (record : Record ρ) (member : Member ρ → List Char → Outcome Json) :
    List (Member ρ) → (index : Nat) → List Char → Outcome (List (String × Json))
  | [], _, input => .ok ([], input)
  | known :: more, index, input =>
    match nextItem (index == 0) input with
    | .error failure => .error failure
    | .ok none =>
      if known.required then .error (.unplaced (.tooShort index record.name record.members.length) input)
      else readPositional record member more (index + 1) input
    | .ok (some start) =>
      match member known start with
      | .error failure => .error failure
      | .ok (value, rest) =>
        (readPositional record member more (index + 1) rest).map fun (seen, rest) =>
          ((known.key, value) :: seen, rest)

/-- Reads a record given as a list, from behind the opening bracket. -/
def readRecordList {ρ : Type} (record : Record ρ) (member : Member ρ → List Char → Outcome Json)
    (input : List Char) : Outcome Json :=
  (readPositional record member record.members 0 input).map fun (seen, rest) => (.object seen, rest)

/-- Reads a list, from behind the opening bracket. -/
def readList (item : List Char → Outcome Json) (input : List Char) : Outcome Json :=
  (readItems item (input.length + 1) true input).map fun (items, rest) => (.list items, rest)

/-- Reads an object with any keys, from behind the opening bracket. -/
def readMap (item : List Char → Outcome Json) (input : List Char) : Outcome Json :=
  (readEntries item (input.length + 1) true [] input).map fun (members, rest) => (.object members, rest)

/-! ## Values -/

/-- Names the value at the start of the text, which is not of the kind that is wanted. A scalar is read first,
and may itself be faulty. -/
def wrongKind (wanted : String) (input : List Char) : Failure :=
  let fail (found : Found) (rest : List Char) : Failure := .here (.wrongKind found wanted) rest
  let word (letters : List Char) (found : Found) (rest : List Char) : Failure :=
    match readWord letters rest with
    | .error failure => failure
    | .ok rest => fail found rest
  let number (negative : Bool) (digits : List Char) : Failure :=
    match readNumber negative digits with
    | .error failure => failure
    | .ok (value, rest) => fail (.number value) rest
  match input with
  | [] => .next .expectedValue []
  | c :: rest =>
    if c = 'n' then word ['u', 'l', 'l'] .null rest
    else if c = 't' then word ['r', 'u', 'e'] (.bool true) rest
    else if c = 'f' then word ['a', 'l', 's', 'e'] (.bool false) rest
    else if c = '-' then number true rest
    else if c.isDigit then number false input
    else if c = '"' then
      match readText rest with
      | .error failure => failure
      | .ok (value, rest) => fail (.text value) rest
    else if c = '[' then fail .list input
    else if c = '\x7b' then fail .object input
    else .next .expectedValue input

/-- Reads a word and gives it a meaning. -/
def readMeaning (letters : List Char) (meaning : Json) (rest : List Char) : Outcome Json :=
  (readWord letters rest).map fun rest => (meaning, rest)

def readAny : (depth : Nat) → List Char → Outcome Json
  | depth, input =>
    match skipSpace input with
    | [] => .error (.next .endInValue [])
    | c :: rest =>
      if c = 'n' then readMeaning ['u', 'l', 'l'] .null rest
      else if c = 't' then readMeaning ['r', 'u', 'e'] (.bool true) rest
      else if c = 'f' then readMeaning ['a', 'l', 's', 'e'] (.bool false) rest
      else if c = '-' then (readNumber true rest).map fun (value, rest) => (.number value, rest)
      else if c.isDigit then (readNumber false (c :: rest)).map fun (value, rest) => (.number value, rest)
      else if c = '"' then (readText rest).map fun (value, rest) => (.text value, rest)
      else if c = '[' then
        match depth with
        | 0 => .error (.next .tooDeep (c :: rest))
        | depth + 1 => enclosed .list (readList (readAny depth)) rest
      else if c = '\x7b' then
        match depth with
        | 0 => .error (.next .tooDeep (c :: rest))
        | depth + 1 => enclosed .object (readMap (readAny depth)) rest
      else .error (.next .expectedValue (c :: rest))

def isTextOrTexts (value : Json) : Bool := value.text?.isSome || value.texts?.isSome

def readNullable (value : List Char → Outcome Json) (input : List Char) : Outcome Json :=
  match skipSpace input with
  | 'n' :: rest => readMeaning ['u', 'l', 'l'] .null rest
  | input => value input

def readShape {ρ : Type} (layout : Layout ρ) : (depth : Nat) → Shape ρ → List Char → Outcome Json
  | depth, shape, input =>
    match skipSpace input with
    | [] => .error (.next .endInValue [])
    | c :: rest =>
      match shape with
      | .any => readAny depth (c :: rest)
      | .textOrTexts name =>
        match readAny depth (c :: rest) with
        | .error failure => .error failure
        | .ok (value, rest) =>
          if isTextOrTexts value then .ok (value, rest) else .error (.unplaced (.noVariant name) rest)
      | .text =>
        if c = '"' then (readText rest).map fun (value, rest) => (.text value, rest)
        else .error (wrongKind (shape.wanted layout) (c :: rest))
      | .flag =>
        if c = 't' then readMeaning ['r', 'u', 'e'] (.bool true) rest
        else if c = 'f' then readMeaning ['a', 'l', 's', 'e'] (.bool false) rest
        else .error (wrongKind (shape.wanted layout) (c :: rest))
      | .list item =>
        if c = '[' then
          match depth with
          | 0 => .error (.next .tooDeep (c :: rest))
          | depth + 1 => enclosed .list (readList (readShape layout depth item)) rest
        else .error (wrongKind (shape.wanted layout) (c :: rest))
      | .map item =>
        if c = '\x7b' then
          match depth with
          | 0 => .error (.next .tooDeep (c :: rest))
          | depth + 1 => enclosed .object (readMap (readShape layout depth item)) rest
        else .error (wrongKind (shape.wanted layout) (c :: rest))
      | .record name =>
        if c = '\x7b' then
          match depth with
          | 0 => .error (.next .tooDeep (c :: rest))
          | depth + 1 =>
            enclosed .object (readRecordObject (layout name) fun member =>
              if member.nullable then readNullable (readShape layout depth member.shape)
              else readShape layout depth member.shape) rest
        else if c = '[' then
          match depth with
          | 0 => .error (.next .tooDeep (c :: rest))
          | depth + 1 =>
            enclosed .list (readRecordList (layout name) fun member =>
              if member.nullable then readNullable (readShape layout depth member.shape)
              else readShape layout depth member.shape) rest
        else .error (wrongKind (shape.wanted layout) (c :: rest))

def readWhole {ρ : Type} (layout : Layout ρ) (shape : Shape ρ) (input : List Char) : Except Failure Json :=
  match readShape layout depthLimit shape input with
  | .error failure => .error failure
  | .ok (value, rest) =>
    match skipSpace rest with
    | [] => .ok value
    | rest => .error (.next .trailingCharacters rest)

/-- Reads a text of a shape; a failure is described with its place in the text. -/
def read {ρ : Type} (layout : Layout ρ) (shape : Shape ρ) (text : String) : Except String Json :=
  (readWhole layout shape text.toList).mapError fun failure => failure.message text.toList

end ApiCatalog.Json
