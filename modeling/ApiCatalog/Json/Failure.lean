import ApiCatalog.Json.Printer
import ApiCatalog.Text.Quoted

/-!
# Failures of reading JSON

A failure has a cause and a place. The place is given by what was left of the text, so that readers need not
count; line and column come out when the whole text is at hand (`Failure.message`). Lines are counted from one;
the column is the number of bytes of the line up to the place.

A failure may also be *unplaced*: a member that is missing, say, belongs to no single character. The innermost
object or list around it then supplies the place (`Failure.settle`).
-/

namespace ApiCatalog.Json

inductive Bracket where
  | list
  | object
  deriving DecidableEq, Repr, Inhabited

def Bracket.closing : Bracket → Char
  | .list => ']'
  | .object => '\x7d'

/-- What was found where something else was expected. -/
inductive Found where
  | null
  | bool (value : Bool)
  | number (value : Number)
  | text (value : String)
  | list
  | object
  deriving Repr

def Found.describe : Found → String
  | .null => "null"
  | .bool value => "boolean `" ++ String.ofList (renderBool value) ++ "`"
  | .number (.whole value) => "integer `" ++ toString value ++ "`"
  | .number (.double value) => "floating point `" ++ String.ofList value.render ++ "`"
  | .text value => "string " ++ Text.quoted value
  | .list => "sequence"
  | .object => "map"

inductive Cause where
  | endInValue
  | endInText
  | endIn (bracket : Bracket)
  | expectedColon
  | expectedCommaOrEnd (bracket : Bracket)
  | expectedWord
  | expectedValue
  | invalidEscape
  | invalidNumber
  | numberOutOfRange
  | controlCharacter
  | keyMustBeText
  | loneSurrogate
  | endOfHexEscape
  | trailingComma
  | trailingCharacters
  | tooDeep
  | wrongKind (found : Found) (wanted : String)
  | duplicateMember (key : String)
  | missingMember (key : String)
  | tooShort (length : Nat) (record : String) (total : Nat)
  | noVariant (name : String)
  deriving Repr

def Cause.describe : Cause → String
  | .endInValue => "EOF while parsing a value"
  | .endInText => "EOF while parsing a string"
  | .endIn .list => "EOF while parsing a list"
  | .endIn .object => "EOF while parsing an object"
  | .expectedColon => "expected `:`"
  | .expectedCommaOrEnd .list => "expected `,` or `]`"
  | .expectedCommaOrEnd .object => "expected `,` or `\x7d`"
  | .expectedWord => "expected ident"
  | .expectedValue => "expected value"
  | .invalidEscape => "invalid escape"
  | .invalidNumber => "invalid number"
  | .numberOutOfRange => "number out of range"
  | .controlCharacter => "control character (\\u0000-\\u001F) found while parsing a string"
  | .keyMustBeText => "key must be a string"
  | .loneSurrogate => "lone leading surrogate in hex escape"
  | .endOfHexEscape => "unexpected end of hex escape"
  | .trailingComma => "trailing comma"
  | .trailingCharacters => "trailing characters"
  | .tooDeep => "recursion limit exceeded"
  | .wrongKind found wanted => "invalid type: " ++ found.describe ++ ", expected " ++ wanted
  | .duplicateMember key => "duplicate field `" ++ key ++ "`"
  | .missingMember key => "missing field `" ++ key ++ "`"
  | .tooShort length record total =>
    "invalid length " ++ toString length ++ ", expected struct " ++ record ++ " with " ++ toString total ++
      " elements"
  | .noVariant name => "data did not match any variant of untagged enum " ++ name

/-- A cause with its place: `past` bytes behind the start of what is left of the text. -/
structure Failure where
  cause : Cause
  rest : List Char
  past : Nat
  placed : Bool
  deriving Repr

namespace Failure

/-- A failure at the start of what is left. -/
def here (cause : Cause) (rest : List Char) : Failure := ⟨cause, rest, 0, true⟩

/-- A failure that counts the next byte as well. -/
def next (cause : Cause) (rest : List Char) : Failure := ⟨cause, rest, 1, true⟩

def beyond (cause : Cause) (rest : List Char) (past : Nat) : Failure := ⟨cause, rest, past, true⟩

/-- A failure whose place is still to be supplied, raised with this much of the text left. -/
def unplaced (cause : Cause) (rest : List Char) : Failure := ⟨cause, rest, 0, false⟩

end Failure

/-! ## Line and column -/

def byteLength (text : List Char) : Nat := text.foldl (fun sum c => sum + c.utf8Size) 0

/-- Line and column of a byte offset, counted on from the given ones. An offset inside a character counts the
bytes up to it. -/
def position (line column : Nat) : List Char → Nat → Nat × Nat
  | [], _ => (line, column)
  | c :: rest, offset =>
    if offset < c.utf8Size then (line, column + offset)
    else if c = '\n' then position (line + 1) 0 rest (offset - 1)
    else position line (column + c.utf8Size) rest (offset - c.utf8Size)

/-- The byte offset of a failure in the whole text. -/
def Failure.offset (failure : Failure) (whole : List Char) : Nat :=
  min (byteLength whole) (byteLength whole - byteLength failure.rest + failure.past)

/-- The text of a failure, with its line and column in the whole text. -/
def Failure.message (failure : Failure) (whole : List Char) : String :=
  let (line, column) := position 1 0 whole (failure.offset whole)
  failure.cause.describe ++ " at line " ++ toString line ++ " column " ++ toString column

end ApiCatalog.Json
