import ApiCatalog.Json.Basic

/-!
# JSON text

Two ways to write a value: `render` on one line without spaces, and `renderIndented` with a line for every item
and member, indented by two spaces a level, where empty lists and objects stay on one line.
-/

namespace ApiCatalog.Json

/-- The digits of a number in base 16, lower case, four of them. -/
def fourHexDigits (n : Nat) : List Char :=
  let digits := Nat.toDigits 16 n
  List.replicate (4 - digits.length) '0' ++ digits

def escapeChar (c : Char) : List Char :=
  if c = '"' then ['\\', '"']
  else if c = '\\' then ['\\', '\\']
  else if c = '\x08' then ['\\', 'b']
  else if c = '\x0C' then ['\\', 'f']
  else if c = '\n' then ['\\', 'n']
  else if c = '\r' then ['\\', 'r']
  else if c = '\t' then ['\\', 't']
  else if c.toNat < 0x20 then '\\' :: 'u' :: fourHexDigits c.toNat
  else [c]

def renderText (text : String) : List Char :=
  '"' :: (text.toList.flatMap escapeChar ++ ['"'])

def Number.render : Number → List Char
  | .whole value => (toString value).toList
  | .double value => value.render

def renderBool : Bool → List Char
  | true => ['t', 'r', 'u', 'e']
  | false => ['f', 'a', 'l', 's', 'e']

mutual

/-- A value on one line, without spaces. -/
def render : Json → List Char
  | .null => ['n', 'u', 'l', 'l']
  | .bool value => renderBool value
  | .number value => value.render
  | .text value => renderText value
  | .list items => '[' :: (renderItems items ++ [']'])
  | .object members => '\x7b' :: (renderMembers members ++ ['\x7d'])

def renderItems : List Json → List Char
  | [] => []
  | [item] => item.render
  | item :: next :: rest => item.render ++ ',' :: renderItems (next :: rest)

def renderMembers : List (String × Json) → List Char
  | [] => []
  | [(key, value)] => renderText key ++ ':' :: value.render
  | (key, value) :: next :: rest =>
    renderText key ++ ':' :: (value.render ++ ',' :: renderMembers (next :: rest))

end

/-- A value on one line, as a text. -/
def compact (json : Json) : String := String.ofList json.render

/-- The start of a line at a level of indentation. -/
def newLine (level : Nat) : List Char := '\n' :: List.replicate (2 * level) ' '

mutual

/-- A value over several lines; the lines after the first are indented from `level` on. -/
def renderIndented (level : Nat) : Json → List Char
  | .null => ['n', 'u', 'l', 'l']
  | .bool value => renderBool value
  | .number value => value.render
  | .text value => renderText value
  | .list [] => ['[', ']']
  | .list (item :: rest) =>
    '[' :: (renderIndentedItems (level + 1) (item :: rest) ++ newLine level ++ [']'])
  | .object [] => ['\x7b', '\x7d']
  | .object (member :: rest) =>
    '\x7b' :: (renderIndentedMembers (level + 1) (member :: rest) ++ newLine level ++ ['\x7d'])

def renderIndentedItems (level : Nat) : List Json → List Char
  | [] => []
  | [item] => newLine level ++ renderIndented level item
  | item :: next :: rest =>
    newLine level ++ renderIndented level item ++ ',' :: renderIndentedItems level (next :: rest)

def renderIndentedMembers (level : Nat) : List (String × Json) → List Char
  | [] => []
  | [(key, value)] => newLine level ++ renderText key ++ ':' :: ' ' :: renderIndented level value
  | (key, value) :: next :: rest =>
    newLine level ++ renderText key ++ ':' :: ' ' ::
      (renderIndented level value ++ ',' :: renderIndentedMembers level (next :: rest))

end

def indented (json : Json) : String := String.ofList (json.renderIndented 0)

end ApiCatalog.Json
