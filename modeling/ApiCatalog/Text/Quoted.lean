import ApiCatalog.Text.LetterCase
import ApiCatalog.Text.PrintableTable

/-!
# Quoted text

Text in double quotes, in which quotes and backslashes are escaped and every character that would not show by
itself (controls, format characters, separators other than the space, fillers, private use, unassigned code
points, combining marks) is written as its code point, `\u{301}`.
-/

namespace ApiCatalog.Text

/-- Whether a character beyond ASCII shows by itself. -/
def isVisible (c : Char) : Bool :=
  !graphemeExtendRanges.has c.toNat && !invisibleRanges.has c.toNat

/-- The digits of a number in base 16, lower case, without leading zeros. -/
def hexDigits (n : Nat) : List Char := Nat.toDigits 16 n

def codePointEscape (c : Char) : List Char :=
  ['\\', 'u', '\x7b'] ++ hexDigits c.toNat ++ ['\x7d']

def quoteChar (c : Char) : List Char :=
  if c = '\x00' then ['\\', '0']
  else if c = '\t' then ['\\', 't']
  else if c = '\r' then ['\\', 'r']
  else if c = '\n' then ['\\', 'n']
  else if c = '"' then ['\\', '"']
  else if c = '\\' then ['\\', '\\']
  else if isAscii c then (if c.toNat < 0x20 || c.toNat = 0x7F then codePointEscape c else [c])
  else if isVisible c then [c]
  else codePointEscape c

def quoted (text : String) : String :=
  String.ofList ('"' :: (text.toList.flatMap quoteChar ++ ['"']))

/-- A list of texts that are already written, in brackets. -/
def bracketed (items : List String) : String :=
  "[" ++ String.intercalate ", " items ++ "]"

end ApiCatalog.Text
