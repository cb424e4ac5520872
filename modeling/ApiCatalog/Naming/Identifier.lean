import ApiCatalog.Naming.Words

/-!
# Identifiers

Free text (a schema title, an entry name, a routing key segment) becomes an identifier: its words, each
capitalised, one after the other, of which ASCII letters and digits are kept. Text that leaves nothing is
called `Unnamed`, and an identifier never starts with a digit.
-/

namespace ApiCatalog.Naming
open Text

/-- A word with its first character in upper case and the others in lower case, ASCII letters and digits
only. -/
def capitalised : List Char → List Char
  | [] => []
  | c :: rest => asciiUpper c ++ rest.flatMap asciiLower

/-- The capitalised words of a text, joined. -/
def pascalCase (text : List Char) : List Char :=
  (words text).flatMap capitalised

/-- What an identifier consists of when its text has no letter or digit to offer. -/
def unnamed : List Char := ['U', 'n', 'n', 'a', 'm', 'e', 'd']

/-- The fallback for empty text, and an `N` before a leading digit. -/
def guardStart : List Char → List Char
  | [] => unnamed
  | c :: rest => if c.isDigit then 'N' :: c :: rest else c :: rest

def identifier (text : String) : String :=
  String.ofList (guardStart (pascalCase text.toList))

end ApiCatalog.Naming
