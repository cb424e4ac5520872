import ApiCatalog.Text.AlphanumericTable
import ApiCatalog.Text.LetterCaseTable

/-!
# Letters, digits and their case

Which characters belong to a word, which are lower or upper case, and which ASCII letters are left of a
character whose case is changed.

The last point is all that identifiers need: of the full case mappings only ASCII letters and digits are
kept, and beyond ASCII only a handful of characters map to any (`asciiUpper`, `asciiLower`).
-/

namespace ApiCatalog.Text

def isAscii (c : Char) : Bool := c.toNat < 0x80

/-- Letters, letter-like marks and numbers of any script. -/
def isAlphanumeric (c : Char) : Bool :=
  if isAscii c then c.isAlphanum else alphanumericRanges.has c.toNat

/-- Lower-case letters of any script. -/
def isLowercase (c : Char) : Bool :=
  if isAscii c then c.isLower else lowercaseRanges.has c.toNat

def isUppercase (c : Char) : Bool :=
  if isAscii c then c.isUpper else uppercaseRanges.has c.toNat

/-! ## The ASCII part of the full case mappings -/

/-- Characters beyond ASCII whose upper-case form holds ASCII letters, with these letters. -/
def asciiUpperExceptions : List (Char × List Char) :=
  [('ß', ['S', 'S']), ('ı', ['I']), ('ŉ', ['N']), ('ſ', ['S']), ('ǰ', ['J']), ('ẖ', ['H']), ('ẗ', ['T']),
    ('ẘ', ['W']), ('ẙ', ['Y']), ('ẚ', ['A']), ('ﬀ', ['F', 'F']), ('ﬁ', ['F', 'I']), ('ﬂ', ['F', 'L']),
    ('ﬃ', ['F', 'F', 'I']), ('ﬄ', ['F', 'F', 'L']), ('ﬅ', ['S', 'T']), ('ﬆ', ['S', 'T'])]

/-- Characters beyond ASCII whose lower-case form holds ASCII letters, with these letters: the capital I
with a dot, and the Kelvin sign. -/
def asciiLowerExceptions : List (Char × List Char) :=
  [('İ', ['i']), ('\u212A', ['k'])]

/-- The ASCII letters and digits in the upper-case form of a character. -/
def asciiUpper (c : Char) : List Char :=
  if isAscii c then (if c.isAlphanum then [c.toUpper] else [])
  else (asciiUpperExceptions.lookup c).getD []

def asciiLower (c : Char) : List Char :=
  if isAscii c then (if c.isAlphanum then [c.toLower] else [])
  else (asciiLowerExceptions.lookup c).getD []

end ApiCatalog.Text
