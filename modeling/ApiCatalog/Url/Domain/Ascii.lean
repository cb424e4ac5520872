import ApiCatalog.Url.Domain.Direction
import ApiCatalog.Url.Domain.Joiners
import ApiCatalog.Url.Domain.Mapping
import ApiCatalog.Url.Ipv4
import ApiCatalog.Url.Punycode

/-!
# Domains in ASCII

A domain is looked up in ASCII. Its characters are mapped and composed, and every label beyond ASCII is written in
Punycode behind the mark `xn--`. A label that has the mark already must be what this writes.
-/

namespace ApiCatalog.Url.Domain

/-- The mark of a label in Punycode. -/
def mark : List Char := ['x', 'n', '-', '-']

def isAsciiLabel (label : List Char) : Bool := label.all Text.isAscii

def isValidLabel (label : List Char) : Bool := !(label.head?.any isMark) && joinersFit [] label

/-- Mapped characters in composed form. -/
def normalized (text : List Char) : Option (List Char) := (mapChars text).map composed

/-- The most characters of a label that is written in Punycode. -/
def maxLabelLength : Nat := 1000

/-- The longest Punycode that is read, without its mark. -/
def maxEncodedLength : Nat := 2000

def isEncodable (label : List Char) : Bool :=
  !isAsciiLabel label && isValidLabel label && label.length ≤ maxLabelLength

/-- The characters that a label stands for. -/
def labelChars (label : List Char) : Option (List Char) :=
  if mark.isPrefixOf label then do
    let digits := label.drop mark.length
    let chars ← if digits.length ≤ maxEncodedLength then Punycode.decode digits else none
    if isEncodable chars && normalized chars = some chars then some chars else none
  else if isAsciiLabel label || isEncodable label then some label
  else none

def labelToAscii (chars : List Char) : List Char :=
  if isAsciiLabel chars then chars else mark ++ Punycode.encode chars

/-- The characters that may not stand in a domain, apart from controls and the space. -/
def deniedChars : List Char := ['%', '#', '/', ':', '<', '>', '?', '@', '[', '\\', ']', '^', '|', '\x7F']

def isAllowed (c : Char) : Bool := 0x20 < c.toNat && !deniedChars.contains c

/-- A domain in ASCII. None when it is not valid. -/
def toAscii (domain : List Char) : Option (List Char) := do
  let text ← normalized domain
  let labels ← (Text.splitAt '.' text).mapM labelChars
  if labels.any (·.any isRightToLeft) && !labels.all keepsDirection then none
  else
    let ascii := List.intercalate ['.'] (labels.map labelToAscii)
    if ascii.all isAllowed then some ascii else none

end ApiCatalog.Url.Domain
