/-!
# Characters and parts of texts

What the other modules ask of characters and texts:

* which characters have a property. A property of characters is a table of closed ranges of code points (`Ranges`);
  its ASCII part is written out as a rule of its own, so a table starts at `0x80`. White space needs no table;
* whether a text is blank, which it is when nothing but white space is in it, in the sense of the Unicode property
  `White_Space` (`isBlank`);
* what stands between its separators (`splitAt`).
-/

namespace ApiCatalog.Text

/-! ## Properties of characters -/

/-- Closed ranges of code points. -/
abbrev Ranges := List (Nat × Nat)

def Ranges.has (ranges : Ranges) (code : Nat) : Bool :=
  ranges.any fun range => range.1 ≤ code && code ≤ range.2

/-- The 25 characters of the property `White_Space`. -/
def isWhiteSpace (c : Char) : Bool :=
  let n := c.toNat
  (0x9 ≤ n && n ≤ 0xD) || n == 0x20 || n == 0x85 || n == 0xA0 || n == 0x1680 || (0x2000 ≤ n && n ≤ 0x200A) ||
    n == 0x2028 || n == 0x2029 || n == 0x202F || n == 0x205F || n == 0x3000

/-! ## Texts -/

/-- Whether a text holds white space only; the empty text does. -/
def isBlank (text : String) : Bool := text.toList.all isWhiteSpace

/-- The parts of a text between a separator. Between two separators in a row, and before the first or behind the
last one, the part is empty, so there is always one part more than there are separators. -/
def splitAt (separator : Char) : List Char → List (List Char)
  | [] => [[]]
  | c :: rest =>
    if c = separator then [] :: splitAt separator rest
    else
      match splitAt separator rest with
      | part :: more => (c :: part) :: more
      | [] => [[c]]

end ApiCatalog.Text
