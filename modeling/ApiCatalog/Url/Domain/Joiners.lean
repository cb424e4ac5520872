import ApiCatalog.Url.Domain.Composition
import ApiCatalog.Url.Domain.JoiningTable

/-!
# Joiners

Two invisible characters join or separate the letters around them. A label may hold them where they make a
difference: behind a virama, and the non-joiner also between two letters that would join without it.
-/

namespace ApiCatalog.Url.Domain

/-- The invisible character that separates letters. -/
def nonJoiner : Char := '\u200C'

/-- The invisible character that joins letters. -/
def joiner : Char := '\u200D'

def isVirama (c : Char) : Bool := combiningClass c = 9

/-- Whether a character has no part in the joining of its neighbours. -/
def isTransparent (c : Char) : Bool := transparentRanges.has c.toNat

/-- Whether a letter joins with the one behind it. -/
def joinsAfter (c : Char) : Bool := leftJoiningRanges.has c.toNat || dualJoiningRanges.has c.toNat

/-- Whether a letter joins with the one in front of it. -/
def joinsBefore (c : Char) : Bool := rightJoiningRanges.has c.toNat || dualJoiningRanges.has c.toNat

/-- Whether the non-joiner keeps apart two letters: those in front of it, the nearest first, and behind it. -/
def separates (before after : List Char) : Bool :=
  ((before.dropWhile isTransparent).head?.any joinsAfter) && ((after.dropWhile isTransparent).head?.any joinsBefore)

/-- Whether every joiner of a label has a reason; `before` is what stands in front, the nearest first. -/
def joinersFit (before : List Char) : List Char → Bool
  | [] => true
  | c :: rest =>
    (if c = joiner then before.head?.any isVirama
      else if c = nonJoiner then before.head?.any isVirama || separates before rest
      else true) && joinersFit (c :: before) rest

end ApiCatalog.Url.Domain
