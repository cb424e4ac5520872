import ApiCatalog.Url.Domain.ExpansionTable
import ApiCatalog.Url.Domain.ShiftTable
import ApiCatalog.Url.Domain.ValidityTable
import ApiCatalog.Text.LetterCase

/-!
# The characters of a domain

Before anything else the characters of a domain are mapped: letters to lower case, variants to the plain form,
and some to nothing. Characters that no domain may hold make it invalid. Of ASCII only the case of letters is
changed here.
-/

namespace ApiCatalog.Url.Domain

/-- The code point that stands for another one, in a table of shifts. -/
def shifted (entries : List (Nat × Nat × Nat × Nat)) (code : Nat) : Option Nat :=
  (entries.find? fun (first, last, step, _) => first ≤ code && code ≤ last && (code - first) % step = 0).map
    fun (first, _, _, target) => target + (code - first)

/-- What a character beyond ASCII is replaced by, if it is. -/
def replacement (code : Nat) : Option (List Char) :=
  match [shiftEntries1, shiftEntries2, shiftEntries3, shiftEntries4, shiftEntries5].findSome? (shifted · code) with
  | some target => some [Char.ofNat target]
  | none => (expansionEntries.lookup code).map fun codes => codes.map Char.ofNat

/-- What a character stands for in a domain. None for a character that no domain may hold. -/
def mapChar (c : Char) : Option (List Char) :=
  if Text.isAscii c then some [c.toLower]
  else if disallowedRanges.has c.toNat then none
  else if ignoredRanges.has c.toNat then some []
  else some ((replacement c.toNat).getD [c])

def mapChars (text : List Char) : Option (List Char) := (text.mapM mapChar).map List.flatten

def isMark (c : Char) : Bool := markRanges.has c.toNat

end ApiCatalog.Url.Domain
