import ApiCatalog.Url.Domain.DirectionTable
import ApiCatalog.Text.LetterCase

/-!
# Writing direction

A domain that holds a character written from right to left must show without ambiguity. Every label of it then
starts with a letter, which settles the direction of the label, holds only characters that keep to that
direction, and ends with a letter or a number (and marks).
-/

namespace ApiCatalog.Url.Domain
open Text (Ranges)

/-- The classes of characters by the direction they are written in. -/
inductive Direction where
  | left
  | right
  | arabicLetter
  | arabicNumber
  | europeanNumber
  | europeanSeparator
  | commonSeparator
  | europeanTerminator
  | otherNeutral
  | boundaryNeutral
  | nonspacingMark
  deriving DecidableEq, Repr

/-- The classes beyond ASCII with their tables. -/
def directionTables : List (Direction × Ranges) :=
  [(.right, rightToLeftRanges), (.arabicLetter, arabicLetterRanges), (.arabicNumber, arabicNumberRanges),
    (.europeanNumber, europeanNumberRanges), (.europeanSeparator, europeanSeparatorRanges),
    (.commonSeparator, commonSeparatorRanges), (.europeanTerminator, europeanTerminatorRanges),
    (.otherNeutral, otherNeutralRanges), (.boundaryNeutral, boundaryNeutralRanges),
    (.nonspacingMark, nonspacingMarkRanges)]

def direction (c : Char) : Direction :=
  if Text.isAscii c then
    if c.isAlpha then .left
    else if c.isDigit then .europeanNumber
    else if ['+', '-'].contains c then .europeanSeparator
    else if [',', '.', '/', ':'].contains c then .commonSeparator
    else if ['#', '$', '%'].contains c then .europeanTerminator
    else .otherNeutral
  else
    match directionTables.find? fun table => table.2.has c.toNat with
    | some table => table.1
    | none => .left

/-- Whether a character makes the rules on directions apply. -/
def isRightToLeft (c : Char) : Bool := [.right, .arabicLetter, .arabicNumber].contains (direction c)

/-- Classes that may stand in a label of either direction. -/
def neutralDirections : List Direction :=
  [.europeanNumber, .europeanSeparator, .commonSeparator, .europeanTerminator, .otherNeutral, .boundaryNeutral,
    .nonspacingMark]

/-- The class of the last character that is no mark. -/
def lastDirection (classes : List Direction) : Option Direction :=
  classes.reverse.find? (· ≠ .nonspacingMark)

def keepsDirection (label : List Char) : Bool :=
  let classes := label.map direction
  match classes.head? with
  | none => true
  | some .left =>
    classes.all (fun d => d = .left || neutralDirections.contains d) &&
      (lastDirection classes).any ([.left, .europeanNumber].contains ·)
  | some first =>
    [.right, .arabicLetter].contains first &&
      classes.all (fun d => [.right, .arabicLetter, .arabicNumber].contains d || neutralDirections.contains d) &&
      (lastDirection classes).any ([.right, .arabicLetter, .europeanNumber, .arabicNumber].contains ·) &&
      !(classes.contains .europeanNumber && classes.contains .arabicNumber)

end ApiCatalog.Url.Domain
