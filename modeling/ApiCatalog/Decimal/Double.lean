import ApiCatalog.Decimal.Shortest

/-!
# Doubles as decimal text

A double is kept as its 64 bits, so that two doubles are equal exactly when they are written alike, and the
sign of a zero is not lost.

*Writing* (`Double.render`): the shortest digits that read back, positionally where the decimal exponent is
between -5 and 15, with a point in every case (`1.0`), and otherwise in scientific notation with a signed
exponent (`1e+16`, `5e-324`).

*Reading* (`Double.ofDecimal`): a whole significand is scaled by a power of ten in one operation, so the
result is near the decimal and not always the nearest double.
-/

namespace ApiCatalog.Decimal

/-- A finite double. -/
structure Double where
  bits : UInt64
  deriving DecidableEq, Repr, Inhabited

namespace Double

/-- The sign bit. -/
def isNegative (d : Double) : Bool := d.bits >>> 63 = 1

/-- The eleven bits of the exponent. -/
def exponentBits (d : Double) : Nat := ((d.bits >>> 52) &&& 0x7FF).toNat

/-- The fifty-two bits of the fraction. -/
def fractionBits (d : Double) : Nat := (d.bits &&& 0xFFFFFFFFFFFFF).toNat

/-- The natural significand. -/
def significand (d : Double) : Nat :=
  if d.exponentBits = 0 then d.fractionBits else d.fractionBits + 0x10000000000000

/-- The binary exponent of the natural significand. -/
def binaryExponent (d : Double) : Int :=
  if d.exponentBits = 0 then -1074 else (d.exponentBits : Int) - 1075

/-- Whether the doubles below this one are denser than those above. -/
def denserBelow (d : Double) : Bool := d.fractionBits = 0 && 1 < d.exponentBits

/-! ## Writing -/

/-- Digits with the point after the first `whole` of them. -/
def positional (digits : List Char) (p : Int) : List Char :=
  if 0 ≤ p then digits ++ List.replicate p.toNat '0' ++ ['.', '0']
  else
    let places := (-p).toNat
    if places < digits.length then
      digits.take (digits.length - places) ++ '.' :: digits.drop (digits.length - places)
    else '0' :: '.' :: (List.replicate (places - digits.length) '0' ++ digits)

/-- Digits with the point after the first one, and the exponent that this takes. -/
def scientific (digits : List Char) (exponent : Int) : List Char :=
  let mantissa :=
    match digits with
    | first :: second :: rest => first :: '.' :: second :: rest
    | short => short
  let sign := if exponent < 0 then '-' else '+'
  mantissa ++ 'e' :: sign :: Nat.toDigits 10 exponent.natAbs

/-- A positive decimal `digits · 10^p`. -/
def renderDecimal (digits : Nat) (p : Int) : List Char :=
  let ds := Nat.toDigits 10 digits
  let exponent := p + ds.length - 1
  if -5 ≤ exponent && exponent ≤ 15 then positional ds p else scientific ds exponent

def render (d : Double) : List Char :=
  let sign := if d.isNegative then ['-'] else []
  if d.significand = 0 then sign ++ ['0', '.', '0']
  else
    let (digits, p) := shortest d.significand d.binaryExponent d.denserBelow
    sign ++ renderDecimal digits p

/-! ## Reading -/

/-- The double nearest to a power of ten. -/
def powerOfTen (n : Nat) : Float := Float.ofScientific 1 false n

/-- Scales by powers of ten that are themselves doubles. None when the result is too large. -/
def scale (f : Float) (exponent : Int) : Option Float :=
  if exponent.natAbs ≤ 308 then
    if 0 ≤ exponent then
      let scaled := f * powerOfTen exponent.natAbs
      if scaled.isInf then none else some scaled
    else some (f / powerOfTen exponent.natAbs)
  else if f == 0 then some f
  else if 0 ≤ exponent then none
  else scale (f / powerOfTen 308) (exponent + 308)
termination_by exponent.natAbs
decreasing_by omega

/-- The double with a sign of its own. -/
def ofFloat (negative : Bool) (f : Float) : Double :=
  ⟨(if negative then -f else f).toBits⟩

def zero (negative : Bool) : Double := ofFloat negative 0

/-- The double read for `significand · 10^exponent`, a significand of at most 64 bits. None when it is too
large. -/
def ofDecimal (negative : Bool) (significand : Nat) (exponent : Int) : Option Double :=
  (scale (UInt64.ofNat significand).toFloat exponent).map (ofFloat negative)

end Double

end ApiCatalog.Decimal
