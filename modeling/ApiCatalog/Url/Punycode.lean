/-!
# Punycode

Names beyond ASCII as ASCII text: the ASCII characters first, then, in the order of their code points, where the
others belong. Positions are written as differences, in digits of base 36 whose weights adapt to the differences
written before.
-/

namespace ApiCatalog.Url.Punycode

/-- The digit with a value below 36: letters, then figures. -/
def digitChar (value : Nat) : Char :=
  if value < 26 then Char.ofNat ('a'.toNat + value) else Char.ofNat ('0'.toNat + (value - 26))

def digitValue (c : Char) : Option Nat :=
  if 'a' ≤ c && c ≤ 'z' then some (c.toNat - 'a'.toNat)
  else if 'A' ≤ c && c ≤ 'Z' then some (c.toNat - 'A'.toNat)
  else if '0' ≤ c && c ≤ '9' then some (c.toNat - '0'.toNat + 26)
  else none

/-- The value from which on a digit at position `k` is not the last one. -/
def threshold (k bias : Nat) : Nat :=
  if k ≤ bias then 1 else if bias + 26 ≤ k then 26 else k - bias

theorem threshold_pos (k bias : Nat) : 1 ≤ threshold k bias := by
  unfold threshold; split <;> (try split) <;> omega

/-- Divides by 35 down to 455, counting in steps of 36. -/
def reduceDelta (delta k : Nat) : Nat × Nat :=
  if 455 < delta then reduceDelta (delta / 35) (k + 36) else (delta, k)
termination_by delta
decreasing_by omega

/-- The bias after a difference has been written. -/
def adapt (delta points : Nat) (first : Bool) : Nat :=
  let halved := if first then delta / 700 else delta / 2
  let (reduced, k) := reduceDelta (halved + halved / points) 0
  k + 36 * reduced / (reduced + 38)

/-! ## Encoding -/

/-- The digits of a difference, from position `k` on. -/
def encodeDelta (bias k delta : Nat) : List Char :=
  let t := threshold k bias
  if delta < t then [digitChar delta]
  else digitChar (t + (delta - t) % (36 - t)) :: encodeDelta bias (k + 36) ((delta - t) / (36 - t))
termination_by delta
decreasing_by
  have := threshold_pos k bias
  exact Nat.lt_of_le_of_lt (Nat.div_le_self _ _) (by omega)

/-- The state between two characters beyond ASCII: what has been written, the difference so far, the bias and
the number of characters handled. -/
structure Encoder where
  output : List Char
  delta : Nat
  bias : Nat
  handled : Nat

/-- Passes a character of the name while `point` is being placed. -/
def Encoder.pass (basic point : Nat) (e : Encoder) (c : Char) : Encoder :=
  if c.toNat < point then { e with delta := e.delta + 1 }
  else if c.toNat = point then
    { output := e.output ++ encodeDelta e.bias 36 e.delta
      delta := 0
      bias := adapt e.delta (e.handled + 1) (e.handled = basic)
      handled := e.handled + 1 }
  else e

/-- Places the given code points, which are ascending and not below `next`. -/
def placeAll (name : List Char) (basic : Nat) : (points : List Nat) → (next : Nat) → Encoder → Encoder
  | [], _, e => e
  | point :: rest, next, e =>
    let e := { e with delta := e.delta + (point - next) * (e.handled + 1) }
    let e := name.foldl (Encoder.pass basic point) e
    placeAll name basic rest (point + 1) { e with delta := e.delta + 1 }

/-- A name as Punycode, without the mark in front of it. -/
def encode (name : List Char) : List Char :=
  let ascii := name.filter (·.toNat < 0x80)
  let points := ((name.filter (0x80 ≤ ·.toNat)).map Char.toNat).mergeSort.eraseReps
  let start := if ascii.isEmpty then [] else ascii ++ ['-']
  (placeAll name ascii.length points 0x80 ⟨start, 0, 72, ascii.length⟩).output

/-! ## Decoding -/

def decodeDelta (bias : Nat) : (k weight delta : Nat) → List Char → Option (Nat × List Char)
  | _, _, _, [] => none
  | k, weight, delta, c :: rest =>
    match digitValue c with
    | none => none
    | some digit =>
      let delta := delta + digit * weight
      let t := threshold k bias
      if digit < t then some (delta, rest)
      else decodeDelta bias (k + 36) (weight * (36 - t)) delta rest

/-- Puts the characters that the digits describe among those of `output`, at most `budget` of them. -/
def insertAll : (budget : Nat) → (point index bias : Nat) → (output : List Char) → List Char →
    Option (List Char)
  | _, _, _, _, output, [] => some output
  | 0, _, _, _, _, _ => none
  | budget + 1, point, index, bias, output, digits =>
    match decodeDelta bias 36 1 0 digits with
    | none => none
    | some (delta, rest) =>
      let length := output.length + 1
      let place := index + delta
      let point := point + place / length
      if h : point.isValidChar then
        insertAll budget point (place % length + 1) (adapt delta length (index = 0))
          (output.take (place % length) ++ Char.ofNatAux point h :: output.drop (place % length)) rest
      else none

def decode (text : List Char) : Option (List Char) :=
  let back := text.reverse.takeWhile (· ≠ '-')
  let front := (text.reverse.drop (back.length + 1)).reverse
  let digits := if front.isEmpty then text else back.reverse
  if front.all (·.toNat < 0x80) then insertAll text.length 0x80 0 72 front digits else none

end ApiCatalog.Url.Punycode
