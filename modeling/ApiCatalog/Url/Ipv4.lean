import ApiCatalog.Text.Basic
import ApiCatalog.Url.Percent

/-!
# Addresses of 32 bits

An address is one to four numbers with points between them, in base 8, 10 or 16. The last number fills all the
bytes that the others leave.
-/

namespace ApiCatalog.Url

def numberOf (base : Nat) (digits : List Char) : Option Nat :=
  digits.foldlM (fun n c => do
    let digit ← hexDigitValue c
    if digit < base then some (n * base + digit) else none) 0

/-- The number that a part of an address means. The base is 16 behind `0x`, and 8 behind another zero. -/
def ipv4Number (part : List Char) : Option Nat :=
  match part with
  | [] => none
  | '0' :: 'x' :: digits => numberOf 16 digits
  | '0' :: 'X' :: digits => numberOf 16 digits
  | '0' :: digit :: digits => numberOf 8 (digit :: digits)
  | digits => numberOf 10 digits

/-- The parts of a name, without the empty one behind a point at its end. -/
def domainParts (name : List Char) : List (List Char) :=
  let parts := Text.splitAt '.' name
  if parts.length > 1 && parts.getLast? = some [] then parts.dropLast else parts

/-- Whether the last part of a name is a number, so that the name must be an address. -/
def endsInNumber (name : List Char) : Bool :=
  match (domainParts name).getLast? with
  | some last => (!last.isEmpty && last.all Char.isDigit) || (ipv4Number last).isSome
  | none => false

def parseIpv4 (name : List Char) : Option Nat := do
  let numbers ← (domainParts name).mapM ipv4Number
  let last ← numbers.getLast?
  let front := numbers.dropLast
  if front.length > 3 || front.any (· > 255) || last ≥ Nat.pow 256 (4 - front.length) then none
  else some (front.zipIdx.foldl (fun sum (n, i) => sum + n * Nat.pow 256 (3 - i)) last)

end ApiCatalog.Url
