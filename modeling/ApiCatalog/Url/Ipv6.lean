import ApiCatalog.Url.Ipv4

/-!
# Addresses of eight pieces

An address is eight numbers of up to four digits in base 16 with colons between them. Once, `::` may stand for a
run of zeros, and the last two numbers may be written as an address of four bytes.
-/

namespace ApiCatalog.Url

/-- A piece of one to four digits. -/
def ipv6Piece (part : List Char) : Option Nat :=
  if part.isEmpty || 4 < part.length then none else numberOf 16 part

/-- A byte in base 10, without leading zeros. -/
def decimalByte (part : List Char) : Option Nat :=
  match part with
  | [] => none
  | ['0'] => some 0
  | '0' :: _ => none
  | digits => (numberOf 10 digits).filter (· ≤ 255)

/-- Two pieces from four bytes with points between them. -/
def ipv6Bytes (part : List Char) : Option (List Nat) := do
  match ← (Text.splitAt '.' part).mapM decimalByte with
  | [a, b, c, d] => some [a * 256 + b, c * 256 + d]
  | _ => none

/-- The pieces between colons; the last part may be four bytes if `bytes` allows it. -/
def ipv6Pieces (bytes : Bool) : List (List Char) → Option (List Nat)
  | [] => some []
  | [last] => if bytes && last.contains '.' then ipv6Bytes last else (ipv6Piece last).map ([·])
  | part :: rest => do
    let piece ← ipv6Piece part
    let pieces ← ipv6Pieces bytes rest
    return piece :: pieces

/-- Where `::` stands first, with what is in front of it and behind it. -/
def splitDoubleColon : List Char → Option (List Char × List Char)
  | ':' :: ':' :: rest => some ([], rest)
  | c :: rest => (splitDoubleColon rest).map fun (front, back) => (c :: front, back)
  | [] => none

/-- The pieces of a side of `::`, which may be empty. -/
def ipv6Side (bytes : Bool) (side : List Char) : Option (List Nat) :=
  if side.isEmpty then some [] else ipv6Pieces bytes (Text.splitAt ':' side)

/-- The address that a text is. A `::` stands for at least one piece. -/
def parseIpv6 (text : List Char) : Option (List Nat) :=
  match splitDoubleColon text with
  | some (front, back) => do
    let front ← ipv6Side false front
    let back ← ipv6Side true back
    if front.length + back.length < 8 then
      some (front ++ List.replicate (8 - front.length - back.length) 0 ++ back)
    else none
  | none => do
    let pieces ← ipv6Pieces true (Text.splitAt ':' text)
    if pieces.length = 8 then some pieces else none

end ApiCatalog.Url
