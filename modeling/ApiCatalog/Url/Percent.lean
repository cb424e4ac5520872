/-!
# Percent encoding

Characters that may not stand in a part of a URL are written byte by byte, `%C3%A9`. Which ones these are depends
on the part; controls and characters beyond ASCII are always among them.
-/

namespace ApiCatalog.Url

/-- A digit in base 16, upper case. -/
def upperHexDigit (n : Nat) : Char :=
  if n < 10 then Char.ofNat ('0'.toNat + n) else Char.ofNat ('A'.toNat + (n - 10))

def encodeByte (byte : UInt8) : List Char :=
  ['%', upperHexDigit (byte.toNat / 16), upperHexDigit (byte.toNat % 16)]

def isControlOrBeyond (c : Char) : Bool := c.toNat < 0x20 || 0x7F ≤ c.toNat

/-- What is encoded in a path without structure and in a name of a host. -/
def inControlSet (c : Char) : Bool := isControlOrBeyond c

/-- What is encoded in a fragment. -/
def inFragmentSet (c : Char) : Bool := isControlOrBeyond c || [' ', '"', '<', '>', '\x60'].contains c

/-- What is encoded in a path. -/
def inPathSet (c : Char) : Bool := inFragmentSet c || ['#', '?', '\x7b', '\x7d'].contains c

/-- What is encoded in a user name or password. -/
def inUserSet (c : Char) : Bool :=
  inPathSet c || ['/', ':', ';', '=', '@', '[', '\\', ']', '^', '|'].contains c

/-- What is encoded in a query. -/
def inQuerySet (c : Char) : Bool := isControlOrBeyond c || [' ', '"', '#', '<', '>'].contains c

/-- What is encoded in a query of a special scheme. -/
def inSpecialQuerySet (c : Char) : Bool := inQuerySet c || c = '\''

def percentEncode (set : Char → Bool) (text : List Char) : List Char :=
  text.flatMap fun c => if set c then (String.utf8EncodeChar c).flatMap encodeByte else [c]

def hexDigitValue (c : Char) : Option Nat :=
  if '0' ≤ c && c ≤ '9' then some (c.toNat - '0'.toNat)
  else if 'a' ≤ c && c ≤ 'f' then some (c.toNat - 'a'.toNat + 10)
  else if 'A' ≤ c && c ≤ 'F' then some (c.toNat - 'A'.toNat + 10)
  else none

/-- The bytes of a text in which encoded bytes are decoded. A percent sign without two digits stands for
itself. -/
def percentDecode : List Char → List UInt8
  | '%' :: a :: b :: rest =>
    match hexDigitValue a, hexDigitValue b with
    | some high, some low => UInt8.ofNat (high * 16 + low) :: percentDecode rest
    | _, _ => '%'.toUInt8 :: percentDecode (a :: b :: rest)
  | c :: rest => String.utf8EncodeChar c ++ percentDecode rest
  | [] => []

end ApiCatalog.Url
