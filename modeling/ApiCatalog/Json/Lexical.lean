import ApiCatalog.Json.Failure

/-!
# The lexical parts of JSON

White space, the three words, texts with their escapes, and numbers. Each reader takes the characters that are
left and returns what it read with the characters left after it.

Every part comes in two strengths. The full reader returns the value and checks what a value needs: paired
surrogates in a text, the range of a number. The skipping one (`skipText`, `skipNumber`) checks the grammar
only.
-/

namespace ApiCatalog.Json

/-- What a reader returns: a value and the rest of the text, or a failure. -/
abbrev Outcome (α : Type) := Except Failure (α × List Char)

/-- The four characters that may stand between tokens. -/
def isJsonSpace (c : Char) : Bool := c = ' ' || c = '\t' || c = '\n' || c = '\r'

/-- The text after the white space in front of it. -/
def skipSpace (input : List Char) : List Char := input.dropWhile isJsonSpace

/-- Reads the letters of a word that has been recognised by its first one. -/
def readWord : List Char → List Char → Except Failure (List Char)
  | [], input => .ok input
  | _ :: _, [] => .error (.here .endInValue [])
  | expected :: more, c :: rest =>
    if c = expected then readWord more rest else .error (.next .expectedWord (c :: rest))

/-! ## Texts -/

def hexValue (c : Char) : Option Nat :=
  if c.isDigit then some (c.toNat - '0'.toNat)
  else if 'a' ≤ c && c ≤ 'f' then some (c.toNat - 'a'.toNat + 10)
  else if 'A' ≤ c && c ≤ 'F' then some (c.toNat - 'A'.toNat + 10)
  else none

/-- The number written by four digits. -/
def hexNumber (a b c d : Char) : Option Nat := do
  return (((← hexValue a) * 16 + (← hexValue b)) * 16 + (← hexValue c)) * 16 + (← hexValue d)

/-- The failure of the four bytes behind `\u`: too few of them, or not all of them digits. -/
def hexFailure (input : List Char) : Failure :=
  if byteLength input < 4 then .here .endInText [] else .beyond .invalidEscape input 4

/-- Reads the four digits behind `\u`. -/
def readHex (input : List Char) : Outcome Nat :=
  match input with
  | a :: b :: c :: d :: rest =>
    match hexNumber a b c d with
    | some n => .ok (n, rest)
    | none => .error (hexFailure input)
  | _ => .error (hexFailure input)

/-- The first half of a pair. -/
def isLeadingSurrogate (n : Nat) : Bool := 0xD800 ≤ n && n ≤ 0xDBFF

/-- The second half of a pair. -/
def isTrailingSurrogate (n : Nat) : Bool := 0xDC00 ≤ n && n ≤ 0xDFFF

/-- The code point of a pair. -/
def joinSurrogates (leading trailing : Nat) : Nat :=
  (leading - 0xD800) * 0x400 + (trailing - 0xDC00) + 0x10000

/-- Reads the second half of a pair, from the backslash on. -/
def readTrailing (leading : Nat) (input : List Char) : Outcome Char :=
  match input with
  | [] => .error (.here .endInText [])
  | '\\' :: [] => .error (.here .endInText [])
  | '\\' :: 'u' :: rest =>
    match readHex rest with
    | .error failure => .error failure
    | .ok (trailing, rest) =>
      if isTrailingSurrogate trailing then .ok (Char.ofNat (joinSurrogates leading trailing), rest)
      else .error (.here .loneSurrogate rest)
  | '\\' :: rest => .error (.next .endOfHexEscape rest)
  | rest => .error (.next .endOfHexEscape rest)

/-- Reads what stands behind `\u`: one code unit, or two that make a pair. -/
def readUnicodeEscape (input : List Char) : Outcome Char :=
  match readHex input with
  | .error failure => .error failure
  | .ok (n, rest) =>
    if isTrailingSurrogate n then .error (.here .loneSurrogate rest)
    else if isLeadingSurrogate n then readTrailing n rest
    else .ok (Char.ofNat n, rest)

/-- The character meant by one letter behind a backslash. -/
def shortEscape (c : Char) : Option Char :=
  if c = '"' then some '"'
  else if c = '\\' then some '\\'
  else if c = '/' then some '/'
  else if c = 'b' then some '\x08'
  else if c = 'f' then some '\x0C'
  else if c = 'n' then some '\n'
  else if c = 'r' then some '\r'
  else if c = 't' then some '\t'
  else none

/-- Reads an escape, from behind the backslash. -/
def readEscape (input : List Char) : Outcome Char :=
  match input with
  | [] => .error (.here .endInText [])
  | c :: rest =>
    if c = 'u' then readUnicodeEscape rest
    else
      match shortEscape c with
      | some meant => .ok (meant, rest)
      | none => .error (.next .invalidEscape input)

/-- Reads a text, from behind its opening quote. At most `budget` characters are read; a text is shorter than
what is left. -/
def readChars : (budget : Nat) → List Char → Outcome (List Char)
  | 0, _ => .error (.here .endInText [])
  | _ + 1, [] => .error (.here .endInText [])
  | budget + 1, c :: rest =>
    if c = '"' then .ok ([], rest)
    else if c = '\\' then
      match readEscape rest with
      | .error failure => .error failure
      | .ok (meant, rest) => (readChars budget rest).map fun (more, rest) => (meant :: more, rest)
    else if c.toNat < 0x20 then .error (.here .controlCharacter rest)
    else (readChars budget rest).map fun (more, rest) => (c :: more, rest)

/-- Reads a text, from behind its opening quote. -/
def readText (input : List Char) : Outcome String :=
  (readChars (input.length + 1) input).map fun (chars, rest) => (String.ofList chars, rest)

def skipEscape (input : List Char) : Except Failure (List Char) :=
  match input with
  | [] => .error (.here .endInText [])
  | c :: rest =>
    if c = 'u' then (readHex rest).map Prod.snd
    else if (shortEscape c).isSome then .ok rest
    else .error (.next .invalidEscape input)

/-- Skips a text, from behind its opening quote. -/
def skipChars : (budget : Nat) → List Char → Except Failure (List Char)
  | 0, _ => .error (.here .endInText [])
  | _ + 1, [] => .error (.here .endInText [])
  | budget + 1, c :: rest =>
    if c = '"' then .ok rest
    else if c = '\\' then
      match skipEscape rest with
      | .error failure => .error failure
      | .ok rest => skipChars budget rest
    else if c.toNat < 0x20 then .error (.here .controlCharacter (c :: rest))
    else skipChars budget rest

/-- Skips a text, from behind its opening quote. -/
def skipText (input : List Char) : Except Failure (List Char) := skipChars (input.length + 1) input

/-! ## Numbers -/

def digitValue (c : Char) : Nat := c.toNat - '0'.toNat

/-- Appends digits to a number as long as it stays below a bound; the digits from the first that does not fit
on are returned. -/
def gather (bound : Nat) : Nat → List Char → Nat × List Char
  | n, [] => (n, [])
  | n, d :: rest =>
    if n * 10 + digitValue d < bound then gather bound (n * 10 + digitValue d) rest else (n, d :: rest)

/-- The significands that are kept exactly. -/
def significandBound : Nat := 0x10000000000000000

/-- The exponents that are kept exactly. -/
def exponentBound : Nat := 0x80000000

/-- The number for a significand and a power of ten. -/
def decimalNumber (negative : Bool) (significand : Nat) (exponent : Int) (rest : List Char) : Outcome Number :=
  match Decimal.Double.ofDecimal negative significand exponent with
  | some value => .ok (.double value, rest)
  | none => .error (.here .numberOutOfRange rest)

/-- The number for a significand without point or exponent. -/
def wholeNumber (negative : Bool) (significand : Nat) : Number :=
  if !negative then .whole significand
  else if significand = 0 || 0x8000000000000000 < significand then
    .double (.ofFloat true (UInt64.ofNat significand).toFloat)
  else .whole (-significand)

/-- Reads the digits of an exponent, from behind the `e` and its sign. An exponent beyond all bounds makes a
zero of the number or puts it out of range. -/
def readExponentDigits (negative : Bool) (significand : Nat) (exponent : Int) (positive : Bool)
    (input : List Char) : Outcome Number :=
  match input with
  | [] => .error (.here .endInValue [])
  | c :: _ =>
    if c.isDigit then
      let rest := input.dropWhile Char.isDigit
      match gather exponentBound 0 (input.takeWhile Char.isDigit) with
      | (written, []) =>
        decimalNumber negative significand (if positive then exponent + written else exponent - written) rest
      | (_, _ :: dropped) =>
        if significand ≠ 0 && positive then .error (.here .numberOutOfRange (dropped ++ rest))
        else .ok (.double (.zero negative), rest)
    else .error (.next .invalidNumber input)

/-- Reads an exponent, from behind the `e`. -/
def readExponent (negative : Bool) (significand : Nat) (exponent : Int) (input : List Char) :
    Outcome Number :=
  match input with
  | '+' :: rest => readExponentDigits negative significand exponent true rest
  | '-' :: rest => readExponentDigits negative significand exponent false rest
  | _ => readExponentDigits negative significand exponent true input

def startsExponent : List Char → Bool
  | c :: _ => c = 'e' || c = 'E'
  | [] => false

/-- Reads digits behind the point and what follows them. -/
def readFraction (negative : Bool) (significand : Nat) (exponent : Int) (input : List Char) : Outcome Number :=
  let digits := input.takeWhile Char.isDigit
  let rest := input.dropWhile Char.isDigit
  if digits.isEmpty then .error (.next (if rest.isEmpty then .endInValue else .invalidNumber) rest)
  else
    let (significand, dropped) := gather significandBound significand digits
    let exponent := exponent - (digits.length - dropped.length : Nat)
    if startsExponent rest then readExponent negative significand exponent (rest.drop 1)
    else decimalNumber negative significand exponent rest

/-- Reads what may follow the digits in front of the point, of which `dropped` did not fit the significand. -/
def readAfterWhole (negative : Bool) (significand dropped : Nat) (rest : List Char) : Outcome Number :=
  match rest with
  | '.' :: fraction => readFraction negative significand dropped fraction
  | _ =>
    if startsExponent rest then readExponent negative significand dropped (rest.drop 1)
    else if dropped = 0 then .ok (wholeNumber negative significand, rest)
    else decimalNumber negative significand dropped rest

def startsDigit : List Char → Bool
  | c :: _ => c.isDigit
  | [] => false

/-- Reads a number, from behind its sign. -/
def readNumber (negative : Bool) (input : List Char) : Outcome Number :=
  match input with
  | [] => .error (.here .endInValue [])
  | c :: rest =>
    if c = '0' then
      if startsDigit rest then .error (.next .invalidNumber rest) else readAfterWhole negative 0 0 rest
    else if c.isDigit then
      let (significand, dropped) := gather significandBound 0 (input.takeWhile Char.isDigit)
      readAfterWhole negative significand dropped.length (input.dropWhile Char.isDigit)
    else .error (.next .invalidNumber input)

def skipExponent (input : List Char) : Except Failure (List Char) :=
  let unsigned :=
    match input with
    | '+' :: rest => rest
    | '-' :: rest => rest
    | _ => input
  if startsDigit unsigned then .ok (unsigned.dropWhile Char.isDigit)
  else .error (.next .invalidNumber unsigned)

def skipAfterWhole (rest : List Char) : Except Failure (List Char) :=
  match rest with
  | '.' :: fraction =>
    if startsDigit fraction then
      let rest := fraction.dropWhile Char.isDigit
      if startsExponent rest then skipExponent (rest.drop 1) else .ok rest
    else .error (.next .invalidNumber fraction)
  | _ => if startsExponent rest then skipExponent (rest.drop 1) else .ok rest

def skipNumber (input : List Char) : Except Failure (List Char) :=
  match input with
  | [] => .error (.here .invalidNumber [])
  | c :: rest =>
    if c = '0' then
      if startsDigit rest then .error (.next .invalidNumber rest) else skipAfterWhole rest
    else if c.isDigit then skipAfterWhole (input.dropWhile Char.isDigit)
    else .error (.next .invalidNumber input)

end ApiCatalog.Json
