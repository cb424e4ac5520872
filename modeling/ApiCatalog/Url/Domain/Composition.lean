import ApiCatalog.Url.Domain.CompositionTable

/-!
# Composed form

A text may write an accented letter as one character or as a letter and a mark. The composed form settles on one
of these ways: everything is taken apart, marks are put in order, and what can be composed is.
-/

namespace ApiCatalog.Url.Domain

/-- The class by which combining marks are ordered; other characters have the class 0. -/
def combiningClass (c : Char) : Nat :=
  match combiningClassEntries.find? fun (first, last, _) => first ≤ c.toNat && c.toNat ≤ last with
  | some (_, _, n) => n
  | none => 0

/-! ## Hangul syllables -/

/-- The first syllable, and the characters before the first leading, vowel and trailing part. -/
def hangulBase : Nat := 0xAC00

def hangulParts (code : Nat) : Option (List Nat) :=
  if hangulBase ≤ code && code < hangulBase + 11172 then
    let index := code - hangulBase
    let lead := 0x1100 + index / 588
    let vowel := 0x1161 + index % 588 / 28
    let trail := index % 28
    some (if trail = 0 then [lead, vowel] else [lead, vowel, 0x11A7 + trail])
  else none

def hangulComposite (first second : Nat) : Option Nat :=
  if 0x1100 ≤ first && first < 0x1100 + 19 && 0x1161 ≤ second && second < 0x1161 + 21 then
    some (hangulBase + ((first - 0x1100) * 21 + (second - 0x1161)) * 28)
  else if hangulBase ≤ first && first < hangulBase + 11172 && (first - hangulBase) % 28 = 0 &&
      0x11A8 ≤ second && second < 0x11A8 + 27 then
    some (first + (second - 0x11A7))
  else none

/-! ## Taking apart -/

/-- The two code points that make a code point. -/
def pairOf (code : Nat) : Option (Nat × Nat) :=
  (compositeEntries.find? fun (_, _, composite) => composite = code).map fun (first, second, _) => (first, second)

/-- The code points that a code point consists of. No character has more than `depth` levels. -/
def decompose : (depth : Nat) → Nat → List Nat
  | 0, code => [code]
  | depth + 1, code =>
    match pairOf code with
    | some (first, second) => decompose depth first ++ [second]
    | none => (hangulParts code).getD [code]

/-- Puts a mark behind those of its class and in front of those of a higher one. -/
def insertMark (c : Char) : List Char → List Char
  | [] => [c]
  | d :: rest => if combiningClass d ≤ combiningClass c then d :: insertMark c rest else c :: d :: rest

/-- Orders every run of marks by class; `run` is the run that has been read. -/
def orderMarks (run : List Char) : List Char → List Char
  | [] => run
  | c :: rest => if combiningClass c = 0 then run ++ c :: orderMarks [] rest else orderMarks (insertMark c run) rest

/-! ## Putting together -/

def composite (first second : Char) : Option Char :=
  match compositeEntries.find? fun (a, b, _) => a = first.toNat && b = second.toNat with
  | some (_, _, code) => some (Char.ofNat code)
  | none => (hangulComposite first.toNat second.toNat).map Char.ofNat

/-- Composes a starting character with the marks behind it. A mark is out of reach when one of the marks left
between has its class or a higher one. -/
def composeFrom (start : Char) (between : List Char) : List Char → List Char
  | [] => start :: between
  | c :: rest =>
    let reachable := match between.getLast? with
      | none => true
      | some last => combiningClass last < combiningClass c
    match if reachable then composite start c else none with
    | some joined => composeFrom joined between rest
    | none =>
      if combiningClass c = 0 then start :: (between ++ composeFrom c [] rest)
      else composeFrom start (between ++ [c]) rest

def compose : List Char → List Char
  | [] => []
  | c :: rest => if combiningClass c = 0 then composeFrom c [] rest else c :: compose rest

def composed (text : List Char) : List Char :=
  compose (orderMarks [] (text.flatMap fun c => (decompose 4 c.toNat).map Char.ofNat))

end ApiCatalog.Url.Domain
