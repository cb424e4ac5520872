import ApiCatalog.Url.Basic
import ApiCatalog.Url.Percent

/-!
# Reading paths

The path of a URL is read segment by segment onto the directories passed so far. `.` stays where it is and `..`
goes back by one directory, but never past a drive, a letter with `:` or `|` behind it, under any scheme. In a
file a drive counts for more: at the start of the path it is written with `:`, and it stays when a text is read
relative to it.

The text of a file still holds its tabs and line breaks here, because one behind a drive ends the segment.
-/

namespace ApiCatalog.Url

/-! ## Tabs and line breaks -/

/-- Whether a character is a tab or a line break; no part of a URL holds one. -/
def isBreak (c : Char) : Bool := c = '\t' || c = '\n' || c = '\r'

def unbroken (text : List Char) : List Char := text.filter (!isBreak ·)

/-- A text behind its first `n` characters, where tabs and line breaks do not count. -/
def dropUnbroken : (n : Nat) → List Char → List Char
  | 0, text => text
  | _, [] => []
  | n + 1, c :: rest => dropUnbroken (if isBreak c then n + 1 else n) rest

/-! ## Kinds of segments -/

def endsPath (c : Char) : Bool := c = '?' || c = '#'

/-- A segment with its encoded dots decoded. -/
def plainDots : List Char → List Char
  | '%' :: '2' :: 'e' :: rest => '.' :: plainDots rest
  | '%' :: '2' :: 'E' :: rest => '.' :: plainDots rest
  | c :: rest => c :: plainDots rest
  | [] => []

/-- Whether a segment means the directory itself. -/
def isSingleDot (segment : List Char) : Bool := plainDots segment = ['.']

/-- Whether a segment means the directory above. -/
def isDoubleDot (segment : List Char) : Bool := plainDots segment = ['.', '.']

/-- Whether a segment is a letter with `:` or `|` behind it. -/
def isDrive : List Char → Bool
  | [letter, mark] => letter.isAlpha && (mark = ':' || mark = '|')
  | _ => false

/-- Whether a segment is a letter with `:` behind it. -/
def isNormalDrive (segment : List Char) : Bool :=
  match segment with
  | [letter, ':'] => letter.isAlpha
  | _ => false

/-- Whether a text starts with a drive that is a whole segment. -/
def startsWithDrive : List Char → Bool
  | [letter, mark] => isDrive [letter, mark]
  | letter :: mark :: c :: _ => isDrive [letter, mark] && (c = '/' || c = '\\' || endsPath c)
  | _ => false

/-- Whether a tab or a line break cuts a segment behind a drive that it starts with. -/
def isCutBehindDrive (segment : List Char) : Bool :=
  isNormalDrive ((unbroken segment).take 2) && (dropUnbroken 2 segment).head?.any isBreak &&
    !((unbroken segment).drop 2).isEmpty

/-! ## Segment by segment -/

/-- A path while it is read. -/
structure OpenPath where
  /-- The directories passed so far, the nearest first. -/
  above : List String := []
  /-- What the last segment holds so far: nothing, or a drive that another path ended with. -/
  last : String := ""
  /-- Whether the first segment has been read as a drive. -/
  drive : Bool := false
  deriving DecidableEq, Repr

namespace OpenPath

/-- Goes into the last segment. -/
def enter (path : OpenPath) : OpenPath := { path with above := path.last :: path.above, last := "" }

/-- Goes into the last segment if it is not empty. -/
def enterLast (path : OpenPath) : OpenPath := if path.last = "" then path else path.enter

/-- Goes back by one directory, unless that is a drive. Where `\` is no slash, what stands behind one does not
matter. -/
def back (path : OpenPath) : OpenPath :=
  match path.above with
  | directory :: above =>
    if path.last = "" && !startsWithDrive directory.toList then { path with above } else path
  | [] => path

def isFresh (path : OpenPath) : Bool := path.above.isEmpty && path.last = ""

/-- Reads a segment that is neither `.` nor `..`. -/
def write (kind : SchemeClass) (path : OpenPath) (segment : List Char) : OpenPath :=
  if kind = .file && path.isFresh && isDrive segment then
    { path with last := String.ofList (segment.take 1 ++ [':']), drive := true }
  else { path with last := path.last ++ String.ofList (percentEncode inPathSet segment) }

/-- Reads a segment, which a slash follows or not. A segment that is cut behind a drive counts as two, and dots
in the second one mean nothing. -/
def step (kind : SchemeClass) (path : OpenPath) (segment : List Char) (slash : Bool) : OpenPath :=
  let text := unbroken segment
  let path := if kind = .file && path.above.isEmpty && !text.isEmpty then path.enterLast else path
  if kind = .file && path.isFresh && isCutBehindDrive segment then
    let path := ({ path with last := String.ofList (text.take 2) }).enter.write kind (text.drop 2)
    if slash then path.enter else path
  else if isDoubleDot text then if slash then path.back.enterLast else path.back
  else if isSingleDot text then path.enterLast
  else if slash then (path.write kind text).enter
  else path.write kind text

/-- Reads the segments of a text. -/
def steps (kind : SchemeClass) : OpenPath → List (List Char) → OpenPath
  | path, [] => path
  | path, [segment] => path.step kind segment false
  | path, segment :: rest => steps kind (path.step kind segment true) rest

/-- The segments of a path. That of a file has no empty ones at its start. -/
def segments (kind : SchemeClass) (path : OpenPath) : List String :=
  let all := (path.last :: path.above).reverse
  if kind = .file then
    match all.dropWhile (· = "") with
    | [] => [""]
    | rest => rest
  else all

/-- The directory that a path is in. A file that ends with a drive stands for a directory, but the segment is
open. -/
def directoryOf (kind : SchemeClass) (path : List String) : OpenPath :=
  let last := path.getLast?.getD ""
  { above := path.dropLast.reverse, last := if kind = .file && isNormalDrive last.toList then last else "" }

end OpenPath

/-! ## Texts -/

def splitSlashes (kind : SchemeClass) : List Char → List (List Char)
  | [] => [[]]
  | c :: rest =>
    if kind.isSlash c then [] :: splitSlashes kind rest
    else
      match splitSlashes kind rest with
      | part :: more => (c :: part) :: more
      | [] => [[c]]

/-- Reads a path onto another one, behind the slash in front of it; the text behind the path is left. -/
def parsePath (kind : SchemeClass) (start : OpenPath) (input : List Char) : OpenPath × List Char :=
  (start.steps kind (splitSlashes kind (input.takeWhile (!endsPath ·))), input.dropWhile (!endsPath ·))

end ApiCatalog.Url
