import ApiCatalog.Text.LetterCase

/-!
# Words of a text

A text falls into *pieces* at the characters that are neither letters nor digits, and a piece into *words* at
its changes of case: `listArtifacts` is `list` and `Artifacts`, `HTTPServer` is `HTTP` and `Server`.

The scan of a piece remembers the case it last saw. After a cut this memory is empty, so that a capital in
front of which a word was cut does not count as seen: `getURLsForIDs` is `get`, `UR`, `Ls`, `For`, `I`, `Ds`.
-/

namespace ApiCatalog.Naming
open Text

/-- What the scan of a piece last saw: the start of a word, a lower-case or an upper-case letter. Digits and
caseless letters leave it as it is. -/
inductive CaseMode where
  | boundary
  | lower
  | upper
  deriving DecidableEq, Repr

/-- The mode after a character that ends no word. -/
def CaseMode.after (mode : CaseMode) (c : Char) : CaseMode :=
  if isLowercase c then .lower else if isUppercase c then .upper else mode

/-- Cuts a piece into words; `word` is what has been read of the current one. A word ends after a lower-case
run that meets a capital, and before the last capital of a run that meets a lower-case letter. -/
def cut (mode : CaseMode) (word : List Char) : List Char → List (List Char)
  | [] => [word]
  | [c] => [word ++ [c]]
  | c :: next :: rest =>
    if mode.after c = .lower && isUppercase next then
      (word ++ [c]) :: cut .boundary [] (next :: rest)
    else if mode = .upper && isUppercase c && isLowercase next then
      word :: cut .boundary [c] (next :: rest)
    else
      cut (mode.after c) (word ++ [c]) (next :: rest)

/-- The runs of letters and digits of a text; between two separators in a row the run is empty. -/
def pieces : List Char → List (List Char)
  | [] => [[]]
  | c :: rest =>
    if isAlphanumeric c then
      match pieces rest with
      | piece :: more => (c :: piece) :: more
      | [] => [[c]]
    else [] :: pieces rest

/-- The words of a text, in order. Empty pieces contribute an empty word, which no identifier shows. -/
def words (text : List Char) : List (List Char) :=
  (pieces text).flatMap (cut .boundary [])

end ApiCatalog.Naming
