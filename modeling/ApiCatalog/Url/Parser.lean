import ApiCatalog.Url.Host
import ApiCatalog.Url.Segments

/-!
# Reading URLs

`Url.parse?` reads a URL that stands by itself, and `Url.join?` reads a text relative to a base. Characters that
may not stand in a part are encoded on the way, dots in the path are resolved, and a port that need not be written
is dropped, so that the result can be written as it is. `Url.absolute?` makes a reference in a document absolute.

What is left of the text is passed on as a list of characters. White space at the ends has been taken out of it,
and for all but files so have tabs and line breaks.
-/

namespace ApiCatalog.Url

/-- The text without controls and spaces at its ends. -/
def trimmed (text : List Char) : List Char :=
  ((text.dropWhile (·.toNat ≤ 0x20)).reverse.dropWhile (·.toNat ≤ 0x20)).reverse

/-- The characters of a scheme after the first one. -/
def isSchemeChar (c : Char) : Bool := c.isAlphanum || c = '+' || c = '-' || c = '.'

/-- The scheme in front of the first colon, in lower case. -/
def parseScheme (input : List Char) : Option String :=
  let scheme := input.takeWhile (· ≠ ':')
  if input.contains ':' && scheme.head?.any Char.isAlpha && scheme.all isSchemeChar then
    some (String.ofList (scheme.map Char.toLower))
  else none

/-! ## Query and fragment -/

def parseFragment (input : List Char) : String := String.ofList (percentEncode inFragmentSet input)

/-- A URL with the query and fragment that end the text. -/
def withQueryAndFragment (url : Url) (input : List Char) : Url :=
  let set := if (schemeClass url.scheme).isSpecial then inSpecialQuerySet else inQuerySet
  let fragment (rest : List Char) : Option String :=
    match rest with
    | '#' :: fragment => some (parseFragment fragment)
    | _ => none
  match input with
  | '?' :: rest =>
    { url with
      query := some (String.ofList (percentEncode set (rest.takeWhile (· ≠ '#'))))
      fragment := fragment (rest.dropWhile (· ≠ '#')) }
  | rest => { url with query := none, fragment := fragment rest }

/-! ## Paths -/

/-- A URL with the path, query and fragment that end the text; the path is read onto another one. -/
def withPath (url : Url) (start : OpenPath) (input : List Char) : Url :=
  let kind := schemeClass url.scheme
  let (path, rest) := parsePath kind start input
  withQueryAndFragment { url with path := .rooted (path.segments kind) } (unbroken rest)

/-- A URL with what stands behind its authority. Only special schemes always have a path. -/
def withPathStart (url : Url) (input : List Char) : Url :=
  let kind := schemeClass url.scheme
  match input with
  | [] => if kind.isSpecial then withPath url {} [] else url
  | c :: rest =>
    if kind.isSlash c then withPath url {} rest
    else if !kind.isSpecial && endsPath c then withQueryAndFragment url input
    else withPath url {} input

/-! ## Authorities -/

def endsAuthority (kind : SchemeClass) (c : Char) : Bool := kind.isSlash c || endsPath c

/-- User name and password, which a colon separates. An empty password counts as none. -/
def parseCredentials (text : List Char) : String × Option String :=
  let encoded (part : List Char) : String := String.ofList (percentEncode inUserSet part)
  match text.dropWhile (· ≠ ':') with
  | _ :: password@(_ :: _) => (encoded (text.takeWhile (· ≠ ':')), some (encoded password))
  | _ => (encoded (text.takeWhile (· ≠ ':')), none)

/-- Splits a host from the port behind it; a colon between brackets belongs to the host. -/
def splitHost (bracketed : Bool) : List Char → List Char × List Char
  | [] => ([], [])
  | c :: rest =>
    if c = ':' && !bracketed then ([], c :: rest)
    else
      let (host, port) := splitHost (if c = '[' then true else if c = ']' then false else bracketed) rest
      (c :: host, port)

/-- Reads a port, from its colon on. What follows a backslash is left. -/
def parsePort (scheme : String) (input : List Char) : Option (Option Nat × List Char) :=
  match input with
  | ':' :: text =>
    let digits := text.takeWhile Char.isDigit
    let rest := text.dropWhile Char.isDigit
    let port := digits.foldl (fun n c => n * 10 + (c.toNat - '0'.toNat)) 0
    if 0xFFFF < port || rest.head?.any (· ≠ '\\') then none
    else some (if digits.isEmpty || defaultPort scheme = some port then none else some port, rest)
  | rest => some (none, rest)

/-- Reads an authority, behind its two slashes. -/
def parseAuthority (scheme : String) (input : List Char) : Option (Authority × List Char) := do
  let kind := schemeClass scheme
  let text := input.takeWhile (!endsAuthority kind ·)
  let after := input.dropWhile (!endsAuthority kind ·)
  let hostAndPort := if text.contains '@' then (text.reverse.takeWhile (· ≠ '@')).reverse else text
  let user := text.take (text.length - hostAndPort.length - 1)
  let (username, password) := parseCredentials user
  let (hostText, portText) := splitHost false hostAndPort
  if text.contains '@' && user.isEmpty && hostAndPort.isEmpty && !after.isEmpty then none
  else if kind.isSpecial && hostText.isEmpty then none
  else
    let host ← if kind.isSpecial then parseSpecialHost hostText else parsePlainHost hostText
    if host = .name "" && (!portText.isEmpty || username ≠ "" || password.isSome) then none
    else
      let (port, rest) ← parsePort scheme portText
      some ({ username, password, host, port }, rest ++ after)

/-- Reads what follows the two slashes behind a scheme. -/
def afterDoubleSlash (scheme : String) (input : List Char) : Option Url := do
  let (authority, rest) ← parseAuthority scheme input
  some (withPathStart { scheme, authority := some authority } rest)

/-! ## Files -/

def fileBase? (base : Option Url) : Option Url := base.filter (·.scheme = "file")

def Path.segments : Path → List String
  | .rooted segments => segments
  | .plain _ => []

def fileRoot (host : Host) : Url := { scheme := "file", authority := some { host } }

/-- Reads a host of a file, behind the two slashes; none if the own machine is meant. A drive in its place belongs
to the path. -/
def parseFileHost (input : List Char) : Option (Option Host × List Char) :=
  let text := unbroken (input.takeWhile (!endsAuthority .file ·))
  let rest := input.dropWhile (!endsAuthority .file ·)
  if isDrive text then some (none, input)
  else if text.isEmpty then some (none, rest)
  else (parseSpecialHost text).map fun host => (if host = .name "localhost" then none else some host, rest)

/-- Reads a file behind the two slashes. A path that starts with a drive takes the host away. -/
def parseFileWithHost (input : List Char) : Option Url := do
  match ← parseFileHost input with
  | (none, rest) => some (withPath (fileRoot (.name "")) {} rest)
  | (some host, rest) =>
    let rest := if rest.head?.any SchemeClass.file.isSlash then rest.drop 1 else rest
    let host := if (parsePath .file {} rest).1.drive then .name "" else host
    some (withPath (fileRoot host) {} rest)

/-- Reads a file behind one slash. The drive of the base is kept, or else its host. -/
def parseFileFromRoot (base : Option Url) (input : List Char) : Url :=
  match if startsWithDrive (unbroken input) then none else base with
  | some base =>
    match base.path.segments.head?.filter (isNormalDrive ·.toList) with
    | some drive => withPath (fileRoot (.name "")) { above := [drive] } input
    | none => withPath (fileRoot ((base.authority.map (·.host)).getD (.name ""))) {} input
  | none => withPath (fileRoot (.name "")) {} input

/-- Reads a file, behind its scheme. -/
def parseFile (base : Option Url) (input : List Char) : Option Url :=
  match unbroken input with
  | a :: rest =>
    if SchemeClass.file.isSlash a then
      if rest.head?.any SchemeClass.file.isSlash then parseFileWithHost (dropUnbroken 2 input)
      else some (parseFileFromRoot base (dropUnbroken 1 input))
    else
      match base with
      | some base =>
        if a = '?' then some (withQueryAndFragment base (a :: rest))
        else if a = '#' then some { base with fragment := some (parseFragment rest) }
        else if startsWithDrive (a :: rest) then some (withPath (fileRoot (.name "")) {} input)
        else some (withPath base (.directoryOf .file base.path.segments) input)
      | none => some (withPath (fileRoot (.name "")) {} input)
  | [] =>
    match base with
    | some base => some { base with fragment := none }
    | none => some (withPath (fileRoot (.name "")) {} [])

/-! ## Whole URLs -/

/-- A slash of either kind; at the start of a relative text they are the same under any scheme. -/
def isAnySlash (c : Char) : Bool := c = '/' || c = '\\'

/-- Reads a text relative to a base that has a path of segments and is no file. -/
def parseRelative (base : Url) (input : List Char) : Option Url :=
  match input with
  | [] => some { base with fragment := none }
  | c :: rest =>
    if c = '?' then some (withQueryAndFragment base input)
    else if c = '#' then some { base with fragment := some (parseFragment rest) }
    else if isAnySlash c then
      match rest with
      | d :: more =>
        if isAnySlash d then
          afterDoubleSlash base.scheme
            (if c = '/' && d = '/' then more else input.dropWhile isAnySlash)
        else some (withPath base {} rest)
      | [] => some (withPath base {} rest)
    else some (withPath base (.directoryOf (schemeClass base.scheme) base.path.segments) input)

/-- Reads a URL without special rules, behind its scheme. -/
def parseOther (scheme : String) (input : List Char) : Option Url :=
  match input with
  | '/' :: '/' :: rest => afterDoubleSlash scheme rest
  | '/' :: rest => some (withPath { scheme } {} rest)
  | _ =>
    let text := String.ofList (percentEncode inControlSet (input.takeWhile (!endsPath ·)))
    some (withQueryAndFragment { scheme, path := .plain text } (input.dropWhile (!endsPath ·)))

/-- Reads a URL, behind its scheme. -/
def parseWithScheme (base : Option Url) (scheme : String) (input : List Char) : Option Url :=
  let text := unbroken input
  match schemeClass scheme with
  | .file => parseFile (fileBase? base) input
  | .web =>
    let slashes := text.takeWhile isAnySlash
    match base.filter (·.scheme = scheme) with
    | some base =>
      if slashes.length < 2 then parseRelative base text
      else afterDoubleSlash scheme (text.drop slashes.length)
    | none => afterDoubleSlash scheme (text.drop slashes.length)
  | .other => parseOther scheme text

/-- Whether something can be joined to a URL. -/
def isBase (url : Url) : Bool :=
  match url.path with
  | .plain _ => false
  | .rooted _ => true

/-- Reads a text, relative to a base if there is one. -/
def parseWithBase (base : Option Url) (text : String) : Option Url :=
  let input := trimmed text.toList
  match parseScheme (unbroken input), base with
  | some scheme, _ => parseWithScheme base scheme ((input.dropWhile (· ≠ ':')).drop 1)
  | none, none => none
  | none, some base =>
    match unbroken input with
    | '#' :: rest => some { base with fragment := some (parseFragment rest) }
    | text =>
      if !base.isBase then none
      else if base.scheme = "file" then parseFile (some base) input
      else parseRelative base text

/-- Reads a URL that stands by itself. -/
def parse? (text : String) : Option Url := parseWithBase none text

/-- Reads a text relative to a base. -/
def join? (base : Url) (text : String) : Option Url := parseWithBase (some base) text

/-- A reference in a document in absolute form, read against the location of the document; none when it has none.
One that is absolute already is kept letter by letter, so that it agrees with other uses of the same URL. -/
def absolute? (location reference : String) : Option String :=
  if (parse? reference).isSome then some reference
  else ((parse? location).bind (join? · reference)).map render

end ApiCatalog.Url
