/-!
# URLs

A URL in parts: scheme, authority, path, query and fragment, with every part already encoded. `Url.render` puts
the parts together.
-/

namespace ApiCatalog

inductive Url.Host where
  /-- A domain, or any other name; an empty one stands for a host that is written as nothing. -/
  | name (value : String)
  /-- An address of 32 bits. -/
  | ipv4 (address : Nat)
  /-- An address of eight pieces of 16 bits. -/
  | ipv6 (pieces : List Nat)
  deriving DecidableEq, Repr, Inhabited

/-- The user, host and port of a URL. -/
structure Url.Authority where
  username : String := ""
  password : Option String := none
  host : Url.Host := .name ""
  port : Option Nat := none
  deriving DecidableEq, Repr, Inhabited

inductive Url.Path where
  /-- A text without structure, as in `mailto:a@b`. Nothing can be joined to such a URL but a fragment. -/
  | plain (text : String)
  /-- Segments, each with a slash in front of it. -/
  | rooted (segments : List String)
  deriving DecidableEq, Repr, Inhabited

structure Url where
  scheme : String
  authority : Option Url.Authority := none
  path : Url.Path := .rooted []
  query : Option String := none
  fragment : Option String := none
  deriving DecidableEq, Repr, Inhabited

namespace Url

/-! ## Schemes -/

/-- The schemes with rules of their own. -/
inductive SchemeClass where
  /-- `http`, `https`, `ws`, `wss` and `ftp`: a host must be given, and `\` is another slash. -/
  | web
  /-- `file`: a host may be given, and `\` is another slash. -/
  | file
  /-- All others. -/
  | other
  deriving DecidableEq, Repr, Inhabited

def schemeClass (scheme : String) : SchemeClass :=
  if scheme = "file" then .file
  else if scheme = "http" || scheme = "https" || scheme = "ws" || scheme = "wss" || scheme = "ftp" then .web
  else .other

def SchemeClass.isSpecial (kind : SchemeClass) : Bool := kind ≠ .other

/-- Whether a character separates segments. -/
def SchemeClass.isSlash (kind : SchemeClass) (c : Char) : Bool := c = '/' || (c = '\\' && kind.isSpecial)

/-- The port that need not be written. -/
def defaultPort (scheme : String) : Option Nat :=
  if scheme = "http" || scheme = "ws" then some 80
  else if scheme = "https" || scheme = "wss" then some 443
  else if scheme = "ftp" then some 21
  else none

/-! ## Writing -/

/-- An address of 32 bits, as four numbers. -/
def renderIpv4 (address : Nat) : String :=
  String.intercalate "." ([24, 16, 8, 0].map fun shift => toString (address / Nat.pow 2 shift % 256))

/-- The length of the run of zeros at the start of a list. -/
def zeroRun (pieces : List Nat) : Nat := (pieces.takeWhile (· = 0)).length

/-- Start and length of the longest run of zeros, the first of equally long ones. -/
def longestZeroRun (pieces : List Nat) : Nat × Nat :=
  (List.range pieces.length).foldl (fun best start =>
    let length := zeroRun (pieces.drop start)
    if best.2 < length then (start, length) else best) (0, 0)

def renderPieces (pieces : List Nat) : String :=
  String.intercalate ":" (pieces.map fun piece => String.ofList (Nat.toDigits 16 piece))

/-- An address of eight pieces, where the longest run of at least two zeros is left out. -/
def renderIpv6 (pieces : List Nat) : String :=
  let (start, length) := longestZeroRun pieces
  if length < 2 then renderPieces pieces
  else renderPieces (pieces.take start) ++ "::" ++ renderPieces (pieces.drop (start + length))

def Host.render : Host → String
  | .name value => value
  | .ipv4 address => renderIpv4 address
  | .ipv6 pieces => "[" ++ renderIpv6 pieces ++ "]"

def Authority.render (authority : Authority) : String :=
  let password := match authority.password with
    | some password => ":" ++ password
    | none => ""
  let credentials := authority.username ++ password
  let port := match authority.port with
    | some port => ":" ++ toString port
    | none => ""
  "//" ++ (if credentials = "" then "" else credentials ++ "@") ++ authority.host.render ++ port

def Path.render : Path → String
  | .plain text => text
  | .rooted segments => String.join (segments.map ("/" ++ ·))

/-- A path behind a scheme without authority. An empty first segment is kept apart from the two slashes that
would start an authority. -/
def Path.renderRootless : Path → String
  | .rooted ("" :: next :: rest) => "/." ++ (Path.rooted ("" :: next :: rest)).render
  | path => path.render

def render (url : Url) : String :=
  let start := match url.authority with
    | some authority => authority.render ++ url.path.render
    | none => url.path.renderRootless
  let query := match url.query with
    | some query => "?" ++ query
    | none => ""
  let fragment := match url.fragment with
    | some fragment => "#" ++ fragment
    | none => ""
  url.scheme ++ ":" ++ start ++ query ++ fragment

end Url

end ApiCatalog
