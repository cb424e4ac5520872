import ApiCatalog.Text.Basic
import Std.Data.HashMap

/-!
# Files

A tree of files and directories as a command finds and leaves it. A path is text; it leads from the working
directory, or from the top of the system when it starts with a slash, through its components one by one, and
every component but the last must be a directory.

Locations are lists of names. The working directory is the empty list, the top of the system is `[""]`, and the
directories above the working directory are `[".."]`, `["..", ".."]` and so on; these are always there.
-/

namespace ApiCatalog

inductive FileFault where
  | notFound
  | alreadyExists
  | notDirectory
  | isDirectory
  | nameTooLong
  /-- The path holds the character that ends paths. -/
  | nulInPath
  /-- The file holds something else than text. -/
  | notText
  /-- Any other reason, in words. -/
  | other (message : String)
  deriving DecidableEq, Repr, Inhabited

def FileFault.message : FileFault → String
  | .notFound => "No such file or directory (os error 2)"
  | .alreadyExists => "File exists (os error 17)"
  | .notDirectory => "Not a directory (os error 20)"
  | .isDirectory => "Is a directory (os error 21)"
  | .nameTooLong => "File name too long (os error 36)"
  | .nulInPath => "file name contained an unexpected NUL byte"
  | .notText => "stream did not contain valid UTF-8"
  | .other message => message

/-- Whether a path with this fault can be opened, so that the fault is only found in reading. -/
def FileFault.isFoundInReading : FileFault → Bool
  | .isDirectory | .notText => true
  | _ => false

/-- The names that lead to a file or directory. -/
abbrev FileLocation := List String

/-! ## Paths -/

/-- What stands behind the last component of a path. -/
inductive PathEnding where
  | plain
  | slash
  | point
  deriving DecidableEq, Repr

/-- A path in components; those that stay where they are have been left out. -/
structure FilePath where
  start : FileLocation
  components : List String
  ending : PathEnding
  deriving DecidableEq, Repr

namespace FilePath

/-- The longest path, in bytes. -/
def maxLength : Nat := 4095

/-- What stands between the slashes of a text. -/
def segments (text : String) : List String := (Text.splitAt '/' text.toList).map String.ofList

/-- Whether a segment stays where it is. -/
def isIdle (segment : String) : Bool := segment = "" || segment = "."

def ofText (text : String) : Except FileFault FilePath :=
  if text = "" then .error .notFound
  else if '\x00' ∈ text.toList then .error .nulInPath
  else if maxLength < text.utf8ByteSize then .error .nameTooLong
  else
    .ok
      { start := if text.toList.head? = some '/' then [""] else []
        components := (segments text).filter (!isIdle ·)
        ending :=
          if ((segments text).filter (· ≠ "")).getLast? = some "." then .point
          else if (segments text).getLast? = some "" then .slash
          else .plain }

/-- The text of a path without its last component. It is empty when nothing is left, be it the working directory
or the top of the system. -/
def parentText (text : String) : String :=
  "/".intercalate ((((segments text).reverse.dropWhile isIdle).drop 1).dropWhile isIdle).reverse

end FilePath

/-! ## Trees -/

inductive FileEntry where
  /-- A file, with what reading it gives: its text, or why there is none. -/
  | file (content : Except FileFault String)
  | directory
  deriving Repr

/-- Files and directories by location. -/
structure FileTree where
  entries : Std.HashMap FileLocation FileEntry := {}
  deriving Repr, Inhabited

namespace FileTree

/-- Whether a location is a directory that is always there. -/
def isStanding (location : FileLocation) : Bool := location == [""] || location.all (· == "..")

def find? (tree : FileTree) (location : FileLocation) : Option FileEntry :=
  if isStanding location then some .directory else tree.entries[location]?

def put (tree : FileTree) (location : FileLocation) (entry : FileEntry) : FileTree :=
  ⟨tree.entries.insert location entry⟩

/-- The longest name, in bytes. -/
def maxNameLength : Nat := 255

/-- The directory above a location. -/
def above (location : FileLocation) : FileLocation :=
  if location = [""] then location
  else if location.all (· == "..") then location ++ [".."]
  else location.dropLast

/-- One step from a location, which need not lead to anything. -/
def step (location : FileLocation) (name : String) : Except FileFault FileLocation :=
  if name = ".." then .ok (above location)
  else if maxNameLength < name.utf8ByteSize then .error .nameTooLong
  else .ok (location ++ [name])

/-- Steps from a location; each one starts at a directory. -/
def walk (tree : FileTree) (location : FileLocation) : List String → Except FileFault FileLocation
  | [] => .ok location
  | name :: rest =>
    match tree.find? location with
    | none => .error .notFound
    | some (.file _) => .error .notDirectory
    | some .directory =>
      match step location name with
      | .error fault => .error fault
      | .ok next => tree.walk next rest

def read (tree : FileTree) (text : String) : Except FileFault String := do
  let path ← FilePath.ofText text
  let location ← tree.walk path.start path.components
  match tree.find? location with
  | none => throw .notFound
  | some .directory => throw .isDirectory
  | some (.file content) => if path.ending = .plain then content else throw .notDirectory

/-! ## Writing -/

/-- A change of a tree. A change that fails may have done a part of its work. -/
abbrev Change := ExceptT FileFault (StateM FileTree)

/-- Creates the directories on the way from a location, as far as they are missing. -/
def createDirectories (location : FileLocation) : List String → Change Unit
  | [] => return ()
  | name :: rest => do
    let next ← step location name
    match (← get).find? next with
    | some .directory => createDirectories next rest
    | some (.file _) => throw (if rest.isEmpty then .alreadyExists else .notDirectory)
    | none =>
      modify (·.put next .directory)
      createDirectories next rest

/-- Creates the directory that a path leads to, unless nothing is left of the path. -/
def createDirectory (text : String) : Change Unit := do
  if text ≠ "" then
    let path ← FilePath.ofText text
    createDirectories path.start path.components

/-- Writes a text to the file that a path leads to, in place of what was there. -/
def writeFile (text body : String) : Change Unit := do
  let path ← FilePath.ofText text
  let tree ← get
  if path.ending = .slash then
    let _ ← tree.walk path.start path.components.dropLast
    throw .isDirectory
  else
    let location ← tree.walk path.start path.components
    match tree.find? location with
    | some .directory => throw .isDirectory
    | some (.file _) => if path.ending = .plain then set (tree.put location (.file (.ok body))) else throw .notDirectory
    | none => if path.ending = .plain then set (tree.put location (.file (.ok body))) else throw .notFound

/-- Writes a text to the file that a path leads to. Directories on the way are created. -/
def write (text body : String) : Change Unit := do
  createDirectory (FilePath.parentText text)
  writeFile text body

end FileTree

end ApiCatalog
