import TexLog.Text.Notation
import TexLog.Text.Utf8

/-!
# Files

Paths, and the files and directories to which they lead.
-/

/-! ## Paths

A path names a file by the directories on the way to it. Written, its parts stand between slashes;
empty parts and parts that are a single dot say nothing and are left out.
-/

namespace TexLog

/-- A path. -/
structure Path where
  /-- The slashes that it starts with: none, one, or two; three and more mean one. -/
  root : Text := []
  /-- The names on the way. -/
  parts : List Str
  deriving DecidableEq, Repr

namespace Path

/-- The symbol between the parts of a path. -/
def slash : Symbol := .char '/'

/-- Puts a symbol in front of parts: a slash begins a new part, anything else joins the first. -/
def consPart (symbol : Symbol) (parts : List Str) : List Str :=
  if symbol = slash then [] :: parts
  else match parts with
    | [] => [[symbol]]
    | part :: rest => (symbol :: part) :: rest

/-- The pieces of a string between its slashes, of which there is at least one. -/
def splitAtSlashes (str : Str) : List Str := str.foldr consPart [[]]

/-- Whether a part names something. -/
def isNaming (part : Str) : Bool := !part.isEmpty && part != [.char '.']

/-- The path that a string writes. -/
def ofStr (str : Str) : Path where
  root := match str.takeWhile (· = slash) with
    | [] => []
    | [_, _] => ['/', '/']
    | _ => ['/']
  parts := (splitAtSlashes str).filter isNaming

/-- The path that a text writes. -/
def ofText (text : Text) : Path := ofStr text

/-- How a path is written; a path without any parts is a single dot. -/
def toStr (path : Path) : Str :=
  if path.root = [] ∧ path.parts = [] then [.char '.']
  else Str.ofText path.root ++ [slash].intercalate path.parts

/-- The second path as seen from the first. -/
def join (path next : Path) : Path :=
  if next.root = [] then { path with parts := path.parts ++ next.parts } else next

/-- The path without its last part. -/
def parent (path : Path) : Path := { path with parts := path.parts.dropLast }

/-- Whether a system call can take a path: its bytes are defined, and none of them is the null
character. -/
def isUsable (path : Path) : Bool :=
  path.toStr.isEncodable && !path.toStr.contains (.char '\x00')

end Path

end TexLog

/-! ## Trees of files

The files and directories that a program sees, as a value, and what it may do with them. A place is
the list of names on the way to it from the working directory; it begins with the name of the parent
directory as often as it leads out of the working directory, and with a slash if it is counted from
the root. Operations that the system refuses give the reason.
-/

namespace TexLog

/-- What stands at a place. -/
inductive Entry
  /-- A file with its contents. -/
  | file (content : Bytes)
  /-- A directory. -/
  | directory
  deriving DecidableEq

/-- A name of a file or a directory, as the system knows it. -/
abbrev Name := Bytes

/-- A place in a tree. -/
abbrev Place := List Name

namespace Place

/-- The name by which every directory calls the one above it. -/
def above : Name := [0x2E, 0x2E]

/-- The place from which all others can be counted. -/
def root : Place := [[0x2F]]

/-- Whether a place is the working directory, a directory above it, or the root. -/
def isFixed (place : Place) : Bool := place.all (· = above) || place = root

/-- The place that a name leads to. -/
def enter (place : Place) (name : Name) : Place :=
  if name ≠ above then place ++ [name]
  else if place = root then place
  else if place.all (· = above) then place ++ [above]
  else place.dropLast

/-- The way to a place. -/
def text (place : Place) : Text :=
  let names := if root.isPrefixOf place then [] :: place.drop 1 else place
  Text.joinWith ['/'] (names.map Utf8.decode)

end Place

/-- What a program may be allowed to do. -/
inductive Right
  /-- To pass through a directory. -/
  | search
  /-- To read a file or a directory. -/
  | read
  /-- To write to a file, or to make something in a directory. -/
  | write
  deriving DecidableEq, Repr

/-- The entries of the places that are not fixed, each at most once, and what is not allowed. -/
structure Tree where
  /-- The places and what stands there. -/
  entries : List (Place × Entry) := []
  /-- What is not allowed, and where. -/
  denials : List (Place × Right) := []
  deriving DecidableEq

namespace Tree

/-- Why the system refuses an operation. -/
inductive Cause
  /-- A directory on the way, or what is to be read, does not exist. -/
  | notFound
  /-- Something is not allowed. -/
  | permissionDenied
  /-- What is to be made exists already. -/
  | alreadyExists
  /-- Something on the way is no directory. -/
  | notDirectory
  /-- What is to be read or written is a directory. -/
  | isDirectory
  /-- A name, or the whole path, is too long. -/
  | nameTooLong
  deriving DecidableEq, Repr

/-- The system's number for a cause. -/
def Cause.number : Cause → Nat
  | notFound => 2
  | permissionDenied => 13
  | alreadyExists => 17
  | notDirectory => 20
  | isDirectory => 21
  | nameTooLong => 36

/-- The system's words for a cause. -/
def Cause.message : Cause → Text
  | notFound => "No such file or directory".toList
  | permissionDenied => "Permission denied".toList
  | alreadyExists => "File exists".toList
  | notDirectory => "Not a directory".toList
  | isDirectory => "Is a directory".toList
  | nameTooLong => "File name too long".toList

/-- Why an operation fails. -/
inductive Error
  /-- The system refuses it. -/
  | refused (cause : Cause) (path : Path)
  /-- The path of a file has a null character. -/
  | nullInFile
  /-- The path of a directory to be made has a null character. -/
  | nullInDirectory
  /-- The path has half of a surrogate pair that stands for no byte. -/
  | unencodable (path : Path)
  deriving DecidableEq, Repr

/-- Why an operation fails that is given a path which no system call can take; `null` is what it
says of null characters. -/
def Error.ofUnusable (null : Error) (path : Path) : Error :=
  if path.toStr.isEncodable then null else unencodable path

/-- The words for a failure. -/
def Error.message : Error → Text
  | refused cause path =>
    "[Errno ".toList ++ Text.ofNat cause.number ++ "] ".toList ++ cause.message ++ ": ".toList ++
      path.toStr.quoted
  | nullInFile => "embedded null byte".toList
  | nullInDirectory => "mkdir: embedded null character in path".toList
  | unencodable path => path.toStr.unencodableMessage

/-! ### Looking -/

/-- What stands at a place. -/
def get? (tree : Tree) (place : Place) : Option Entry :=
  if place.isFixed then some .directory else tree.entries.lookup place

/-- Whether something is not allowed at a place. -/
def denies (tree : Tree) (right : Right) (place : Place) : Bool :=
  tree.denials.contains (place, right)

/-- How many bytes a name may have. -/
def maxName : Nat := 255

/-- How many bytes a whole path may have. -/
def maxPath : Nat := 4095

/-- Follows names from a place; whatever is left behind must be a directory that may be searched. -/
def follow (tree : Tree) (place : Place) : List Name → Except Cause Place
  | [] => .ok place
  | name :: names =>
    match tree.get? place with
    | none => .error .notFound
    | some (.file _) => .error .notDirectory
    | some .directory =>
      if tree.denies .search place then .error .permissionDenied
      else if maxName < name.length then .error .nameTooLong
      else tree.follow (place.enter name) names

/-- The place that a path leads to, whether something stands there or not. -/
def resolve (tree : Tree) (path : Path) : Except Cause Place :=
  if maxPath < path.toStr.bytes.length then .error .nameTooLong
  else tree.follow (if path.root = [] then [] else Place.root) (path.parts.map Str.bytes)

/-- Whether something stands where a path leads to. -/
def pathExists (tree : Tree) (path : Path) : Except Error Bool :=
  if path.isUsable then
    match tree.resolve path with
    | .ok place => .ok (tree.get? place).isSome
    | .error .nameTooLong => .error (.refused .nameTooLong path)
    | .error .permissionDenied => .error (.refused .permissionDenied path)
    | .error _ => .ok false
  else .ok false

/-- Whether a path leads to a directory. -/
def isDirectory (tree : Tree) (path : Path) : Bool :=
  path.isUsable && match tree.resolve path with
    | .ok place => tree.get? place = some .directory
    | .error _ => false

/-- The contents of the file that a path leads to. -/
def read (tree : Tree) (path : Path) : Except Error Bytes :=
  if path.isUsable then
    match tree.resolve path with
    | .error cause => .error (.refused cause path)
    | .ok place =>
      match tree.get? place, tree.denies .read place with
      | none, _ => .error (.refused .notFound path)
      | some _, true => .error (.refused .permissionDenied path)
      | some .directory, false => .error (.refused .isDirectory path)
      | some (.file content), false => .ok content
  else .error (.ofUnusable .nullInFile path)

/-! ### Changing -/

/-- Puts an entry at a place, in the stead of what was there. -/
def insert (tree : Tree) (place : Place) (entry : Entry) : Tree :=
  { tree with entries := (place, entry) :: tree.entries.filter (·.1 != place) }

/-- Why nothing may be written at a place, if that is so: what stands there is changed in its own
right, and something new in that of its directory. -/
def writeRefusal? (tree : Tree) (place : Place) : Option Cause :=
  match tree.get? place with
  | some .directory => some .isDirectory
  | some (.file _) => if tree.denies .write place then some .permissionDenied else none
  | none => if tree.denies .write place.dropLast then some .permissionDenied else none

/-- Makes the file that a path leads to have the given contents. -/
def write (tree : Tree) (path : Path) (content : Bytes) : Except Error Tree :=
  if path.isUsable then
    match tree.resolve path with
    | .error cause => .error (.refused cause path)
    | .ok place =>
      match tree.writeRefusal? place with
      | some cause => .error (.refused cause path)
      | none => .ok (tree.insert place (.file content))
  else .error (.ofUnusable .nullInFile path)

/-- Makes a directory, in a directory that exists. -/
def makeDirectory (tree : Tree) (path : Path) : Except Error Tree :=
  if path.isUsable then
    match tree.resolve path with
    | .error cause => .error (.refused cause path)
    | .ok place =>
      if (tree.get? place).isSome then .error (.refused .alreadyExists path)
      else if tree.denies .write place.dropLast then .error (.refused .permissionDenied path)
      else .ok (tree.insert place .directory)
  else .error (.ofUnusable .nullInDirectory path)

/-- Makes a directory unless there is one. -/
def ensureDirectory (tree : Tree) (path : Path) : Except Error Tree :=
  match tree.makeDirectory path with
  | .ok made => .ok made
  | .error error => if tree.isDirectory path then .ok tree else .error error

/-- The outcome of making directories: those that were made are there even if the last could not be
made. -/
abbrev Making := Tree × Option Error

/-- Makes a directory unless there is one, and before it up to `depth` missing directories on the
way to it. -/
def ensureWithin (tree : Tree) : (depth : Nat) → Path → Making
  | 0, path =>
    match tree.ensureDirectory path with
    | .ok tree => (tree, none)
    | .error error => (tree, some error)
  | depth + 1, path =>
    match tree.ensureDirectory path with
    | .ok tree => (tree, none)
    | .error (.refused .notFound _) =>
      match tree.ensureWithin depth path.parent with
      | (tree, none) => tree.ensureWithin 0 path
      | failed => failed
    | .error error => (tree, some error)

/-- Makes a directory unless there is one, and the missing directories on the way to it. -/
def ensureDirectories (tree : Tree) (path : Path) : Making :=
  tree.ensureWithin path.parts.length path

/-! ### Comparing -/

/-- The entries of a tree that another tree does not have. -/
def newSince (tree before : Tree) : List (Place × Entry) :=
  tree.entries.filter fun (place, entry) => before.get? place ≠ some entry

/-! ### Laws -/

/-- What was put at a place stands there. -/
theorem get?_insert_self {tree : Tree} {place : Place} (h : place.isFixed = false)
    (entry : Entry) : (tree.insert place entry).get? place = some entry := by
  simp [get?, insert, h]

/-- Nothing changes at other places. -/
theorem get?_insert_of_ne {tree : Tree} {place other : Place} (h : other ≠ place)
    (entry : Entry) : (tree.insert place entry).get? other = tree.get? other := by
  unfold get? insert
  split
  · rfl
  · simp only [List.lookup_cons, beq_eq_false_iff_ne.2 h]
    induction tree.entries with
    | nil => rfl
    | cons head rest ih =>
      obtain ⟨at_, e⟩ := head
      by_cases same : at_ = place
      · subst same
        simp [List.lookup_cons, beq_eq_false_iff_ne.2 h, ih]
      · simp [List.lookup_cons, same, ih]

end Tree

end TexLog
