import TexLog.Files.Tree
import TexLog.Json.Reader
import TexLog.Settings.Validation
import TexLog.Text.Lines

/-!
# Settings files

Settings are kept in files that hold JSON in UTF-8, in lines that end in any way. `Settings.load`
reads such a file. Most faults of a file are told as faults of the settings; a few break through as
what they are.
-/

namespace TexLog.Settings

/-- Why a file gives no settings. -/
inductive LoadError
  /-- There is no such file. -/
  | notFound (path : Path)
  /-- The file cannot be read. -/
  | unreadable (path : Path) (error : Tree.Error)
  /-- The file holds no JSON. -/
  | notJson (path : Path) (malformed : Json.Malformed)
  /-- The value in the file stands for no settings. -/
  | invalid (path : Path) (issues : List Issue)
  /-- It cannot be found out whether there is such a file. -/
  | inaccessible (error : Tree.Error)
  /-- The file is not written in UTF-8. -/
  | notUtf8 (malformed : Utf8.Malformed)
  /-- The file has a container that lies too deep in others. -/
  | tooDeep (container : Json.Container)
  /-- The file has an integer with too many digits. -/
  | tooManyDigits (digits : Nat)
  /-- The pattern of errors is refused for a reason that is no issue with the value. -/
  | pattern (error : PatternError)
  deriving DecidableEq

namespace LoadError

/-- Whether an error is told as one of the settings; the others break through. -/
def isExpected : LoadError → Bool
  | notFound _ | unreadable .. | notJson .. | invalid .. => true
  | inaccessible _ | notUtf8 _ | tooDeep _ | tooManyDigits _ | pattern _ => false

/-- The words for an error. -/
def message : LoadError → Str
  | notFound path => Str.of "Configuration file not found: " ++ path.toStr
  | unreadable path error =>
    Str.of "Failed to read file " ++ path.toStr ++ Str.of ": " ++ error.message
  | notJson path malformed =>
    Str.of "Invalid JSON in file " ++ path.toStr ++ Str.of ": " ++ malformed.message
  | invalid path issues =>
    Str.of "Invalid configuration in " ++ path.toStr ++ Str.of ": " ++ messageOfIssues issues
  | inaccessible error => error.message
  | notUtf8 malformed => malformed.message
  | tooDeep container =>
    Str.of "maximum recursion depth exceeded while decoding a JSON " ++ container.name ++
      Str.of " from a unicode string"
  | tooManyDigits digits => Text.tooManyDigitsMessage digits
  | pattern error => error.message

/-- What the refusal of the value in a file means for the file. -/
def ofRefusal (path : Path) : Refusal → LoadError
  | .issues issues => invalid path issues
  | .pattern error => pattern error

/-- What the refusal of the text in a file means for the file. -/
def ofReadError (path : Path) : Json.ReadError → LoadError
  | .malformed malformed => notJson path malformed
  | .tooDeep container => tooDeep container
  | .tooManyDigits digits => tooManyDigits digits

end LoadError

section
variable [Runtime]

/-- The settings that the contents of a file stand for. -/
def ofBytes (path : Path) (bytes : Bytes) : Except LoadError Settings := do
  let text ← (Utf8.decode? bytes).mapError .notUtf8
  let value ← (Json.read text.unifyLineEnds).mapError (.ofReadError path)
  (ofJson value).mapError (.ofRefusal path)

/-- The settings in a file. -/
def load (tree : Tree) (path : Path) : Except LoadError Settings := do
  unless ← (tree.pathExists path).mapError .inaccessible do throw (.notFound path)
  let bytes ← (tree.read path).mapError (.unreadable path)
  ofBytes path bytes

end

end TexLog.Settings
