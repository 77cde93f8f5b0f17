import TexLog.Log.Reading
import TexLog.Report.Filter
import TexLog.Report.Format
import TexLog.Settings.Loading

/-!
# Failures

Everything that can go wrong between the files that are asked for and the report that is written. An
expected failure ends a command in an orderly way; the others break through it.
-/

namespace TexLog

/-- What can go wrong. -/
inductive Failure
  /-- A settings file gives no settings. -/
  | load (error : Settings.LoadError)
  /-- Settings cannot be replaced as asked for. -/
  | override (error : Settings.OverrideError)
  /-- There is no report on a log file. -/
  | log (error : LogError)
  /-- The pattern of a filter is refused. -/
  | filter (refusal : Filter.Refusal)
  /-- No report can be written in the format. -/
  | format (unsupported : Format.Unsupported)
  /-- A name is not that of a kind of diagnostics. -/
  | unknownKind (name : Text)
  /-- A file or directory cannot be made. -/
  | files (error : Tree.Error)
  /-- The directory of the report file is left blank. -/
  | directoryBlank
  /-- The format of the report file is left blank. -/
  | formatBlank
  /-- It is left blank how many files are read at the same time. -/
  | concurrencyBlank
  deriving DecidableEq

namespace Failure

/-- Whether a failure ends a command in an orderly way. Faults of the syntax of a pattern do, other
reasons against it do not. -/
def isExpected : Failure → Bool
  | load error => error.isExpected
  | override (.refused (.issues _)) => true
  | override _ => false
  | log error => error.isPassedOver
  | filter ⟨_, .malformed ..⟩ => true
  | filter _ => false
  | format _ => true
  | unknownKind _ | files _ | directoryBlank | formatBlank | concurrencyBlank => false

/-- The words for a failure. -/
def message : Failure → Str
  | load error => error.message
  | override error => error.message
  | log error => error.message
  | filter refusal =>
    match refusal.error with
    | .malformed .. => refusal.message
    | error => error.message
  | format unsupported => unsupported.message
  | unknownKind name => Str.of "Unsupported diagnostic kind: " ++ name
  | files error => error.message
  | directoryBlank => Str.of "expected str, bytes or os.PathLike object, not list"
  | formatBlank => Str.of "'list' object has no attribute 'lower'"
  | concurrencyBlank => Str.of "'>' not supported between instances of 'list' and 'int'"

end Failure

end TexLog
