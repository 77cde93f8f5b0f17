import TexLog.Json.Basic
import TexLog.Log.Joiner
import TexLog.Pattern.Basic
import TexLog.Report

/-!
# Choosing from reports

Which diagnostics of a report are kept, and numbers about several reports.
-/

/-! ## Statistics

How many files were read and what was found in them.
-/

namespace TexLog

/-- Numbers about several reports. -/
structure Statistics where
  /-- How many reports there are. -/
  files : Nat
  /-- How many diagnostics of each kind they have. -/
  found : Tally
  /-- How many of them have errors. -/
  filesWithErrors : Nat
  deriving DecidableEq, Repr

namespace Statistics

variable {Source : Type}

/-- How many errors and warnings a report has. -/
def tally (report : ReportOn Source) : Tally := ⟨report.errors.length, report.warnings.length⟩

/-- The statistics of some reports. -/
def ofReports (reports : List (ReportOn Source)) : Statistics where
  files := reports.length
  found := (reports.map tally).foldl Tally.add {}
  filesWithErrors := reports.countP fun report => !report.errors.isEmpty

/-- Statistics as a JSON value. -/
def toJson (statistics : Statistics) : Json := .object [
  ("total_files".toList, .integer statistics.files),
  ("total_diagnostics".toList, .integer statistics.found.total),
  ("by_kind".toList,
    .object (Kind.all.map fun kind => (kind.name, .integer (statistics.found.get kind)))),
  ("files_with_errors".toList, .integer statistics.filesWithErrors)]

/-- Statistics for a reader: on several lines, indented by four blanks. -/
def display (statistics : Statistics) : Text :=
  "\nStatistics:\n".toList ++ statistics.toJson.print 4 0 ++ ['\n']

end Statistics

end TexLog

/-! ## Filtering reports

A filter keeps the diagnostics of some kinds whose messages match a pattern. No kinds at all stand
for every kind, and an empty pattern for none; a filter with neither leaves a report as it is.
-/

namespace TexLog

/-- What is to be kept of a report. -/
structure Filter where
  /-- The kinds that are kept; every kind if there are none. -/
  kinds : List Kind := []
  /-- A pattern that must occur in the message; nothing is asked for if it is empty. -/
  pattern : Str := []
  deriving DecidableEq, Repr

namespace Filter

/-- A written pattern that cannot be used, and why. -/
structure Refusal where
  /-- The pattern. -/
  pattern : Str
  /-- Why it cannot be used. -/
  error : PatternError
  deriving DecidableEq, Repr

/-- The words for the refusal of a pattern. -/
def Refusal.message (refusal : Refusal) : Str :=
  "Invalid message pattern ".toList ++ refusal.pattern.quoted ++ ": ".toList ++
    refusal.error.message

/-- Whether the filter keeps everything. -/
def isVacuous (filter : Filter) : Bool := filter.kinds.isEmpty && filter.pattern.isEmpty

/-- The pattern as it is searched for, if there is one. -/
def read [Runtime] (filter : Filter) : Except Refusal (Option Pattern) :=
  if filter.pattern.isEmpty then .ok none
  else match Pattern.read filter.pattern with
    | .ok pattern => .ok (some pattern)
    | .error error => .error ⟨filter.pattern, error⟩

/-- Whether a diagnostic is kept, given the pattern. -/
def keeps (filter : Filter) (pattern : Option Pattern) (diagnostic : Diagnostic) : Bool :=
  (filter.kinds.isEmpty || filter.kinds.contains diagnostic.kind) &&
    pattern.all (·.occursIn diagnostic.message)

variable {Source : Type}

/-- Why the pattern cannot be searched for in a report: one of the searches fails. -/
def failure? (pattern : Option Pattern) (report : ReportOn Source) : Option PatternError := do
  let pattern ← pattern
  report.diagnostics.findSome? fun diagnostic => pattern.failure? diagnostic.message

/-- What is kept of a report. -/
def apply [Runtime] (filter : Filter) (report : ReportOn Source) :
    Except Refusal (ReportOn Source) := do
  if filter.isVacuous then return report
  let pattern ← filter.read
  if let some error := failure? pattern report then throw ⟨filter.pattern, error⟩
  return { report with diagnostics := report.diagnostics.filter (filter.keeps pattern) }

end Filter

end TexLog
