import TexLog.Failure
import TexLog.Report
import TexLog.Report.Filter

/-!
# Exporting reports

From log files to one report file: the reports on the files that can be read are filtered, combined
and written, and what is asked for is printed. Kinds are looked up before any file is read; patterns
are read when there is a report to be filtered; something that is no format is refused when all
reports are there.
-/

namespace TexLog

/-! ## What is to be kept -/

/-- What is to be kept of reports, by the names of kinds and the written pattern. -/
structure Selection where
  /-- The names of the kinds; every kind if there are none. -/
  kinds : List Text := []
  /-- A pattern that must occur in the message; nothing is asked for if it is empty. -/
  pattern : Str := []
  deriving DecidableEq, Repr

namespace Selection

/-- The kind with a name. -/
def kindOfName (name : Text) : Except Failure Kind :=
  match Kind.ofName? name with
  | some kind => .ok kind
  | none => .error (.unknownKind name)

/-- The filter that keeps what is selected. -/
def toFilter (selection : Selection) : Except Failure Filter :=
  (selection.kinds.mapM kindOfName).map fun kinds => ⟨kinds, selection.pattern⟩

/-- What is selected of a report. -/
def apply [Runtime] {Source : Type} (selection : Selection) (report : ReportOn Source) :
    Except Failure (ReportOn Source) := do
  let filter ← selection.toFilter
  (filter.apply report).mapError .filter

end Selection

namespace LogReader
variable [Runtime]

/-- What is selected of the report on a log file. -/
def selectFromFile (reader : LogReader) (tree : Tree) (path : Path) (selection : Selection) :
    Except Failure FileReport := do
  let report ← (reader.ofFile tree path).mapError .log
  selection.apply report

/-- What is selected of the reports on log files. -/
def selectFromFiles (reader : LogReader) (tree : Tree) (paths : List Path) (selection : Selection) :
    Except Failure (List FileReport) := do
  let filter ← selection.toFilter
  let reports ← (reader.ofFiles tree paths).mapError .log
  reports.mapM fun report => (filter.apply report).mapError .filter

end LogReader

/-! ## Effects -/

/-- The files, and what has been printed. -/
structure World where
  /-- The files. -/
  files : Tree
  /-- What has been printed. -/
  printed : Text := []

/-- An action on the world; what it did before it failed stays done. -/
abbrev Action := ExceptT Failure (StateM World)

namespace Action

/-- Fails if the outcome is an error. -/
def ofExcept {α : Type} (outcome : Except Failure α) : Action α := ExceptT.mk (pure outcome)

/-- Prints a text. -/
def print (text : Text) : Action Unit :=
  modify fun world => { world with printed := world.printed ++ text }

/-- Makes a file have the given text. -/
def writeFile (path : Path) (text : Text) : Action Unit := do
  let files ← ofExcept (((← get).files.write path (Utf8.encode text)).mapError .files)
  modify fun world => { world with files }

/-- Makes a directory and the missing directories on the way to it. -/
def makeDirectories (path : Path) : Action Unit := do
  let (files, error) := (← get).files.ensureDirectories path
  modify fun world => { world with files }
  if let some error := error then throw (.files error)

end Action

/-! ## Exports -/

/-- What is to be exported, and how. -/
structure Export where
  /-- The log files. -/
  logs : List Path
  /-- What is to be kept of their reports. -/
  selection : Selection := {}
  /-- The format of the report file, if what was asked for is one. -/
  format : Except Format.Unsupported Format
  /-- The report file. -/
  output : Path
  /-- Whether statistics are printed. -/
  statistics : Bool := false
  /-- Whether the report is displayed. -/
  display : Bool := false
  /-- Whether it is displayed in colours. -/
  coloured : Bool := true

namespace Export

/-- The source of a report on several files. -/
def combinedSource : Text := "<combined>".toList

/-- Writes a report to a file, if what was asked for is a format. -/
def writeReport (report : Report) (format : Except Format.Unsupported Format) (output : Path) :
    Action Unit := do
  let format ← Action.ofExcept (format.mapError .format)
  Action.writeFile output (report.write format)

/-- Carries out an export. The result is the report that was written. -/
def run [Runtime] (order : Export) (reader : LogReader) : Action Report := do
  let files := (← get).files
  let reports ← Action.ofExcept (reader.selectFromFiles files order.logs order.selection)
  let combined := Report.combine reports combinedSource
  writeReport combined order.format order.output
  if order.statistics then Action.print (Statistics.ofReports reports).display
  if order.display then Action.print (combined.display order.coloured)
  return combined

end Export

end TexLog
