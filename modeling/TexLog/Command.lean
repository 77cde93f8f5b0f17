import TexLog.Command.Arguments
import TexLog.Export

/-!
# The command

What a command line does to files and prints: the directory of the report file is made, the settings
are read, and the report on the log files is exported. An expected failure ends the command before
the report is written, and any other failure breaks it off.
-/

namespace TexLog

namespace Arguments

/-- The settings that are asked for. -/
def settings [Runtime] (arguments : Arguments) (tree : Tree) : Except Failure Settings := do
  let settings ←
    match arguments.config with
    | .missing | .blank | .value [] => pure Settings.standard
    | .value config => (Settings.load tree (.ofText config)).mapError .load
  let updates :=
    match arguments.wrapWidth with
    | .missing => []
    | .blank => [(Settings.wrapWidthName, Json.array [])]
    | .value width => [(Settings.wrapWidthName, Json.integer width)]
  (settings.override updates).mapError .override

/-- The directory of the report file. -/
def directory (arguments : Arguments) : Except Failure Path :=
  match arguments.outputDir.value? with
  | some directory => .ok (.ofText directory)
  | none => .error .directoryBlank

/-- The format of the report file. -/
def reportFormat (arguments : Arguments) : Except Failure Format :=
  match arguments.outputFormat.value? with
  | some format => .ok format
  | none => .error .formatBlank

/-- The name of the report file, without its extension; that of a blank is a pair of brackets. -/
def fileName (arguments : Arguments) : Text := arguments.outputFile.value?.getD ['[', ']']

/-- The export that is asked for, to a file in a directory. -/
def toExport (arguments : Arguments) (directory : Path) (format : Format) : Export where
  logs := arguments.paths.map Path.ofText
  selection := {
    kinds := (arguments.filter.getD []).map Kind.name
    pattern := arguments.messagePattern.value?.getD [] }
  format := .ok format
  output := directory.join (.ofText (arguments.fileName ++ '.' :: format.extension))
  statistics := arguments.stats
  display := true
  coloured := !arguments.noColor

end Arguments

namespace Command

/-- What is printed when the report has been written. -/
def closing (output : Path) (report : Report) : Text :=
  "\nOutput saved to: ".toList ++ output.toStr.escaped ++ '\n' ::
    if report.diagnostics.isEmpty then
      "No diagnostics found or all diagnostics were filtered out.\n".toList
    else
      "Found ".toList ++ Text.ofNat report.errors.length ++ " error(s) and ".toList ++
        Text.ofNat report.warnings.length ++ " warning(s).\n".toList

/-- How a command ends. -/
inductive Outcome
  /-- The help text has been printed. -/
  | helped
  /-- The report has been written. -/
  | written
  /-- The command line cannot be understood. -/
  | misused (misuse : Misuse)
  /-- An expected failure kept the report from being written. -/
  | refused (failure : Failure)
  /-- A failure broke the command off. -/
  | broken (failure : Failure)
  deriving DecidableEq

/-- The code with which a command ends. -/
def Outcome.code : Outcome → Nat
  | helped | written => 0
  | misused _ => 2
  | refused _ | broken _ => 1

section
variable [Runtime]

/-- Reads the settings and carries out an export. -/
def exportReport (arguments : Arguments) (order : Export) : Action Report := do
  let settings ← Action.ofExcept (arguments.settings (← get).files)
  if arguments.concurrency = .blank then throw .concurrencyBlank
  order.run { settings, flush := !arguments.noFlush }

/-- Exports the report, or gives the expected failure that kept it from being written. -/
def tryExport (arguments : Arguments) (order : Export) : Action (Except Failure Report) :=
  tryCatch (Except.ok <$> exportReport arguments order) fun failure =>
    if failure.isExpected then return .error failure else throw failure

/-- Carries out what the arguments ask for. The result is the expected failure that kept the report
from being written, if there is one. -/
def perform (arguments : Arguments) : Action (Option Failure) := do
  let directory ← Action.ofExcept arguments.directory
  Action.makeDirectories directory
  let order := arguments.toExport directory (← Action.ofExcept arguments.reportFormat)
  match ← tryExport arguments order with
  | .error failure => return some failure
  | .ok report =>
    Action.print (closing order.output report)
    return none

/-- Carries out a command line. -/
def run (line : List Text) (files : Tree) : Outcome × World :=
  match Arguments.read line with
  | .error .help => (.helped, { files, printed := helpText })
  | .error (.misuse misuse) => (.misused misuse, { files })
  | .ok arguments =>
    match (perform arguments).run.run { files } with
    | (.ok none, world) => (.written, world)
    | (.ok (some failure), world) => (.refused failure, world)
    | (.error failure, world) => (.broken failure, world)

end

/-- The paths of all files that a command line speaks of. -/
def paths (line : List Text) : List Path :=
  match Arguments.read line with
  | .error _ => []
  | .ok arguments =>
    let output := do
      return (arguments.toExport (← arguments.directory) (← arguments.reportFormat)).output
    let directory := arguments.outputDir.value?.toList
    output.toOption.toList ++
      (directory ++ arguments.config.value?.toList ++ arguments.paths).map Path.ofText

/-- What is told besides what is printed. -/
def Outcome.notice : Outcome → Text
  | helped | written => []
  | misused misuse =>
    usageText ++ commandName ++ ": error: ".toList ++ misuse.message ++ ['\n']
  | refused failure => "Error processing LaTeX log: ".toList ++ failure.message.escaped ++ ['\n']
  | broken failure => failure.message.escaped ++ ['\n']

end Command

end TexLog
