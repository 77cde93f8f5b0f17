import TexLog.Report.Format
import TexLog.Text.Basic

/-!
# Parameters of the command

The parameters that the command takes besides the paths of log files, how they are spelled and how
many values follow each, and the arguments that a command line gives for them.
-/

namespace TexLog

/-- How many values follow a parameter. -/
inductive Arity
  /-- None. -/
  | none
  /-- One. -/
  | one
  /-- Any number. -/
  | any
  deriving DecidableEq, Repr

/-- A parameter of the command. -/
inductive Parameter
  /-- Asks for help. -/
  | help
  /-- The format of the report file. -/
  | outputFormat
  /-- The name of the report file, without its extension. -/
  | outputFile
  /-- The directory of the report file. -/
  | outputDir
  /-- The kinds that are kept. -/
  | filter
  /-- The pattern that is kept. -/
  | messagePattern
  /-- The settings file. -/
  | config
  /-- The wrap width, in the stead of that of the settings. -/
  | wrapWidth
  /-- Drops messages that are unfinished at the end of a log. -/
  | noFlush
  /-- Prints statistics. -/
  | stats
  /-- Tells more on the way. -/
  | verbose
  /-- How many files are read at the same time. -/
  | concurrency
  /-- Displays reports without colours. -/
  | noColor
  deriving DecidableEq, Repr

namespace Parameter

/-- The spellings of the parameters, in the order in which they are listed. -/
def spellings : List (Text × Parameter) := [
  ("-h".toList, help),
  ("--help".toList, help),
  ("--output-format".toList, outputFormat),
  ("--output-file".toList, outputFile),
  ("--output-dir".toList, outputDir),
  ("--filter".toList, filter),
  ("--message-pattern".toList, messagePattern),
  ("--config".toList, config),
  ("--wrap-width".toList, wrapWidth),
  ("--no-flush".toList, noFlush),
  ("--stats".toList, stats),
  ("--verbose".toList, verbose),
  ("--concurrency".toList, concurrency),
  ("--no-color".toList, noColor)]

/-- All spellings of a parameter. -/
def title (parameter : Parameter) : Text :=
  Text.joinWith ['/'] ((spellings.filter (·.2 = parameter)).map Prod.fst)

/-- How many values follow a parameter. -/
def arity : Parameter → Arity
  | help | noFlush | stats | verbose | noColor => .none
  | outputFormat | outputFile | outputDir | messagePattern | config | wrapWidth | concurrency =>
    .one
  | filter => .any

end Parameter

/-- What a command line gives for a parameter that takes one value. -/
inductive Argument (α : Type)
  /-- The parameter is not given. -/
  | missing
  /-- It is given with a separator in the place of its value. -/
  | blank
  /-- It has a value. -/
  | value (given : α)
  deriving DecidableEq, Repr

/-- The value, if there is one. -/
def Argument.value? {α : Type} : Argument α → Option α
  | missing | blank => none
  | value given => some given

/-- What a command line asks for. -/
structure Arguments where
  /-- The log files. -/
  paths : List Text := []
  /-- The format of the report file. -/
  outputFormat : Argument Format := .value .json
  /-- The name of the report file, without its extension. -/
  outputFile : Argument Text := .value "latex_diagnostics".toList
  /-- The directory of the report file. -/
  outputDir : Argument Text := .value ['.']
  /-- The kinds that are kept, if the parameter is given. -/
  filter : Option (List Kind) := none
  /-- The pattern that is kept. -/
  messagePattern : Argument Text := .missing
  /-- The settings file. -/
  config : Argument Text := .missing
  /-- The wrap width. -/
  wrapWidth : Argument Int := .missing
  /-- Whether unfinished messages are dropped. -/
  noFlush : Bool := false
  /-- Whether statistics are printed. -/
  stats : Bool := false
  /-- Whether more is told on the way. -/
  verbose : Bool := false
  /-- How many files are read at the same time. -/
  concurrency : Argument Int := .value 4
  /-- Whether reports are displayed without colours. -/
  noColor : Bool := false
  deriving DecidableEq, Repr

end TexLog
